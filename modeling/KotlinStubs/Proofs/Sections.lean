import Mathlib.Data.List.Chain
import KotlinStubs.Proofs.PrintedForms

/-!
# Sections of printed files

The ruler between the sections of a file starts a line with a slash, which no printed declaration
does (`Text.Unruled`).  So the sections are found again between the rulers: first the declarations of
the file itself, then one section for each namespace.

* `Text.Unruled.clear`: the ruler does not start in a text of which no line starts with a slash.
* `Declaration.unruled_render`: a printed declaration is such a text, at every depth.
* `TranslatedFile.IsSections`: the sections that a file is to have.
* `sections_of_render`: a printed file taken apart.
-/

namespace KotlinStubs

open Text

namespace Text

variable {s t : String}

/-- No line of the text starts with a slash. -/
def Unruled (t : String) : Prop := ('\n' :: t.toList).IsChain fun a b => a = '\n' → b ≠ '/'

theorem unruled_of_isLine (h : IsLine t) (start : t.toList.head? ≠ some '/') : Unruled t := by
  have chain (cs : List Char) (lines : '\n' ∉ cs) (c : Char) (hc : c = '\n' → cs.head? ≠ some '/') :
      (c :: cs).IsChain fun a b => a = '\n' → b ≠ '/' := by
    induction cs generalizing c with
    | nil => exact .singleton c
    | cons d cs ih =>
      rw [List.mem_cons, not_or] at lines
      refine .cons_cons ?_ (ih lines.2 d fun feed => absurd feed.symm lines.1)
      rintro rfl rfl
      exact hc rfl rfl
  exact chain t.toList h '\n' fun _ => start

theorem Unruled.append_line (hs : Unruled s) (ht : Unruled t) : Unruled (s ++ "\n" ++ t) := by
  have chars : '\n' :: (s ++ "\n" ++ t).toList = ('\n' :: s.toList) ++ '\n' :: t.toList := by
    rw [String.toList_append, String.toList_append, List.append_assoc]
    rfl
  rw [Unruled, chars, List.isChain_append]
  refine ⟨hs, ht, ?_⟩
  rintro a _ b ⟨⟩ _
  decide

theorem unruled_joinLines {texts : List String} (h : ∀ t ∈ texts, Unruled t) :
    Unruled (joinLines texts) := by
  induction texts with
  | nil => exact .singleton _
  | cons t texts ih =>
    obtain ⟨first, others⟩ := List.forall_mem_cons.1 h
    cases texts with
    | nil => exact first
    | cons u texts => exact first.append_line (ih others)

/-- The ruler is two line feeds in front of a slash, so it starts in no text of which no line starts
with a slash. -/
theorem Unruled.clear (h : Unruled t) : Clear sectionSeparator t := by
  by_contra occurs
  obtain ⟨before, rest, found⟩ := exists_start occurs (k := 2) (by decide)
  have chain : ('\n' :: (t.toList ++ ['\n', '\n'])).IsChain fun a b => a = '\n' → b ≠ '/' := by
    rw [← List.cons_append, List.isChain_append]
    refine ⟨h, by decide, ?_⟩
    rintro a _ b ⟨⟩ _
    decide
  have opened : '\n' :: (t.toList ++ ['\n', '\n']) =
      ('\n' :: before ++ ['\n']) ++ '\n' :: '/' :: rest := by
    have ruler : sectionSeparator.toList.take 3 = ['\n', '\n', '/'] := by decide
    have feeds : sectionSeparator.toList.take 2 = ['\n', '\n'] := by decide
    rw [ruler, feeds] at found
    rw [← found]
    simp
  rw [opened, List.isChain_append_cons_cons] at chain
  exact chain.2.1 rfl rfl

end Text

/-! ## Declarations -/

/-- What holds of whatever stands beside a member of a list holds of all that stands beside it. -/
theorem forall_beside {α β : Type} {P : α → Prop} {Q : β → Prop} {R : α → β → Prop} {as : List α}
    {bs : List β} (each : List.Forall₂ R as bs) (first : ∀ a ∈ as, P a)
    (second : ∀ a b, P a → R a b → Q b) : ∀ b ∈ bs, Q b := by
  have both := (List.forall₂_and_left _ _).2 ⟨first, each⟩
  have turned := (both.imp fun a b h => (⟨second a b h.1 h.2, h⟩ : Q b ∧ P a ∧ R a b)).flip
  exact ((List.forall₂_and_left _ _).1 turned).1

namespace Declaration

variable {d : Declaration} {package : Option String}

theorem unruled_padding_append {s : String} (line : IsLine s) (start : s.toList.head? ≠ some '/')
    (indent : Int) : Unruled (padding indent ++ s) := by
  apply unruled_of_isLine
  · rw [isLine_append]
    exact ⟨isLine_padding indent, line⟩
  · rw [String.toList_append, padding, String.toList_ofList]
    cases 4 * indent.toNat with
    | zero => exact start
    | succ n => simp [List.replicate_succ]

/-- No line of the heading of a section starts with a slash. -/
theorem unruled_sectionLines (name : IsLine d.name) (inPackage : ∀ p ∈ package, IsLine p) :
    ∀ t ∈ d.sectionLines package, Unruled t := by
  intro t member
  simp only [sectionLines, List.mem_cons, List.not_mem_nil, or_false] at member
  rcases member with rfl | rfl | rfl
  · apply unruled_of_isLine
    · simp only [isLine_append]
      exact ⟨⟨by decide, name⟩, by decide⟩
    · simp [String.toList_append]
  · apply unruled_of_isLine
    · rw [isLine_append]
      refine ⟨by decide, ?_⟩
      cases package with
      | none => exact name
      | some p =>
        dsimp only
        split
        · exact name
        · simp only [isLine_append]
          exact ⟨⟨inPackage p rfl, by decide⟩, name⟩
    · simp [String.toList_append]
  · exact unruled_of_isLine (by decide) (by decide)

theorem unruled_blockText (h : d.IsSingleLined) (indent : Int) {members : List String}
    (inner : ∀ t ∈ members, Unruled t) : Unruled (d.blockText indent members) := by
  have word := (startsWord_renderHeader d).append " \x7b"
  have header : Unruled (padding indent ++ d.renderHeader ++ " \x7b") := by
    rw [String.append_assoc]
    refine unruled_padding_append ?_ (word.head?_ne (by decide)) indent
    rw [isLine_append]
    exact ⟨h.isLine_renderHeader, by decide⟩
  have closing : Unruled (padding indent ++ "\x7d") :=
    unruled_padding_append (by decide) (by decide) indent
  apply unruled_joinLines
  rw [List.forall_mem_cons, List.forall_mem_append, List.forall_mem_singleton]
  exact ⟨header, inner, closing⟩

/-- No line of a printed declaration starts with a slash. -/
theorem unruled_render (lined : d.Everywhere IsSingleLined) {indent : Int}
    {container : Option DeclarationKind} {text : String} (h : d.render indent container = .ok text) :
    Unruled text := by
  induction lined generalizing indent container text with
  | @intro d lined _ ih =>
    have members {i : Int} {k : Option DeclarationKind} {texts : List String}
        (printed : renderAll i k d.members = .ok texts) : ∀ t ∈ texts, Unruled t :=
      forall_beside (renderAll_eq_ok.1 printed) ih fun _ _ inner done => inner done
    cases d.layout container with
    | line word oneLine printed =>
      cases (printed indent).symm.trans h
      exact unruled_padding_append (oneLine lined) (word.head?_ne (by decide)) indent
    | block _ _ printed =>
      obtain ⟨texts, inner, rfl⟩ := map_eq_ok.1 ((printed indent).symm.trans h)
      exact unruled_blockText lined indent (members inner)
    | nameSpace _ printed =>
      obtain ⟨texts, inner, rfl⟩ := map_eq_ok.1 ((printed indent).symm.trans h)
      apply unruled_joinLines
      rw [List.forall_mem_append]
      exact ⟨unruled_sectionLines lined.name nofun, members inner⟩
    | missing printed => cases (printed indent).symm.trans h

theorem unruled_renderSection (lined : d.Everywhere IsSingleLined)
    (inPackage : ∀ p ∈ package, IsLine p) {text : String}
    (h : d.renderSection package = .ok text) : Unruled text := by
  cases printed : renderAll 0 none d.members with
  | error e =>
    rw [renderSection, printed] at h
    cases h
  | ok texts =>
    rw [renderSection, printed] at h
    cases h
    apply unruled_joinLines
    rw [List.forall_mem_append]
    refine ⟨unruled_sectionLines lined.here.name inPackage, ?_⟩
    exact forall_beside (renderAll_eq_ok.1 printed) lined.members fun _ _ h => unruled_render h

end Declaration

/-! ## Files -/

theorem isLine_of_packageName? {path p : String} (h : packageName? path = some p) : IsLine p := by
  obtain ⟨identifier, named⟩ := Option.ite_none_right_eq_some.1 h
  rw [← Option.some.inj named, IsLine, String.toList_ofList]
  exact not_mem_of_isIdentifier identifier (by decide +kernel) (by decide +kernel)

theorem renderSections_eq_ok {package : Option String} {ds : List Declaration}
    {sections : List String} :
    renderSections package ds = .ok sections ↔
      List.Forall₂ (fun d t => d.renderSection package = .ok t) ds sections := by
  induction ds generalizing sections with
  | nil =>
    rw [renderSections, List.forall₂_nil_left_iff, Except.ok.injEq]
    exact eq_comm
  | cons d ds ih =>
    rw [renderSections, List.forall₂_cons_left_iff, Declaration.bind_cons_eq_ok]
    simp only [ih, exists_and_left]

namespace TranslatedFile

variable {file : TranslatedFile} {text : String}

/-- The declarations of a file that are no namespaces. -/
def own (file : TranslatedFile) : List Declaration :=
  file.declarations.filter (·.kind != .nameSpace)

/-- The namespaces of a file. -/
def nameSpaces (file : TranslatedFile) : List Declaration :=
  file.declarations.filter (·.kind == .nameSpace)

theorem own_ne_nil : file.own ≠ [] ↔ ∃ d ∈ file.declarations, d.kind ≠ .nameSpace := by
  rw [own, ne_eq, List.filter_eq_nil_iff]
  simp

/-- A file without declarations of its own declares namespaces, if anything. -/
theorem nameSpaces_ne_nil (declares : file.declarations ≠ []) (none : file.own = []) :
    file.nameSpaces ≠ [] := by
  obtain ⟨d, ds, listed⟩ := List.exists_cons_of_ne_nil declares
  have member : d ∈ file.declarations := by
    rw [listed]
    exact List.mem_cons_self
  have kind := List.filter_eq_nil_iff.1 none d member
  rw [bne_iff_ne, ne_eq, not_not] at kind
  exact List.ne_nil_of_mem (List.mem_filter.2 ⟨member, beq_iff_eq.2 kind⟩)

/-- The sections of a file: the lines of its own declarations if there are any, and one section for
each namespace. -/
def IsSections (file : TranslatedFile) (ts : List String) : Prop :=
  ∃ own nameSpaces,
    List.Forall₂ (fun d t => d.render 0 none = .ok t) file.own own ∧
      List.Forall₂ (fun d t => d.renderSection (packageName? file.path) = .ok t) file.nameSpaces
        nameSpaces ∧
      ts = (if ∃ d ∈ file.declarations, d.kind ≠ .nameSpace then [joinLines own] else []) ++
        nameSpaces

/-- A printed file is its sections with rulers between them. -/
theorem exists_isSections (h : file.render = .ok text) :
    ∃ ts, file.IsSections ts ∧ text = join sectionSeparator ts := by
  rw [render, ← own, ← nameSpaces] at h
  cases hown : Declaration.renderAll 0 none file.own with
  | error e =>
    rw [hown] at h
    cases h
  | ok own =>
    cases hsections : renderSections (packageName? file.path) file.nameSpaces with
    | error e =>
      rw [hown, hsections] at h
      cases h
    | ok sections =>
      rw [hown, hsections] at h
      cases h
      have printed := Declaration.renderAll_eq_ok.1 hown
      have listed : own.isEmpty = true ↔ ¬ ∃ d ∈ file.declarations, d.kind ≠ .nameSpace := by
        rw [← own_ne_nil, not_not, List.isEmpty_iff, ← List.length_eq_zero_iff,
          ← printed.length_eq, List.length_eq_zero_iff]
      refine ⟨_, ⟨own, sections, printed, renderSections_eq_ok.1 hsections, rfl⟩, ?_⟩
      congr 2
      by_cases declared : ∃ d ∈ file.declarations, d.kind ≠ .nameSpace
      · rw [if_pos declared, if_neg (mt listed.1 (not_not.2 declared))]
      · rw [if_neg declared, if_pos (listed.2 declared)]

theorem IsSections.ne_nil {ts : List String} (h : file.IsSections ts)
    (declares : file.declarations ≠ []) : ts ≠ [] := by
  obtain ⟨own, sections, -, hsections, rfl⟩ := h
  split
  · exact List.cons_ne_nil _ _
  · next none =>
    rintro rfl
    have listed := nameSpaces_ne_nil declares (not_not.1 (mt own_ne_nil.1 none))
    exact listed (List.forall₂_nil_right_iff.1 hsections)

/-- No section holds a line that starts with a slash, so none holds the separator. -/
theorem IsSections.unruled {ts : List String} (h : file.IsSections ts)
    (lined : ∀ d ∈ file.declarations, d.Everywhere Declaration.IsSingleLined) :
    ∀ t ∈ ts, Unruled t := by
  have among (p : Declaration → Bool) : ∀ d ∈ file.declarations.filter p,
      d.Everywhere Declaration.IsSingleLined := fun d hd => lined d (List.mem_of_mem_filter hd)
  have inPackage : ∀ p ∈ packageName? file.path, IsLine p := fun _ => isLine_of_packageName?
  obtain ⟨own, sections, hown, hsections, rfl⟩ := h
  rw [List.forall_mem_append]
  constructor
  · split
    · rw [List.forall_mem_singleton]
      apply unruled_joinLines
      exact forall_beside hown (among _) fun _ _ h => Declaration.unruled_render h
    · exact List.forall_mem_nil _
  · exact forall_beside hsections (among _) fun _ _ h => Declaration.unruled_renderSection h inPackage

end TranslatedFile

/-- **Sections.** If no text in the declarations of a file holds a line feed, the rulers in its text
stand exactly between its sections: first, if there is a declaration that is no namespace, the lines
of all of these in order, and then the section of each namespace in the package of the file, in
order. -/
theorem sections_of_render {file : TranslatedFile} {text : String}
    (declares : file.declarations ≠ [])
    (lined : ∀ d ∈ file.declarations, d.Everywhere Declaration.IsSingleLined)
    (h : file.render = .ok text) : file.IsSections (split sectionSeparator text) := by
  obtain ⟨ts, sections, rfl⟩ := TranslatedFile.exists_isSections h
  have clear : ∀ t ∈ ts, Clear sectionSeparator t := fun t ht => (sections.unruled lined t ht).clear
  rw [split_join (by decide) (sections.ne_nil declares) clear]
  exact sections

namespace TranslatedFile

/-- `var count: Any` -/
def countValue : Declaration := { kind := .value, name := "count" }

/-- A namespace without members. -/
def emptySpace : Declaration := { kind := .nameSpace, name := "empty" }

/-- A namespace with a variable. -/
def countSpace : Declaration := { kind := .nameSpace, name := "geo", members := [countValue] }

/-- A variable between two namespaces, the first of them empty. -/
def interleaved : TranslatedFile where
  path := "lib.d.ts"
  declarations := [emptySpace, countValue, countSpace]

/-- The variable between the namespaces makes a section, in front of theirs. -/
theorem sections_of_render_interleaved :
    interleaved.declarations ≠ [] ∧
      (∀ d ∈ interleaved.declarations, d.Everywhere Declaration.IsSingleLined) ∧
      ∃ text, interleaved.render = .ok text ∧
        interleaved.IsSections (split sectionSeparator text) := by
  have declares : interleaved.declarations ≠ [] := List.cons_ne_nil _ _
  have counted : countValue.Everywhere Declaration.IsSingleLined := .of_no_members (by decide) rfl
  have lined : ∀ d ∈ interleaved.declarations, d.Everywhere Declaration.IsSingleLined := by
    rw [interleaved, List.forall_mem_cons, List.forall_mem_cons, List.forall_mem_singleton]
    exact ⟨.of_no_members (by decide) rfl, counted, .of_member (by decide) rfl counted⟩
  have printed : ∃ text, interleaved.render = .ok text := by
    refine ⟨join sectionSeparator ["var count: Any = definedExternally",
      "@file:JsQualifier(\"empty\")\npackage lib.empty\n",
      "@file:JsQualifier(\"geo\")\npackage lib.geo\n\nvar count: Any = definedExternally"], ?_⟩
    rfl
  obtain ⟨text, done⟩ := printed
  exact ⟨declares, lined, text, done, sections_of_render declares lined done⟩

end TranslatedFile

end KotlinStubs
