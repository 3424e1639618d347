import Mathlib.Data.List.Forall2
import KotlinStubs.Kotlin.Printer
import KotlinStubs.Proofs.SplitText

/-!
# Printed forms of declarations

A declaration is printed on one line, as a block with its members on lines of their own, or as the
section of a namespace, or it has no text (`Declaration.Layout`).  Which of these it is does not
depend on the indent.

* `Declaration.Everywhere`: what holds at every depth of a declaration.
* `Declaration.IsSingleLined`: the texts in a declaration hold no line feed.
* `Declaration.renderAll_eq_ok`: several declarations are printed one by one.
* `Declaration.layout`: how each declaration is printed.
-/

namespace KotlinStubs

open Text

/-! ## Texts in declarations -/

/-- The texts that a parameter is made of. -/
def FunParam.texts (p : FunParam) : List String :=
  p.name :: p.type.typeName :: p.defaultValue.toList

/-- The texts that a type parameter is made of. -/
def TypeParam.texts (p : TypeParam) : List String := p.name :: p.upperBound.toList

/-- The texts that a signature is made of. -/
def CallSignature.texts (s : CallSignature) : List String :=
  s.returnType.typeName ::
    (s.params.flatMap FunParam.texts ++ (s.typeParams.getD []).flatMap TypeParam.texts)

namespace Declaration

/-- The texts that a declaration is made of, those of its members apart. -/
def texts (d : Declaration) : List String :=
  d.name :: ((d.type.map TypeUse.typeName).toList ++
    (d.signature.map CallSignature.texts).getD [] ++
    (d.typeParams.getD []).flatMap TypeParam.texts)

/-- No text that a declaration is made of holds a line feed. -/
def IsSingleLined (d : Declaration) : Prop := ∀ t ∈ d.texts, IsLine t

instance (d : Declaration) : Decidable d.IsSingleLined :=
  inferInstanceAs (Decidable (∀ t ∈ d.texts, IsLine t))

/-- Something holds of a declaration and of everything in it, at every depth. -/
inductive Everywhere (P : Declaration → Prop) : Declaration → Prop
  | intro {d : Declaration} : P d → (∀ m ∈ d.members, Everywhere P m) → Everywhere P d

theorem Everywhere.here {P : Declaration → Prop} {d : Declaration} (h : d.Everywhere P) : P d := by
  cases h with
  | intro here _ => exact here

theorem Everywhere.members {P : Declaration → Prop} {d : Declaration} (h : d.Everywhere P) :
    ∀ m ∈ d.members, m.Everywhere P := by
  cases h with
  | intro _ members => exact members

theorem Everywhere.of_no_members {P : Declaration → Prop} {d : Declaration} (here : P d)
    (none : d.members = []) : d.Everywhere P := by
  refine .intro here ?_
  rw [none]
  exact List.forall_mem_nil _

theorem Everywhere.of_member {P : Declaration → Prop} {d m : Declaration} (here : P d)
    (single : d.members = [m]) (member : m.Everywhere P) : d.Everywhere P := by
  refine .intro here ?_
  rw [single]
  exact List.forall_mem_singleton.2 member

end Declaration

/-! ## Texts on one line -/

theorem TypeUse.isLine_render {t : TypeUse} (h : IsLine t.typeName) : IsLine t.render := by
  unfold TypeUse.render
  split
  · split
    · rw [isLine_append, isLine_append]
      exact ⟨⟨by decide, h⟩, by decide⟩
    · rw [isLine_append]
      exact ⟨h, by decide⟩
  · exact h

/-- A parameter is written on one line if all its texts are. -/
theorem FunParam.isLine_render {p : FunParam} (h : ∀ t ∈ p.texts, IsLine t) : IsLine p.render := by
  obtain ⟨name, rest⟩ := List.forall_mem_cons.1 h
  obtain ⟨type, value⟩ := List.forall_mem_cons.1 rest
  have modifier (b : Bool) (word : String) (hword : IsLine word) :
      IsLine (if b = true then word else "") := by
    split
    · exact hword
    · exact List.not_mem_nil
  unfold FunParam.render
  simp only [isLine_append]
  refine ⟨⟨⟨⟨⟨?_, ?_⟩, name⟩, by decide⟩, TypeUse.isLine_render type⟩, ?_⟩
  · exact modifier _ _ (by decide)
  · exact modifier _ _ (by decide)
  · cases hvalue : p.defaultValue with
    | none => exact List.not_mem_nil
    | some text =>
      rw [hvalue] at value
      rw [isLine_append]
      exact ⟨by decide, value text List.mem_cons_self⟩

theorem TypeParam.isLine_render {p : TypeParam} (h : ∀ t ∈ p.texts, IsLine t) :
    IsLine p.render := by
  obtain ⟨name, bound⟩ := List.forall_mem_cons.1 h
  unfold TypeParam.render
  cases hbound : p.upperBound with
  | none => exact name
  | some text =>
    rw [hbound] at bound
    dsimp only
    split
    · exact name
    · simp only [isLine_append]
      exact ⟨⟨name, by decide⟩, bound text List.mem_cons_self⟩

theorem isLine_renderTypeParams {params : Option (List TypeParam)}
    (h : ∀ t ∈ (params.getD []).flatMap TypeParam.texts, IsLine t) :
    IsLine (renderTypeParams params) := by
  unfold renderTypeParams
  split
  · exact List.not_mem_nil
  · exact List.not_mem_nil
  · next params _ _ =>
    simp only [isLine_append]
    refine ⟨⟨by decide, isLine_join (by decide) fun t ht => ?_⟩, by decide⟩
    obtain ⟨p, hp, rfl⟩ := List.mem_map.1 ht
    exact TypeParam.isLine_render fun t ht => h t (List.mem_flatMap.2 ⟨p, hp, ht⟩)

/-- A signature is written on one line if all its texts and its name are. -/
theorem CallSignature.isLine_render {s : CallSignature} {name : String} (hname : IsLine name)
    (h : ∀ t ∈ s.texts, IsLine t) (omitUnit : Bool) : IsLine (s.render name omitUnit) := by
  obtain ⟨result, rest⟩ := List.forall_mem_cons.1 h
  rw [List.forall_mem_append] at rest
  obtain ⟨params, typeParams⟩ := rest
  have hparams : IsLine (join ", " (s.params.map FunParam.render)) := by
    refine isLine_join (by decide) fun t ht => ?_
    obtain ⟨p, hp, rfl⟩ := List.mem_map.1 ht
    exact FunParam.isLine_render fun t ht => params t (List.mem_flatMap.2 ⟨p, hp, ht⟩)
  unfold CallSignature.render
  simp only [isLine_append]
  refine ⟨⟨⟨⟨⟨⟨by decide, ?_⟩, hname⟩, by decide⟩, hparams⟩, by decide⟩, ?_⟩
  · split
    · exact List.not_mem_nil
    · rw [isLine_append]
      exact ⟨isLine_renderTypeParams typeParams, by decide⟩
  · split
    · exact List.not_mem_nil
    · rw [isLine_append]
      exact ⟨by decide, TypeUse.isLine_render result⟩

theorem isLine_padding (indent : Int) : IsLine (padding indent) := by
  rw [padding, IsLine, String.toList_ofList]
  intro member
  exact absurd (List.eq_of_mem_replicate member) (by decide)

namespace Declaration

variable {d : Declaration} {container : Option DeclarationKind} {indent : Int}

theorem IsSingleLined.name (h : d.IsSingleLined) : IsLine d.name := h _ List.mem_cons_self

theorem IsSingleLined.signature {s : CallSignature} (h : d.IsSingleLined)
    (hs : d.signature = some s) : ∀ t ∈ s.texts, IsLine t := by
  intro t ht
  apply h
  simp [texts, hs, ht]

theorem IsSingleLined.isLine_renderValue (h : d.IsSingleLined)
    (container : Option DeclarationKind) : IsLine (d.renderValue container) := by
  unfold renderValue
  simp only [isLine_append]
  refine ⟨⟨⟨⟨⟨?_, ?_⟩, h.name⟩, by decide⟩, ?_⟩, ?_⟩
  · split <;> decide
  · split <;> decide
  · cases htype : d.type with
    | none => exact (by decide : IsLine anyName)
    | some type =>
      apply TypeUse.isLine_render
      apply h
      simp [texts, htype]
  · split <;> decide

theorem IsSingleLined.isLine_renderHeader (h : d.IsSingleLined) : IsLine d.renderHeader := by
  unfold renderHeader
  simp only [isLine_append]
  refine ⟨⟨?_, h.name⟩, isLine_renderTypeParams fun t ht => ?_⟩
  · split <;> decide
  · apply h
    simp only [texts, List.mem_cons, List.mem_append]
    exact Or.inr (Or.inr ht)

/-! ## Several declarations -/

/-- Texts in turn are all there just if the first is and the others are. -/
theorem bind_cons_eq_ok {x : Except RenderFault String} {y : Except RenderFault (List String)}
    {texts : List String} :
    (do
      let t ← x
      let ts ← y
      pure (t :: ts)) = .ok texts ↔ ∃ t ts, x = .ok t ∧ y = .ok ts ∧ texts = t :: ts := by
  cases x with
  | error e => exact ⟨nofun, nofun⟩
  | ok t =>
    cases y with
    | error e => exact ⟨nofun, nofun⟩
    | ok ts =>
      constructor
      · intro h
        exact ⟨t, ts, rfl, rfl, (Except.ok.inj h).symm⟩
      · rintro ⟨_, _, ⟨⟩, ⟨⟩, rfl⟩
        rfl

theorem renderAll_eq_ok {ds : List Declaration} {texts : List String} :
    renderAll indent container ds = .ok texts ↔
      List.Forall₂ (fun d t => d.render indent container = .ok t) ds texts := by
  induction ds generalizing texts with
  | nil =>
    rw [renderAll, List.forall₂_nil_left_iff, Except.ok.injEq]
    exact eq_comm
  | cons d ds ih =>
    rw [renderAll, List.forall₂_cons_left_iff, bind_cons_eq_ok]
    simp only [ih, exists_and_left]

theorem map_eq_ok {α β : Type} {x : Except RenderFault α} {f : α → β} {b : β} :
    x.map f = .ok b ↔ ∃ a, x = .ok a ∧ f a = b := by
  cases x with
  | error e => simp [Except.map]
  | ok a => simp [Except.map]

theorem renderAll_ne_nil {ds : List Declaration} {texts : List String} (listed : ds ≠ [])
    (h : renderAll indent container ds = .ok texts) : texts ≠ [] := by
  rintro rfl
  exact listed (List.forall₂_nil_right_iff.1 (renderAll_eq_ok.1 h))

/-! ## Forms -/

/-- A text that starts with a letter. -/
def StartsWord (s : String) : Prop := ∃ c ∈ s.toList.head?, c.isAlpha = true

theorem StartsWord.append {s : String} (h : StartsWord s) (t : String) : StartsWord (s ++ t) := by
  obtain ⟨c, first, letter⟩ := h
  refine ⟨c, ?_, letter⟩
  rw [String.toList_append]
  exact List.mem_head?_append_of_mem_head? first

theorem StartsWord.head?_ne {s : String} (word : StartsWord s) {c : Char}
    (noLetter : c.isAlpha = false) : s.toList.head? ≠ some c := by
  obtain ⟨first, found, letter⟩ := word
  intro same
  rw [same] at found
  cases found
  exact Bool.noConfusion (noLetter.symm.trans letter)

theorem startsWord_signature (s : CallSignature) (name : String) (omitUnit : Bool) :
    StartsWord (s.render name omitUnit) := by
  have word : StartsWord "fun " := ⟨'f', rfl, by decide⟩
  unfold CallSignature.render
  simp only [String.append_assoc]
  exact word.append _

theorem startsWord_renderValue (d : Declaration) (container : Option DeclarationKind) :
    StartsWord (d.renderValue container) := by
  have word : StartsWord "var " := ⟨'v', rfl, by decide⟩
  have word' : StartsWord "val " := ⟨'v', rfl, by decide⟩
  have opened : StartsWord "open " := ⟨'o', rfl, by decide⟩
  unfold renderValue
  simp only [String.append_assoc]
  split
  · exact opened.append _
  · rw [String.empty_append]
    split
    · exact word.append _
    · exact word'.append _

theorem startsWord_renderHeader (d : Declaration) : StartsWord d.renderHeader := by
  have word : StartsWord "interface " := ⟨'i', rfl, by decide⟩
  have opened : StartsWord "open class " := ⟨'o', rfl, by decide⟩
  unfold renderHeader
  simp only [String.append_assoc]
  split
  · exact word.append _
  · exact opened.append _

/-- A block at an indent, given the texts of the members. -/
def blockText (d : Declaration) (indent : Int) (members : List String) : String :=
  joinLines ((padding indent ++ d.renderHeader ++ " \x7b") :: (members ++ [padding indent ++ "\x7d"]))

/-- How a declaration is printed in a container, at every indent. -/
inductive Layout (container : Option DeclarationKind) (d : Declaration) : Prop
  | line {s : String} :
      StartsWord s →
      (d.IsSingleLined → IsLine s) →
      (∀ indent, d.render indent container = .ok (padding indent ++ s)) →
      Layout container d
  | block :
      d.kind = .interface ∨ d.kind = .classType →
      d.members ≠ [] →
      (∀ indent, d.render indent container =
        (renderAll (indent + 1) (some d.kind) d.members).map (d.blockText indent)) →
      Layout container d
  | nameSpace :
      d.kind = .nameSpace →
      (∀ indent, d.render indent container =
        (renderAll 0 none d.members).map fun texts => joinLines (d.sectionLines none ++ texts)) →
      Layout container d
  | missing {e : RenderFault} :
      (∀ indent, d.render indent container = .error e) →
      Layout container d

/-- An interface or class with members is written as a block around them, one step further in. -/
theorem render_block (kind : d.kind = .interface ∨ d.kind = .classType) (listed : d.members ≠ [])
    (indent : Int) : d.render indent container =
      (renderAll (indent + 1) (some d.kind) d.members).map (d.blockText indent) := by
  have printed : d.render indent container = (do
      let lines ← renderAll (indent + 1) (some d.kind) d.members
      pure (padding indent ++ d.renderHeader ++ " \x7b\n" ++ joinLines lines ++ "\n" ++
        padding indent ++ "\x7d")) := by
    rcases d with ⟨k, name, line, signature, type, typeParams, isVar, members⟩
    obtain ⟨m, ms, rfl⟩ := List.exists_cons_of_ne_nil listed
    rcases kind with rfl | rfl
    · rw [render]
      rfl
    · rw [render]
      rfl
  rw [printed]
  cases h : renderAll (indent + 1) (some d.kind) d.members with
  | error e => rfl
  | ok lines =>
    have between := join_concat "\n" (padding indent ++ "\x7d") (renderAll_ne_nil listed h)
    refine congrArg Except.ok ?_
    rw [blockText, joinLines, joinLines, join_cons_of_ne_nil _ _ (by simp), between,
      show " \x7b\n" = " \x7b" ++ "\n" from rfl]
    simp only [String.append_assoc]

theorem layout_of_block (kind : d.kind = .interface ∨ d.kind = .classType) :
    d.Layout container := by
  by_cases none : d.members = []
  · refine .line (startsWord_renderHeader d) (fun h => h.isLine_renderHeader) fun indent => ?_
    rcases d with ⟨k, name, line, signature, type, typeParams, isVar, members⟩
    cases none
    rcases kind with rfl | rfl
    · rw [render]
      rfl
    · rw [render]
      rfl
  · exact .block kind none (render_block kind none)

theorem layout_of_nameSpace (kind : d.kind = .nameSpace) : d.Layout container := by
  refine .nameSpace kind fun indent => ?_
  rcases d with ⟨k, name, line, signature, type, typeParams, isVar, members⟩
  cases kind
  rw [render]
  cases renderAll 0 none members with
  | error e => rfl
  | ok lines => rfl

/-- Every declaration is printed in one of these forms. -/
theorem layout (d : Declaration) (container : Option DeclarationKind) : d.Layout container := by
  rcases d with ⟨kind, name, line, signature, type, typeParams, isVar, members⟩
  cases kind with
  | function =>
    cases signature with
    | none => exact .missing fun indent => by rw [render]
    | some s =>
      refine .line ((startsWord_signature s name false).append definedElsewhere) ?_ fun indent => ?_
      · intro h
        rw [isLine_append]
        exact ⟨CallSignature.isLine_render h.name (h.signature rfl) false, by decide⟩
      · rw [render, String.append_assoc]
  | method =>
    cases signature with
    | none => exact .missing fun indent => by rw [render]
    | some s =>
      by_cases inClass : container = some .classType
      · have word : StartsWord "open " := ⟨'o', rfl, by decide⟩
        refine .line (word.append (s.render name false ++ definedElsewhere)) ?_ fun indent => ?_
        · intro h
          simp only [isLine_append]
          exact ⟨by decide, CallSignature.isLine_render h.name (h.signature rfl) false, by decide⟩
        · rw [render, if_pos inClass]
          simp only [String.append_assoc]
      · refine .line (startsWord_signature s name true) ?_ fun indent => ?_
        · exact fun h => CallSignature.isLine_render h.name (h.signature rfl) true
        · rw [render, if_neg inClass]
  | value | property =>
    refine .line (startsWord_renderValue _ container) (fun h => h.isLine_renderValue container) ?_
    intro indent
    rw [render]
  | interface => exact layout_of_block (Or.inl rfl)
  | classType => exact layout_of_block (Or.inr rfl)
  | nameSpace => exact layout_of_nameSpace rfl

end Declaration

end KotlinStubs
