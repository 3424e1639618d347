import KotlinStubs.Proofs.PrintedForms

/-!
# Indentation

A declaration printed at an indent is its text without indent, each line of it moved by four blanks
for each step.  The members of a block are one step further in than its first and its last line.

* `Text.indented_joinLines`, `Text.indented_indented`: indentation of lines, and of indented lines.
* `Declaration.render_eq_indented`: a declaration at an indent.
* `render_indented`: with the places of the members of blocks.
-/

namespace KotlinStubs

open Text

namespace Text

variable {s t : String} {n m : Nat}

/-- The text with every line indented by a number of steps. -/
def indented (n : Nat) (t : String) : String := joinLines ((lines t).map (padding n ++ ·))

/-- The number of blanks that a text starts with. -/
def blanks (t : String) : Nat := (t.toList.takeWhile (· == ' ')).length

theorem padding_zero : padding 0 = "" := rfl

theorem padding_add (n m : Nat) : padding n ++ padding m = padding ((m + n : Nat) : Int) := by
  rw [← String.toList_inj, String.toList_append]
  simp only [padding, String.toList_ofList, Int.toNat_natCast, List.replicate_append_replicate]
  congr 1
  omega

theorem lines_indented (n : Nat) (t : String) :
    lines (indented n t) = (lines t).map (padding n ++ ·) := by
  apply lines_joinLines
  · exact fun none => lines_ne_nil t (List.map_eq_nil_iff.1 none)
  · intro line member
    obtain ⟨l, hl, rfl⟩ := List.mem_map.1 member
    rw [isLine_append]
    exact ⟨isLine_padding n, isLine_of_mem_lines hl⟩

theorem indented_of_isLine (h : IsLine t) : indented n t = padding n ++ t := by
  rw [indented, lines_of_isLine h]
  rfl

/-- Indented lines are indented further by as many steps more. -/
theorem indented_indented (n m : Nat) (t : String) :
    indented n (indented m t) = indented (m + n) t := by
  rw [indented, lines_indented, List.map_map, indented]
  congr 2
  funext line
  rw [Function.comp_apply, ← String.append_assoc, padding_add]

theorem indented_append (n : Nat) (s t : String) :
    indented n (s ++ "\n" ++ t) = indented n s ++ "\n" ++ indented n t := by
  have listed (t : String) : (lines t).map (padding n ++ ·) ≠ [] :=
    fun none => lines_ne_nil t (List.map_eq_nil_iff.1 none)
  rw [indented, lines_append, List.map_append, joinLines, join_append _ (listed s) (listed t)]
  rfl

theorem indented_joinLines {texts : List String} (listed : texts ≠ []) :
    indented n (joinLines texts) = joinLines (texts.map (indented n)) := by
  induction texts with
  | nil => exact absurd rfl listed
  | cons t texts ih =>
    cases texts with
    | nil => rfl
    | cons u texts =>
      have rest : u :: texts ≠ [] := List.cons_ne_nil u texts
      have rest' : (u :: texts).map (indented n) ≠ [] := List.cons_ne_nil _ _
      rw [joinLines, join_cons_of_ne_nil _ _ rest, indented_append, ← joinLines, ih rest]
      exact (join_cons_of_ne_nil _ _ rest').symm

end Text

namespace Declaration

variable {d : Declaration} {container : Option DeclarationKind}

/-- What holds of each declaration in a list holds of the whole list. -/
theorem renderAll_map {ds : List Declaration} {i j : Int} {f : String → String}
    (h : ∀ d ∈ ds, d.render i container = (d.render j container).map f) :
    renderAll i container ds = (renderAll j container ds).map (List.map f) := by
  induction ds with
  | nil => rfl
  | cons d ds ih =>
    obtain ⟨first, others⟩ := List.forall_mem_cons.1 h
    rw [renderAll, renderAll, first, ih others]
    cases d.render j container with
    | error e => rfl
    | ok t =>
      cases renderAll j container ds with
      | error e => rfl
      | ok ts => rfl

/-- A block at an indent is the block without indent, indented. -/
theorem blockText_indented (h : d.IsSingleLined) (n : Nat) (members : List String) :
    d.blockText n (members.map (indented (n + 1))) =
      indented n (d.blockText 0 (members.map (indented 1))) := by
  have header : IsLine (padding 0 ++ d.renderHeader ++ " \x7b") := by
    simp only [isLine_append]
    exact ⟨⟨isLine_padding 0, h.isLine_renderHeader⟩, by decide⟩
  have closing : IsLine (padding 0 ++ "\x7d") := by decide
  have further (t : String) : indented n (indented 1 t) = indented (n + 1) t := by
    rw [indented_indented, Nat.add_comm]
  rw [blockText, blockText, indented_joinLines (List.cons_ne_nil _ _)]
  simp only [List.map_cons, List.map_append, List.map_map, List.map_nil, Function.comp_def, further,
    indented_of_isLine header, indented_of_isLine closing]
  simp only [padding_zero, String.empty_append, String.append_assoc]

/-- A declaration that holds no namespace is printed at an indent as it is printed without, but with
every line indented. -/
theorem render_eq_indented (flat : d.Everywhere (·.kind ≠ .nameSpace))
    (lined : d.Everywhere IsSingleLined) (container : Option DeclarationKind) (n : Nat) :
    d.render n container = (d.render 0 container).map (indented n) := by
  induction lined generalizing container n with
  | @intro d lined _ ih =>
    cases d.layout container with
    | line word oneLine printed =>
      rw [printed, printed, padding_zero, String.empty_append]
      exact congrArg Except.ok (indented_of_isLine (oneLine lined)).symm
    | block kind listed printed =>
      have members (i : Nat) : renderAll i (some d.kind) d.members =
          (renderAll 0 (some d.kind) d.members).map (List.map (indented i)) :=
        renderAll_map fun m hm => ih m hm (flat.members m hm) (some d.kind) i
      have first : renderAll ((n : Int) + 1) (some d.kind) d.members = _ := members (n + 1)
      have second : renderAll ((0 : Int) + 1) (some d.kind) d.members = _ := members 1
      rw [printed, printed, first, second]
      cases renderAll 0 (some d.kind) d.members with
      | error e => rfl
      | ok texts => exact congrArg Except.ok (blockText_indented lined n texts)
    | nameSpace kind printed => exact absurd kind flat.here
    | missing printed => rw [printed, printed]; rfl

/-! ## Places -/

/-- A text without a blank in front that is indented starts with four blanks for each step. -/
theorem blanks_padding {s : String} (h : s.toList.head? ≠ some ' ') (n : Nat) :
    blanks (padding n ++ s) = 4 * n := by
  have stops : s.toList.takeWhile (· == ' ') = [] := by
    cases chars : s.toList with
    | nil => rfl
    | cons c rest =>
      rw [chars, List.head?_cons] at h
      apply List.takeWhile_cons_of_neg
      rw [beq_iff_eq]
      exact fun blank => h (congrArg some blank)
  rw [blanks, String.toList_append, padding, String.toList_ofList, Int.toNat_natCast,
    List.takeWhile_append_of_pos, stops, List.append_nil, List.length_replicate]
  intro c member
  rw [beq_iff_eq]
  exact List.eq_of_mem_replicate member

theorem blanks_blockText (d : Declaration) (n : Nat) (members : List String) :
    blanks (d.blockText n members) = 4 * n := by
  have word := (startsWord_renderHeader d).append
    (" \x7b" ++ "\n" ++ join "\n" (members ++ [padding n ++ "\x7d"]))
  rw [blockText, joinLines, join_cons_of_ne_nil _ _ (by simp)]
  simp only [String.append_assoc] at word ⊢
  exact blanks_padding (word.head?_ne (by decide)) n

/-- The first line of a declaration starts with the blanks of its indent. -/
theorem blanks_render {text : String} {n : Nat} (kind : d.kind ≠ .nameSpace)
    (h : d.render n container = .ok text) : blanks text = 4 * n := by
  cases d.layout container with
  | line word _ printed =>
    cases (printed n).symm.trans h
    exact blanks_padding (word.head?_ne (by decide)) n
  | block _ _ printed =>
    obtain ⟨members, _, rfl⟩ := map_eq_ok.1 ((printed n).symm.trans h)
    exact blanks_blockText d n members
  | nameSpace isNameSpace _ => exact absurd isNameSpace kind
  | missing printed => cases (printed n).symm.trans h

end Declaration

open Declaration

/-- **Indentation.** A declaration that holds no namespace and no text with a line feed has a text at
an indent just if it has one without, and then it is that text with every line indented.  Its first
line starts with the blanks of the indent; if it is a block, so do its header and its closing brace,
and each member between them starts with those of one step more. -/
theorem render_indented {d : Declaration} (flat : d.Everywhere (·.kind ≠ .nameSpace))
    (lined : d.Everywhere IsSingleLined) (container : Option DeclarationKind) (n : Nat) :
    d.render n container = (d.render 0 container).map (indented n) ∧
      ∀ text, d.render n container = .ok text →
        blanks text = 4 * n ∧
          (d.kind = .interface ∨ d.kind = .classType → d.members ≠ [] →
            ∃ header members closing,
              text = joinLines (header :: (members ++ [closing])) ∧
                (IsLine header ∧ blanks header = 4 * n) ∧
                (closing = padding n ++ "\x7d" ∧ blanks closing = 4 * n) ∧
                List.Forall₂
                  (fun m t => m.render (n + 1) (some d.kind) = .ok t ∧ blanks t = 4 * (n + 1))
                  d.members members) := by
  refine ⟨render_eq_indented flat lined container n, fun text done => ?_⟩
  refine ⟨blanks_render flat.here done, fun kind listed => ?_⟩
  rw [render_block kind listed] at done
  obtain ⟨members, printed, rfl⟩ := map_eq_ok.1 done
  have lineOfHeader : IsLine (padding n ++ d.renderHeader ++ " \x7b") := by
    simp only [isLine_append]
    exact ⟨⟨isLine_padding n, lined.here.isLine_renderHeader⟩, by decide⟩
  have blanksOfHeader : blanks (padding n ++ d.renderHeader ++ " \x7b") = 4 * n := by
    have word := (startsWord_renderHeader d).append " \x7b"
    rw [String.append_assoc]
    exact blanks_padding (word.head?_ne (by decide)) n
  refine ⟨_, members, _, rfl, ⟨lineOfHeader, blanksOfHeader⟩, ⟨rfl, ?_⟩, ?_⟩
  · exact blanks_padding (by decide) n
  · have kinds : ∀ m ∈ d.members, m.kind ≠ .nameSpace := fun m hm => (flat.members m hm).here
    have each := (List.forall₂_and_left _ _).2 ⟨kinds, renderAll_eq_ok.1 printed⟩
    refine each.imp fun m t hm => ?_
    exact ⟨hm.2, blanks_render (n := n + 1) hm.1 hm.2⟩

namespace Declaration

/-- `fun m()` -/
def unitMethod : Declaration where
  kind := .method
  name := "m"
  signature := some { returnType := { typeName := unitName } }

/-- `interface I { fun m() }` -/
def innerBlock : Declaration := { kind := .interface, name := "I", members := [unitMethod] }

/-- `open class C { interface I { fun m() } }`, a block in a block. -/
def outerBlock : Declaration := { kind := .classType, name := "C", members := [innerBlock] }

theorem everywhere_outerBlock {P : Declaration → Prop} (outer : P outerBlock)
    (inner : P innerBlock) (method : P unitMethod) : outerBlock.Everywhere P :=
  .of_member outer rfl (.of_member inner rfl (.of_no_members method rfl))

theorem render_indented_outerBlock :
    outerBlock.Everywhere (·.kind ≠ .nameSpace) ∧ outerBlock.Everywhere IsSingleLined ∧
      ∃ text, outerBlock.render 0 none = .ok text ∧
        outerBlock.render 2 none = .ok (indented 2 text) ∧ blanks (indented 2 text) = 8 := by
  have flat := everywhere_outerBlock (P := (·.kind ≠ .nameSpace)) (by decide) (by decide) (by decide)
  have lined := everywhere_outerBlock (P := IsSingleLined) (by decide) (by decide) (by decide)
  obtain ⟨same, places⟩ := render_indented flat lined none 2
  have printed : outerBlock.render 0 none = .ok
      "open class C \x7b\n    interface I \x7b\n        fun m()\n    \x7d\n\x7d" := by
    rfl
  rw [printed] at same
  exact ⟨flat, lined, _, printed, same, (places _ same).1⟩

end Declaration

end KotlinStubs
