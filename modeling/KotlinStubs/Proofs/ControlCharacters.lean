import KotlinStubs.Json.Printer
import KotlinStubs.Kotlin.Encode
import KotlinStubs.Text.ControlSequence

/-!
# Control characters in written JSON

Control sequences are left out of a text that is written for no terminal.  A text without escape is
`Inert`: it is written as it is.  Written JSON is inert, whatever the texts in it hold, since strings
are written with the numbers of their control characters.

* `Inert.plain_eq`: an inert text is written as it is.
* `withoutControlSequences_append`: one sequence is left out, and what follows it is gone on with.
* `Json.IsExact.inert_pretty`: JSON is inert if all numbers in it are integers.
* `TranslatedFile.inert_toJson`: the JSON of a file.
-/

namespace KotlinStubs

namespace Text

variable {s t : String}

/-- A text without the character that starts control sequences. -/
def Inert (s : String) : Prop := escapeChar ∉ s.toList

instance (s : String) : Decidable (Inert s) :=
  inferInstanceAs (Decidable (escapeChar ∉ s.toList))

theorem Inert.plain_eq (h : Inert s) : plain s = s := by
  rw [plain, withoutControlSequences_of_not_mem h, String.ofList_toList]

theorem inert_ofList {cs : List Char} (h : escapeChar ∉ cs) : Inert (String.ofList cs) := by
  rw [Inert, String.toList_ofList]
  exact h

theorem Inert.append (hs : Inert s) (ht : Inert t) : Inert (s ++ t) := by
  rw [Inert, String.toList_append, List.mem_append, not_or]
  exact ⟨hs, ht⟩

theorem inert_join {separator : String} {texts : List String} (hsep : Inert separator)
    (h : ∀ t ∈ texts, Inert t) : Inert (join separator texts) := by
  induction texts with
  | nil => exact List.not_mem_nil
  | cons t texts ih =>
    obtain ⟨first, others⟩ := List.forall_mem_cons.1 h
    cases texts with
    | nil => exact first
    | cons u texts => exact (first.append hsep).append (ih others)

theorem inert_natRepr (n : Nat) : Inert n.repr := by
  rw [Nat.repr_eq_ofList_toDigits]
  refine inert_ofList fun member => ?_
  exact absurd (Nat.isDigit_of_mem_toDigits (by decide) (by decide) member) (by decide)

theorem inert_int (i : Int) : Inert (toString i) := by
  rw [show toString i = i.repr from rfl, Int.repr_eq_if]
  split
  · exact inert_natRepr _
  · exact Inert.append (by decide) (inert_natRepr _)

/-- The first control sequence is left out. -/
theorem withoutControlSequences_append {before rest later : List Char} (h : escapeChar ∉ before)
    (sequence : afterControlSequence? rest = some later) :
    withoutControlSequences (before ++ escapeChar :: rest) =
      before ++ withoutControlSequences later := by
  induction before with
  | nil =>
    rw [List.nil_append, withoutControlSequences, if_pos rfl]
    split
    · next found =>
      cases found.symm.trans sequence
      rfl
    · next none => cases none.symm.trans sequence
  | cons c before ih =>
    rw [List.mem_cons, not_or] at h
    obtain ⟨other, others⟩ := h
    rw [List.cons_append, withoutControlSequences, if_neg (Ne.symm other), ih others,
      List.cons_append]

/-- A control sequence between inert texts is left out. -/
theorem plain_of_sequence {before after : String} {rest : List Char}
    (text : s.toList = before.toList ++ escapeChar :: rest)
    (sequence : afterControlSequence? rest = some after.toList) (hbefore : Inert before)
    (hafter : Inert after) : plain s = before ++ after := by
  rw [plain, text, withoutControlSequences_append hbefore sequence,
    withoutControlSequences_of_not_mem hafter, String.ofList_append, String.ofList_toList,
    String.ofList_toList]

end Text

open Text

namespace Json

/-- No character is written with an escape in a string of JSON, the escape itself by its digits. -/
theorem escapeChar_not_mem (c : Char) : Text.escapeChar ∉ Json.escapeChar c := by
  have digits (n k : Nat) : Text.escapeChar ∉ hexDigits n k := by
    induction k generalizing n with
    | zero => exact List.not_mem_nil
    | succ k ih =>
      rw [hexDigits, List.mem_append, not_or, List.mem_singleton]
      have digit : ∀ d : Fin 16, Text.escapeChar ≠ hexDigit d := by decide
      exact ⟨ih _, digit ⟨n % 16, Nat.mod_lt n (by decide)⟩⟩
  unfold Json.escapeChar
  split
  case h_8 =>
    split
    · simp only [List.mem_cons, not_or]
      exact ⟨by decide, by decide, digits _ _⟩
    · next printable =>
      rw [List.mem_singleton]
      rintro rfl
      exact printable (by decide)
  all_goals decide

theorem inert_quote (s : String) : Inert (quote s) := by
  refine inert_ofList ?_
  simp only [List.mem_append, List.mem_cons, List.mem_flatMap, List.not_mem_nil, or_false, not_or]
  refine ⟨⟨by decide, ?_⟩, by decide⟩
  rintro ⟨c, -, member⟩
  exact escapeChar_not_mem c member

theorem inert_newLine (level : Nat) : Inert (newLine level) := by
  refine inert_ofList ?_
  rw [List.mem_cons, not_or]
  refine ⟨by decide, fun member => ?_⟩
  exact absurd (List.eq_of_mem_replicate member) (by decide)

/-- A value whose numbers are all integers. -/
inductive IsExact : Json → Prop
  | null : IsExact null
  | bool (b : Bool) : IsExact (bool b)
  | integer (i : Int) : IsExact (integer i)
  | string (s : String) : IsExact (string s)
  | array {items : List Json} : (∀ item ∈ items, IsExact item) → IsExact (array items)
  | object {members : List (String × Json)} :
      (∀ member ∈ members, IsExact member.2) → IsExact (object members)

theorem prettyItems_eq (level : Nat) (items : List Json) :
    prettyItems level items = items.map (prettyAt (level + 1)) := by
  induction items with
  | nil => rw [prettyItems, List.map_nil]
  | cons item items ih => rw [prettyItems, ih, List.map_cons]

theorem prettyMembers_eq (level : Nat) (members : List (String × Json)) :
    prettyMembers level members =
      members.map fun member => quote member.1 ++ ": " ++ prettyAt (level + 1) member.2 := by
  induction members with
  | nil => rw [prettyMembers, List.map_nil]
  | cons member members ih => rw [prettyMembers, ih, List.map_cons]

/-- Texts between brackets, one a line, are inert if each is. -/
theorem inert_bracketed {opening closing : String} {texts : List String} (level : Nat)
    (hopening : Inert opening) (hclosing : Inert closing) (h : ∀ t ∈ texts, Inert t) :
    Inert (opening ++ newLine (level + 1) ++ join ("," ++ newLine (level + 1)) texts ++
      newLine level ++ closing) := by
  have separator : Inert ("," ++ newLine (level + 1)) := .append (by decide) (inert_newLine _)
  have first := hopening.append (inert_newLine (level + 1))
  exact ((first.append (inert_join separator h)).append (inert_newLine level)).append hclosing

/-- At any level a value with exact numbers is printed without control sequences, as each of its
strings is. -/
theorem IsExact.inert_prettyAt {j : Json} (h : j.IsExact) (level : Nat) :
    Inert (j.prettyAt level) := by
  induction h generalizing level with
  | null => simp [prettyAt, writeScalar]; decide
  | bool b => cases b <;> simp [prettyAt, writeScalar] <;> decide
  | integer i => simpa [prettyAt, writeScalar] using inert_int i
  | string s => simpa [prettyAt, writeScalar] using inert_quote s
  | @array items _ ih =>
    cases items with
    | nil => simp [prettyAt]; decide
    | cons item items =>
      rw [prettyAt, prettyItems_eq]
      · refine inert_bracketed level (by decide) (by decide) fun text written => ?_
        obtain ⟨item, member, rfl⟩ := List.mem_map.1 written
        exact ih item member _
      · exact List.cons_ne_nil _ _
  | @object members _ ih =>
    cases members with
    | nil => simp [prettyAt]; decide
    | cons member members =>
      rw [prettyAt, prettyMembers_eq]
      · refine inert_bracketed level (by decide) (by decide) fun text written => ?_
        obtain ⟨⟨name, j⟩, member, rfl⟩ := List.mem_map.1 written
        exact ((inert_quote name).append (by decide)).append (ih _ member _)
      · exact List.cons_ne_nil _ _

theorem IsExact.inert_pretty {j : Json} (h : j.IsExact) : Inert j.pretty := h.inert_prettyAt 0

theorem isExact_ofString? (s? : Option String) : (ofString? s?).IsExact := by
  cases s? with
  | none => exact .null
  | some s => exact .string s

theorem isExact_map {α : Type} {f : α → Json} (h : ∀ a, (f a).IsExact) (as : List α) :
    (array (as.map f)).IsExact := by
  refine .array fun j member => ?_
  obtain ⟨a, -, rfl⟩ := List.mem_map.1 member
  exact h a

theorem isExact_nil : (object []).IsExact := .object fun _ member => absurd member List.not_mem_nil

theorem IsExact.cons {name : String} {j : Json} {members : List (String × Json)} (h : j.IsExact)
    (others : (Json.object members).IsExact) :
    (Json.object ((name, j) :: members)).IsExact := by
  cases others with
  | object others => exact .object (List.forall_mem_cons.2 ⟨h, others⟩)

end Json

open Json

/-! ## Descriptors -/

theorem TypeUse.isExact_toJson (t : TypeUse) : t.toJson.IsExact :=
  .cons (.string _) (.cons (.bool _) (.cons (.bool _) (.cons (.bool _) isExact_nil)))

theorem FunParam.isExact_toJson (p : FunParam) : p.toJson.IsExact :=
  .cons (.string _) (.cons p.type.isExact_toJson
    (.cons (isExact_ofString? _) (.cons (.bool _) isExact_nil)))

theorem TypeParam.isExact_toJson (p : TypeParam) : p.toJson.IsExact :=
  .cons (.string _) (.cons (isExact_ofString? _) isExact_nil)

theorem isExact_typeParamsToJson (params : Option (List TypeParam)) :
    (typeParamsToJson params).IsExact := by
  cases params with
  | none => exact .null
  | some params => exact isExact_map TypeParam.isExact_toJson params

theorem CallSignature.isExact_toJson (s : CallSignature) : s.toJson.IsExact :=
  .cons (isExact_map FunParam.isExact_toJson _)
    (.cons (isExact_typeParamsToJson _) (.cons s.returnType.isExact_toJson isExact_nil))

theorem isExact_getD {α : Type} {f : α → Json} (h : ∀ a, (f a).IsExact) (a? : Option α) :
    ((a?.map f).getD .null).IsExact := by
  cases a? with
  | none => exact .null
  | some a => exact h a

theorem Declaration.isExact_toJsonWith (d : Declaration) {members : List Json}
    (h : ∀ j ∈ members, j.IsExact) : (d.toJsonWith members).IsExact :=
  .cons (.string _) (.cons (.string _) (.cons (.integer _)
    (.cons (isExact_getD CallSignature.isExact_toJson _)
      (.cons (isExact_getD TypeUse.isExact_toJson _)
        (.cons (isExact_typeParamsToJson _) (.cons (.bool _) (.cons (.array h) isExact_nil)))))))

mutual

theorem Declaration.isExact_toJson (d : Declaration) : d.toJson.IsExact := by
  rcases d with ⟨kind, name, line, signature, type, typeParams, isVar, members⟩
  rw [Declaration.toJson]
  exact Declaration.isExact_toJsonWith _ (Declaration.isExact_toJsons members)

theorem Declaration.isExact_toJsons (ds : List Declaration) :
    ∀ j ∈ Declaration.toJsons ds, j.IsExact := by
  rcases ds with _ | ⟨d, ds⟩
  · exact fun j member => absurd member List.not_mem_nil
  · rw [Declaration.toJsons]
    exact List.forall_mem_cons.2 ⟨d.isExact_toJson, Declaration.isExact_toJsons ds⟩

end

theorem Rejection.isExact_toJson (r : Rejection) : r.toJson.IsExact :=
  .cons (isExact_ofString? _) (.cons (.string _) (.cons (.integer _) (.cons (.string _) isExact_nil)))

theorem TranslatedFile.inert_toJson (file : TranslatedFile) : Inert file.toJson.pretty :=
  IsExact.inert_pretty <| .cons (.string _) <| .cons
    (.array (Declaration.isExact_toJsons file.declarations))
    (.cons (isExact_map Rejection.isExact_toJson _) isExact_nil)

end KotlinStubs
