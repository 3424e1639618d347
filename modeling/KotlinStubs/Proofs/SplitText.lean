import Mathlib.Data.List.Infix
import KotlinStubs.Text.Basic

/-!
# Texts taken apart

`split separator text` takes a text apart at the occurrences of a separator, found from left to
right, none of them within another.  It gives back the texts that were joined if each is `Clear`: the
separator occurs neither in it nor across its end.

* `join_split`, `not_infix_of_mem_split`: the parts make up the text and hold no separator.
* `split_join`: joined texts are found again.
* `lines_joinLines`, `lines_append`: the lines of joined texts.
-/

namespace KotlinStubs.Text

/-! ## Characters -/

section

variable {separator text before behind : List Char}

/-- What stands before the first occurrence of a separator, and what stands behind it. -/
def cut? (separator : List Char) : List Char → Option (List Char × List Char)
  | [] => none
  | c :: rest =>
    if separator.isPrefixOf (c :: rest) then
      some ([], rest.drop (separator.length - 1))
    else
      (cut? separator rest).map fun parts => (c :: parts.1, parts.2)

theorem length_lt_of_cut? (h : cut? separator text = some (before, behind)) :
    behind.length < text.length := by
  induction text generalizing before with
  | nil => cases h
  | cons c rest ih =>
    rw [cut?] at h
    split at h
    · cases h
      rw [List.length_drop, List.length_cons]
      omega
    · obtain ⟨⟨_, _⟩, found, ⟨⟩⟩ := Option.map_eq_some_iff.1 h
      exact Nat.lt_succ_of_lt (ih found)

/-- The parts between the occurrences of a separator. -/
def parts (separator text : List Char) : List (List Char) :=
  match _h : cut? separator text with
  | none => [text]
  | some (before, behind) => before :: parts separator behind
termination_by text.length
decreasing_by exact length_lt_of_cut? _h

theorem parts_of_none (h : cut? separator text = none) : parts separator text = [text] := by
  rw [parts]
  split
  · rfl
  · next found => cases h.symm.trans found

theorem parts_of_some (h : cut? separator text = some (before, behind)) :
    parts separator text = before :: parts separator behind := by
  rw [parts]
  split
  · next none => cases h.symm.trans none
  · next found =>
    cases h.symm.trans found
    rfl

variable (nonempty : separator ≠ [])
include nonempty

theorem cut?_eq_none (h : cut? separator text = none) : ¬ separator <:+: text := by
  induction text with
  | nil => exact fun inside => nonempty (List.infix_nil.1 inside)
  | cons c rest ih =>
    rw [cut?] at h
    split at h
    · cases h
    · next other =>
      rw [List.isPrefixOf_iff_prefix] at other
      rw [List.infix_cons_iff, not_or]
      exact ⟨other, ih (Option.map_eq_none_iff.1 h)⟩

/-- The first occurrence stands where the text is cut, and none before it. -/
theorem cut?_eq_some (h : cut? separator text = some (before, behind)) :
    text = before ++ separator ++ behind ∧ ¬ separator <:+: before := by
  induction text generalizing before with
  | nil => cases h
  | cons c rest ih =>
    rw [cut?] at h
    split at h
    · next here =>
      cases h
      obtain ⟨s, ss, rfl⟩ := List.exists_cons_of_ne_nil nonempty
      obtain ⟨tail, rest_eq⟩ := List.isPrefixOf_iff_prefix.1 here
      obtain ⟨rfl, rfl⟩ := List.cons.inj rest_eq
      refine ⟨?_, fun inside => nonempty (List.infix_nil.1 inside)⟩
      simp
    · next other =>
      obtain ⟨⟨_, _⟩, found, ⟨⟩⟩ := Option.map_eq_some_iff.1 h
      obtain ⟨rfl, clear⟩ := ih found
      refine ⟨rfl, ?_⟩
      rw [List.infix_cons_iff, not_or]
      refine ⟨fun here => other (List.isPrefixOf_iff_prefix.2 ?_), clear⟩
      apply here.trans
      rw [List.append_assoc]
      exact List.prefix_append _ _

/-- An occurrence that does not start before the end of a text is found there. -/
theorem cut?_append (clear : ¬ separator <:+: before ++ separator.dropLast) :
    cut? separator (before ++ separator ++ behind) = some (before, behind) := by
  induction before with
  | nil =>
    obtain ⟨s, ss, rfl⟩ := List.exists_cons_of_ne_nil nonempty
    rw [List.nil_append, List.cons_append, cut?, if_pos]
    · simp
    · exact List.isPrefixOf_iff_prefix.2 (List.prefix_append (s :: ss) behind)
  | cons c before ih =>
    have whole : c :: (before ++ separator.dropLast) <+: c :: (before ++ separator ++ behind) := by
      obtain ⟨last, hlast⟩ := separator.dropLast_prefix
      refine ⟨last ++ behind, ?_⟩
      rw [List.cons_append, List.append_assoc, ← List.append_assoc separator.dropLast, hlast,
        List.append_assoc]
    have short : separator.length ≤ (c :: (before ++ separator.dropLast)).length := by
      rw [List.length_cons, List.length_append, List.length_dropLast]
      omega
    have later : ¬ separator.isPrefixOf (c :: (before ++ separator ++ behind)) = true := by
      intro here
      apply clear
      have early := List.prefix_of_prefix_length_le (List.isPrefixOf_iff_prefix.1 here) whole short
      exact early.isInfix
    have rest := ih fun inside => clear (List.infix_cons inside)
    rw [List.cons_append, List.cons_append, cut?, if_neg later, rest]
    rfl

end

/-! ## Texts -/

variable {separator s t : String}

/-- The parts of a text between the occurrences of a separator. -/
def split (separator text : String) : List String :=
  (parts separator.toList text.toList).map String.ofList

/-- The separator does not start in the text, also if it follows the text. -/
def Clear (separator t : String) : Prop :=
  ¬ separator.toList <:+: t.toList ++ separator.toList.dropLast

/-- A separator that is not clear of a text starts in it, and so does each part that it starts with. -/
theorem exists_start (h : ¬ Clear separator t) {k : Nat} (short : k < separator.toList.length) :
    ∃ before, before ++ separator.toList.take (k + 1) <+: t.toList ++ separator.toList.take k := by
  obtain ⟨before, after, written⟩ := not_not.1 h
  have starts : before.length < t.toList.length := by
    have lengths := congrArg List.length written
    simp only [List.length_append, List.length_dropLast] at lengths
    omega
  have first : before ++ separator.toList.take (k + 1) <+:
      t.toList ++ separator.toList.dropLast := by
    refine ⟨separator.toList.drop (k + 1) ++ after, ?_⟩
    rw [List.append_assoc, ← List.append_assoc (separator.toList.take _), List.take_append_drop,
      ← List.append_assoc, written]
  have second : t.toList ++ separator.toList.take k <+:
      t.toList ++ separator.toList.dropLast := by
    rw [List.dropLast_eq_take, List.prefix_append_right_inj]
    exact List.take_prefix_take_left (Nat.le_sub_one_of_lt short)
  refine ⟨before, List.prefix_of_prefix_length_le first second ?_⟩
  rw [List.length_append, List.length_append, List.length_take, List.length_take]
  omega

theorem split_of_none (h : cut? separator.toList t.toList = none) : split separator t = [t] := by
  rw [split, parts_of_none h, List.map_singleton, String.ofList_toList]

theorem split_of_some {before behind : List Char}
    (h : cut? separator.toList t.toList = some (before, behind)) :
    split separator t = String.ofList before :: split separator (String.ofList behind) := by
  rw [split, parts_of_some h, List.map_cons, split, String.toList_ofList]

theorem split_ne_nil (separator t : String) : split separator t ≠ [] := by
  cases h : cut? separator.toList t.toList with
  | none =>
    rw [split_of_none h]
    exact List.cons_ne_nil _ _
  | some found =>
    rw [split_of_some h]
    exact List.cons_ne_nil _ _

/-- What holds of a text as soon as it holds of what stands behind the first separator in it holds
of every text. -/
theorem splitInduction (separator : String) {P : String → Prop}
    (whole : ∀ t : String, cut? separator.toList t.toList = none → P t)
    (cut : ∀ (t : String) (before behind : List Char),
      cut? separator.toList t.toList = some (before, behind) → P (String.ofList behind) → P t)
    (t : String) : P t := by
  induction h : t.toList.length using Nat.strongRecOn generalizing t with
  | ind n ih =>
    cases found : cut? separator.toList t.toList with
    | none => exact whole t found
    | some parts =>
      obtain ⟨before, behind⟩ := parts
      apply cut t before behind found
      refine ih behind.length ?_ _ (congrArg List.length String.toList_ofList)
      rw [← h]
      exact length_lt_of_cut? found

section

variable (nonempty : separator ≠ "")
include nonempty

theorem toList_ne_nil : separator.toList ≠ [] := fun h => nonempty (String.toList_eq_nil_iff.1 h)

/-- The parts of a text make it up again. -/
theorem join_split (t : String) : join separator (split separator t) = t := by
  induction t using splitInduction separator with
  | whole t none => rw [split_of_none none, join_singleton]
  | cut t before behind found ih =>
    obtain ⟨written, -⟩ := cut?_eq_some (toList_ne_nil nonempty) found
    rw [split_of_some found, join_cons_of_ne_nil _ _ (split_ne_nil _ _), ih, ← String.toList_inj,
      written]
    simp only [String.toList_append, String.toList_ofList]

/-- No part holds the separator. -/
theorem not_infix_of_mem_split (h : s ∈ split separator t) :
    ¬ separator.toList <:+: s.toList := by
  induction t using splitInduction separator with
  | whole t none =>
    rw [split_of_none none, List.mem_singleton] at h
    rw [h]
    exact cut?_eq_none (toList_ne_nil nonempty) none
  | cut t before behind found ih =>
    rw [split_of_some found, List.mem_cons] at h
    rcases h with rfl | h
    · rw [String.toList_ofList]
      exact (cut?_eq_some (toList_ne_nil nonempty) found).2
    · exact ih h

theorem split_append (clear : Clear separator s) (t : String) :
    split separator (s ++ separator ++ t) = s :: split separator t := by
  have found : cut? separator.toList (s ++ separator ++ t).toList = some (s.toList, t.toList) := by
    rw [String.toList_append, String.toList_append]
    exact cut?_append (toList_ne_nil nonempty) clear
  rw [split_of_some found, String.ofList_toList, String.ofList_toList]

theorem split_of_clear (clear : Clear separator t) : split separator t = [t] := by
  cases found : cut? separator.toList t.toList with
  | none => exact split_of_none found
  | some parts =>
    obtain ⟨written, -⟩ := cut?_eq_some (toList_ne_nil nonempty) found
    refine absurd ?_ clear
    rw [written]
    exact ⟨parts.1, parts.2 ++ separator.toList.dropLast, by simp only [List.append_assoc]⟩

/-- Joined texts are found again if the separator starts in none of them. -/
theorem split_join {texts : List String} (listed : texts ≠ [])
    (clear : ∀ t ∈ texts, Clear separator t) : split separator (join separator texts) = texts := by
  induction texts with
  | nil => exact absurd rfl listed
  | cons t texts ih =>
    obtain ⟨first, others⟩ := List.forall_mem_cons.1 clear
    cases texts with
    | nil => exact split_of_clear nonempty first
    | cons u texts =>
      have rest : u :: texts ≠ [] := List.cons_ne_nil u texts
      rw [join_cons_of_ne_nil _ _ rest, split_append nonempty first, ih rest others]

end

/-! ## Lines -/

/-- A text without line feed. -/
def IsLine (t : String) : Prop := '\n' ∉ t.toList

instance (t : String) : Decidable (IsLine t) := inferInstanceAs (Decidable ('\n' ∉ t.toList))

/-- The lines of a text. -/
def lines (t : String) : List String := split "\n" t

@[simp] theorem isLine_append : IsLine (s ++ t) ↔ IsLine s ∧ IsLine t := by
  rw [IsLine, String.toList_append, List.mem_append, not_or]
  rfl

theorem isLine_join {texts : List String} (hseparator : IsLine separator)
    (h : ∀ t ∈ texts, IsLine t) : IsLine (join separator texts) := by
  induction texts with
  | nil => exact List.not_mem_nil
  | cons t texts ih =>
    obtain ⟨first, others⟩ := List.forall_mem_cons.1 h
    cases texts with
    | nil => exact first
    | cons u texts =>
      rw [join_cons_of_ne_nil _ _ (List.cons_ne_nil u texts), isLine_append, isLine_append]
      exact ⟨⟨first, hseparator⟩, ih others⟩

theorem clear_iff_isLine : Clear "\n" t ↔ IsLine t := by
  rw [Clear, show "\n".toList = ['\n'] from rfl, List.dropLast_singleton, List.append_nil,
    List.singleton_infix_iff]
  rfl

theorem lines_ne_nil (t : String) : lines t ≠ [] := split_ne_nil _ t

theorem joinLines_lines (t : String) : joinLines (lines t) = t := join_split (by decide) t

theorem isLine_of_mem_lines (h : s ∈ lines t) : IsLine s := by
  have apart := not_infix_of_mem_split (by decide) h
  rwa [show "\n".toList = ['\n'] from rfl, List.singleton_infix_iff] at apart

theorem lines_joinLines {texts : List String} (listed : texts ≠ [])
    (h : ∀ t ∈ texts, IsLine t) : lines (joinLines texts) = texts :=
  split_join (by decide) listed fun t ht => clear_iff_isLine.2 (h t ht)

theorem lines_of_isLine (h : IsLine t) : lines t = [t] :=
  split_of_clear (by decide) (clear_iff_isLine.2 h)

/-- Texts that follow each other as lines have their lines in turn. -/
theorem lines_append (s t : String) : lines (s ++ "\n" ++ t) = lines s ++ lines t := by
  have written : s ++ "\n" ++ t = joinLines (lines s ++ lines t) := by
    rw [joinLines, join_append _ (lines_ne_nil s) (lines_ne_nil t), ← joinLines, ← joinLines,
      joinLines_lines, joinLines_lines]
  rw [written, lines_joinLines (List.append_ne_nil_of_right_ne_nil _ (lines_ne_nil t))]
  intro line member
  rcases List.mem_append.1 member with member | member
  · exact isLine_of_mem_lines member
  · exact isLine_of_mem_lines member

end KotlinStubs.Text
