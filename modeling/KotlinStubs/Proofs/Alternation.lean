import KotlinStubs.Syntax.View
import KotlinStubs.Proofs.StatementForms

/-!
# Alternating lists

A separated view takes every second entry for a payload, whatever the entries are.  That is right
just for lists in which payloads and commas alternate: these lose nothing, and in every other list a
comma is handed out as a payload or a payload is lost.

* `evenPlaces_sublist_of_no_comma`: what is handed out, if it holds no comma, is part of the
  entries that are no commas.
* `evenPlaces_eq_filter_iff`: it is all of them just if the list alternates.
* `separatedView_lossless`: the separated view of a node.
-/

namespace KotlinStubs

open Translation

/-- Whether a node is a comma, the separator of lists. -/
def Node.isComma (n : Node) : Bool := n.type == ","

/-- Whether payloads and commas alternate in a list, a payload first.  A comma may come last. -/
def alternate : List Node → Bool
  | [] => true
  | [n] => !n.isComma
  | n :: separator :: rest => !n.isComma && separator.isComma && alternate rest

section

variable {entries : List Node}

/-- The entries that are no commas. -/
def withoutCommas (entries : List Node) : List Node := entries.filter fun e => !e.isComma

theorem isComma_of_mem_withoutCommas {e : Node} (h : e ∈ withoutCommas entries) :
    e.isComma = false := by
  have kept := (List.mem_filter.1 h).2
  rwa [Bool.not_eq_true'] at kept

theorem evenPlaces_sublist_of_no_comma (noComma : ∀ e ∈ evenPlaces entries, e.isComma = false) :
    (evenPlaces entries).Sublist (withoutCommas entries) := by
  have kept : withoutCommas (evenPlaces entries) = evenPlaces entries := by
    apply List.filter_eq_self.2
    intro e he
    rw [noComma e he, Bool.not_false]
  rw [← kept]
  exact (evenPlaces_sublist entries).filter _

/-- Every second entry is handed out; these are the entries that are no commas just if the list
alternates.  Where an entry at an odd place is no comma, there are more of them than are handed
out. -/
theorem evenPlaces_eq_filter_iff :
    evenPlaces entries = withoutCommas entries ↔ alternate entries = true := by
  induction entries using evenPlaces.induct with
  | case1 => simp [evenPlaces, withoutCommas, alternate]
  | case2 n => cases h : n.isComma <;> simp [evenPlaces, withoutCommas, alternate, h]
  | case3 n separator rest ih =>
    constructor
    · intro h
      have first : n.isComma = false := by
        apply isComma_of_mem_withoutCommas
        rw [← h]
        exact List.mem_cons_self
      rw [evenPlaces, withoutCommas, List.filter_cons_of_pos (by rw [first]; rfl)] at h
      have others := (List.cons.inj h).2
      cases second : separator.isComma with
      | true =>
        rw [List.filter_cons_of_neg (by rw [second]; decide)] at others
        rw [alternate, first, second, ih.1 others]
        rfl
      | false =>
        rw [List.filter_cons_of_pos (by rw [second]; rfl)] at others
        have handedOut : ∀ e ∈ evenPlaces rest, e.isComma = false := by
          intro e he
          rw [others] at he
          rcases List.mem_cons.1 he with rfl | he
          · exact second
          · exact isComma_of_mem_withoutCommas he
        have fewer := (evenPlaces_sublist_of_no_comma handedOut).length_le
        rw [others, List.length_cons] at fewer
        exact absurd fewer (Nat.not_succ_le_self _)
    · intro h
      simp only [alternate, Bool.and_eq_true, Bool.not_eq_true'] at h
      obtain ⟨⟨first, second⟩, others⟩ := h
      rw [evenPlaces, ih.2 others, withoutCommas, withoutCommas,
        List.filter_cons_of_pos (by rw [first]; rfl),
        List.filter_cons_of_neg (by rw [second]; decide)]

/-- The commas of an alternating list stand at the odd places. -/
theorem countP_isComma_of_alternate (h : alternate entries = true) :
    entries.countP Node.isComma = entries.length / 2 := by
  induction entries using evenPlaces.induct with
  | case1 => rfl
  | case2 n =>
    rw [alternate, Bool.not_eq_true'] at h
    rw [List.countP_singleton, h, if_neg Bool.false_ne_true, List.length_singleton]
  | case3 n separator rest ih =>
    simp only [alternate, Bool.and_eq_true, Bool.not_eq_true'] at h
    obtain ⟨⟨first, second⟩, others⟩ := h
    rw [List.countP_cons_of_neg (by rw [first]; decide), List.countP_cons_of_pos second, ih others]
    simp only [List.length_cons]
    omega

/-- In a list that does not alternate a comma is handed out, or fewer payloads than there are. -/
theorem misread_of_not_alternate (h : alternate entries = false) :
    (∃ e ∈ evenPlaces entries, e.isComma = true) ∨
      (evenPlaces entries).Sublist (withoutCommas entries) ∧
        (evenPlaces entries).length < (withoutCommas entries).length := by
  by_cases comma : ∃ e ∈ evenPlaces entries, e.isComma = true
  · exact Or.inl comma
  · have noComma : ∀ e ∈ evenPlaces entries, e.isComma = false := by
      intro e he
      apply Bool.eq_false_iff.2
      intro isComma
      exact comma ⟨e, he, isComma⟩
    have part := evenPlaces_sublist_of_no_comma noComma
    refine Or.inr ⟨part, Nat.lt_of_le_of_ne part.length_le fun all => ?_⟩
    rw [evenPlaces_eq_filter_iff.1 (part.eq_of_length all)] at h
    cases h

end

/-- **Separated views.** Once the entries between the delimiters are reached, the view of them hands
out the entries that are no commas, in their order, just if payloads and commas alternate, and then
counts the commas.  Otherwise it hands out a comma or loses a payload. -/
theorem separatedView_lossless (n : Node) (delimiters : List String) :
    ∃ view,
      n.separatedView delimiters = (do
        reachAll (n.entries delimiters)
        pure view) ∧
      (view.payloads = withoutCommas (n.entries delimiters) ↔
        alternate (n.entries delimiters) = true) ∧
      (alternate (n.entries delimiters) = true →
        view.separatorCount = (n.entries delimiters).countP Node.isComma) ∧
      (alternate (n.entries delimiters) = false →
        (∃ e ∈ view.payloads, e.isComma = true) ∨
          view.payloads.Sublist (withoutCommas (n.entries delimiters)) ∧
            view.payloads.length < (withoutCommas (n.entries delimiters)).length) := by
  refine ⟨_, rfl, ?_, ?_, ?_⟩
  · exact evenPlaces_eq_filter_iff
  · intro alternates
    exact (countP_isComma_of_alternate alternates).symm
  · exact misread_of_not_alternate

namespace Node

/-- `(a /* first */, b,)`, a list with a comment and a comma at its end. -/
def commentedList : Node :=
  branch "formal_parameters" "(a /* first */, b,)" [.parameters] [
    token "(", leaf "required_parameter" "a" [], leaf "comment" "/* first */" [], token ",",
    leaf "required_parameter" "b" [], token ",", token ")"]

theorem separatedView_lossless_commentedList :
    ∃ view, commentedList.separatedView parentheses = pure view ∧
      view.payloads = [leaf "required_parameter" "a" [], leaf "required_parameter" "b" []] ∧
      view.separatorCount = 2 := by
  have legible : ∀ e ∈ commentedList.entries parentheses, e.isLegible = true := by decide
  have alternates : alternate (commentedList.entries parentheses) = true := by decide
  obtain ⟨view, viewed, payloads, separators, -⟩ := separatedView_lossless commentedList parentheses
  rw [reachAll_of_isLegible legible, pure_bind] at viewed
  exact ⟨view, viewed, payloads.2 alternates, separators alternates⟩

end Node

end KotlinStubs
