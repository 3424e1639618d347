import KotlinStubs.Proofs.Varied

/-!
# Trees without one node

`n.without p` is the tree without the node at position `p` and all that is in it.  Of the nodes on
the way there, each keeps its type name, line, text and roles; only the last loses a child.

* `child?_without`, `firstNamed?_without`: what an accessor selects is the same, or the node on the
  way without the node that is taken out.
* `FirstAt.without`, `IsNamespace.without`: what is on the way stays on it.
* `legible_without`: what is left can be reached.
-/

namespace KotlinStubs

open Translation

namespace Node

/-- The tree without the node at a position and all that is in it.  The root stays. -/
def without (n : Node) : List Nat → Node
  | [] => n
  | [i] => { n with children := n.children.eraseIdx i }
  | i :: j :: p => { n with children := n.children.modify i fun c => c.without (j :: p) }

theorem sameRow_without (n : Node) (p : List Nat) : n.SameRow (n.without p) := by
  rcases p with _ | ⟨i, _ | ⟨j, p⟩⟩ <;> exact ⟨rfl, rfl, rfl, rfl, rfl⟩

theorem without_type (n : Node) (p : List Nat) : (n.without p).type = n.type :=
  (n.sameRow_without p).type

theorem without_text (n : Node) (p : List Nat) : (n.without p).text = n.text :=
  (n.sameRow_without p).text

theorem without_line (n : Node) (p : List Nat) : (n.without p).line = n.line :=
  (n.sameRow_without p).line

theorem without_isNamedPart (n : Node) (p : List Nat) :
    (n.without p).isNamedPart = n.isNamedPart :=
  (n.sameRow_without p).isNamedPart

theorem without_hasRole (f : Field) (n : Node) (p : List Nat) :
    hasRole f (n.without p) = hasRole f n := by
  unfold hasRole
  rw [(n.sameRow_without p).fields]

theorem isLegible_without (n : Node) (p : List Nat) : (n.without p).isLegible = n.isLegible :=
  (n.sameRow_without p).isLegible

theorem reach_without (n : Node) (p : List Nat) : reach (n.without p) = reach n :=
  (n.sameRow_without p).reach

/-! ## Children -/

variable {n c : Node} {i : Nat} {p : List Nat}

/-- Below the root, taking out a node changes the child on the way to it and no other. -/
theorem without_children (h : n.children[i]? = some c) (deep : p ≠ []) :
    (n.without (i :: p)).children =
      n.children.take i ++ c.without p :: n.children.drop (i + 1) := by
  rcases p with _ | ⟨j, p⟩
  · exact absurd rfl deep
  · obtain ⟨lt, rfl⟩ := List.getElem?_eq_some_iff.1 h
    exact List.modify_eq_take_cons_drop lt

theorem without_namedParts (h : n.children[i]? = some c) (part : c.isNamedPart = true)
    (deep : p ≠ []) :
    (n.without (i :: p)).namedParts = (n.children.take i).filter isNamedPart ++
      c.without p :: (n.children.drop (i + 1)).filter isNamedPart := by
  rw [namedParts_eq, without_children h deep, List.filter_append,
    List.filter_cons_of_pos ((c.without_isNamedPart p).trans part)]

theorem without_namedParts_self (i : Nat) :
    (n.without [i]).namedParts = (n.children.take i).filter isNamedPart ++
      (n.children.drop (i + 1)).filter isNamedPart := by
  rw [namedParts_eq, ← List.filter_append, ← List.eraseIdx_eq_take_drop_succ]
  rfl

/-- What is left of the named parts can be reached if all of them could. -/
theorem legible_without (h : ∀ d ∈ n.namedParts, d.isLegible = true) (p : List Nat) :
    ∀ d ∈ (n.without p).namedParts, d.isLegible = true := by
  rcases p with _ | ⟨i, _ | ⟨j, p⟩⟩
  · exact h
  · intro d hd
    rw [namedParts_eq] at h hd
    exact h d ((List.eraseIdx_sublist n.children i).filter _ |>.subset hd)
  · intro d hd
    rw [namedParts_eq] at h hd
    obtain ⟨hd, part⟩ := List.mem_filter.1 hd
    obtain ⟨k, hk⟩ := List.mem_iff_getElem?.1 hd
    rw [show (n.without (i :: j :: p)).children =
      n.children.modify i fun c => c.without (j :: p) from rfl, List.getElem?_modify] at hk
    obtain ⟨c, hc, rfl⟩ := Option.map_eq_some_iff.1 hk
    have legible := fun part => h c (List.mem_filter.2 ⟨List.mem_of_getElem? hc, part⟩)
    by_cases at_i : i = k
    · rw [if_pos at_i] at part ⊢
      rw [without_isNamedPart] at part
      rw [isLegible_without]
      exact legible part
    · rw [if_neg at_i] at part ⊢
      exact legible part

/-- Below the root, the child on the way is all that varies. -/
theorem varies_without (h : n.children[i]? = some c) (deep : p ≠ []) :
    Varies (fun d d' => d = c ∧ d' = c.without p) n (n.without (i :: p)) := by
  refine ⟨n.sameRow_without _, ?_⟩
  rw [without_children h deep]
  exact alters_of_getElem? h (c.sameRow_without p) ⟨rfl, rfl⟩

theorem child?_without (h : n.children[i]? = some c) (deep : p ≠ []) (f : Field) :
    (n.without (i :: p)).child? f = n.child? f ∨
      (n.child? f = some c ∧ (n.without (i :: p)).child? f = some (c.without p)) := by
  rcases (varies_without h deep).child? f with same | ⟨_, _, old, new, -, rfl, rfl⟩
  · exact Or.inl same
  · exact Or.inr ⟨old, new⟩

theorem firstNamed?_without (h : n.children[i]? = some c) (deep : p ≠ []) :
    (n.without (i :: p)).firstNamed? = n.firstNamed? ∨
      (n.firstNamed? = some c ∧ (n.without (i :: p)).firstNamed? = some (c.without p)) := by
  rcases (varies_without h deep).firstNamed? with same | ⟨_, _, old, new, -, rfl, rfl⟩
  · exact Or.inl same
  · exact Or.inr ⟨old, new⟩

/-- Below the root, the first child that satisfies `P` stays where it is. -/
theorem FirstAt.without {P : Node → Bool} (h : n.FirstAt P i c) (deep : p ≠ [])
    (same : P (c.without p) = P c) : (n.without (i :: p)).FirstAt P i (c.without p) := by
  obtain ⟨lt, here, earlier⟩ := List.findIdx?_eq_some_iff_getElem.1 h.1
  have before : (n.children.take i).findIdx? P = none := by
    refine List.findIdx?_eq_none_iff.2 fun d hd => ?_
    obtain ⟨j, hj, rfl⟩ := List.mem_take_iff_getElem.1 hd
    exact Bool.eq_false_iff.2 (earlier j (by omega))
  have length : (n.children.take i).length = i := List.length_take_of_le (by omega)
  have found : P c = true := List.find?_some h.find?
  constructor
  · rw [without_children h.2 deep, List.findIdx?_append, before, List.findIdx?_cons,
      if_pos (same.trans found), length]
    simp
  · rw [without_children h.2 deep, List.getElem?_append_right (by omega), length, Nat.sub_self]
    rfl

theorem FirstAt.child?_without {f : Field} (h : n.FirstAt (hasRole f) i c) (deep : p ≠ []) :
    (n.without (i :: p)).child? f = some (c.without p) :=
  (h.without deep (without_hasRole f c p)).child?

theorem FirstAt.firstNamed?_without (h : n.FirstAt isNamedPart i c) (deep : p ≠ []) :
    (n.without (i :: p)).firstNamed? = some (c.without p) :=
  (h.without deep (c.without_isNamedPart p)).firstNamed?

theorem reach?_child?_without (h : n.children[i]? = some c) (deep : p ≠ []) (f : Field) :
    reach? ((n.without (i :: p)).child? f) = reach? (n.child? f) :=
  (varies_without h deep).reach?_child? f

theorem reach?_firstNamed?_without (h : n.children[i]? = some c) (deep : p ≠ []) :
    reach? (n.without (i :: p)).firstNamed? = reach? n.firstNamed? :=
  (varies_without h deep).reach?_firstNamed?

/-- A namespace stays one when something is taken out of its body. -/
theorem IsNamespace.without {name : String} {body : Node}
    (h : n.IsNamespace name i body) (deep : p ≠ []) :
    (n.without (i :: p)).IsNamespace name i (body.without p) where
  form := (congrArg StatementForm.ofType (n.without_type _)).trans h.form
  named := by
    obtain ⟨head, named, kind, text⟩ := h.named
    rcases child?_without h.body.2 deep .name with keep | ⟨old, new⟩
    · exact ⟨head, keep.trans named, kind, text⟩
    · cases old.symm.trans named
      have row := body.sameRow_without p
      exact ⟨_, new, fun e => kind (row.kind.symm.trans e), row.text.trans text⟩
  body := h.body.without deep (without_hasRole .body body p)

end Node

end KotlinStubs
