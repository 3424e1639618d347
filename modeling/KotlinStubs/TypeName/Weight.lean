import KotlinStubs.TypeName.Expand

/-!
# Weights of type nodes

The parameters and the result of a function type may be one child with both roles, so an expansion
can hold the same subtree twice and sizes do not bound it.  The weight of a node counts its children
three times.

* `weight_expand`: a composite expansion, its combination counted once, weighs less than its node.
-/

namespace KotlinStubs

namespace Node

mutual

/-- The weight of a node: three, and three times the weight of its children. -/
def weight : Node → Nat
  | ⟨_, _, _, _, _, _, _, _, children⟩ => 3 + 3 * weightAll children

/-- The weight of several nodes together. -/
def weightAll : List Node → Nat
  | [] => 0
  | n :: ns => n.weight + weightAll ns

end

theorem weight_eq (n : Node) : n.weight = 3 + 3 * weightAll n.children := by
  cases n
  simp [weight]

theorem weightAll_le_of_sublist {ms ns : List Node} (h : ms.Sublist ns) :
    weightAll ms ≤ weightAll ns := by
  induction h with
  | slnil => exact Nat.le_refl _
  | cons n _ ih => simp only [weightAll]; omega
  | cons_cons n _ ih => simp only [weightAll]; omega

theorem weight_le_weightAll_of_mem {n : Node} {ns : List Node} (h : n ∈ ns) :
    n.weight ≤ weightAll ns := by
  have := weightAll_le_of_sublist (List.singleton_sublist.2 h)
  simpa [weightAll] using this

theorem weight_lt_of_mem_children {n c : Node} (h : c ∈ n.children) : c.weight < n.weight := by
  have := weight_le_weightAll_of_mem h
  rw [n.weight_eq]
  omega

theorem weight_lt_of_declaredType? {n d : Node} (h : n.declaredType? = some d) :
    d.weight < n.weight := by
  unfold declaredType? at h
  split at h
  · cases h
  · next a ha =>
    have hlt := weight_lt_of_mem_children (mem_children_of_child? ha)
    split at h
    · exact Nat.lt_trans (weight_lt_of_mem_children (mem_children_of_firstNamed? h)) hlt
    · cases h
      exact hlt

end Node

/-- The weight of an operand. -/
def Operand.weight : Operand → Nat
  | .node n => n.weight
  | .name _ => 1

/-- The weight of several operands together. -/
def Operand.weightAll : List Operand → Nat
  | [] => 0
  | o :: os => o.weight + weightAll os

namespace Operand

theorem weightAll_append (os ps : List Operand) :
    weightAll (os ++ ps) = weightAll os + weightAll ps := by
  induction os with
  | nil => simp [weightAll]
  | cons o os ih =>
    simp only [List.cons_append, weightAll, ih]
    omega

theorem weightAll_map_node (ns : List Node) : weightAll (ns.map .node) = Node.weightAll ns := by
  induction ns with
  | nil => rfl
  | cons n ns ih => simp only [List.map_cons, weightAll, Node.weightAll, ih, weight]

theorem weight_parameterOperand_le (p : Node) : p.parameterOperand.weight ≤ p.weight := by
  unfold Node.parameterOperand
  split
  · next d hd => exact Nat.le_of_lt (Node.weight_lt_of_declaredType? hd)
  · rw [p.weight_eq]
    simp only [weight]
    omega

theorem weightAll_map_parameterOperand_le (ps : List Node) :
    weightAll (ps.map Node.parameterOperand) ≤ Node.weightAll ps := by
  induction ps with
  | nil => simp [weightAll]
  | cons p ps ih =>
    have := weight_parameterOperand_le p
    simp only [List.map_cons, weightAll, Node.weightAll]
    omega

theorem weightAll_parameterOperands_le (n : Node) :
    weightAll n.parameterOperands ≤ Node.weightAll n.children := by
  unfold Node.parameterOperands
  split
  · next ps hps =>
    have h₁ := weightAll_map_parameterOperand_le (ps.payloads parentheses)
    have h₂ := Node.weightAll_le_of_sublist (ps.payloads_sublist parentheses)
    have h₃ := Node.weight_le_weightAll_of_mem (Node.mem_children_of_child? hps)
    have h₄ := ps.weight_eq
    omega
  · simp [weightAll]

theorem weight_resultOperand_le (n : Node) :
    n.resultOperand.weight ≤ Node.weightAll n.children + 1 := by
  unfold Node.resultOperand
  split
  · next r hr =>
    have := Node.weight_le_weightAll_of_mem (Node.mem_children_of_child? hr)
    simp only [weight]
    omega
  · simp [weight]

end Operand

namespace Node

open Translation

/-- The operands of a type node weigh less than the node, even where a child makes two of them. -/
theorem weight_expand {n : Node} {t : Template} {os : List Operand}
    (h : n.expand.result = .ok (.compound t os)) : Operand.weightAll os + 1 < n.weight := by
  rw [n.weight_eq]
  unfold expand at h
  split at h
  case h_1 | h_2 | h_3 | h_4 | h_5 | h_6 | h_7 => cases h
  case h_8 =>
    obtain ⟨_, _, h⟩ := result_bind_eq_ok.1 h
    split at h
    · next e he =>
      have := weight_le_weightAll_of_mem (mem_children_of_firstNamed? he)
      cases h
      simp only [Operand.weightAll, Operand.weight]
      omega
    · simp at h
  case h_9 =>
    obtain ⟨_, _, h⟩ := result_bind_eq_ok.1 h
    obtain ⟨_, _, h⟩ := result_bind_eq_ok.1 h
    split at h
    · next name args hn ha =>
      obtain ⟨_, _, h⟩ := result_bind_eq_ok.1 h
      obtain ⟨_, _, h⟩ := result_bind_eq_ok.1 h
      have h₁ := weightAll_le_of_sublist (args.payloads_sublist angles)
      have h₂ := weight_le_weightAll_of_mem (mem_children_of_child? ha)
      have h₃ := args.weight_eq
      cases h
      rw [Operand.weightAll_map_node]
      omega
    · simp at h
  case h_10 =>
    obtain ⟨_, _, h⟩ := result_bind_eq_ok.1 h
    obtain ⟨_, _, h⟩ := result_bind_eq_ok.1 h
    obtain ⟨_, _, h⟩ := result_bind_eq_ok.1 h
    have h₁ := Operand.weightAll_parameterOperands_le n
    have h₂ := Operand.weight_resultOperand_le n
    cases h
    rw [Operand.weightAll_append]
    simp only [Operand.weightAll]
    omega
  case h_11 => simp at h
  case h_12 => simp at h

end Node

end KotlinStubs
