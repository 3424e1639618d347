import KotlinStubs.Proofs.Reach

/-!
# Namespaces in the order of the document

`Reached` is a namespace as a scan gets to it, `Node.Reaches` the relation between a file or body
and the namespaces reached from it.  Positions are ordered as paths from the root, so a namespace
comes before those in its body, and these before the next one.

`Enumerates S rs` says that `rs` lists what satisfies `S`, each once and in this order.

* `Node.reaches_iff`, `Node.statementReaches_iff`: what is reached, one step at a time.
* `Node.Reaches.at?`: what is reached stands at its position.
* `Enumerates.enter`: the enumeration of a namespace, from that of its body.
* `Node.enumerates_cons`: the enumeration of a list of statements, from those of its head and tail.
-/

namespace KotlinStubs

/-- A namespace that a scan gets to: its position, the names of the namespaces around it, the
outermost first, its own name, its node and its body. -/
structure Reached where
  position : List Nat
  outer : List String
  name : String
  node : Node
  body : Node

namespace Reached

/-- What is reached in the child at place `i`. -/
def below (i : Nat) (r : Reached) : Reached := { r with position := i :: r.position }

/-- What is reached inside namespaces with the names given. -/
def within (names : List String) (r : Reached) : Reached := { r with outer := names ++ r.outer }

/-- What is reached at a later place. -/
def Before (r r' : Reached) : Prop := r.position < r'.position

end Reached

namespace Node

/-- The scan of a file or body gets to a namespace, in it or in the body of one that it gets to. -/
inductive Reaches : Node → Reached → Prop
  | here {b j c q n name i body} :
      b.children[j]? = some c →
      c.isNamedPart = true →
      LeadsTo (fun _ => True) c q n →
      n.IsNamespace name i body →
      Reaches b ⟨j :: q, [], name, n, body⟩
  | inside {b j c q n name i body r} :
      b.children[j]? = some c →
      c.isNamedPart = true →
      LeadsTo (fun _ => True) c q n →
      n.IsNamespace name i body →
      Reaches body r →
      Reaches b ⟨j :: (q ++ i :: r.position), name :: r.outer, r.name, r.node, r.body⟩

end Node

/-! ## Enumerations -/

/-- The list holds what satisfies `S`, in the order of positions. -/
structure Enumerates (S : Reached → Prop) (rs : List Reached) : Prop where
  mem_iff : ∀ r, r ∈ rs ↔ S r
  sorted : rs.Pairwise Reached.Before

namespace Enumerates

variable {S S' T : Reached → Prop} {rs rs' : List Reached}

theorem congr (h : Enumerates S rs) (same : ∀ r, S' r ↔ S r) : Enumerates S' rs :=
  ⟨fun r => (h.mem_iff r).trans (same r).symm, h.sorted⟩

theorem nil (none : ∀ r, ¬ S r) : Enumerates S [] :=
  ⟨fun r => ⟨fun hr => absurd hr List.not_mem_nil, fun hr => absurd hr (none r)⟩, .nil⟩

theorem append (h : Enumerates S rs) (h' : Enumerates S' rs')
    (before : ∀ r r', S r → S' r' → r.Before r') :
    Enumerates (fun r => S r ∨ S' r) (rs ++ rs') := by
  constructor
  · intro r
    rw [List.mem_append, h.mem_iff, h'.mem_iff]
  · refine List.pairwise_append.2 ⟨h.sorted, h'.sorted, ?_⟩
    intro r hr r' hr'
    exact before r r' ((h.mem_iff r).1 hr) ((h'.mem_iff r').1 hr')

/-- A change of what is reached that keeps the order. -/
theorem map (h : Enumerates S rs) (f : Reached → Reached)
    (keeps : ∀ r r', r.Before r' → (f r).Before (f r')) :
    Enumerates (fun r => ∃ r', S r' ∧ r = f r') (rs.map f) := by
  constructor
  · intro r
    rw [List.mem_map]
    constructor
    · rintro ⟨r', hr', rfl⟩
      exact ⟨r', (h.mem_iff r').1 hr', rfl⟩
    · rintro ⟨r', hr', rfl⟩
      exact ⟨r', (h.mem_iff r').2 hr', rfl⟩
  · exact h.sorted.map f keeps

theorem below (h : Enumerates S rs) (i : Nat) :
    Enumerates (fun r => ∃ r', S r' ∧ r = r'.below i) (rs.map (Reached.below i)) :=
  h.map _ fun _ _ before => List.cons_lt_cons_iff.2 (.inr ⟨rfl, before⟩)

/-- A namespace comes before what is reached in its body. -/
theorem enter (h : Enumerates S rs) (name : String) (node body : Node) (i : Nat) :
    Enumerates
      (fun r => r = ⟨[], [], name, node, body⟩ ∨ ∃ r', S r' ∧ r = (r'.within [name]).below i)
      (⟨[], [], name, node, body⟩ :: rs.map fun r => (r.within [name]).below i) := by
  have inner := h.map (fun r => (r.within [name]).below i) fun _ _ before =>
    List.cons_lt_cons_iff.2 (.inr ⟨rfl, before⟩)
  constructor
  · intro r
    rw [List.mem_cons, inner.mem_iff]
  · refine .cons ?_ inner.sorted
    intro r hr
    obtain ⟨r', -, rfl⟩ := List.mem_map.1 hr
    exact List.nil_lt_cons i r'.position

end Enumerates

namespace Node

/-! ## What statements reach -/

/-- The scan of a statement gets to a namespace. -/
def StatementReaches (n : Node) (r : Reached) : Prop :=
  ∃ q m name i body, LeadsTo (fun _ => True) n q m ∧ m.IsNamespace name i body ∧
    (r = ⟨q, [], name, m, body⟩ ∨
      ∃ r', body.Reaches r' ∧
        r = ⟨q ++ i :: r'.position, name :: r'.outer, r'.name, r'.node, r'.body⟩)

/-- Among the children from place `k` on, the scan of one gets to a namespace. -/
def ChildReaches (k : Nat) (cs : List Node) (r : Reached) : Prop :=
  ∃ (j : Nat) (c : Node) (r' : Reached), cs[j]? = some c ∧ c.isNamedPart = true ∧
    c.StatementReaches r' ∧ r = r'.below (k + j)

/-- A body reaches what its children reach, at any depth. -/
theorem reaches_iff (b : Node) (r : Reached) : b.Reaches r ↔ ChildReaches 0 b.children r := by
  constructor
  · intro h
    cases h with
    | @here _ j c q n name i body at_j part way inner =>
      refine ⟨j, c, ⟨q, [], name, n, body⟩, at_j, part, ?_, ?_⟩
      · exact ⟨q, n, name, i, body, way, inner, .inl rfl⟩
      · rw [Reached.below, Nat.zero_add]
    | @inside _ j c q n name i body r at_j part way inner below =>
      refine ⟨j, c, ⟨q ++ i :: r.position, name :: r.outer, r.name, r.node, r.body⟩, at_j, part,
        ?_, ?_⟩
      · exact ⟨q, n, name, i, body, way, inner, .inr ⟨r, below, rfl⟩⟩
      · rw [Reached.below, Nat.zero_add]
  · rintro ⟨j, c, r', at_j, part, ⟨q, n, name, i, body, way, inner, found⟩, rfl⟩
    rw [Nat.zero_add]
    rcases found with rfl | ⟨r, below, rfl⟩
    · exact .here at_j part way inner
    · exact .inside at_j part way inner below

/-- A statement reaches itself if it is a namespace, what its body reaches, and what the statement
that it wraps reaches. -/
theorem statementReaches_iff (n : Node) (r : Reached) :
    n.StatementReaches r ↔
      (∃ name i body, n.IsNamespace name i body ∧ (r = ⟨[], [], name, n, body⟩ ∨
        ∃ r', body.Reaches r' ∧ r = (r'.within [name]).below i)) ∨
      ∃ i c r', n.Wraps i c ∧ c.StatementReaches r' ∧ r = r'.below i := by
  constructor
  · rintro ⟨q, m, name, k, body, way, inner, found⟩
    cases way with
    | here => exact .inl ⟨name, k, body, inner, found⟩
    | @inside _ i c q m wraps _ way =>
      rcases found with rfl | ⟨r', reached, rfl⟩
      · exact .inr ⟨i, c, ⟨q, [], name, m, body⟩, wraps,
          ⟨q, m, name, k, body, way, inner, .inl rfl⟩, rfl⟩
      · exact .inr ⟨i, c, ⟨q ++ k :: r'.position, name :: r'.outer, r'.name, r'.node, r'.body⟩,
          wraps, ⟨q, m, name, k, body, way, inner, .inr ⟨r', reached, rfl⟩⟩, rfl⟩
  · rintro (⟨name, k, body, inner, found⟩ | ⟨i, c, r', wraps, reached, rfl⟩)
    · exact ⟨[], n, name, k, body, .here, inner, found⟩
    · obtain ⟨q, m, name, k, body, way, inner, found⟩ := reached
      have way' : LeadsTo (fun _ => True) n (i :: q) m :=
        .inside wraps (fun _ _ _ _ => trivial) way
      refine ⟨i :: q, m, name, k, body, way', inner, ?_⟩
      rcases found with rfl | ⟨r, reached, rfl⟩
      · exact .inl rfl
      · exact .inr ⟨r, reached, rfl⟩

section

variable {n c : Node} {i : Nat}

/-- A statement that is no namespace reaches what the statements that it wraps reach. -/
theorem statementReaches_iff_wraps {r : Reached}
    (form : StatementForm.ofType n.type ≠ .namespaceBlock) :
    n.StatementReaches r ↔ ∃ i c r', n.Wraps i c ∧ c.StatementReaches r' ∧ r = r'.below i := by
  rw [statementReaches_iff]
  constructor
  · rintro (⟨name, i, body, inner, -⟩ | wrapped)
    · exact absurd inner.form form
    · exact wrapped
  · exact .inr

/-- A namespace reaches itself and what its body reaches. -/
theorem IsNamespace.statementReaches_iff {name : String} {body : Node} {r : Reached}
    (h : n.IsNamespace name i body) :
    n.StatementReaches r ↔ r = ⟨[], [], name, n, body⟩ ∨
      ∃ r', body.Reaches r' ∧ r = (r'.within [name]).below i := by
  rw [Node.statementReaches_iff]
  constructor
  · rintro (⟨name', i', body', h', reached⟩ | ⟨j, c, r', wraps, -⟩)
    · obtain ⟨rfl, rfl, rfl⟩ := h.unique h'
      exact reached
    · exact absurd h.form wraps.form_ne_namespaceBlock
  · intro reached
    exact .inl ⟨name, i, body, h, reached⟩

end

/-- What is reached stands at its position. -/
theorem Reaches.at? {b : Node} {r : Reached} (h : b.Reaches r) :
    b.at? r.position = some r.node := by
  induction h with
  | here at_j _ way _ => rw [at?_cons at_j, way.at?]
  | inside at_j _ way inner _ ih =>
    rw [at?_cons at_j, at?_append, way.at?, Option.bind_some, at?_cons inner.body.2, ih]

/-- What is reached is a namespace in the tree. -/
theorem Reaches.node_mem {b : Node} {r : Reached} (h : b.Reaches r) :
    r.node ∈ b.preorder ∧ ∃ i, r.node.IsNamespace r.name i r.body := by
  induction h with
  | @here b j c q n name i body at_j part way inner =>
    have child : c ∈ b.children := List.mem_of_getElem? at_j
    exact ⟨mem_preorder_of_child child way.mem_preorder, i, inner⟩
  | @inside b j c q n name i body r at_j part way inner _ ih =>
    have child : c ∈ b.children := List.mem_of_getElem? at_j
    have inBody : r.node ∈ n.preorder :=
      mem_preorder_of_child (List.mem_of_getElem? inner.body.2) ih.1
    exact ⟨mem_preorder_of_child child (way.preorder_subset inBody), ih.2⟩

/-! ## Lists of statements -/

/-- A list of children reaches what its first one does, if it is scanned, and what the others do. -/
theorem childReaches_cons (k : Nat) (c : Node) (cs : List Node) (r : Reached) :
    ChildReaches k (c :: cs) r ↔
      (c.isNamedPart = true ∧ ∃ r', c.StatementReaches r' ∧ r = r'.below k) ∨
        ChildReaches (k + 1) cs r := by
  constructor
  · rintro ⟨j, d, r', at_j, part, reached, rfl⟩
    cases j with
    | zero =>
      cases at_j
      exact .inl ⟨part, r', reached, rfl⟩
    | succ j =>
      refine .inr ⟨j, d, r', at_j, part, reached, ?_⟩
      rw [Nat.add_assoc, Nat.add_comm 1 j]
  · rintro (⟨part, r', reached, rfl⟩ | ⟨j, d, r', at_j, part, reached, rfl⟩)
    · exact ⟨0, c, r', rfl, part, reached, rfl⟩
    · refine ⟨j + 1, d, r', at_j, part, reached, ?_⟩
      rw [Nat.add_assoc, Nat.add_comm 1 j]

theorem not_childReaches_nil (k : Nat) (r : Reached) : ¬ ChildReaches k [] r := by
  rintro ⟨j, c, r', at_j, -⟩
  cases at_j

/-- What the first child reaches comes before what the later ones reach. -/
theorem enumerates_cons {k : Nat} {c : Node} {cs : List Node} {rs rs' : List Reached}
    (first : Enumerates c.StatementReaches rs) (others : Enumerates (ChildReaches (k + 1) cs) rs')
    (part : c.isNamedPart = true) :
    Enumerates (ChildReaches k (c :: cs)) (rs.map (Reached.below k) ++ rs') := by
  have all := (first.below k).append others ?_
  · refine all.congr fun r => ?_
    rw [childReaches_cons]
    simp only [part, true_and]
  · rintro _ _ ⟨r, -, rfl⟩ ⟨j, d, r', -, -, -, rfl⟩
    have later : k < k + 1 + j := by omega
    exact List.cons_lt_cons_iff.2 (.inl later)

theorem enumerates_cons_other {k : Nat} {c : Node} {cs : List Node} {rs' : List Reached}
    (others : Enumerates (ChildReaches (k + 1) cs) rs') (other : c.isNamedPart = false) :
    Enumerates (ChildReaches k (c :: cs)) rs' := by
  refine others.congr fun r => ?_
  rw [childReaches_cons]
  simp only [other, Bool.false_eq_true, false_and, false_or]

end Node

end KotlinStubs
