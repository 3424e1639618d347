import Mathlib.Data.List.Forall2
import KotlinStubs.Proofs.Reach

/-!
# Nodes with other children

Two nodes have the same row if they differ at most in what is below them.  A node varies into one of
the same row if each of its children stays or is exchanged for one of the same row, as a relation
allows (`Node.Varies`).  The row of a child is all that most of a translation looks at; what goes
further down is the accessor of a role, which selects an exchanged child only if that has the role.

* `Node.Varies.child?`, `Node.Varies.child?_eq`: what the accessor of a role selects.
* `Node.Varies.parts`, `Node.Varies.payloads`: the parts vary, and so do those selected by place.
* `Node.mapM_alters`: what stays the same for each exchanged node stays the same for a list.
-/

namespace KotlinStubs

open Translation

namespace Node

/-- Two nodes that agree in all that a translation reads of them, whatever is below them. -/
structure SameRow (n m : Node) : Prop where
  type : m.type = n.type
  text : m.text = n.text
  named : m.named = n.named
  line : m.line = n.line
  fields : m.fields = n.fields

namespace SameRow

variable {n m : Node} (h : n.SameRow m)
include h

theorem symm : m.SameRow n :=
  ⟨h.type.symm, h.text.symm, h.named.symm, h.line.symm, h.fields.symm⟩

theorem trans {k : Node} (other : m.SameRow k) : n.SameRow k :=
  ⟨other.type.trans h.type, other.text.trans h.text, other.named.trans h.named,
    other.line.trans h.line, other.fields.trans h.fields⟩

theorem kind : m.kind = n.kind := by
  unfold Node.kind
  rw [h.type, h.text]

theorem isComment : m.isComment = n.isComment := by
  unfold Node.isComment
  rw [h.type]

theorem isNamedPart : m.isNamedPart = n.isNamedPart := by
  unfold Node.isNamedPart
  rw [h.isComment, h.named]

theorem read : Translation.read m = Translation.read n := by
  unfold Translation.read
  rw [h.text]

theorem isLegible : m.isLegible = n.isLegible := by
  unfold Node.isLegible
  rw [h.type, h.text]

theorem reach : Translation.reach m = Translation.reach n := by
  unfold Translation.reach
  rw [h.isLegible]

end SameRow

theorem SameRow.refl (n : Node) : n.SameRow n := ⟨rfl, rfl, rfl, rfl, rfl⟩

/-- A node that stays or is exchanged for another of the same row. -/
def Alters (R : Node → Node → Prop) (c d : Node) : Prop := d = c ∨ (c.SameRow d ∧ R c d)

/-- A node whose children stay or are exchanged, as a relation allows. -/
structure Varies (R : Node → Node → Prop) (n m : Node) : Prop where
  row : n.SameRow m
  children : List.Forall₂ (Alters R) n.children m.children

variable {R : Node → Node → Prop} {n m c d : Node} {ns ms : List Node} {α : Type}

theorem mem_fields_of_child? {f : Field} (h : n.child? f = some c) : f ∈ c.fields := by
  have role := List.find?_some (p := fun c : Node => c.fields.contains f) h
  exact List.contains_iff_mem.1 role

theorem Alters.row (h : Alters R c d) : c.SameRow d := by
  rcases h with rfl | ⟨row, _⟩
  · exact .refl d
  · exact row

/-! ## Lists -/

theorem alters_self (ns : List Node) : List.Forall₂ (Alters R) ns ns :=
  List.forall₂_same.2 fun _ _ => Or.inl rfl

/-- The children of a node, one of them exchanged. -/
theorem alters_of_getElem? {i : Nat} (h : n.children[i]? = some c) (row : c.SameRow d)
    (exchanged : R c d) :
    List.Forall₂ (Alters R) n.children
      (n.children.take i ++ d :: n.children.drop (i + 1)) := by
  have each : List.Forall₂ (Alters R) (n.children.take i ++ c :: n.children.drop (i + 1))
      (n.children.take i ++ d :: n.children.drop (i + 1)) :=
    List.rel_append (alters_self _) (.cons (Or.inr ⟨row, exchanged⟩) (alters_self _))
  rwa [← children_eq_of_getElem? h] at each

theorem filter_alters {P : Node → Bool} (row : ∀ {c d : Node}, c.SameRow d → P d = P c)
    (h : List.Forall₂ (Alters R) ns ms) : List.Forall₂ (Alters R) (ns.filter P) (ms.filter P) := by
  refine List.rel_filter ?_ h
  intro c d alters
  exact iff_of_eq (congrArg (· = true) (row alters.row).symm)

theorem any_alters {P : Node → Bool} (row : ∀ {c d : Node}, c.SameRow d → P d = P c)
    (h : List.Forall₂ (Alters R) ns ms) : ms.any P = ns.any P := by
  induction h with
  | nil => rfl
  | cons first _ ih => rw [List.any_cons, List.any_cons, row first.row, ih]

/-- What is looked for by its row is found at the same place in both lists: the same node, or one
and what it is exchanged for. -/
theorem find?_alters {P : Node → Bool} (row : ∀ {c d : Node}, c.SameRow d → P d = P c)
    (h : List.Forall₂ (Alters R) ns ms) :
    ms.find? P = ns.find? P ∨
      ∃ c d, ns.find? P = some c ∧ ms.find? P = some d ∧ c.SameRow d ∧ R c d := by
  induction h with
  | nil => exact Or.inl rfl
  | @cons c d _ _ first _ ih =>
    have same := row first.row
    cases found : P c with
    | false =>
      rw [List.find?_cons, List.find?_cons, same, found]
      exact ih
    | true =>
      rw [List.find?_cons, List.find?_cons, same, found]
      rcases first with rfl | exchanged
      · exact Or.inl rfl
      · exact Or.inr ⟨c, d, rfl, rfl, exchanged⟩

/-- Payloads stay or are exchanged like the entries at their places. -/
theorem evenPlaces_alters (h : List.Forall₂ (Alters R) ns ms) :
    List.Forall₂ (Alters R) (evenPlaces ns) (evenPlaces ms) := by
  induction ns using evenPlaces.induct generalizing ms with
  | case1 =>
    cases h
    exact .nil
  | case2 n =>
    cases h with
    | cons first rest =>
      cases rest
      exact .cons first .nil
  | case3 n k rest ih =>
    cases h with
    | cons first rest =>
      cases rest with
      | cons second rest => exact .cons first (ih rest)

theorem reachAll_alters (h : List.Forall₂ (Alters R) ns ms) : reachAll ms = reachAll ns := by
  induction h with
  | nil => rfl
  | cons first _ ih => rw [reachAll, reachAll, first.row.reach, ih]

theorem mapM_alters {f : Node → Translation α} (same : ∀ {c d : Node}, R c d → f d = f c)
    (h : List.Forall₂ (Alters R) ns ms) : ms.mapM f = ns.mapM f := by
  induction h with
  | nil => rfl
  | @cons c d _ _ first _ ih =>
    have head : f d = f c := by
      rcases first with rfl | ⟨_, exchanged⟩
      · rfl
      · exact same exchanged
    rw [List.mapM_cons, List.mapM_cons, head, ih]

theorem anyModifier_alters (keyword : String) (h : List.Forall₂ (Alters R) ns ms) :
    anyModifier keyword ms = anyModifier keyword ns := by
  induction h with
  | nil => rfl
  | cons first _ ih => rw [anyModifier, anyModifier, first.row.kind, first.row.read, ih]

namespace Varies

variable (h : Varies R n m)
include h

/-! ## Accessors -/

theorem parts : List.Forall₂ (Alters R) n.parts m.parts :=
  filter_alters (fun row => by rw [row.isComment]) h.children

theorem namedParts : List.Forall₂ (Alters R) n.namedParts m.namedParts :=
  filter_alters (fun row => row.named) h.parts

theorem entries (ds : List String) : List.Forall₂ (Alters R) (n.entries ds) (m.entries ds) :=
  filter_alters (fun row => by rw [row.type]) h.parts

theorem payloads (ds : List String) : List.Forall₂ (Alters R) (n.payloads ds) (m.payloads ds) :=
  evenPlaces_alters (h.entries ds)

theorem hasPart (type : String) : m.hasPart type = n.hasPart type :=
  any_alters (fun row => by rw [row.type]) h.parts

theorem hasPartOfKind (k : Kind) : m.hasPartOfKind k = n.hasPartOfKind k :=
  any_alters (fun row => by rw [row.kind]) h.parts

theorem isHidden : m.isHidden = n.isHidden := by
  unfold Node.isHidden
  rw [h.hasPart, anyModifier_alters _ h.parts, anyModifier_alters _ h.parts]

theorem firstNamed? : m.firstNamed? = n.firstNamed? ∨
    ∃ c d, n.firstNamed? = some c ∧ m.firstNamed? = some d ∧ c.SameRow d ∧ R c d := by
  rw [firstNamed?_eq, firstNamed?_eq]
  exact find?_alters (fun row => row.isNamedPart) h.children

theorem reach?_firstNamed? : reach? m.firstNamed? = reach? n.firstNamed? := by
  rcases h.firstNamed? with same | ⟨c, d, old, new, row, -⟩
  · rw [same]
  · rw [old, new]
    exact row.reach

theorem child? (f : Field) : m.child? f = n.child? f ∨
    ∃ c d, n.child? f = some c ∧ m.child? f = some d ∧ c.SameRow d ∧ R c d :=
  find?_alters (fun row => by rw [row.fields]) h.children

theorem reach?_child? (f : Field) : reach? (m.child? f) = reach? (n.child? f) := by
  rcases h.child? f with same | ⟨c, d, old, new, row, -⟩
  · rw [same]
  · rw [old, new]
    exact row.reach

/-! ## Roles of none of the exchanged children -/

variable {f : Field} (roles : ∀ {c d : Node}, R c d → f ∉ c.fields)
include roles

theorem child?_eq : m.child? f = n.child? f := by
  rcases h.child? f with same | ⟨c, d, old, -, -, exchanged⟩
  · exact same
  · exact absurd (mem_fields_of_child? old) (roles exchanged)

end Varies

end Node

end KotlinStubs
