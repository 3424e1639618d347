import KotlinStubs.Syntax.Separated
import KotlinStubs.Translation

/-!
# Reading nodes

Text is decoded only when it is asked for, and a text that is no UTF-8 ends the translation.  The
kind of a predefined type is its keyword, so its text is asked for as soon as the node is reached.

* `reach_eq_pure_iff`: reaching a node succeeds unless it is a predefined type without text.
-/

namespace KotlinStubs

/-- Whether the kind of a node is known: only a predefined type needs its text for that. -/
def Node.isLegible (n : Node) : Bool := n.type != Node.predefinedType || n.text.isSome

namespace Translation

/-- The text of a node. -/
def read (n : Node) : Translation String :=
  match n.text with
  | some t => pure t
  | none => fail .undecodable

/-- Reaching a node establishes its kind. -/
def reach (n : Node) : Translation Unit :=
  if n.isLegible then pure () else fail .undecodable

/-- Reaches a node if there is one. -/
def reach? : Option Node → Translation Unit
  | some n => reach n
  | none => pure ()

/-- Reaches nodes one after the other. -/
def reachAll : List Node → Translation Unit
  | [] => pure ()
  | n :: ns => do
    reach n
    reachAll ns

/-- Reaches the annotation of a node and the type in it. -/
def reachDeclaredType (n : Node) : Translation Unit := do
  reach? (n.child? .type)
  reach? n.declaredType?

theorem reach_eq_pure_iff {n : Node} : reach n = pure () ↔ n.isLegible = true := by
  unfold reach
  split
  · next h => simp [h]
  · next h =>
    refine ⟨fun e => ?_, fun e => absurd e h⟩
    cases congrArg Translation.result e

theorem reach_of_isLegible {n : Node} (h : n.isLegible = true) : reach n = pure () :=
  reach_eq_pure_iff.2 h

theorem read_of_text {n : Node} {t : String} (h : n.text = some t) : read n = pure t := by
  simp [read, h]

theorem reachAll_of_isLegible {ns : List Node} (h : ∀ n ∈ ns, n.isLegible = true) :
    reachAll ns = pure () := by
  induction ns with
  | nil => rfl
  | cons n ns ih =>
    rw [reachAll, reach_of_isLegible (h n (by simp)), ih fun m hm => h m (by simp [hm])]
    rfl

end Translation

end KotlinStubs
