import KotlinStubs.Syntax.Reading
import KotlinStubs.Text.Quoted

/-!
# Views of nodes

What can be asked of a node from outside.  Asking reaches every node that the answer names.
-/

namespace KotlinStubs

/-- What a node shows of itself and of its children. -/
structure NodeView where
  kind : Kind
  type : String
  line : Nat
  isToken : Bool
  firstNamed? : Option Node
  parts : List Node
  namedParts : List Node

/-- A separated list. -/
structure SeparatedView where
  payloads : List Node
  payloadCount : Nat
  separatorCount : Nat

/-- What the elements of a list are compared by. -/
inductive Criterion where
  | type
  | kind
  | text
  deriving DecidableEq

/-- The criterion with a given name. -/
def Criterion.ofName? : String → Option Criterion
  | "type" => some type
  | "kind" => some kind
  | "text" => some text
  | _ => none

/-- The outcome of a search: whether it found something, the nodes that it looked at, and the length
of the whole list. -/
structure SearchView where
  found : Bool
  visited : List Node
  size : Nat

namespace Node

open Translation

/-- Shows a node. -/
def view (n : Node) : Translation NodeView := do
  reach? n.firstNamed?
  reachAll n.parts
  pure {
    kind := n.kind
    type := n.type
    line := n.line
    isToken := n.isToken
    firstNamed? := n.firstNamed?
    parts := n.parts
    namedParts := n.namedParts }

/-- The kind, the type name and the text of a node, for display. -/
def display (n : Node) : Translation String := do
  let text ← read n
  pure ("SyntaxNode(" ++ n.kind.name ++ ", " ++ Text.display n.type ++ ", " ++ Text.display text ++
    ")")

/-- The child with a role. -/
def childView (n : Node) (f : Field) : Translation (Option Node) := do
  reach? (n.child? f)
  pure (n.child? f)

/-- The type that a node declares. -/
def declaredTypeView (n : Node) : Translation (Option Node) := do
  reachDeclaredType n
  pure n.declaredType?

/-- The separated list between delimiters. -/
def separatedView (n : Node) (delimiters : List String) : Translation SeparatedView := do
  reachAll (n.entries delimiters)
  pure {
    payloads := n.payloads delimiters
    payloadCount := (n.payloads delimiters).length
    separatorCount := n.separatorCount delimiters }

/-- What a node is compared by. -/
def aspect (criterion : Criterion) (n : Node) : Translation String :=
  match criterion with
  | .type => pure n.type
  | .kind => pure n.kind.name
  | .text => read n

/-- Looks through nodes up to the first that fits; gives whether one does and the nodes looked at. -/
def searchIn (criterion : Criterion) (target : String) : List Node → Translation (Bool × List Node)
  | [] => pure (false, [])
  | n :: ns => do
    if (← n.aspect criterion) = target then
      pure (true, [n])
    else do
      let (found, visited) ← searchIn criterion target ns
      pure (found, n :: visited)

/-- Searches the parts of a node, or only the named ones. -/
def search (n : Node) (criterion : Criterion) (named : Bool) (target : String) :
    Translation SearchView := do
  let list := if named then n.namedParts else n.parts
  reachAll list
  let (found, visited) ← searchIn criterion target list
  pure { found := found, visited := visited, size := list.length }

end Node

end KotlinStubs
