import KotlinStubs.Name
import KotlinStubs.TypeName.Resolve

/-!
# Parameters and type parameters

A parameter with a rest pattern takes any number of values; it must be declared with an array type,
`T[]` or `Array<T>`, and its Kotlin type is that of one element.  A parameter marked `?` is nullable
and defaults to `null` unless it has a default of its own.
-/

namespace KotlinStubs

namespace Node

open Translation

/-- The element type of the array type `declared` of a rest parameter `p`, none for an array type
without element. -/
def restElement (p declared : Node) : Translation (Option Node) :=
  match declared.kind with
  | .arrayType => do
    reach? declared.firstNamed?
    pure declared.firstNamed?
  | .genericType => do
    reach? (declared.child? .name)
    reach? (declared.child? .typeArguments)
    match declared.child? .name with
    | none => fail (.restShape p.type p.line)
    | some name => do
      let text ← read name
      match declared.child? .typeArguments with
      | some args =>
        if text = arrayName then do
          reachAll (args.entries angles)
          match args.payloads angles with
          | [element] => pure (some element)
          | others => fail (.arrayArity others.length)
        else
          fail (.restShape p.type p.line)
      | none => fail (.restShape p.type p.line)
  | _ => fail (.restShape p.type p.line)

/-- Whether a parameter takes any number of values. -/
def isRest (p : Node) : Bool := p.hasPartOfKind .restPattern

/-- The type node that names the type of a parameter. -/
def parameterType (p : Node) : Translation (Option Node) :=
  match p.declaredType? with
  | none => pure none
  | some declared => if p.isRest then p.restElement declared else pure (some declared)

/-- The text of the default value of a parameter. -/
def parameterDefault (p : Node) : Translation (Option String) := do
  reach? (p.child? .value)
  match p.child? .value with
  | some value => return some (← read value)
  | none => pure (if p.hasPart "?" then some "null" else none)

/-- The node that names a pattern: what a rest pattern applies to, else the pattern itself. -/
def patternName (pattern : Node) : Node :=
  if pattern.kind = .restPattern then pattern.firstNamed?.getD pattern else pattern

/-- The name of a parameter.  One without pattern, as `this`, is named by its first named part or
else by its text. -/
def parameterName (σ : Settings) (p : Node) : Translation String := do
  reach? (p.child? .pattern)
  match p.child? .pattern with
  | some pattern => do
    reach pattern.patternName
    pattern.patternName.kotlinName σ
  | none => do
    reach? p.firstNamed?
    return σ.escape (← read (p.firstNamed?.getD p))

/-- The descriptor of a parameter. -/
def parameter (σ : Settings) (p : Node) : Translation FunParam := do
  reachAll p.parts
  reachDeclaredType p
  let type? ← p.parameterType
  let typeName ← typeNameOrAny type?
  let defaultValue ← p.parameterDefault
  let name ← p.parameterName σ
  pure {
    name := name
    type := {
      typeName := typeName
      isNullable := p.hasPart "?"
      isLambda := type?.any (·.kind == .functionType)
      isVararg := p.isRest }
    defaultValue := defaultValue
    isVar := p.hasPartOfKind .accessibilityModifier }

/-- The descriptors of the parameters in a parenthesised list. -/
def parameterList (σ : Settings) (list : Node) : Translation (List FunParam) := do
  reachAll (list.entries parentheses)
  (list.payloads parentheses).mapM (parameter σ)

/-- The name of a type parameter, its text if it has none. -/
def typeParameterName (p : Node) : Translation String := do
  reach? (p.child? .name)
  match p.child? .name with
  | some name => name.typeName
  | none => read p

/-- The descriptor of a type parameter. -/
def typeParameter (p : Node) : Translation TypeParam := do
  let name ← p.typeParameterName
  reach? (p.child? .constraint)
  match p.child? .constraint with
  | none => pure { name := name }
  | some constraint => do
    reach? constraint.firstNamed?
    match constraint.firstNamed? with
    | none => pure { name := name }
    | some bound => return { name := name, upperBound := some (← bound.typeName) }

/-- The descriptors of the type parameters in an angled list. -/
def typeParameterList (list : Node) : Translation (List TypeParam) := do
  reachAll (list.entries angles)
  (list.payloads angles).mapM typeParameter

/-- The type parameters of a node, none if it has no list of them. -/
def typeParameters? (n : Node) : Translation (Option (List TypeParam)) :=
  match n.child? .typeParameters with
  | some list => some <$> list.typeParameterList
  | none => pure none

/-- The parameters of a callable, none if it has no list of them. -/
def callParameters (σ : Settings) (n : Node) : Translation (List FunParam) := do
  reach? (n.child? .parameters)
  match n.child? .parameters with
  | some list => list.parameterList σ
  | none => pure []

/-- The Kotlin name of the result of a callable, `Unit` unless it says otherwise. -/
def resultTypeName (n : Node) : Translation String := do
  reach? (n.child? .returnType)
  match n.child? .returnType with
  | some clause => clause.clauseTypeName
  | none => pure unitName

/-- The signature of any node with the roles of a callable. -/
def callSignature (σ : Settings) (n : Node) : Translation CallSignature := do
  reach? (n.child? .typeParameters)
  let typeParams ← n.typeParameters?
  let params ← n.callParameters σ
  let returnName ← n.resultTypeName
  pure { params := params, typeParams := typeParams, returnType := { typeName := returnName } }

end Node

end KotlinStubs
