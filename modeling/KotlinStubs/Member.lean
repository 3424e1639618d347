import KotlinStubs.Parameter

/-!
# Members of interfaces and classes

A member becomes a method, a property, or nothing but an event that tells why.  An optional method
`m?(): R` may be absent, so it becomes a nullable property of function type.
-/

namespace KotlinStubs

/-- The type of an argument as it stands in a function type. -/
def FunParam.lambdaText (p : FunParam) : String :=
  if p.type.isVararg then
    arrayName ++ "<" ++ p.type.typeName ++ ">"
  else if p.type.isNullable then
    if p.type.isLambda then "(" ++ p.type.typeName ++ ")?" else p.type.typeName ++ "?"
  else
    p.type.typeName

/-- The function type with a given signature. -/
def CallSignature.lambdaText (s : CallSignature) : String :=
  "(" ++ Text.join ", " (s.params.map FunParam.lambdaText) ++ ") -> " ++ s.returnType.typeName

namespace Node

open Translation

/-- The type that a variable or property is declared with. -/
def typeUse (n : Node) : Translation TypeUse := do
  reachDeclaredType n
  match n.declaredType? with
  | none => pure { typeName := anyName }
  | some type => do
    let name ← type.typeName
    pure { typeName := name, isLambda := type.kind == .functionType }

/-- A remark on the type parameters that an optional method loses, if it has any. -/
def noteDropped (name : String) (line : Nat) (signature : CallSignature) : Translation Unit :=
  if (signature.typeParams.getD []).isEmpty then
    pure ()
  else
    note (.droppedTypeParameters name line)

/-- The declaration of a method with a given name. -/
def method (σ : Settings) (n name : Node) : Translation Declaration := do
  let signature ← n.callSignature σ
  let escaped ← name.kotlinName σ
  reachAll n.parts
  if n.hasPart "?" then
    noteDropped escaped n.line signature
    pure {
      kind := .property
      name := escaped
      line := n.line
      type := some { typeName := signature.lambdaText, isNullable := true, isLambda := true }
      isVar := false }
  else
    pure { kind := .method, name := escaped, line := n.line, signature := some signature }

/-- The declaration of a property with a given name. -/
def property (σ : Settings) (n name : Node) : Translation Declaration := do
  reachAll n.parts
  let type ← n.typeUse
  let escaped ← name.kotlinName σ
  pure {
    kind := .property
    name := escaped
    line := n.line
    type := some (if n.hasPart "?" then { type with isNullable := true } else type)
    isVar := !n.hasPart "readonly" }

/-- What a member node declares. -/
inductive MemberForm where
  | method
  | property
  | other
  deriving DecidableEq

/-- The members of interfaces. -/
def interfaceMemberForm : String → MemberForm
  | "method_signature" => .method
  | "property_signature" => .property
  | _ => .other

/-- The members of classes. -/
def classMemberForm : String → MemberForm
  | "method_signature" => .method
  | "method_definition" => .method
  | "abstract_method_signature" => .method
  | "public_field_definition" => .property
  | _ => .other

/-- The declaration of a child of an interface body. -/
def interfaceMember (σ : Settings) (n : Node) : Translation (Option Declaration) := do
  reach? (n.child? .name)
  match n.child? .name, interfaceMemberForm n.type with
  | some name, .method => some <$> n.method σ name
  | some name, .property => some <$> n.property σ name
  | _, _ => do
    note (.untranslatedInterfaceMember n.type n.line)
    pure none

/-- Whether some of the nodes is an accessibility modifier with a given keyword.  The texts of the
modifiers are read up to the one that matches. -/
def anyModifier (keyword : String) : List Node → Translation Bool
  | [] => pure false
  | n :: ns =>
    if n.kind = .accessibilityModifier then do
      if Text.trim (← read n) = keyword then pure true else anyModifier keyword ns
    else
      anyModifier keyword ns

/-- Whether a class member is static, private or protected. -/
def isHidden (n : Node) : Translation Bool :=
  if n.hasPart "static" then
    pure true
  else do
    if (← anyModifier "private" n.parts) then pure true else anyModifier "protected" n.parts

/-- The declaration of a child of a class body that has a name. -/
def namedClassMember (σ : Settings) (n name : Node) : Translation (Option Declaration) := do
  if (← n.isHidden) then do
    note (.hiddenClassMember (← read name) n.line)
    pure none
  else
    match classMemberForm n.type with
    | .method => some <$> n.method σ name
    | .property => some <$> n.property σ name
    | .other => do
      note (.untranslatedClassMember n.type n.line)
      pure none

/-- The declaration of a child of a class body.  A constructor declares no member. -/
def classMember (σ : Settings) (n : Node) : Translation (Option Declaration) := do
  reach? (n.child? .name)
  reachAll n.parts
  match n.child? .name with
  | none => do
    note (.namelessClassMember n.type n.line)
    pure none
  | some name => do
    if (← read name) = "constructor" then do
      note (.namelessClassMember n.type n.line)
      pure none
    else
      n.namedClassMember σ name

end Node

end KotlinStubs
