import KotlinStubs.Member

/-!
# Scan of statements

A file and each namespace body are scanned statement by statement.  A statement that holds something
without counterpart in Kotlin is rejected as a whole and the scan goes on with the next one.  Nested
namespaces are listed after the one that holds them, under their qualified names.

* `translate`: the declarations of a file.
-/

namespace KotlinStubs

/-- Where a statement stands: its file and the dotted name of the enclosing namespace. -/
structure Scope where
  path : String
  qualifier : Option String := none

/-- The name of a namespace in a scope.  An empty qualifier qualifies nothing. -/
def Scope.qualify (scope : Scope) (name : String) : String :=
  match scope.qualifier with
  | some q => if q.isEmpty then name else q ++ "." ++ name
  | none => name

/-- The forms of statements that declare something, and of those that wrap another statement. -/
inductive StatementForm where
  | exported
  | ambient
  | expression
  | function
  | declarators
  | interfaceBlock
  | classBlock
  | namespaceBlock
  | other
  deriving DecidableEq

/-- The form of a statement, by its type name. -/
def StatementForm.ofType : String → StatementForm
  | "export_statement" => exported
  | "ambient_declaration" => ambient
  | "expression_statement" => expression
  | "function_signature" => function
  | "function_declaration" => function
  | "lexical_declaration" => declarators
  | "variable_declaration" => declarators
  | "interface_declaration" => interfaceBlock
  | "class_declaration" => classBlock
  | "abstract_class_declaration" => classBlock
  | "internal_module" => namespaceBlock
  | "module" => namespaceBlock
  | _ => other

theorem StatementForm.ofType_eq_ambient {type : String} :
    StatementForm.ofType type = ambient ↔ type = "ambient_declaration" := by
  constructor
  · intro form
    unfold ofType at form
    split at form <;> first | rfl | cases form
  · rintro rfl
    rfl

theorem StatementForm.ofType_eq_declarators {type : String} :
    StatementForm.ofType type = declarators ↔
      type = "lexical_declaration" ∨ type = "variable_declaration" := by
  constructor
  · intro form
    unfold ofType at form
    split at form <;> first | exact Or.inl rfl | exact Or.inr rfl | cases form
  · rintro (rfl | rfl) <;> rfl

/-- Whether a statement wraps another one. -/
def StatementForm.isWrapper : StatementForm → Bool
  | exported | ambient | expression => true
  | _ => false

namespace Node

open Translation

/-- The longest text of a node that an event quotes. -/
def quotedLength : Nat := 200

/-- The declaration of a function. -/
def functionStatement (σ : Settings) (n : Node) : Translation (List Declaration) := do
  reach? (n.child? .name)
  match n.child? .name with
  | none => pure []
  | some name => do
    let escaped ← name.kotlinName σ
    let signature ← n.callSignature σ
    pure [{ kind := .function, name := escaped, line := n.line, signature := some signature }]

/-- The declaration of a variable, none without a name. -/
def declarator (σ : Settings) (isVar : Bool) (n : Node) : Translation (List Declaration) :=
  if n.kind = .variableDeclarator then do
    reach? (n.child? .name)
    match n.child? .name with
    | none => pure []
    | some name => do
      let escaped ← name.kotlinName σ
      let type ← n.typeUse
      pure [{ kind := .value, name := escaped, line := n.line, type := some type, isVar := isVar }]
  else
    fail (.wrongEntry .variableDeclarator n.type)

/-- The declarations of the declarators of a variable declaration. -/
def variablesStatement (σ : Settings) (n : Node) : Translation (List Declaration) := do
  reachAll n.parts
  let lists ← (n.payloads declaratorDelimiters).mapM (declarator σ (!n.hasPart "const"))
  pure lists.flatten

/-- What the children of the body of an interface or class declare, given how each is translated. -/
def bodyMembers (member : Node → Translation (Option Declaration)) (n : Node) :
    Translation (List (Option Declaration)) :=
  match n.child? .body with
  | some body => do
    reachAll body.namedParts
    body.namedParts.mapM member
  | none => pure []

/-- The declaration of an interface or class, given how it translates its members. -/
def containerStatement (σ : Settings) (kind : DeclarationKind)
    (member : Node → Translation (Option Declaration)) (n : Node) :
    Translation (List Declaration) := do
  reach? (n.child? .name)
  match n.child? .name with
  | none => pure []
  | some name => do
    reach? (n.child? .typeParameters)
    reach? (n.child? .body)
    let members ← n.bodyMembers member
    let escaped ← name.kotlinName σ
    let typeParams ← n.typeParameters?
    pure [{
      kind := kind
      name := escaped
      line := n.line
      typeParams := typeParams
      members := members.reduceOption }]

/-- The node that names what a statement declares, looked for through wrappers. -/
def declaredName? (n : Node) : Translation (Option Node) := do
  reach? (n.child? .name)
  match n.child? .name with
  | some name => pure (some name)
  | none =>
    if (StatementForm.ofType n.type).isWrapper then do
      reach? (n.child? .declaration)
      match _h : n.child? .declaration with
      | some inner => declaredName? inner
      | none => do
        reach? n.firstNamed?
        match _h' : n.firstNamed? with
        | some inner => declaredName? inner
        | none => pure none
    else
      pure none
termination_by sizeOf n
decreasing_by
  · exact sizeOf_lt_of_child? _h
  · exact sizeOf_lt_of_firstNamed? _h'

/-- The text of the node that names what a statement declares. -/
def nameText? : Option Node → Translation (Option String)
  | some name => some <$> read name
  | none => pure none

/-- Records that a statement is left out because of a fault at a line. -/
def rejectStatement (scope : Scope) (n : Node) (error : Fault) (line : Nat) :
    Translation (List Declaration) := do
  let name? ← n.declaredName?
  note (.rejected scope.path scope.qualifier n.type n.line error.message)
  let name ← nameText? name?
  reject { name := name, nodeType := n.type, line := line, error := error.message }
  pure []

/-- Translates a statement so that a rest parameter of the wrong shape costs this statement only. -/
def isolated (scope : Scope) (n : Node) (x : Translation (List Declaration)) :
    Translation (List Declaration) :=
  x.rescue (n.rejectStatement scope)

/-- The namespace made from the declarations in its body, followed by the namespaces among them. -/
def namespaceOf (name : String) (line : Nat) (body : List Declaration) : List Declaration :=
  { kind := .nameSpace
    name := name
    line := line
    members := body.filter (·.kind != .nameSpace) } :: body.filter (·.kind == .nameSpace)

mutual

/-- The declarations of a statement. -/
def statement (σ : Settings) (scope : Scope) (n : Node) : Translation (List Declaration) :=
  match StatementForm.ofType n.type with
  | .exported => do
    reach? (n.child? .declaration)
    match _h : n.child? .declaration with
    | some inner => inner.statement σ scope
    | none => do
      note (.exportWithoutDeclaration n.line)
      pure []
  | .ambient => do
    reachAll n.namedParts
    inTurn σ scope n.namedParts
  | .expression => do
    reach? n.firstNamed?
    match _h : n.firstNamed? with
    | some inner =>
      if inner.type = "internal_module" then
        inner.namespaceStatement σ scope
      else do
        note (.expressionStatement n.line)
        pure []
    | none => do
      note (.expressionStatement n.line)
      pure []
  | .function => n.functionStatement σ
  | .declarators => n.variablesStatement σ
  | .interfaceBlock => n.containerStatement σ .interface (interfaceMember σ)
  | .classBlock => n.containerStatement σ .classType (classMember σ)
  | .namespaceBlock => n.namespaceStatement σ scope
  | .other => do
    let text ← read n
    note (.untranslatedNode n.type n.line (String.ofList (text.toList.take quotedLength)))
    pure []
termination_by (sizeOf n, 1)
decreasing_by
  · exact Prod.Lex.left _ _ (sizeOf_lt_of_child? _h)
  · exact Prod.Lex.left _ _ n.sizeOf_namedParts_lt
  · exact Prod.Lex.left _ _ (sizeOf_lt_of_firstNamed? _h)
  · exact Prod.Lex.right _ Nat.zero_lt_one

/-- The declarations of a namespace and of those nested in it.  A module named by a string is
declared elsewhere. -/
def namespaceStatement (σ : Settings) (scope : Scope) (n : Node) :
    Translation (List Declaration) := do
  reach? (n.child? .name)
  reach? (n.child? .body)
  match n.child? .name, _h : n.child? .body with
  | some name, some body =>
    if name.kind = .string then do
      note (.externalModule (← read name) n.line)
      pure []
    else do
      let qualified := scope.qualify (← read name)
      reachAll body.namedParts
      let declarations ← scan σ { scope with qualifier := some qualified } body.namedParts
      pure (namespaceOf qualified n.line declarations)
  | _, _ => pure []
termination_by (sizeOf n, 0)
decreasing_by
  exact Prod.Lex.left _ _ (Nat.lt_trans body.sizeOf_namedParts_lt (sizeOf_lt_of_child? _h))

/-- The declarations of statements in turn; the first fault ends all of them. -/
def inTurn (σ : Settings) (scope : Scope) : List Node → Translation (List Declaration)
  | [] => pure []
  | n :: ns => do
    let first ← n.statement σ scope
    let others ← inTurn σ scope ns
    pure (first ++ others)
termination_by ns => (sizeOf ns, 0)
decreasing_by
  · exact Prod.Lex.left _ _ (by simp only [List.cons.sizeOf_spec]; omega)
  · exact Prod.Lex.left _ _ (by simp only [List.cons.sizeOf_spec]; omega)

/-- The declarations of statements in turn, each isolated from the faults of the others. -/
def scan (σ : Settings) (scope : Scope) : List Node → Translation (List Declaration)
  | [] => pure []
  | n :: ns => do
    let first ← n.isolated scope (n.statement σ scope)
    let others ← scan σ scope ns
    pure (first ++ others)
termination_by ns => (sizeOf ns, 0)
decreasing_by
  · exact Prod.Lex.left _ _ (by simp only [List.cons.sizeOf_spec]; omega)
  · exact Prod.Lex.left _ _ (by simp only [List.cons.sizeOf_spec]; omega)

end

end Node

/-- The scan of a whole tree. -/
def Node.scanFile (σ : Settings) (path : String) (root : Node) :
    Translation (List Declaration) := do
  Translation.reach root
  Translation.reachAll root.namedParts
  Node.scan σ { path := path } root.namedParts

/-- The translation of a file, given its tree, or the fault that ended it. -/
def translate (σ : Settings) (path : String) (root : Node) : Except Fault TranslatedFile :=
  let scanned := root.scanFile σ path
  scanned.result.map fun declarations =>
    { path := path, declarations := declarations, rejections := scanned.rejections }

end KotlinStubs
