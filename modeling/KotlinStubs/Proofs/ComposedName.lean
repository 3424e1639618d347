import KotlinStubs.Proofs.Faults

/-!
# Composed names

The name of a type node is composed from the names of the types in it, from left to right.  What a
node consists of is reached before any part of it is named, so a text that cannot be read ends the
composition before the events of the parts next to it.

The machine with its stack of tasks finds the composed name, whatever the depth of the node.

* `Node.composedName`: the recursion on the node.
* `Node.typeName_array`, `Node.typeName_generic`, `Node.typeName_function`: composite types.
* `Node.typeName_eq_composedName`: the machine has the outcome of the recursion.
* `typeName_recursion`: so it is, after finitely many steps, none of which is short of names.
-/

namespace KotlinStubs

open Translation

namespace Node

/-! ## The recursion -/

theorem sizeOf_lt_of_payloads {n p : Node} {ds : List String} (h : p ∈ n.payloads ds) :
    sizeOf p < sizeOf n :=
  sizeOf_lt_of_mem_children ((n.payloads_sublist ds).subset h)

theorem sizeOf_lt_of_parameterNodes {n p : Node} (h : p ∈ n.parameterNodes) :
    sizeOf p < sizeOf n := by
  unfold parameterNodes at h
  split at h
  · next list found =>
    exact Nat.lt_trans (sizeOf_lt_of_payloads h) (sizeOf_lt_of_child? found)
  · cases h

theorem sizeOf_lt_of_declaredType? {n d : Node} (h : n.declaredType? = some d) :
    sizeOf d < sizeOf n := by
  unfold declaredType? at h
  split at h
  · cases h
  · next annotation found =>
    have below := sizeOf_lt_of_child? found
    split at h
    · exact Nat.lt_trans (sizeOf_lt_of_firstNamed? h) below
    · cases h
      exact below

mutual

/-- The name of a type node, composed from the names of the types in it.  An array without element,
a generic type without name or arguments and every other node have their text for a name. -/
def composedName (n : Node) : Translation String :=
  match n.kind with
  | .anyKeyword => pure anyName
  | .numberKeyword => pure "Number"
  | .stringKeyword => pure "String"
  | .booleanKeyword => pure "Boolean"
  | .voidKeyword => pure unitName
  | .typePredicate => pure "Boolean"
  | .asserts => pure unitName
  | .arrayType => do
    reach? n.firstNamed?
    match _h : n.firstNamed? with
    | some element => return arrayName ++ "<" ++ (← element.composedName) ++ ">"
    | none => read n
  | .genericType => do
    reach? (n.child? .name)
    reach? (n.child? .typeArguments)
    match n.child? .name, _h : n.child? .typeArguments with
    | some name, some args => do
      let text ← read name
      reachAll (args.entries angles)
      let names ← (args.payloads angles).attach.mapM fun a => a.1.composedName
      return text ++ "<" ++ Text.join ", " names ++ ">"
    | _, _ => read n
  | .functionType => do
    reach? (n.child? .parameters)
    reach? (n.child? .returnType)
    n.reachParameters
    let names ← n.parameterNodes.attach.mapM fun p => p.1.argumentName
    let result ← n.resultName
    return "(" ++ Text.join ", " names ++ ") -> " ++ result
  | .objectType => return Text.trim (← read n)
  | _ => do
    note (.unresolvedType n.type n.line)
    read n
termination_by (sizeOf n, 1)
decreasing_by
  · exact Prod.Lex.left _ _ (sizeOf_lt_of_firstNamed? _h)
  · exact Prod.Lex.left _ _ (Nat.lt_trans (sizeOf_lt_of_payloads a.2) (sizeOf_lt_of_child? _h))
  · exact Prod.Lex.left _ _ (sizeOf_lt_of_parameterNodes p.2)
  · exact Prod.Lex.right _ Nat.zero_lt_one

/-- The composed name of the type of a parameter, `Any` if it has none. -/
def argumentName (p : Node) : Translation String :=
  match _h : p.declaredType? with
  | some declared => declared.composedName
  | none => pure anyName
termination_by (sizeOf p, 0)
decreasing_by
  exact Prod.Lex.left _ _ (sizeOf_lt_of_declaredType? _h)

/-- The composed name of the result of a function type, `Unit` if it has none. -/
def resultName (n : Node) : Translation String :=
  match _h : n.child? .returnType with
  | some result => result.composedName
  | none => pure unitName
termination_by (sizeOf n, 0)
decreasing_by
  exact Prod.Lex.left _ _ (sizeOf_lt_of_child? _h)

end

theorem mapM_attach {α β : Type} (f : α → Translation β) (as : List α) :
    (as.attach.mapM fun a => f a.1) = as.mapM f := by
  rw [List.mapM_subtype fun _ _ => rfl, List.unattach_attach]

theorem mapM_congr {α β : Type} {f g : α → Translation β} {as : List α}
    (h : ∀ a ∈ as, f a = g a) : as.mapM f = as.mapM g := by
  rw [← mapM_attach f, ← mapM_attach g]
  congr 1
  funext a
  exact h a.1 a.2

variable {n : Node}

theorem composedName_array (kind : n.kind = .arrayType) :
    n.composedName = (do
      reach? n.firstNamed?
      match n.firstNamed? with
      | some element => return arrayName ++ "<" ++ (← element.composedName) ++ ">"
      | none => read n) := by
  rw [composedName, kind]
  dsimp only
  apply bind_congr
  intro _
  split <;> rename_i h <;> rw [h]

/-- A generic type with a name and arguments composes their names; any other one passes its text. -/
theorem composedName_generic (kind : n.kind = .genericType) :
    n.composedName = (do
      reach? (n.child? .name)
      reach? (n.child? .typeArguments)
      match n.child? .name, n.child? .typeArguments with
      | some name, some args => do
        let text ← read name
        reachAll (args.entries angles)
        let names ← (args.payloads angles).mapM composedName
        return text ++ "<" ++ Text.join ", " names ++ ">"
      | _, _ => read n) := by
  rw [composedName, kind]
  dsimp only
  apply bind_congr
  intro _
  apply bind_congr
  intro _
  split
  · next hname hargs =>
    rw [hname, hargs]
    simp only [mapM_attach]
  · next missing =>
    split
    · next hname hargs => exact absurd hargs (missing _ _ hname)
    · rfl

theorem composedName_function (kind : n.kind = .functionType) :
    n.composedName = (do
      reach? (n.child? .parameters)
      reach? (n.child? .returnType)
      n.reachParameters
      let names ← n.parameterNodes.mapM argumentName
      let result ← n.resultName
      return "(" ++ Text.join ", " names ++ ") -> " ++ result) := by
  rw [composedName, kind]
  simp only [mapM_attach]

/-! ## The names of composite types -/

theorem parameterOperands_eq (n : Node) :
    n.parameterOperands = n.parameterNodes.map parameterOperand := by
  unfold parameterOperands parameterNodes
  cases n.child? .parameters with
  | some list => rfl
  | none => rfl

theorem typeName_parameterOperand (p : Node) :
    p.parameterOperand.typeName = typeNameOrAny p.declaredType? := by
  unfold parameterOperand
  cases p.declaredType? with
  | some declared => rfl
  | none => rfl

/-- An arrow stands between the names of the arguments and that of the result. -/
theorem fill_arrow (names : List String) (result : String) :
    Template.arrow.fill (names ++ [result]) =
      "(" ++ Text.join ", " names ++ ") -> " ++ result := by
  rw [Template.fill, List.dropLast_concat, List.getLast?_concat, Option.getD_some]

theorem typeName_array (kind : n.kind = .arrayType) :
    n.typeName = (do
      reach? n.firstNamed?
      match n.firstNamed? with
      | some element => return arrayName ++ "<" ++ (← element.typeName) ++ ">"
      | none => read n) := by
  rw [typeName_eq, expand, kind]
  dsimp only
  rw [bind_assoc]
  apply bind_congr
  intro _
  cases n.firstNamed? with
  | none => simp [Expansion.typeName]
  | some element => simp [Expansion.typeName, Operand.typeName, Template.fill]

/-- What is composed for a generic type is the text that its template gives for the names of its
arguments. -/
theorem typeName_generic (kind : n.kind = .genericType) :
    n.typeName = (do
      reach? (n.child? .name)
      reach? (n.child? .typeArguments)
      match n.child? .name, n.child? .typeArguments with
      | some name, some args => do
        let text ← read name
        reachAll (args.entries angles)
        let names ← (args.payloads angles).mapM typeName
        return text ++ "<" ++ Text.join ", " names ++ ">"
      | _, _ => read n) := by
  have operands (ns : List Node) :
      (ns.map Operand.node).mapM Operand.typeName = ns.mapM typeName := List.mapM_map
  rw [typeName_eq, expand, kind]
  dsimp only
  rw [bind_assoc]
  apply bind_congr
  intro _
  rw [bind_assoc]
  apply bind_congr
  intro _
  cases n.child? .name with
  | none => simp [Expansion.typeName]
  | some name =>
    cases n.child? .typeArguments with
    | none => simp [Expansion.typeName]
    | some args =>
      simp only [bind_assoc, pure_bind, Expansion.typeName, operands, map_eq_pure_bind,
        Template.fill]

theorem typeName_function (kind : n.kind = .functionType) :
    n.typeName = (do
      reach? (n.child? .parameters)
      reach? (n.child? .returnType)
      n.reachParameters
      let names ← n.parameterNodes.mapM fun p => typeNameOrAny p.declaredType?
      let result ← n.resultOperand.typeName
      return "(" ++ Text.join ", " names ++ ") -> " ++ result) := by
  have arguments : n.parameterOperands.mapM Operand.typeName =
      n.parameterNodes.mapM fun p => typeNameOrAny p.declaredType? := by
    rw [parameterOperands_eq, List.mapM_map]
    exact mapM_congr fun p _ => p.typeName_parameterOperand
  rw [typeName_eq, expand, kind]
  simp [Expansion.typeName, arguments, fill_arrow]

/-- The machine has the outcome of the recursion.  The induction is on the size of the node. -/
theorem typeName_eq_composedName (n : Node) : n.typeName = n.composedName := by
  induction n using sizeInduction with
  | step n ih =>
    cases kind : n.kind with
    | arrayType =>
      rw [typeName_array kind, composedName_array kind]
      apply bind_congr
      intro _
      cases found : n.firstNamed? with
      | none => rfl
      | some element =>
        dsimp only
        rw [ih element (sizeOf_lt_of_firstNamed? found)]
    | genericType =>
      rw [typeName_generic kind, composedName_generic kind]
      apply bind_congr
      intro _
      apply bind_congr
      intro _
      cases n.child? .name with
      | none => rfl
      | some name =>
        cases hargs : n.child? .typeArguments with
        | none => rfl
        | some args =>
          have below := sizeOf_lt_of_child? hargs
          have names : (args.payloads angles).mapM typeName =
              (args.payloads angles).mapM composedName :=
            mapM_congr fun a ha => ih a (Nat.lt_trans (sizeOf_lt_of_payloads ha) below)
          dsimp only
          rw [names]
    | functionType =>
      have arguments : (n.parameterNodes.mapM fun p => typeNameOrAny p.declaredType?) =
          n.parameterNodes.mapM argumentName := by
        apply mapM_congr
        intro p hp
        have below := sizeOf_lt_of_parameterNodes hp
        unfold argumentName
        cases declared : p.declaredType? with
        | none => rfl
        | some d => exact ih d (Nat.lt_trans (sizeOf_lt_of_declaredType? declared) below)
      have result : n.resultOperand.typeName = n.resultName := by
        unfold resultOperand resultName
        cases found : n.child? .returnType with
        | none => rfl
        | some r => exact ih r (sizeOf_lt_of_child? found)
      rw [typeName_function kind, composedName_function kind, arguments, result]
    | _ =>
      rw [typeName_eq, composedName, expand, kind]
      simp [Expansion.typeName]

end Node

/-- **Resolution.** The machine has the outcome of the recursion on the type node: the name, or the
fault of a text that cannot be read, and the events before it in their order.  It goes through
finitely many states.  A combination that is next finds the names that it takes, and a state without
tasks holds one name, that of the node. -/
theorem typeName_recursion (n : Node) :
    n.typeName = n.composedName ∧
    (∀ e, n.typeName.result = .error e → e = .undecodable ∧ ∃ m ∈ n.preorder, m.text = none) ∧
    Acc (fun m' m => Machine.Next m m') ⟨[.operand (.node n)], []⟩ ∧
    (∀ text, Machine.Reached n ⟨[], [text]⟩ ↔ n.typeName.result = .ok text) ∧
    (∀ m, Machine.Reached n m → m.tasks = [] → ∃ text, m.names = [text]) ∧
    (∀ m template arity tasks, Machine.Reached n m → m.tasks = .combine template arity :: tasks →
      arity ≤ m.names.length ∧ (template = .arrow → 0 < arity)) := by
  have reads := Node.reads_typeName n.mem_preorder_self
  have ends := Machine.wellFounded_next.apply ⟨[.operand (.node n)], []⟩
  exact ⟨n.typeName_eq_composedName, reads.fault, ends, fun _ => Machine.reached_iff,
    fun _ reached ended => reached.names_of_no_tasks ended,
    fun _ _ _ _ reached next => reached.arity_le next⟩

namespace Node

/-- `b[]`, as the result of a function type -/
def arrayOfName : Node :=
  branch "array_type" "b[]" [.returnType] [leaf "type_identifier" "b" [], token "[", token "]"]

/-- `x`, as a parameter -/
def untypedParameter : Node :=
  branch "required_parameter" "x" [] [leaf "identifier" "x" [.pattern]]

/-- `(x) => b[]` -/
def functionToArray : Node :=
  branch "function_type" "(x) => b[]" [] [
    branch "formal_parameters" "(x)" [.parameters] [token "(", untypedParameter, token ")"],
    token "=>",
    arrayOfName]

theorem composedName_arrayOfName :
    arrayOfName.composedName = (do
      note (.unresolvedType "type_identifier" 1)
      pure "Array<b>") := by
  have element : arrayOfName.firstNamed? = some (leaf "type_identifier" "b" []) := rfl
  have name := typeName_identifier (n := leaf "type_identifier" "b" []) rfl rfl
  rw [composedName_array rfl, element]
  dsimp only
  rw [← typeName_eq_composedName, name]
  rfl

theorem composedName_functionToArray :
    functionToArray.composedName = (do
      note (.unresolvedType "type_identifier" 1)
      pure "(Any) -> Array<b>") := by
  have parameters : functionToArray.parameterNodes = [untypedParameter] := rfl
  have argument : untypedParameter.argumentName = pure anyName := by
    rw [argumentName]
    rfl
  have result : functionToArray.resultName = arrayOfName.composedName := by
    rw [resultName]
    rfl
  rw [composedName_function rfl, parameters, List.mapM_cons, argument, result,
    composedName_arrayOfName]
  rfl

/-- The element of the array is named, so the array is combined next. -/
theorem reached_functionToArray : Machine.Reached functionToArray
    ⟨[.combine (.applied arrayName) 1, .combine .arrow 2], ["b", anyName]⟩ := by
  have expanded : Machine.Next ⟨[.operand (.node functionToArray)], []⟩
      ⟨[.operand (.name anyName), .operand (.node arrayOfName), .combine .arrow 2], []⟩ :=
    ⟨_, _, rfl, rfl⟩
  exact .tail (.tail (.tail (.tail .refl expanded) ⟨_, _, rfl, rfl⟩) ⟨_, _, rfl, rfl⟩)
    ⟨_, _, rfl, rfl⟩

theorem typeName_recursion_functionToArray :
    functionToArray.typeName = functionToArray.composedName ∧
      Machine.Reached functionToArray ⟨[], ["(Any) -> Array<b>"]⟩ ∧
      1 ≤ ["b", anyName].length := by
  obtain ⟨same, -, -, named, -, served⟩ := typeName_recursion functionToArray
  have result : functionToArray.typeName.result = .ok "(Any) -> Array<b>" := by
    rw [same, composedName_functionToArray]
    rfl
  exact ⟨same, (named _).2 result, (served _ _ _ _ reached_functionToArray rfl).1⟩

end Node

end KotlinStubs
