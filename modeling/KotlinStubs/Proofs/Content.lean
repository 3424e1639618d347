import KotlinStubs.Proofs.StatementForms

/-!
# What a translation looks at

A translation sees of a node only its type name, its line, its text, its parts and its children by
role.  A map of trees that keeps these (`KeepsContent`) therefore changes no result, no rejection
and no event, whatever else it does to the comments, the spans or the numbers of nodes.  The line is
looked at for rejections and events only; a map that keeps the rest is one that `KeepsTexts`.

* `KeepsTexts.expand`: one level of a type node on both trees, but for the remark on its line.
* `KeepsContent.expand`, `KeepsContent.step`: the machine does the same steps on both trees, each on
  the mapped nodes.
* `KeepsContent.statement`: a statement keeps its whole outcome.
* `KeepsContent.scanFile`: so does a file.
* `Node.keepsContent_renumbered`: the numbers of rows are not looked at.
-/

namespace KotlinStubs

open Translation

/-- A map of nodes that keeps everything a translation looks at but the lines. -/
structure KeepsTexts (v : Node → Node) : Prop where
  type : ∀ n, (v n).type = n.type
  text : ∀ n, (v n).text = n.text
  named : ∀ n, (v n).named = n.named
  parts : ∀ n, (v n).parts = n.parts.map v
  child? : ∀ n f, (v n).child? f = (n.child? f).map v

/-- A map of nodes that keeps everything a translation looks at. -/
structure KeepsContent (v : Node → Node) : Prop extends KeepsTexts v where
  line : ∀ n, (v n).line = n.line

/-- A map that keeps each node, up to its place in the source. -/
theorem KeepsTexts.of_children {v : Node → Node} (type : ∀ n, (v n).type = n.type)
    (text : ∀ n, (v n).text = n.text) (named : ∀ n, (v n).named = n.named)
    (fields : ∀ n, (v n).fields = n.fields)
    (children : ∀ n, (v n).children = n.children.map v) : KeepsTexts v := by
  refine ⟨type, text, named, ?_, ?_⟩
  · intro n
    unfold Node.parts
    rw [children, List.filter_map]
    congr 2
    funext c
    simp only [Function.comp_apply, Node.isComment, type]
  · intro n role
    unfold Node.child?
    rw [children, List.find?_map]
    congr 2
    funext c
    simp only [Function.comp_apply, fields]

/-! ## Operands and tasks of mapped nodes -/

/-- The operand with its node mapped. -/
def Operand.map (v : Node → Node) : Operand → Operand
  | .node n => .node (v n)
  | .name text => .name text

/-- The expansion with its nodes mapped. -/
def Expansion.map (v : Node → Node) : Expansion → Expansion
  | .name text => .name text
  | .compound template operands => .compound template (operands.map (Operand.map v))

/-- The task with its node mapped. -/
def Task.map (v : Node → Node) : Task → Task
  | .operand o => .operand (o.map v)
  | .combine template arity => .combine template arity

/-- The machine with the nodes of its tasks mapped. -/
def Machine.map (v : Node → Node) (m : Machine) : Machine := ⟨m.tasks.map (Task.map v), m.names⟩

theorem evenPlaces_map {α β : Type} (f : α → β) (as : List α) :
    evenPlaces (as.map f) = (evenPlaces as).map f := by
  induction as using evenPlaces.induct with
  | case1 => rfl
  | case2 a => rfl
  | case3 a b rest ih => simp only [List.map_cons, evenPlaces, ih]

theorem mapM_map_of_eq {β : Type} {v : Node → Node} {f : Node → Translation β}
    (h : ∀ n, f (v n) = f n) (ns : List Node) : (ns.map v).mapM f = ns.mapM f := by
  rw [List.mapM_map]
  congr 1
  funext n
  exact h n

namespace Node

/-- Whether a node is of none of the kinds that have a rule of their own as a type, so that its text
is passed on. -/
def isUnresolved (n : Node) : Bool :=
  match n.kind with
  | .anyKeyword | .numberKeyword | .stringKeyword | .booleanKeyword | .voidKeyword
  | .typePredicate | .asserts | .arrayType | .genericType | .functionType | .objectType => false
  | _ => true

theorem expand_unresolved {n : Node} (h : n.isUnresolved = true) :
    n.expand = (do
      note (.unresolvedType n.type n.line)
      return .name (← Translation.read n)) := by
  unfold isUnresolved at h
  unfold expand
  cases kind : n.kind <;> rw [kind] at h <;> first | rfl | cases h

end Node

namespace KeepsTexts

variable {v : Node → Node} (hv : KeepsTexts v)
include hv

/-! ## Nodes -/

theorem kind (n : Node) : (v n).kind = n.kind := by
  unfold Node.kind
  rw [hv.type, hv.text]

theorem isLegible (n : Node) : (v n).isLegible = n.isLegible := by
  unfold Node.isLegible
  rw [hv.type, hv.text]

theorem namedParts (n : Node) : (v n).namedParts = n.namedParts.map v := by
  unfold Node.namedParts
  rw [hv.parts, List.filter_map]
  congr 2
  funext m
  exact hv.named m

theorem firstNamed? (n : Node) : (v n).firstNamed? = n.firstNamed?.map v := by
  unfold Node.firstNamed?
  rw [hv.namedParts, List.head?_map]

theorem hasPart (n : Node) (type : String) : (v n).hasPart type = n.hasPart type := by
  unfold Node.hasPart
  rw [hv.parts, List.any_map]
  congr 1
  funext m
  simp only [Function.comp_apply, hv.type]

theorem hasPartOfKind (n : Node) (k : Kind) : (v n).hasPartOfKind k = n.hasPartOfKind k := by
  unfold Node.hasPartOfKind
  rw [hv.parts, List.any_map]
  congr 1
  funext m
  simp only [Function.comp_apply, hv.kind]

theorem declaredType? (n : Node) : (v n).declaredType? = n.declaredType?.map v := by
  unfold Node.declaredType?
  rw [hv.child?]
  cases n.child? .type with
  | none => rfl
  | some a =>
    simp only [Option.map_some, hv.kind, hv.firstNamed?]
    split <;> rfl

theorem entries (n : Node) (ds : List String) : (v n).entries ds = (n.entries ds).map v := by
  unfold Node.entries
  rw [hv.parts, List.filter_map]
  congr 2
  funext m
  simp only [Function.comp_apply, hv.type]

theorem payloads (n : Node) (ds : List String) : (v n).payloads ds = (n.payloads ds).map v := by
  unfold Node.payloads
  rw [hv.entries, evenPlaces_map]

/-! ## Reading -/

theorem read (n : Node) : Translation.read (v n) = Translation.read n := by
  unfold Translation.read
  rw [hv.text]

theorem reach (n : Node) : Translation.reach (v n) = Translation.reach n := by
  unfold Translation.reach
  rw [hv.isLegible]

theorem reach? (n : Option Node) : Translation.reach? (n.map v) = Translation.reach? n := by
  cases n with
  | none => rfl
  | some n => exact hv.reach n

theorem reachAll (ns : List Node) : Translation.reachAll (ns.map v) = Translation.reachAll ns := by
  induction ns with
  | nil => rfl
  | cons n ns ih => rw [List.map_cons, Translation.reachAll, Translation.reachAll, hv.reach, ih]

theorem reachDeclaredType (n : Node) :
    Translation.reachDeclaredType (v n) = Translation.reachDeclaredType n := by
  unfold Translation.reachDeclaredType
  rw [hv.child?, hv.declaredType?, hv.reach?, hv.reach?]

/-! ## Type names -/

theorem parameterOperand (p : Node) : (v p).parameterOperand = p.parameterOperand.map v := by
  unfold Node.parameterOperand
  rw [hv.declaredType?]
  cases p.declaredType? <;> rfl

theorem parameterOperands (n : Node) :
    (v n).parameterOperands = n.parameterOperands.map (Operand.map v) := by
  unfold Node.parameterOperands
  rw [hv.child?]
  cases n.child? .parameters with
  | none => rfl
  | some ps =>
    simp only [Option.map_some, hv.payloads, List.map_map]
    congr 1
    funext p
    exact hv.parameterOperand p

theorem resultOperand (n : Node) : (v n).resultOperand = n.resultOperand.map v := by
  unfold Node.resultOperand
  rw [hv.child?]
  cases n.child? .returnType <;> rfl

theorem reachParameters (n : Node) : (v n).reachParameters = n.reachParameters := by
  unfold Node.reachParameters
  rw [hv.child?]
  cases n.child? .parameters with
  | none => rfl
  | some ps =>
    simp only [Option.map_some, hv.entries, hv.payloads, hv.reachAll, List.forM_eq_forM,
      List.forM_map, hv.reachDeclaredType]

theorem isUnresolved (n : Node) : (v n).isUnresolved = n.isUnresolved := by
  unfold Node.isUnresolved
  rw [hv.kind]

/-- One level of a mapped type node is the mapped level. -/
theorem expand {n : Node} (resolved : n.isUnresolved = false) :
    (v n).expand = Expansion.map v <$> n.expand := by
  unfold Node.isUnresolved at resolved
  unfold Node.expand
  rw [hv.kind]
  cases kind : n.kind with
  | anyKeyword | numberKeyword | stringKeyword | booleanKeyword | voidKeyword | typePredicate
  | asserts => simp only [map_pure, Expansion.map]
  | arrayType =>
    simp only [hv.firstNamed?, hv.reach?, map_bind]
    refine bind_congr fun _ => ?_
    cases n.firstNamed? with
    | none => simp only [Option.map_none, hv.read, map_bind, map_pure, Expansion.map]
    | some e => simp only [Option.map_some, map_pure, Expansion.map, List.map_cons, List.map_nil,
        Operand.map]
  | genericType =>
    simp only [hv.child?, hv.reach?, map_bind]
    refine bind_congr fun _ => ?_
    refine bind_congr fun _ => ?_
    cases n.child? .name with
    | none => simp only [Option.map_none, hv.read, map_bind, map_pure, Expansion.map]
    | some name =>
      cases n.child? .typeArguments with
      | none => simp only [Option.map_none, Option.map_some, hv.read, map_bind, map_pure,
          Expansion.map]
      | some args =>
        simp only [Option.map_some, hv.read, hv.entries, hv.payloads, hv.reachAll, map_bind,
          map_pure, Expansion.map, List.map_map]
        rfl
  | functionType =>
    simp only [hv.child?, hv.reach?, hv.reachParameters, hv.parameterOperands, hv.resultOperand,
      map_bind, map_pure, Expansion.map, List.map_append, List.map_cons, List.map_nil]
  | objectType => simp only [hv.read, map_bind, map_pure, Expansion.map]
  | typeClause | parameter | restPattern | accessibilityModifier | typeParameter
  | variableDeclarator | identifier | string | other =>
    rw [kind] at resolved
    cases resolved

end KeepsTexts

namespace KeepsContent

variable {v : Node → Node} (hv : KeepsContent v) {σ : Settings}
include hv

/-- One level of a mapped type node is the mapped level, with the same remark. -/
theorem expand (n : Node) : (v n).expand = Expansion.map v <$> n.expand := by
  cases h : n.isUnresolved with
  | true =>
    rw [Node.expand_unresolved h, Node.expand_unresolved ((hv.isUnresolved n).trans h)]
    simp only [hv.type, hv.line, hv.read, map_bind, map_pure, Expansion.map]
  | false => exact hv.toKeepsTexts.expand h

/-- A step on a mapped task is the mapped step. -/
theorem step (task : Task) (tasks : List Task) (names : List String) :
    Machine.step (task.map v) (tasks.map (Task.map v)) names =
      Machine.map v <$> Machine.step task tasks names := by
  cases task with
  | combine template arity => rfl
  | operand o =>
    cases o with
    | name text => rfl
    | node n =>
      simp only [Task.map, Operand.map, Machine.step, hv.expand, bind_map_left, map_bind]
      congr 1
      funext e
      cases e with
      | name text => rfl
      | compound template operands =>
        simp only [Expansion.map, map_pure, Machine.map, List.map_append, List.map_map,
          List.map_cons, List.length_map, Task.map]
        rfl

/-- A run on mapped tasks is the same run.  The induction is on the weight of the tasks. -/
theorem run (m : Machine) : (m.map v).run = m.run := by
  induction h : Task.weightAll m.tasks using Nat.strongRecOn generalizing m with
  | ind w ih =>
    rcases m with ⟨tasks, names⟩
    cases tasks with
    | nil => rw [Machine.map, List.map_nil]
    | cons task tasks =>
      have rest (m : Machine) (hm : (Machine.step task tasks names).result = .ok m) :
          (m.map v).run = m.run :=
        ih _ (by rw [← h]; exact Machine.step_weight hm) m rfl
      simp only [Machine.map, List.map_cons]
      rw [Machine.run_cons, Machine.run_cons, hv.step, bind_map_left]
      exact bind_congr_of_result rest

theorem typeName (n : Node) : (v n).typeName = n.typeName := by
  unfold Node.typeName
  exact congrArg (· >>= _) (hv.run ⟨[.operand (.node n)], []⟩)

theorem typeNameOrAny (n : Option Node) : Node.typeNameOrAny (n.map v) = Node.typeNameOrAny n := by
  cases n with
  | none => rfl
  | some n => exact hv.typeName n

theorem clauseTypeName (n : Node) : (v n).clauseTypeName = n.clauseTypeName := by
  unfold Node.clauseTypeName
  rw [hv.kind, hv.firstNamed?, hv.reach?, hv.typeNameOrAny, hv.typeName]

theorem kotlinName (n : Node) : (v n).kotlinName σ = n.kotlinName σ := by
  unfold Node.kotlinName
  rw [hv.read, hv.kind]

/-! ## Callables -/

/-- The element of a mapped rest parameter is the mapped element. -/
theorem restElement (p declared : Node) :
    (v p).restElement (v declared) = Option.map v <$> p.restElement declared := by
  unfold Node.restElement
  rw [hv.kind]
  cases declared.kind with
  | arrayType => simp only [hv.firstNamed?, hv.reach?, map_bind, map_pure]
  | genericType =>
    simp only [hv.child?, hv.reach?, map_bind]
    refine bind_congr fun _ => ?_
    refine bind_congr fun _ => ?_
    cases declared.child? .name with
    | none => simp only [Option.map_none, hv.type, hv.line, map_fail]
    | some name =>
      simp only [Option.map_some, hv.read, map_bind]
      refine bind_congr fun text => ?_
      cases declared.child? .typeArguments with
      | none => simp only [Option.map_none, hv.type, hv.line, map_fail]
      | some args =>
        simp only [Option.map_some, hv.entries, hv.payloads, hv.reachAll, hv.type, hv.line]
        split
        · simp only [map_bind]
          refine bind_congr fun _ => ?_
          rcases args.payloads angles with _ | ⟨a, _ | ⟨b, rest⟩⟩
          · simp only [List.map_nil, List.length_nil, map_fail]
          · simp only [List.map_cons, List.map_nil, map_pure, Option.map_some]
          · simp only [List.map_cons, List.length_cons, List.length_map, map_fail]
        · simp only [map_fail]
  | _ => simp only [hv.type, hv.line, map_fail]

theorem parameterType (p : Node) : (v p).parameterType = Option.map v <$> p.parameterType := by
  have rest : (v p).isRest = p.isRest := hv.hasPartOfKind p _
  unfold Node.parameterType
  rw [hv.declaredType?, rest]
  cases p.declaredType? with
  | none => simp only [Option.map_none, map_pure]
  | some declared =>
    simp only [Option.map_some]
    split
    · exact hv.restElement p declared
    · simp only [map_pure, Option.map_some]

theorem parameterDefault (p : Node) : (v p).parameterDefault = p.parameterDefault := by
  unfold Node.parameterDefault
  rw [hv.child?, hv.reach?, hv.hasPart]
  cases p.child? .value with
  | none => rfl
  | some value => simp only [Option.map_some, hv.read]

theorem patternName (p : Node) : (v p).patternName = v p.patternName := by
  unfold Node.patternName
  rw [hv.kind, hv.firstNamed?]
  split
  · cases p.firstNamed? <;> rfl
  · rfl

theorem parameterName (p : Node) : (v p).parameterName σ = p.parameterName σ := by
  unfold Node.parameterName
  rw [hv.child?, hv.reach?]
  cases p.child? .pattern with
  | none =>
    have named : (p.firstNamed?.map v).getD (v p) = v (p.firstNamed?.getD p) := by
      cases p.firstNamed? <;> rfl
    simp only [Option.map_none, hv.firstNamed?, hv.reach?, named, hv.read]
  | some pattern => simp only [Option.map_some, hv.patternName, hv.reach, hv.kotlinName]

theorem parameter (p : Node) : (v p).parameter σ = p.parameter σ := by
  have rest : (v p).isRest = p.isRest := hv.hasPartOfKind p _
  have lambda (type : Option Node) : (type.map v).any (·.kind == .functionType) =
      type.any (·.kind == .functionType) := by
    cases type with
    | none => rfl
    | some type => simp only [Option.map_some, Option.any_some, hv.kind]
  unfold Node.parameter
  simp only [hv.parts, hv.reachAll, hv.reachDeclaredType, hv.parameterType, bind_map_left,
    hv.typeNameOrAny, hv.parameterDefault, hv.parameterName, hv.hasPart, hv.hasPartOfKind, rest,
    lambda]

theorem parameterList (list : Node) : (v list).parameterList σ = list.parameterList σ := by
  unfold Node.parameterList
  simp only [hv.entries, hv.payloads, hv.reachAll, mapM_map_of_eq hv.parameter]

theorem typeParameterName (p : Node) : (v p).typeParameterName = p.typeParameterName := by
  unfold Node.typeParameterName
  rw [hv.child?, hv.reach?, hv.read]
  cases p.child? .name with
  | none => rfl
  | some name => simp only [Option.map_some, hv.typeName]

theorem typeParameter (p : Node) : (v p).typeParameter = p.typeParameter := by
  unfold Node.typeParameter
  rw [hv.typeParameterName, hv.child?, hv.reach?]
  cases p.child? .constraint with
  | none => rfl
  | some constraint =>
    simp only [Option.map_some, hv.firstNamed?, hv.reach?]
    cases constraint.firstNamed? with
    | none => rfl
    | some bound => simp only [Option.map_some, hv.typeName]

theorem typeParameters? (n : Node) : (v n).typeParameters? = n.typeParameters? := by
  unfold Node.typeParameters?
  rw [hv.child?]
  cases n.child? .typeParameters with
  | none => rfl
  | some list =>
    simp only [Option.map_some, Node.typeParameterList, hv.entries, hv.payloads, hv.reachAll,
      mapM_map_of_eq hv.typeParameter]

theorem callParameters (n : Node) : (v n).callParameters σ = n.callParameters σ := by
  unfold Node.callParameters
  rw [hv.child?, hv.reach?]
  cases n.child? .parameters with
  | none => rfl
  | some list => simp only [Option.map_some, hv.parameterList]

theorem resultTypeName (n : Node) : (v n).resultTypeName = n.resultTypeName := by
  unfold Node.resultTypeName
  rw [hv.child?, hv.reach?]
  cases n.child? .returnType with
  | none => rfl
  | some clause => simp only [Option.map_some, hv.clauseTypeName]

theorem callSignature (n : Node) : (v n).callSignature σ = n.callSignature σ := by
  unfold Node.callSignature
  simp only [hv.child?, hv.reach?, hv.typeParameters?, hv.callParameters, hv.resultTypeName]

theorem typeUse (n : Node) : (v n).typeUse = n.typeUse := by
  unfold Node.typeUse
  rw [hv.reachDeclaredType, hv.declaredType?]
  cases n.declaredType? with
  | none => rfl
  | some type => simp only [Option.map_some, hv.typeName, hv.kind]

/-! ## Members -/

theorem method (n name : Node) : (v n).method σ (v name) = n.method σ name := by
  unfold Node.method
  simp only [hv.callSignature, hv.kotlinName, hv.parts, hv.reachAll, hv.hasPart, hv.line]

theorem property (n name : Node) : (v n).property σ (v name) = n.property σ name := by
  unfold Node.property
  simp only [hv.typeUse, hv.kotlinName, hv.parts, hv.reachAll, hv.hasPart, hv.line]

theorem interfaceMember (n : Node) : (v n).interfaceMember σ = n.interfaceMember σ := by
  unfold Node.interfaceMember
  rw [hv.child?, hv.reach?, hv.type, hv.line]
  cases n.child? .name with
  | none => rfl
  | some name =>
    simp only [Option.map_some]
    cases Node.interfaceMemberForm n.type with
    | method => simp only [hv.method]
    | property => simp only [hv.property]
    | other => rfl

theorem anyModifier (keyword : String) (ns : List Node) :
    Node.anyModifier keyword (ns.map v) = Node.anyModifier keyword ns := by
  induction ns with
  | nil => rfl
  | cons n ns ih => simp only [List.map_cons, Node.anyModifier, hv.kind, hv.read, ih]

theorem isHidden (n : Node) : (v n).isHidden = n.isHidden := by
  unfold Node.isHidden
  simp only [hv.hasPart, hv.parts, hv.anyModifier]

theorem namedClassMember (n name : Node) :
    (v n).namedClassMember σ (v name) = n.namedClassMember σ name := by
  unfold Node.namedClassMember
  simp only [hv.isHidden, hv.read, hv.type, hv.line, hv.method, hv.property]

theorem classMember (n : Node) : (v n).classMember σ = n.classMember σ := by
  unfold Node.classMember
  rw [hv.child?, hv.reach?, hv.parts, hv.reachAll, hv.type, hv.line]
  cases n.child? .name with
  | none => rfl
  | some name => simp only [Option.map_some, hv.read, hv.namedClassMember]

/-! ## Statements -/

theorem functionStatement (n : Node) : (v n).functionStatement σ = n.functionStatement σ := by
  unfold Node.functionStatement
  rw [hv.child?, hv.reach?, hv.callSignature, hv.line]
  cases n.child? .name with
  | none => rfl
  | some name => simp only [Option.map_some, hv.kotlinName]

theorem declarator (isVar : Bool) (n : Node) :
    (v n).declarator σ isVar = n.declarator σ isVar := by
  unfold Node.declarator
  rw [hv.kind, hv.child?, hv.reach?, hv.typeUse, hv.line, hv.type]
  cases n.child? .name with
  | none => rfl
  | some name => simp only [Option.map_some, hv.kotlinName]

theorem variablesStatement (n : Node) : (v n).variablesStatement σ = n.variablesStatement σ := by
  unfold Node.variablesStatement
  simp only [hv.parts, hv.reachAll, hv.payloads, hv.hasPart, mapM_map_of_eq (hv.declarator _)]

theorem bodyMembers {member : Node → Translation (Option Declaration)}
    (hm : ∀ m, member (v m) = member m) (n : Node) :
    (v n).bodyMembers member = n.bodyMembers member := by
  unfold Node.bodyMembers
  rw [hv.child?]
  cases n.child? .body with
  | none => rfl
  | some body => simp only [Option.map_some, hv.namedParts, hv.reachAll, mapM_map_of_eq hm]

theorem containerStatement {member : Node → Translation (Option Declaration)}
    (hm : ∀ m, member (v m) = member m) (kind : DeclarationKind) (n : Node) :
    (v n).containerStatement σ kind member = n.containerStatement σ kind member := by
  unfold Node.containerStatement
  simp only [hv.child?, hv.reach?, hv.bodyMembers hm, hv.typeParameters?, hv.line]
  cases n.child? .name with
  | none => rfl
  | some name => simp only [Option.map_some, hv.kotlinName]

theorem plainStatement? (n : Node) : (v n).plainStatement? σ = n.plainStatement? σ := by
  unfold Node.plainStatement?
  simp only [hv.type, hv.functionStatement, hv.variablesStatement,
    hv.containerStatement hv.interfaceMember, hv.containerStatement hv.classMember]

/-- What names a statement is mapped along with it, through all that it wraps. -/
theorem declaredName? (n : Node) : (v n).declaredName? = Option.map v <$> n.declaredName? := by
  induction n using Node.sizeInduction with
  | step n ih =>
    rw [Node.declaredName?_eq, Node.declaredName?_eq]
    simp only [hv.child?, hv.reach?, hv.type, map_bind]
    refine bind_congr fun _ => ?_
    cases n.child? .name with
    | some name => simp only [Option.map_some, map_pure]
    | none =>
      simp only [Option.map_none]
      split
      · simp only [map_bind]
        refine bind_congr fun _ => ?_
        cases hd : n.child? .declaration with
        | some inner => exact ih inner (Node.sizeOf_lt_of_child? hd)
        | none =>
          simp only [Option.map_none, hv.firstNamed?, hv.reach?, map_bind]
          refine bind_congr fun _ => ?_
          cases hf : n.firstNamed? with
          | some inner => exact ih inner (Node.sizeOf_lt_of_firstNamed? hf)
          | none => simp only [Option.map_none, map_pure]
      · simp only [map_pure, Option.map_none]

theorem rejectStatement (scope : Scope) (n : Node) (e : Fault) (line : Nat) :
    (v n).rejectStatement scope e line = n.rejectStatement scope e line := by
  have nameText (name? : Option Node) : Node.nameText? (name?.map v) = Node.nameText? name? := by
    cases name? with
    | none => rfl
    | some name => simp only [Option.map_some, Node.nameText?, hv.read]
  unfold Node.rejectStatement
  simp only [hv.declaredName?, bind_map_left, hv.type, hv.line, nameText]

theorem scanned {scope : Scope} {n : Node}
    (h : (v n).statement σ scope = n.statement σ scope) :
    (v n).scanned σ scope = n.scanned σ scope := by
  unfold Node.scanned Node.isolated
  rw [h]
  congr 1
  funext e line
  exact hv.rejectStatement scope n e line

/-- A namespace keeps its outcome if the statements in it do. -/
theorem namespaceStatement {scope : Scope} {n : Node}
    (ih : ∀ m : Node, sizeOf m < sizeOf n → ∀ scope,
      (v m).statement σ scope = m.statement σ scope) :
    (v n).namespaceStatement σ scope = n.namespaceStatement σ scope := by
  rw [Node.namespaceStatement_eq, Node.namespaceStatement_eq]
  simp only [hv.child?, hv.reach?]
  refine bind_congr fun _ => ?_
  refine bind_congr fun _ => ?_
  cases n.child? .name with
  | none => rfl
  | some name =>
    cases hbody : n.child? .body with
    | none => rfl
    | some body =>
      have inner (scope : Scope) : collect (Node.scanned σ scope) (body.namedParts.map v) =
          collect (Node.scanned σ scope) body.namedParts := by
        rw [collect_map]
        refine collect_congr fun m hm => hv.scanned (ih m ?_ scope)
        exact Nat.lt_trans (Node.sizeOf_lt_of_mem_namedParts hm) (Node.sizeOf_lt_of_child? hbody)
      simp only [Option.map_some, hv.kind, hv.read, hv.line, hv.namedParts, hv.reachAll, inner]

/-- A mapped statement has the same outcome. -/
theorem statement (n : Node) (scope : Scope) :
    (v n).statement σ scope = n.statement σ scope := by
  induction n using Node.sizeInduction generalizing scope with
  | step n ih =>
    have form' : StatementForm.ofType (v n).type = StatementForm.ofType n.type := by rw [hv.type]
    cases form : StatementForm.ofType n.type with
    | exported =>
      rw [Node.statement_exported form, Node.statement_exported (form'.trans form)]
      rw [hv.child?, hv.reach?, hv.line]
      cases hd : n.child? .declaration with
      | none => rfl
      | some inner => simp only [Option.map_some, ih inner (Node.sizeOf_lt_of_child? hd)]
    | ambient =>
      rw [Node.statement_ambient form, Node.statement_ambient (form'.trans form)]
      rw [hv.namedParts, hv.reachAll, collect_map]
      refine bind_congr fun _ => ?_
      exact collect_congr fun m hm => ih m (Node.sizeOf_lt_of_mem_namedParts hm) scope
    | expression =>
      rw [Node.statement_expression form, Node.statement_expression (form'.trans form)]
      rw [hv.firstNamed?, hv.reach?, hv.line]
      cases hf : n.firstNamed? with
      | none => rfl
      | some inner =>
        simp only [Option.map_some, hv.type, ih inner (Node.sizeOf_lt_of_firstNamed? hf)]
    | function | declarators | interfaceBlock | classBlock =>
      obtain ⟨x, plain⟩ := Node.exists_plainStatement σ (n := n) (by rw [form]; decide)
      rw [Node.statement_plain plain, Node.statement_plain ((hv.plainStatement? n).trans plain)]
    | namespaceBlock =>
      rw [Node.statement_namespace form, Node.statement_namespace (form'.trans form)]
      exact hv.namespaceStatement ih
    | other =>
      rw [Node.statement_other form, Node.statement_other (form'.trans form)]
      rw [hv.read, hv.type, hv.line]

/-- A mapped tree has the same outcome: result, rejections and events. -/
theorem scanFile (path : String) (root : Node) :
    (v root).scanFile σ path = root.scanFile σ path := by
  rw [Node.scanFile_eq, Node.scanFile_eq, hv.reach, hv.namedParts, hv.reachAll, collect_map]
  refine bind_congr fun _ => ?_
  refine bind_congr fun _ => ?_
  exact collect_congr fun m _ => hv.scanned (hv.statement m _)

end KeepsContent

/-! ## Numbers of rows -/

namespace Node

mutual

/-- The tree with its rows numbered anew. -/
def renumbered (f : Nat → Nat) : Node → Node
  | ⟨row, type, named, start, stop, line, text, fields, children⟩ =>
    ⟨f row, type, named, start, stop, line, text, fields, renumberedAll f children⟩

/-- The trees with their rows numbered anew. -/
def renumberedAll (f : Nat → Nat) : List Node → List Node
  | [] => []
  | n :: ns => n.renumbered f :: renumberedAll f ns

end

theorem renumberedAll_eq (f : Nat → Nat) (ns : List Node) :
    renumberedAll f ns = ns.map (renumbered f) := by
  induction ns with
  | nil => rfl
  | cons n ns ih => rw [renumberedAll, ih, List.map_cons]

/-- A translation does not look at the numbers of rows. -/
theorem keepsContent_renumbered (f : Nat → Nat) : KeepsContent (renumbered f) := by
  have type : ∀ n : Node, (n.renumbered f).type = n.type := fun n => by cases n; rfl
  have fields : ∀ n : Node, (n.renumbered f).fields = n.fields := fun n => by cases n; rfl
  have children : ∀ n : Node, (n.renumbered f).children = n.children.map (renumbered f) := by
    intro n
    cases n
    exact renumberedAll_eq f _
  have text : ∀ n : Node, (n.renumbered f).text = n.text := fun n => by cases n; rfl
  have named : ∀ n : Node, (n.renumbered f).named = n.named := fun n => by cases n; rfl
  have line : ∀ n : Node, (n.renumbered f).line = n.line := fun n => by cases n; rfl
  exact ⟨.of_children type text named fields children, line⟩

end Node

end KotlinStubs
