import KotlinStubs.Proofs.ComposedName
import KotlinStubs.Proofs.Content
import KotlinStubs.Proofs.FirstFault

/-!
# Function types of methods

An optional method becomes a property of function type.  The text of this type is put together from
the descriptors of the parameters, in which a rest parameter has the type of one element; that of a
function type in the source is put together from the names of the types in it.  Both have the same
text if their parameters and results are the same, wherever they stand.

* `KeepsTexts.result_typeName`: the name of a type does not depend on the place of its nodes.
* `Node.HasElement.typeName_eq_ok`: the name of the array type of a rest parameter is that of its
  element, wrapped again.
* `Node.IsPlainParameter.lambdaText_eq`: one parameter.
* `lambdaText_eq_typeName`: methods and function types.
-/

namespace KotlinStubs

namespace Translation

variable {α β : Type}

theorem result_map (f : α → β) (x : Translation α) : (f <$> x).result = f <$> x.result := by
  rw [map_eq_pure_bind, result_bind]
  cases x.result <;> rfl

theorem result_mapM_congr {f g : α → Translation β} {as : List α}
    (h : ∀ a ∈ as, (f a).result = (g a).result) : (as.mapM f).result = (as.mapM g).result := by
  induction as with
  | nil => rfl
  | cons a as ih =>
    have others := ih fun b hb => h b (List.mem_cons_of_mem a hb)
    simp only [List.mapM_cons, result_bind, h a List.mem_cons_self, others]

end Translation

open Translation

/-! ## Places in the source -/

/-- The name of a type does not depend on the lines of its nodes.  The induction is on the weight of
the node. -/
theorem KeepsTexts.result_typeName {v : Node → Node} (hv : KeepsTexts v) (n : Node) :
    (v n).typeName.result = n.typeName.result := by
  induction h : n.weight using Nat.strongRecOn generalizing n with
  | ind w ih =>
    rw [Node.typeName_eq, Node.typeName_eq n]
    cases unresolved : n.isUnresolved with
    | true =>
      -- the remark holds the line, the result does not
      rw [Node.expand_unresolved unresolved,
        Node.expand_unresolved ((hv.isUnresolved n).trans unresolved), hv.read]
      simp only [result_bind]
      rfl
    | false =>
      rw [hv.expand unresolved, bind_map_left, result_bind, result_bind]
      cases he : n.expand.result with
      | error e => rfl
      | ok e =>
        cases e with
        | name text => rfl
        | compound template operands =>
          have light := Node.weight_expand he
          have each : ∀ o ∈ operands,
              ((Operand.typeName ∘ Operand.map v) o).result = o.typeName.result := by
            intro o ho
            cases o with
            | name text => rfl
            | node m =>
              have lighter : m.weight ≤ Operand.weightAll operands :=
                Operand.weight_le_weightAll_of_mem ho
              exact ih m.weight (by omega) m rfl
          show (template.fill <$> (operands.map (Operand.map v)).mapM Operand.typeName).result =
            (template.fill <$> operands.mapM Operand.typeName).result
          rw [result_map, result_map, List.mapM_map, result_mapM_congr each]

theorem KeepsTexts.result_typeNameOrAny {v : Node → Node} (hv : KeepsTexts v) (n? : Option Node) :
    (Node.typeNameOrAny (n?.map v)).result = (Node.typeNameOrAny n?).result := by
  cases n? with
  | none => rfl
  | some n => exact hv.result_typeName n

namespace Node

mutual

/-- The tree without the places of its nodes. -/
def unplaced : Node → Node
  | ⟨_, type, named, _, _, _, text, fields, children⟩ =>
    ⟨0, type, named, 0, 0, 0, text, fields, unplacedAll children⟩

/-- The trees without the places of their nodes. -/
def unplacedAll : List Node → List Node
  | [] => []
  | n :: ns => n.unplaced :: unplacedAll ns

end

theorem keepsTexts_unplaced : KeepsTexts unplaced := by
  have type : ∀ n : Node, n.unplaced.type = n.type := fun n => by cases n; rfl
  have text : ∀ n : Node, n.unplaced.text = n.text := fun n => by cases n; rfl
  have named : ∀ n : Node, n.unplaced.named = n.named := fun n => by cases n; rfl
  have fields : ∀ n : Node, n.unplaced.fields = n.fields := fun n => by cases n; rfl
  have all (ns : List Node) : unplacedAll ns = ns.map unplaced := by
    induction ns with
    | nil => rfl
    | cons n ns ih => rw [unplacedAll, ih, List.map_cons]
  have children : ∀ n : Node, n.unplaced.children = n.children.map unplaced := by
    intro n
    cases n
    exact all _
  exact .of_children type text named fields children

/-- Two trees of the same form with the same texts, wherever they stand and whatever role they
have. -/
def SameContent (n m : Node) : Prop :=
  ({ n.unplaced with fields := [] } : Node) = { m.unplaced with fields := [] }

/-- The role of a node does not count for its name. -/
theorem typeName_withoutRole (n : Node) :
    ({ n with fields := [] } : Node).typeName = n.typeName := by
  have expand : ({ n with fields := [] } : Node).expand = n.expand := by cases n; rfl
  rw [typeName_eq, typeName_eq n, expand]

variable {σ : Settings} {n m p q : Node}

theorem SameContent.result_typeName (h : n.SameContent m) :
    n.typeName.result = m.typeName.result := by
  rw [← keepsTexts_unplaced.result_typeName n, ← keepsTexts_unplaced.result_typeName m,
    ← typeName_withoutRole n.unplaced, ← typeName_withoutRole m.unplaced]
  exact congrArg (fun n : Node => n.typeName.result) h

theorem SameContent.result_declaredTypeName (h : p.SameContent q) :
    (typeNameOrAny p.declaredType?).result = (typeNameOrAny q.declaredType?).result := by
  have declared : p.declaredType?.map unplaced = q.declaredType?.map unplaced := by
    have same : ({ p.unplaced with fields := [] } : Node).declaredType? =
        ({ q.unplaced with fields := [] } : Node).declaredType? := congrArg declaredType? h
    rw [← keepsTexts_unplaced.declaredType?, ← keepsTexts_unplaced.declaredType?]
    exact same
  rw [← keepsTexts_unplaced.result_typeNameOrAny, declared,
    keepsTexts_unplaced.result_typeNameOrAny]

/-! ## Parameters -/

/-- What an array type gives as its element is determined, as its forms exclude each other. -/
theorem HasElement.unique {declared : Node} {element element' : Option Node}
    (h : declared.HasElement element) (h' : declared.HasElement element') :
    element = element' := by
  cases h with
  | array kind =>
    cases h' with
    | array => rfl
    | generic kind' => cases kind.symm.trans kind'
  | generic kind _ _ found single =>
    cases h' with
    | array kind' => cases kind.symm.trans kind'
    | generic _ _ _ found' single' =>
      cases found.symm.trans found'
      cases single.symm.trans single'
      rfl

/-- The name of an array type is that of its element, wrapped. -/
theorem HasElement.typeName_eq_ok {declared element : Node} {text : String}
    (h : declared.HasElement (some element)) (named : declared.typeName.result = .ok text) :
    ∃ inner, element.typeName.result = .ok inner ∧ text = arrayName ++ "<" ++ inner ++ ">" := by
  generalize h' : some element = element? at h
  cases h with
  | array kind =>
    rw [typeName_array kind, ← h'] at named
    obtain ⟨_, _, named⟩ := result_bind_eq_ok.1 named
    obtain ⟨inner, hinner, named⟩ := result_bind_eq_ok.1 named
    cases named
    exact ⟨inner, hinner, rfl⟩
  | generic kind hname htext hargs single =>
    cases h'
    rw [typeName_generic kind, hname, hargs] at named
    obtain ⟨_, _, named⟩ := result_bind_eq_ok.1 named
    obtain ⟨_, _, named⟩ := result_bind_eq_ok.1 named
    dsimp only at named
    rw [read_of_text htext, pure_bind, single, List.mapM_cons, List.mapM_nil] at named
    obtain ⟨_, _, named⟩ := result_bind_eq_ok.1 named
    obtain ⟨names, hnames, named⟩ := result_bind_eq_ok.1 named
    obtain ⟨inner, hinner, hnames⟩ := result_bind_eq_ok.1 hnames
    cases hnames
    cases named
    exact ⟨inner, hinner, rfl⟩

theorem parameterType_of_not_rest (rest : p.isRest = false) :
    p.parameterType = pure p.declaredType? := by
  unfold parameterType
  rw [rest]
  cases p.declaredType? <;> rfl

theorem element_of_parameterType {declared element : Node} {type? : Option Node}
    (rest : p.isRest = true) (found : p.declaredType? = some declared)
    (has : declared.HasElement (some element)) (done : p.parameterType.result = .ok type?) :
    type? = some element := by
  rw [parameterType, found] at done
  dsimp only at done
  rw [if_pos rest] at done
  exact (hasElement_of_restElement done).unique has

/-- A parameter that is not marked `?`; as a rest parameter it is declared with an array type that
has an element. -/
structure IsPlainParameter (p : Node) : Prop where
  required : p.hasPart "?" = false
  rest : p.isRest = true →
    ∃ declared element, p.declaredType? = some declared ∧ declared.HasElement (some element)

/-- A plain parameter stands in a function type with the name of its declared type: what is taken
off the type of a rest parameter is put on again. -/
theorem IsPlainParameter.lambdaText_eq {param : FunParam} {text : String}
    (plain : p.IsPlainParameter) (done : (p.parameter σ).result = .ok param)
    (named : (typeNameOrAny p.declaredType?).result = .ok text) : param.lambdaText = text := by
  unfold parameter at done
  obtain ⟨_, _, done⟩ := result_bind_eq_ok.1 done
  obtain ⟨_, _, done⟩ := result_bind_eq_ok.1 done
  obtain ⟨type?, found, done⟩ := result_bind_eq_ok.1 done
  obtain ⟨typeName, htypeName, done⟩ := result_bind_eq_ok.1 done
  obtain ⟨_, _, done⟩ := result_bind_eq_ok.1 done
  obtain ⟨_, _, done⟩ := result_bind_eq_ok.1 done
  cases done
  unfold FunParam.lambdaText
  cases rest : p.isRest with
  | true =>
    obtain ⟨declared, element, hdeclared, has⟩ := plain.rest rest
    cases element_of_parameterType rest hdeclared has found
    rw [hdeclared] at named
    obtain ⟨inner, hinner, rfl⟩ := has.typeName_eq_ok named
    cases hinner.symm.trans htypeName
    rw [if_pos rfl]
  | false =>
    rw [parameterType_of_not_rest rest] at found
    cases found
    cases named.symm.trans htypeName
    rw [if_neg Bool.false_ne_true, plain.required, if_neg Bool.false_ne_true]

theorem isVararg_of_parameter {param : FunParam} (done : (p.parameter σ).result = .ok param) :
    param.type.isVararg = p.isRest := by
  have vararg : (p.parameter σ).Gives fun param => param.type.isVararg = p.isRest := by
    unfold parameter
    refine gives_bind fun _ => gives_bind fun _ => gives_bind fun _ => gives_bind fun _ => ?_
    exact gives_bind fun _ => gives_bind fun _ => gives_pure rfl
  exact vararg param done

/-- Plain parameters stand in a function type as those of the same content in the source do. -/
theorem lambdaTexts_of_parameters {ps qs : List Node} {params : List FunParam}
    (same : List.Forall₂ SameContent ps qs) (plain : ∀ p ∈ ps, p.IsPlainParameter)
    (named : ∀ p ∈ ps, ∃ text, (typeNameOrAny p.declaredType?).result = .ok text)
    (done : (ps.mapM (parameter σ)).result = .ok params) :
    (qs.mapM fun q => typeNameOrAny q.declaredType?).result =
      .ok (params.map FunParam.lambdaText) := by
  induction same generalizing params with
  | nil =>
    cases done
    rfl
  | @cons p q ps qs first others ih =>
    rw [List.mapM_cons] at done
    obtain ⟨param, hparam, done⟩ := result_bind_eq_ok.1 done
    obtain ⟨rest, hrest, done⟩ := result_bind_eq_ok.1 done
    cases done
    obtain ⟨text, htext⟩ := named p List.mem_cons_self
    have head : param.lambdaText = text := (plain p List.mem_cons_self).lambdaText_eq hparam htext
    have tail := ih (fun k hk => plain k (List.mem_cons_of_mem p hk))
      (fun k hk => named k (List.mem_cons_of_mem p hk)) hrest
    rw [first.result_declaredTypeName, ← head] at htext
    rw [List.mapM_cons]
    exact result_bind_eq_ok.2 ⟨_, htext, result_bind_eq_ok.2 ⟨_, tail, rfl⟩⟩

/-! ## Results -/

/-- A method returns what a function type does: in an annotation there, bare here. -/
def ReturnsSame (m f : Node) : Prop :=
  (m.child? .returnType = none ∧ f.child? .returnType = none) ∨
    ∃ clause result result', m.child? .returnType = some clause ∧ clause.kind = .typeClause ∧
      clause.firstNamed? = some result ∧ f.child? .returnType = some result' ∧
      result.SameContent result'

/-- A method has the same text for its result as a function type that returns the same. -/
theorem ReturnsSame.result_eq {f : Node} {text : String} (h : m.ReturnsSame f)
    (done : m.resultTypeName.result = .ok text) : f.resultOperand.typeName.result = .ok text := by
  unfold resultTypeName at done
  obtain ⟨_, _, done⟩ := result_bind_eq_ok.1 done
  unfold resultOperand
  rcases h with ⟨none, none'⟩ | ⟨clause, result, result', found, kind, inner, found', same⟩
  · rw [none] at done
    rw [none']
    exact done
  · rw [found] at done
    dsimp only at done
    rw [clauseTypeName, if_pos kind, inner] at done
    obtain ⟨_, _, done⟩ := result_bind_eq_ok.1 done
    rw [found']
    exact same.result_typeName.symm.trans done

/-! ## Callables -/

variable {root : Node}

/-- The parameters of a callable are translated one by one. -/
theorem callParameters_eq_ok {params : List FunParam}
    (h : (n.callParameters σ).result = .ok params) :
    (n.parameterNodes.mapM (parameter σ)).result = .ok params := by
  unfold callParameters at h
  obtain ⟨_, _, h⟩ := result_bind_eq_ok.1 h
  cases found : n.child? .parameters with
  | none =>
    rw [found] at h
    rw [parameterNodes, found]
    exact h
  | some list =>
    rw [found] at h
    obtain ⟨_, _, h⟩ := result_bind_eq_ok.1 h
    rw [parameterNodes, found]
    exact h

theorem callSignature_eq_ok {signature : CallSignature}
    (h : (n.callSignature σ).result = .ok signature) :
    (n.callParameters σ).result = .ok signature.params ∧
      n.resultTypeName.result = .ok signature.returnType.typeName := by
  unfold callSignature at h
  obtain ⟨_, _, h⟩ := result_bind_eq_ok.1 h
  obtain ⟨_, _, h⟩ := result_bind_eq_ok.1 h
  obtain ⟨params, hparams, h⟩ := result_bind_eq_ok.1 h
  obtain ⟨result, hresult, h⟩ := result_bind_eq_ok.1 h
  cases h
  exact ⟨hparams, hresult⟩

theorem IsPlainParameter.not_isFaulty (plain : p.IsPlainParameter) : ¬ p.IsFaulty := by
  intro faulty
  obtain ⟨declared, element, found, has⟩ := plain.rest faulty.1
  exact faulty.not_hasElement found has

theorem exists_callSignature (readable : root.IsReadable) (hn : n ∈ root.preorder)
    (plain : ∀ p ∈ n.parameterNodes, p.IsPlainParameter) :
    ∃ signature, (n.callSignature σ).result = .ok signature := by
  rw [← fault?_eq_none, readable.fault?_eq (asks_callSignature hn),
    firstFault?_eq_none readable fun p hp => mem_of_parameterNodes hn hp]
  exact fun p hp => (plain p hp).not_isFaulty

/-- All declared types have names. -/
theorem exists_declaredTypeName (readable : root.IsReadable) (hp : p ∈ root.preorder) :
    ∃ text, (typeNameOrAny p.declaredType?).result = .ok text :=
  readable.exists_ok (reads_typeNameOrAny fun _ found => mem_of_declaredType? hp found)

/-- The name of a function type, given those of its parameters and of its result. -/
theorem typeName_function_eq_ok {names : List String} {result : String}
    (readable : root.IsReadable) (hn : n ∈ root.preorder) (kind : n.kind = .functionType)
    (parameters : (n.parameterNodes.mapM fun p => typeNameOrAny p.declaredType?).result = .ok names)
    (returns : n.resultOperand.typeName.result = .ok result) :
    n.typeName.result = .ok ("(" ++ Text.join ", " names ++ ") -> " ++ result) := by
  obtain ⟨_, list⟩ := readable.exists_ok (reads_reachChild hn .parameters)
  obtain ⟨_, type⟩ := readable.exists_ok (reads_reachChild hn .returnType)
  obtain ⟨_, inner⟩ := readable.exists_ok (reads_reachParameters hn)
  rw [typeName_function kind]
  exact result_bind_eq_ok.2 ⟨_, list, result_bind_eq_ok.2 ⟨_, type, result_bind_eq_ok.2 ⟨_, inner,
    result_bind_eq_ok.2 ⟨_, parameters, result_bind_eq_ok.2 ⟨_, returns, rfl⟩⟩⟩⟩⟩

end Node

/-- **Function types.** The function type of a method whose parameters are plain is put together and
has the very name of a function type node with the same parameters and the same result; the type of
a rest parameter in it has the name of the type that it is declared with. -/
theorem lambdaText_eq_typeName {σ : Settings} {m f : Node} (readable : m.IsReadable)
    (readable' : f.IsReadable) (type : f.type = "function_type")
    (parameters : List.Forall₂ Node.SameContent m.parameterNodes f.parameterNodes)
    (plain : ∀ p ∈ m.parameterNodes, p.IsPlainParameter) (returns : m.ReturnsSame f) :
    (∃ signature, (m.callSignature σ).result = .ok signature ∧
      f.typeName.result = .ok signature.lambdaText) ∧
    ∀ p ∈ m.parameterNodes, p.isRest = true → ∀ declared, p.declaredType? = some declared →
      ∃ param, (p.parameter σ).result = .ok param ∧
        declared.typeName.result = .ok (arrayName ++ "<" ++ param.type.typeName ++ ">") := by
  have inTree := m.mem_preorder_self
  have kind : f.kind = .functionType := by
    rw [Node.kind, type]
    rfl
  constructor
  · obtain ⟨signature, done⟩ := Node.exists_callSignature readable inTree plain
    obtain ⟨params, result⟩ := Node.callSignature_eq_ok done
    have named : ∀ p ∈ m.parameterNodes,
        ∃ text, (Node.typeNameOrAny p.declaredType?).result = .ok text := fun p hp =>
      Node.exists_declaredTypeName readable (Node.mem_of_parameterNodes inTree hp)
    have texts := Node.lambdaTexts_of_parameters parameters plain named
      (Node.callParameters_eq_ok params)
    exact ⟨signature, done, Node.typeName_function_eq_ok readable' f.mem_preorder_self kind texts
      (returns.result_eq result)⟩
  · intro p hp rest declared found
    have hp' := Node.mem_of_parameterNodes inTree hp
    have sound := (plain p hp).not_isFaulty
    have decided : (p.parameter σ).fault? = none := by
      rw [readable.fault?_eq (Node.asks_parameter hp'),
        Node.firstFault?_eq_none readable (List.forall_mem_singleton.2 hp')]
      exact List.forall_mem_singleton.2 sound
    obtain ⟨param, done⟩ := fault?_eq_none.1 decided
    obtain ⟨text, named⟩ := Node.exists_declaredTypeName readable hp'
    have whole : param.lambdaText = arrayName ++ "<" ++ param.type.typeName ++ ">" := by
      rw [FunParam.lambdaText, Node.isVararg_of_parameter done, if_pos rest]
    rw [← (plain p hp).lambdaText_eq done named, whole, found] at named
    exact ⟨param, done, named⟩

namespace Node

/-- `(x, ...a: b[])`, as the parameters of a callable -/
def restOfArray : Node :=
  branch "formal_parameters" "(x, ...a: b[])" [.parameters] [
    token "(",
    untypedParameter,
    token ",",
    restParameter arrayOfName,
    token ")"]

/-- `m?(x, ...a: b[]): string` -/
def optionalMethodOfRest : Node :=
  branch "method_signature" "m?(x, ...a: b[]): string" [] [
    leaf "property_identifier" "m" [.name],
    token "?",
    restOfArray,
    branch "type_annotation" ": string" [.returnType] [
      token ":",
      leaf "predefined_type" "string" []]]

/-- `(x, ...a: b[]) => string`, on a later line -/
def functionTypeOfRest : Node :=
  branch "function_type" "(x, ...a: b[]) => string" [] [
    restOfArray,
    token "=>",
    { leaf "predefined_type" "string" [.returnType] with line := 2 }]

/-- The rest parameter is an array in both texts, and the untyped one takes all values. -/
theorem lambdaText_eq_typeName_optionalMethodOfRest :
    ∃ signature, (optionalMethodOfRest.callSignature {}).result = .ok signature ∧
      functionTypeOfRest.typeName.result = .ok signature.lambdaText := by
  have readable : optionalMethodOfRest.IsReadable := by
    unfold IsReadable
    decide
  have readable' : functionTypeOfRest.IsReadable := by
    unfold IsReadable
    decide
  have untyped : untypedParameter.IsPlainParameter := ⟨rfl, nofun⟩
  have rest : (restParameter arrayOfName).IsPlainParameter :=
    ⟨rfl, fun _ => ⟨arrayOfName, leaf "type_identifier" "b" [], rfl, .array rfl⟩⟩
  have plain : ∀ p ∈ optionalMethodOfRest.parameterNodes, p.IsPlainParameter := by
    intro p hp
    have parameters : optionalMethodOfRest.parameterNodes =
        [untypedParameter, restParameter arrayOfName] := rfl
    rw [parameters] at hp
    simp only [List.mem_cons, List.not_mem_nil, or_false] at hp
    rcases hp with rfl | rfl
    · exact untyped
    · exact rest
  have returns : optionalMethodOfRest.ReturnsSame functionTypeOfRest :=
    Or.inr ⟨_, leaf "predefined_type" "string" [], _, rfl, rfl, rfl, rfl, rfl⟩
  exact (lambdaText_eq_typeName readable readable' rfl (.cons rfl (.cons rfl .nil)) plain returns).1

end Node

end KotlinStubs
