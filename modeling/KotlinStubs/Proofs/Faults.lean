import KotlinStubs.Proofs.Reads

/-!
# Causes of faults

Every fault that ends a translation has its cause in the tree (`Fault.HasCause`): a rest parameter
declared with a type that is no array, or as an `Array` with a number of arguments other than one, a
variable declaration with an entry that is no declarator, or a node whose text cannot be read.

`x.Asks root ps` says that a translation asks for the types of the parameters `ps`, in their order,
and else only reads the tree: it ends with the fault of the first of them that has one, unless with
a text that cannot be read.

* `Node.onlyFails_parameterType`: the faults of one parameter.
* `Asks.bind`, `Asks.mapM`: parameters are asked in the order of the parts.
* `Node.asks_plainStatement`: statements ask the parameters of the callables in them.
* `Node.sound_plainStatement`: the faults of statements that hold no others.
-/

namespace KotlinStubs

open Translation

/-! ## Causes -/

namespace Node

/-- The parameters of a callable or function type. -/
def parameterNodes (n : Node) : List Node :=
  match n.child? .parameters with
  | some list => list.payloads parentheses
  | none => []

/-- A parameter of some callable in the tree. -/
def HoldsParameter (root p : Node) : Prop :=
  ∃ n ∈ root.preorder, ∃ list, n.child? .parameters = some list ∧ p ∈ list.payloads parentheses

/-- A rest parameter that is declared with the generic type `Array` and so many arguments. -/
def IsRestOfArray (p : Node) (count : Nat) : Prop :=
  p.isRest = true ∧ ∃ declared name args,
    p.declaredType? = some declared ∧ declared.kind = .genericType ∧
    declared.child? .name = some name ∧ name.text = some arrayName ∧
    declared.child? .typeArguments = some args ∧ (args.payloads angles).length = count

/-- The fault of a rest parameter that is declared with a type other than an array of one element
type. -/
inductive Misdeclares (p : Node) : Fault → Prop
  | shape {declared} :
      p.isRest = true →
      p.declaredType? = some declared →
      declared.kind ≠ .arrayType →
      (∀ count, ¬ p.IsRestOfArray count) →
      Misdeclares p (.restShape p.type p.line)
  | arity {count} :
      p.IsRestOfArray count →
      count ≠ 1 →
      Misdeclares p (.arrayArity count)

end Node

/-- What in a tree makes a translation end with a fault. -/
inductive Fault.HasCause (root : Node) : Fault → Prop
  | restShape {p declared} :
      root.HoldsParameter p →
      p.isRest = true →
      p.declaredType? = some declared →
      declared.kind ≠ .arrayType →
      HasCause root (.restShape p.type p.line)
  | arrayArity {p count} :
      root.HoldsParameter p →
      p.IsRestOfArray count →
      count ≠ 1 →
      HasCause root (.arrayArity count)
  | wrongEntry {n entry} :
      n ∈ root.preorder →
      StatementForm.ofType n.type = .declarators →
      entry ∈ n.payloads declaratorDelimiters →
      entry.kind ≠ .variableDeclarator →
      HasCause root (.wrongEntry .variableDeclarator entry.type)
  | undecodable {n} :
      n ∈ root.preorder →
      n.text = none →
      HasCause root .undecodable

theorem Fault.IsUnread.hasCause {root : Node} {e : Fault} (h : e.IsUnread root) :
    e.HasCause root := by
  obtain ⟨rfl, n, inTree, unread⟩ := h
  exact .undecodable inTree unread

theorem Node.Misdeclares.hasCause {root p : Node} {e : Fault} (held : root.HoldsParameter p)
    (h : p.Misdeclares e) : e.HasCause root := by
  cases h with
  | shape rest found noArray _ => exact .restShape held rest found noArray
  | arity rest several => exact .arrayArity held rest several

/-- A text that cannot be read is a cause in the tree. -/
theorem Translation.OnlyFails.sound {α : Type} {root : Node} {x : Translation α}
    (h : x.OnlyFails (Fault.IsUnread root)) : x.OnlyFails (Fault.HasCause root) :=
  h.imp fun _ => Fault.IsUnread.hasCause

/-! ## Parameters asked in turn -/

namespace Translation

variable {α β : Type} {x : Translation α}

/-- The fault that ends a translation. -/
def fault? (x : Translation α) : Option Fault :=
  match x.result with
  | .ok _ => none
  | .error e => some e

theorem fault?_eq_some {e : Fault} : x.fault? = some e ↔ x.result = .error e := by
  unfold fault?
  cases x.result with
  | ok a => simp
  | error e' => simp

theorem fault?_eq_none : x.fault? = none ↔ ∃ a, x.result = .ok a := by
  unfold fault?
  cases x.result with
  | ok a => simp
  | error e => simp

end Translation

/-- The fault of the first of the parameters that has one. -/
def Node.firstFault? (ps : List Node) : Option Fault :=
  ps.findSome? fun p => p.parameterType.fault?

theorem Node.firstFault?_append (ps qs : List Node) :
    firstFault? (ps ++ qs) = (firstFault? ps).or (firstFault? qs) :=
  List.findSome?_append

namespace Translation

variable {α β : Type} {root : Node} {ps qs : List Node} {x : Translation α}
  {f : α → Translation β}

/-- The fault of the first of the parameters that has one ends the translation, unless a text does
that cannot be read. -/
structure Asks (root : Node) (x : Translation α) (ps : List Node) : Prop extends
    x.OnlyFails fun e => e.IsUnread root ∨ Node.firstFault? ps = some e where
  passed : ∀ a, x.result = .ok a → Node.firstFault? ps = none

/-- What only reads asks for no parameter. -/
theorem OnlyFails.asks (hx : root.Reads x) : x.Asks root [] where
  toOnlyFails := hx.imp fun _ => Or.inl
  passed := fun _ _ => rfl

theorem asks_pure (a : α) : (pure a : Translation α).Asks root [] := (onlyFails_pure a).asks

theorem Asks.bind (hx : x.Asks root ps) (hf : ∀ a, x.result = .ok a → (f a).Asks root qs) :
    (x >>= f).Asks root (ps ++ qs) where
  toOnlyFails := by
    refine OnlyFails.bind (hx.toOnlyFails.imp fun e cause => ?_) fun a ha =>
      (hf a ha).toOnlyFails.imp fun e cause => ?_
    · refine cause.imp_right fun found => ?_
      rw [Node.firstFault?_append, found, Option.some_or]
    · rwa [Node.firstFault?_append, hx.passed a ha, Option.none_or]
  passed := by
    intro b hb
    obtain ⟨a, ha, hb⟩ := result_bind_eq_ok.1 hb
    rw [Node.firstFault?_append, hx.passed a ha, (hf a ha).passed b hb, Option.none_or]

/-- Reading comes before the parameters. -/
theorem OnlyFails.thenAsks (hx : root.Reads x)
    (hf : ∀ a, x.result = .ok a → (f a).Asks root ps) : (x >>= f).Asks root ps :=
  hx.asks.bind hf

/-- Only reading comes behind the parameters. -/
theorem Asks.thenReads (hx : x.Asks root ps)
    (hf : ∀ a, x.result = .ok a → root.Reads (f a)) : (x >>= f).Asks root ps := by
  have whole := hx.bind fun a ha => (hf a ha).asks
  rwa [List.append_nil] at whole

theorem Asks.map (hx : x.Asks root ps) (g : α → β) : (g <$> x).Asks root ps := by
  rw [map_eq_pure_bind]
  exact hx.thenReads fun a _ => onlyFails_pure (g a)

theorem Asks.mapM {as : List α} {parameters : α → List Node}
    (h : ∀ a ∈ as, (f a).Asks root (parameters a)) :
    (as.mapM f).Asks root (as.flatMap parameters) := by
  induction as with
  | nil => exact asks_pure []
  | cons a as ih =>
    have first := h a List.mem_cons_self
    have others := ih fun b hb => h b (List.mem_cons_of_mem a hb)
    rw [List.mapM_cons, List.flatMap_cons]
    exact first.bind fun _ _ => others.thenReads fun _ _ => onlyFails_pure _

end Translation

namespace Node

variable {σ : Settings} {root n : Node}

/-- The translation only fails, and that for a cause in the tree. -/
abbrev Sound {α : Type} (root : Node) (x : Translation α) : Prop :=
  x.OnlyFails (Fault.HasCause root)

theorem HoldsParameter.mem {p : Node} (h : root.HoldsParameter p) : p ∈ root.preorder := by
  obtain ⟨n, hn, list, found, hp⟩ := h
  exact mem_of_payloads (mem_of_child? hn found) hp

theorem holdsParameter_of_mem {p : Node} (hn : n ∈ root.preorder) (hp : p ∈ n.parameterNodes) :
    root.HoldsParameter p := by
  unfold parameterNodes at hp
  split at hp
  · next list found => exact ⟨n, hn, list, found, hp⟩
  · cases hp

theorem mem_of_parameterNodes {p : Node} (hn : n ∈ root.preorder) (hp : p ∈ n.parameterNodes) :
    p ∈ root.preorder :=
  (holdsParameter_of_mem hn hp).mem

/-! ## Parameters -/

/-- A type that is neither an array type nor `Array` with arguments is of the wrong shape. -/
theorem misdeclares_shape {p declared : Node} (rest : p.isRest = true)
    (found : p.declaredType? = some declared) (noArray : declared.kind ≠ .arrayType)
    (other : ∀ name args, declared.kind = .genericType → declared.child? .name = some name →
      name.text = some arrayName → declared.child? .typeArguments ≠ some args) :
    p.Misdeclares (.restShape p.type p.line) := by
  refine .shape rest found noArray ?_
  rintro count ⟨-, declared', name, args, found', kind, hname, named, hargs, -⟩
  cases found.symm.trans found'
  exact other name args kind hname named hargs

/-- The type of a rest parameter has an element, or the parameter misdeclares it. -/
theorem onlyFails_restElement {p declared : Node} (hp : p ∈ root.preorder)
    (rest : p.isRest = true) (found : p.declaredType? = some declared) :
    (p.restElement declared).OnlyFails fun e => p.Misdeclares e ∨ e.IsUnread root := by
  have inTree := mem_of_declaredType? hp found
  have reads {α : Type} {x : Translation α} (h : root.Reads x) :
      x.OnlyFails fun e => p.Misdeclares e ∨ e.IsUnread root :=
    h.imp fun _ => Or.inr
  unfold restElement
  cases kind : declared.kind with
  | arrayType => exact (reads (reads_reachFirstNamed inTree)).bind fun _ _ => onlyFails_pure _
  | genericType =>
    have shape := misdeclares_shape rest found (by rw [kind]; decide)
    refine (reads (reads_reachChild inTree _)).bind fun _ _ => ?_
    refine (reads (reads_reachChild inTree _)).bind fun _ _ => ?_
    split
    · next nameless =>
      refine onlyFails_fail (Or.inl (shape fun name _ _ hname => ?_))
      cases nameless.symm.trans hname
    · next name hname =>
      refine (reads (reads_read (mem_of_child? inTree hname))).bind fun text htext => ?_
      split
      · next args hargs =>
        split
        · next isArray =>
          refine (reads (reads_reachEntries (mem_of_child? inTree hargs) _)).bind fun _ _ => ?_
          split
          · exact onlyFails_pure _
          · next others several =>
            have named : name.text = some arrayName := isArray ▸ text_of_read htext
            refine onlyFails_fail (Or.inl (.arity ?_ ?_))
            · exact ⟨rest, declared, name, args, found, kind, hname, named, hargs, rfl⟩
            · intro single
              obtain ⟨element, h⟩ := List.length_eq_one_iff.1 single
              exact several element h
        · next otherName =>
          refine onlyFails_fail (Or.inl (shape fun name' _ _ hname' named => ?_))
          cases hname.symm.trans hname'
          cases (text_of_read htext).symm.trans named
          exact absurd rfl otherName
      · next noArguments =>
        refine onlyFails_fail (Or.inl (shape fun _ args _ _ _ hargs => ?_))
        cases noArguments.symm.trans hargs
  | _ =>
    refine onlyFails_fail (Or.inl (misdeclares_shape rest found (by rw [kind]; decide) ?_))
    intro _ _ generic
    rw [kind] at generic
    cases generic

/-- The type of a parameter is a node of the tree, or the parameter misdeclares it. -/
theorem onlyFails_parameterType {p : Node} (hp : p ∈ root.preorder) :
    p.parameterType.OnlyFails fun e => p.Misdeclares e ∨ e.IsUnread root := by
  unfold parameterType
  split
  · exact onlyFails_pure none
  · next declared found =>
    split
    · next rest => exact onlyFails_restElement hp rest found
    · exact onlyFails_pure _

theorem asks_parameterType {p : Node} (hp : p ∈ root.preorder) :
    p.parameterType.Asks root [p] := by
  have only := onlyFails_parameterType hp
  refine ⟨⟨only.remarks, only.silent, fun e failed => Or.inr ?_⟩, fun type? done => ?_⟩
  · rw [firstFault?, List.findSome?_singleton]
    exact fault?_eq_some.2 failed
  · rw [firstFault?, List.findSome?_singleton]
    exact fault?_eq_none.2 ⟨type?, done⟩

/-- The fault of the first of the parameters of a tree has its cause in the tree. -/
theorem hasCause_of_firstFault? {ps : List Node} {e : Fault}
    (held : ∀ p ∈ ps, root.HoldsParameter p) (first : firstFault? ps = some e) :
    e.HasCause root := by
  obtain ⟨p, hp, failed⟩ := List.exists_of_findSome?_eq_some first
  rcases (onlyFails_parameterType (held p hp).mem).fault e (fault?_eq_some.1 failed) with
    misdeclared | unread
  · exact misdeclared.hasCause (held p hp)
  · exact unread.hasCause

end Node

/-- What asks parameters of the tree only fails for a cause in the tree. -/
theorem Translation.Asks.sound {α : Type} {root : Node} {ps : List Node} {x : Translation α}
    (hx : x.Asks root ps) (held : ∀ p ∈ ps, root.HoldsParameter p) : root.Sound x :=
  hx.toOnlyFails.imp fun _ cause =>
    cause.elim Fault.IsUnread.hasCause (Node.hasCause_of_firstFault? held)

namespace Node

variable {σ : Settings} {root n : Node}

/-! ## Callables -/

theorem asks_parameter {p : Node} (hp : p ∈ root.preorder) :
    (p.parameter σ).Asks root [p] := by
  unfold parameter
  refine (reads_reachParts hp).thenAsks fun _ _ => ?_
  refine (reads_reachDeclaredType hp).thenAsks fun _ _ => ?_
  refine (asks_parameterType hp).thenReads fun type? htype => ?_
  have type : ∀ n, type? = some n → n ∈ root.preorder := by
    rintro n rfl
    exact mem_of_parameterType hp htype
  refine (reads_typeNameOrAny type).bind fun _ _ => (reads_parameterDefault hp).bind fun _ _ => ?_
  exact (reads_parameterName hp).bind fun _ _ => onlyFails_pure _

section

variable (hn : n ∈ root.preorder)
include hn

/-- A callable asks all its parameters, in their order. -/
theorem asks_callParameters : (n.callParameters σ).Asks root n.parameterNodes := by
  unfold callParameters
  refine (reads_reachChild hn _).thenAsks fun _ _ => ?_
  cases found : n.child? .parameters with
  | none =>
    rw [parameterNodes, found]
    exact asks_pure []
  | some list =>
    have inTree := mem_of_child? hn found
    rw [parameterNodes, found]
    refine (reads_reachEntries inTree _).thenAsks fun _ _ => ?_
    have each : ((list.payloads parentheses).mapM (parameter σ)).Asks root
        ((list.payloads parentheses).flatMap fun p => [p]) :=
      Asks.mapM fun p hp => asks_parameter (mem_of_payloads inTree hp)
    rwa [List.flatMap_singleton'] at each

theorem asks_callSignature : (n.callSignature σ).Asks root n.parameterNodes := by
  unfold callSignature
  refine (reads_reachChild hn _).thenAsks fun _ _ => ?_
  refine (reads_typeParameters? hn).thenAsks fun _ _ => ?_
  refine (asks_callParameters hn).thenReads fun _ _ => ?_
  exact (reads_resultTypeName hn).bind fun _ _ => onlyFails_pure _

theorem asks_method {name : Node} (hname : name ∈ root.preorder) :
    (n.method σ name).Asks root n.parameterNodes := by
  unfold method
  refine (asks_callSignature hn).thenReads fun signature _ => ?_
  refine (reads_kotlinName hname).bind fun escaped _ => (reads_reachParts hn).bind fun _ _ => ?_
  split
  · exact (reads_noteDropped escaped n.line signature).bind fun _ _ => onlyFails_pure _
  · exact onlyFails_pure _

end

/-! ## Members -/

/-- Whether a child of an interface body is translated as a method. -/
def isInterfaceMethod (n : Node) : Bool :=
  n.type = "method_signature" ∧ n.child? .name ≠ none

/-- Whether some part is an accessibility modifier with a given keyword. -/
def hasModifier (n : Node) (keyword : String) : Bool :=
  n.parts.any fun m => m.kind = .accessibilityModifier ∧ m.text.map Text.trim = some keyword

/-- Whether a child of a class body is translated as a method: it has a name, is no constructor, and
is neither static nor private or protected. -/
def isOpenMethod (n : Node) : Bool :=
  n.type ∈ ["method_signature", "method_definition", "abstract_method_signature"] ∧
    (∃ name ∈ n.child? .name, name.text ≠ some "constructor") ∧
    n.hasPart "static" = false ∧ n.hasModifier "private" = false ∧
    n.hasModifier "protected" = false

theorem interfaceMemberForm_eq_method {type : String} :
    interfaceMemberForm type = .method ↔ type = "method_signature" := by
  constructor
  · intro form
    unfold interfaceMemberForm at form
    split at form <;> first | rfl | cases form
  · rintro rfl
    rfl

theorem classMemberForm_eq_method {type : String} :
    classMemberForm type = .method ↔
      type ∈ ["method_signature", "method_definition", "abstract_method_signature"] := by
  constructor
  · intro form
    unfold classMemberForm at form
    split at form <;> first | decide | cases form
  · intro form
    simp only [List.mem_cons, List.not_mem_nil, or_false] at form
    rcases form with rfl | rfl | rfl <;> rfl

/-- The modifiers that are read tell whether some part is a given one. -/
theorem of_anyModifier {keyword : String} {ns : List Node} {found : Bool}
    (h : (anyModifier keyword ns).result = .ok found) :
    found = ns.any fun m =>
      m.kind = .accessibilityModifier ∧ m.text.map Text.trim = some keyword := by
  induction ns with
  | nil =>
    cases h
    rfl
  | cons n ns ih =>
    rw [anyModifier] at h
    rw [List.any_cons]
    split at h
    · next kind =>
      obtain ⟨text, read, h⟩ := result_bind_eq_ok.1 h
      have htext := text_of_read read
      split at h
      · next same =>
        cases h
        simp [kind, htext, same]
      · next other =>
        rw [ih h]
        simp [htext, other]
    · next other =>
      rw [ih h]
      simp [other]

/-- A member is found hidden just if it is static or has the modifier `private` or `protected`. -/
theorem of_isHidden {hidden : Bool} (h : n.isHidden.result = .ok hidden) :
    hidden = (n.hasPart "static" || n.hasModifier "private" || n.hasModifier "protected") := by
  unfold isHidden at h
  split at h
  · next isStatic =>
    cases h
    rw [isStatic, Bool.true_or, Bool.true_or]
  · next notStatic =>
    rw [Bool.not_eq_true] at notStatic
    obtain ⟨isPrivate, modifier, h⟩ := result_bind_eq_ok.1 h
    rw [notStatic, Bool.false_or, hasModifier, ← of_anyModifier modifier]
    split at h
    · next shown =>
      cases h
      rw [shown, Bool.true_or]
    · next shown =>
      rw [Bool.not_eq_true] at shown
      rw [shown, Bool.false_or, hasModifier, of_anyModifier h]

/-- Of the members of a body, those that are translated as methods alone ask parameters. -/
theorem asks_members {β : Type} {member : Node → Translation β} {takes : Node → Bool}
    {ms : List Node}
    (each : ∀ m ∈ ms, (member m).Asks root (if takes m then m.parameterNodes else [])) :
    (ms.mapM member).Asks root ((ms.filter takes).flatMap parameterNodes) := by
  have parameters : (ms.flatMap fun m => if takes m then m.parameterNodes else []) =
      (ms.filter takes).flatMap parameterNodes := by
    clear each
    induction ms with
    | nil => rfl
    | cons m ms ih =>
      rw [List.flatMap_cons, ih, List.filter_cons]
      split
      · rw [List.flatMap_cons]
      · rfl
  rw [← parameters]
  exact Asks.mapM each

/-- No parameter is asked for a member that is passed over with a remark. -/
theorem asks_passedOver {e : Event} (debug : e.level = .debug) :
    (do note e; pure none : Translation (Option Declaration)).Asks root [] :=
  (onlyFails_note debug).thenAsks fun _ _ => asks_pure none

section

variable (hn : n ∈ root.preorder)
include hn

/-- A member of an interface asks its parameters just if it is a method. -/
theorem asks_interfaceMember :
    (n.interfaceMember σ).Asks root (if n.isInterfaceMethod then n.parameterNodes else []) := by
  unfold interfaceMember
  refine (reads_reachChild hn _).thenAsks fun _ _ => ?_
  split
  · next name found form =>
    have takes : n.isInterfaceMethod = true := by
      simp [isInterfaceMethod, found, interfaceMemberForm_eq_method.1 form]
    rw [if_pos takes]
    exact (asks_method hn (mem_of_child? hn found)).map some
  · next name found form =>
    have passes : ¬ n.isInterfaceMethod = true := by
      simp [isInterfaceMethod, ← interfaceMemberForm_eq_method, form]
    rw [if_neg passes]
    exact ((reads_property hn (mem_of_child? hn found)).map some).asks
  · next other _ =>
    have passes : ¬ n.isInterfaceMethod = true := by
      intro takes
      obtain ⟨type, named⟩ := of_decide_eq_true takes
      obtain ⟨name, found⟩ := Option.ne_none_iff_exists'.1 named
      exact other name found (interfaceMemberForm_eq_method.2 type)
    rw [if_neg passes]
    exact asks_passedOver rfl

/-- A member of a class with a name other than that of the constructor asks its parameters just if
it is a method that is not hidden. -/
theorem asks_namedClassMember {name : Node} {text : String} (found : n.child? .name = some name)
    (named : name.text = some text) (method : text ≠ "constructor") :
    (n.namedClassMember σ name).Asks root (if n.isOpenMethod then n.parameterNodes else []) := by
  have inTree := mem_of_child? hn found
  unfold namedClassMember
  refine (reads_isHidden hn).thenAsks fun hidden hhidden => ?_
  have modifiers := of_isHidden hhidden
  split
  · next isHidden =>
    have passes : ¬ n.isOpenMethod = true := by
      intro takes
      obtain ⟨-, -, notStatic, notPrivate, notProtected⟩ := of_decide_eq_true takes
      rw [isHidden, notStatic, notPrivate, notProtected] at modifiers
      cases modifiers
    rw [if_neg passes]
    exact (reads_read inTree).thenAsks fun _ _ => asks_passedOver rfl
  · next shown =>
    -- of the members that are shown, the methods alone have parameters
    rw [Bool.not_eq_true] at shown
    rw [shown] at modifiers
    simp only [Bool.false_eq, Bool.or_eq_false_iff] at modifiers
    have passes (other : classMemberForm n.type ≠ .method) : ¬ n.isOpenMethod = true :=
      fun takes => other (classMemberForm_eq_method.2 (of_decide_eq_true takes).1)
    split
    · next form =>
      have takes : n.isOpenMethod = true := by
        simp [isOpenMethod, classMemberForm_eq_method.1 form, found, named, method, modifiers]
      rw [if_pos takes]
      exact (asks_method hn inTree).map some
    · next form =>
      rw [if_neg (passes (by rw [form]; decide))]
      exact ((reads_property hn inTree).map some).asks
    · next form =>
      rw [if_neg (passes (by rw [form]; decide))]
      exact asks_passedOver rfl

/-- A member of a class asks its parameters just if it is a method that is neither hidden nor the
constructor; of any other member nothing is asked. -/
theorem asks_classMember :
    (n.classMember σ).Asks root (if n.isOpenMethod then n.parameterNodes else []) := by
  unfold classMember
  refine (reads_reachChild hn _).thenAsks fun _ _ => (reads_reachParts hn).thenAsks fun _ _ => ?_
  split
  · next nameless =>
    have passes : ¬ n.isOpenMethod = true := by simp [isOpenMethod, nameless]
    rw [if_neg passes]
    exact asks_passedOver rfl
  · next name found =>
    refine (reads_read (mem_of_child? hn found)).thenAsks fun text htext => ?_
    have named := text_of_read htext
    split
    · next constructor =>
      have passes : ¬ n.isOpenMethod = true := by simp [isOpenMethod, found, named, constructor]
      rw [if_neg passes]
      exact asks_passedOver rfl
    · next method => exact asks_namedClassMember hn found named method

end

/-! ## Statements -/

/-- The nodes in the body of an interface or class. -/
def bodyParts (n : Node) : List Node :=
  match n.child? .body with
  | some body => body.namedParts
  | none => []

/-- The parameters of the callables that a statement translates, in the order of the source. -/
def judgedParameters (n : Node) : List Node :=
  match StatementForm.ofType n.type with
  | .function => n.parameterNodes
  | .interfaceBlock => (n.bodyParts.filter isInterfaceMethod).flatMap parameterNodes
  | .classBlock => (n.bodyParts.filter isOpenMethod).flatMap parameterNodes
  | _ => []

/-- The parameters that a statement asks, none unless it has a name. -/
def askedParameters (n : Node) : List Node :=
  match n.child? .name with
  | some _ => n.judgedParameters
  | none => []

theorem askedParameters_of_name {name : Node} (named : n.child? .name = some name) :
    n.askedParameters = n.judgedParameters := by
  rw [askedParameters, named]

theorem askedParameters_of_nameless (nameless : n.child? .name = none) :
    n.askedParameters = [] := by
  rw [askedParameters, nameless]

section

variable (hn : n ∈ root.preorder)
include hn

theorem mem_of_bodyParts {m : Node} (hm : m ∈ n.bodyParts) : m ∈ root.preorder := by
  unfold bodyParts at hm
  split at hm
  · next body found => exact mem_of_namedParts (mem_of_child? hn found) hm
  · cases hm

theorem holdsParameter_of_judged {p : Node} (hp : p ∈ n.judgedParameters) :
    root.HoldsParameter p := by
  have below {takes : Node → Bool} (h : p ∈ (n.bodyParts.filter takes).flatMap parameterNodes) :
      root.HoldsParameter p := by
    obtain ⟨m, hm, hp⟩ := List.mem_flatMap.1 h
    exact holdsParameter_of_mem (mem_of_bodyParts hn (List.mem_filter.1 hm).1) hp
  unfold judgedParameters at hp
  split at hp
  · exact holdsParameter_of_mem hn hp
  · exact below hp
  · exact below hp
  · cases hp

theorem holdsParameter_of_asked {p : Node} (hp : p ∈ n.askedParameters) :
    root.HoldsParameter p := by
  unfold askedParameters at hp
  split at hp
  · exact holdsParameter_of_judged hn hp
  · cases hp

theorem asks_functionStatement (form : StatementForm.ofType n.type = .function) :
    (n.functionStatement σ).Asks root n.askedParameters := by
  unfold functionStatement
  refine (reads_reachChild hn _).thenAsks fun _ _ => ?_
  split
  · next nameless =>
    rw [askedParameters_of_nameless nameless]
    exact asks_pure []
  · next name named =>
    rw [askedParameters_of_name named, judgedParameters, form]
    refine (reads_kotlinName (mem_of_child? hn named)).thenAsks fun _ _ => ?_
    exact (asks_callSignature hn).thenReads fun _ _ => onlyFails_pure _

/-- An interface or class asks the parameters of those of its members that do. -/
theorem asks_containerStatement {kind : DeclarationKind}
    {member : Node → Translation (Option Declaration)} {takes : Node → Bool}
    (judged : n.judgedParameters = (n.bodyParts.filter takes).flatMap parameterNodes)
    (each : ∀ m ∈ root.preorder,
      (member m).Asks root (if takes m then m.parameterNodes else [])) :
    (n.containerStatement σ kind member).Asks root n.askedParameters := by
  have members : (n.bodyParts.mapM member).Asks root n.judgedParameters :=
    judged ▸ asks_members fun m hm => each m (mem_of_bodyParts hn hm)
  have body : (n.bodyMembers member).Asks root n.judgedParameters := by
    unfold bodyMembers
    split
    · next body found =>
      rw [bodyParts, found] at members
      exact (reads_reachNamedParts (mem_of_child? hn found)).thenAsks fun _ _ => members
    · next bodiless =>
      rw [bodyParts, bodiless] at members
      exact members
  unfold containerStatement
  refine (reads_reachChild hn _).thenAsks fun _ _ => ?_
  split
  · next nameless =>
    rw [askedParameters_of_nameless nameless]
    exact asks_pure []
  · next name named =>
    rw [askedParameters_of_name named]
    refine (reads_reachChild hn _).thenAsks fun _ _ => ?_
    refine (reads_reachChild hn _).thenAsks fun _ _ => ?_
    refine body.thenReads fun _ _ => (reads_kotlinName (mem_of_child? hn named)).bind fun _ _ => ?_
    exact (reads_typeParameters? hn).bind fun _ _ => onlyFails_pure _

/-- Statements ask the parameters of the callables in them. -/
theorem asks_plainStatement {x : Translation (List Declaration)}
    (h : n.plainStatement? σ = some x) (other : StatementForm.ofType n.type ≠ .declarators) :
    x.Asks root n.askedParameters := by
  unfold plainStatement? at h
  split at h
  · next form =>
    cases h
    exact asks_functionStatement hn form
  · next form => exact absurd form other
  · next form =>
    cases h
    exact asks_containerStatement hn (by rw [judgedParameters, form]) fun _ hm =>
      asks_interfaceMember hm
  · next form =>
    cases h
    exact asks_containerStatement hn (by rw [judgedParameters, form]) fun _ hm =>
      asks_classMember hm
  · cases h

/-- A variable declaration only fails for an entry that is no declarator or a text that cannot be
read. -/
theorem sound_variablesStatement (form : StatementForm.ofType n.type = .declarators) :
    root.Sound (n.variablesStatement σ) := by
  unfold variablesStatement
  refine (reads_reachParts hn).sound.bind fun _ _ => ?_
  refine (OnlyFails.mapM fun entry hentry => ?_).bind fun _ _ => onlyFails_pure _
  have inTree := mem_of_payloads hn hentry
  unfold declarator
  split
  · refine (reads_reachChild inTree _).sound.bind fun _ _ => ?_
    split
    · exact onlyFails_pure []
    · next name found =>
      refine (reads_kotlinName (mem_of_child? inTree found)).sound.bind fun _ _ => ?_
      exact (reads_typeUse inTree).sound.bind fun _ _ => onlyFails_pure _
  · next other => exact onlyFails_fail (.wrongEntry hn form hentry other)

theorem sound_plainStatement {x : Translation (List Declaration)}
    (h : n.plainStatement? σ = some x) : root.Sound x := by
  by_cases form : StatementForm.ofType n.type = .declarators
  · rw [plainStatement?, form] at h
    cases h
    exact sound_variablesStatement hn form
  · exact (asks_plainStatement hn h form).sound fun _ hp => holdsParameter_of_asked hn hp

end

end Node

end KotlinStubs
