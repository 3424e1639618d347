import KotlinStubs.Proofs.LeftOut

/-!
# The first fault

A function, an interface or a class is rejected for one of the parameters of the callables in it:
the first, in the order of the source, that is a rest parameter and declared with a type other than
an array of one element type.  The fault of this parameter ends the statement, whatever faults are
behind it; members that are left out are not asked.

* `Node.IsReadable.fault?_eq`: in a readable tree the first fault alone decides.
* `Node.fault?_parameterType`: the fault of one parameter.
* `Node.firstFault?_of_first`: the first of several.
* `Node.asks_statement`, `Node.statement_fails_iff`: statements.
* `statement_firstFault`: the outcome of a statement and of its scan.
-/

namespace KotlinStubs

open Translation

namespace Node

/-! ## Trees without texts that cannot be read -/

/-- All texts of the tree can be read. -/
def IsReadable (root : Node) : Prop := ∀ n ∈ root.preorder, n.text ≠ none

section

variable {root : Node} {α : Type} {x : Translation α}

theorem IsReadable.not_isUnread (readable : root.IsReadable) (e : Fault) : ¬ e.IsUnread root := by
  rintro ⟨-, n, inTree, unread⟩
  exact readable n inTree unread

theorem IsReadable.exists_ok (readable : root.IsReadable) (hx : root.Reads x) :
    ∃ a, x.result = .ok a := by
  cases h : x.result with
  | ok a => exact ⟨a, rfl⟩
  | error e => exact absurd (hx.fault e h) (readable.not_isUnread e)

/-- The first of the parameters with a fault decides. -/
theorem IsReadable.fault?_eq {ps : List Node} (readable : root.IsReadable) (hx : x.Asks root ps) :
    x.fault? = firstFault? ps := by
  cases h : x.result with
  | ok a => rw [fault?_eq_none.2 ⟨a, h⟩, hx.passed a h]
  | error e =>
    rw [fault?_eq_some.2 h]
    exact ((hx.fault e h).resolve_left (readable.not_isUnread e)).symm

end

/-! ## Faulty parameters -/

/-- A rest parameter with a declared type that is neither an array type nor `Array` of one type. -/
def IsFaulty (p : Node) : Prop :=
  p.isRest = true ∧ ∃ declared, p.declaredType? = some declared ∧
    declared.kind ≠ .arrayType ∧ ¬ p.IsRestOfArray 1

theorem IsRestOfArray.unique {p : Node} {count count' : Nat} (h : p.IsRestOfArray count)
    (h' : p.IsRestOfArray count') : count = count' := by
  obtain ⟨-, declared, name, args, found, -, -, -, hargs, rfl⟩ := h
  obtain ⟨-, declared', name', args', found', -, -, -, hargs', rfl⟩ := h'
  cases found.symm.trans found'
  cases hargs.symm.trans hargs'
  rfl

theorem IsRestOfArray.kind_ne {p declared : Node} {count : Nat} (h : p.IsRestOfArray count)
    (found : p.declaredType? = some declared) : declared.kind ≠ .arrayType := by
  obtain ⟨-, declared', -, -, found', kind, -⟩ := h
  cases found.symm.trans found'
  rw [kind]
  decide

theorem Misdeclares.unique {p : Node} {e e' : Fault} (h : p.Misdeclares e)
    (h' : p.Misdeclares e') : e = e' := by
  cases h with
  | shape _ _ _ other =>
    cases h' with
    | shape => rfl
    | arity rest => exact absurd rest (other _)
  | arity rest =>
    cases h' with
    | shape _ _ _ other => exact absurd rest (other _)
    | arity rest' => rw [rest.unique rest']

/-- The faulty parameters are those that misdeclare their type. -/
theorem isFaulty_iff {p : Node} : p.IsFaulty ↔ ∃ e, p.Misdeclares e := by
  constructor
  · rintro ⟨rest, declared, found, noArray, other⟩
    by_cases generic : ∃ count, p.IsRestOfArray count
    · obtain ⟨count, ofArray⟩ := generic
      refine ⟨_, .arity ofArray ?_⟩
      rintro rfl
      exact other ofArray
    · exact ⟨_, .shape rest found noArray (not_exists.1 generic)⟩
  · rintro ⟨e, h⟩
    cases h with
    | shape rest found noArray other => exact ⟨rest, _, found, noArray, other 1⟩
    | arity ofArray several =>
      obtain ⟨rest, declared, _, _, found, -⟩ := id ofArray
      refine ⟨rest, declared, found, ofArray.kind_ne found, fun single => several ?_⟩
      exact ofArray.unique single

/-- The type of a faulty parameter is no array with an element or without. -/
theorem IsFaulty.not_hasElement {p declared : Node} {element : Option Node} (faulty : p.IsFaulty)
    (found : p.declaredType? = some declared) : ¬ declared.HasElement element := by
  obtain ⟨rest, declared', found', noArray, other⟩ := faulty
  cases found.symm.trans found'
  intro has
  cases has with
  | array kind => exact noArray kind
  | generic kind hname named hargs single =>
    exact other ⟨rest, declared, _, _, found, kind, hname, named, hargs, by rw [single]; rfl⟩

/-- The type of a faulty parameter is not found. -/
theorem IsFaulty.not_ok {p : Node} {type? : Option Node} (faulty : p.IsFaulty) :
    p.parameterType.result ≠ .ok type? := by
  intro h
  obtain ⟨rest, declared, found, -⟩ := id faulty
  rw [parameterType, found] at h
  dsimp only at h
  rw [if_pos rest] at h
  exact faulty.not_hasElement found (hasElement_of_restElement h)

variable {σ : Settings} {scope : Scope} {root n p : Node}

/-- The fault of one parameter. -/
theorem fault?_parameterType (readable : root.IsReadable) (hp : p ∈ root.preorder) {e : Fault} :
    p.parameterType.fault? = some e ↔ p.Misdeclares e := by
  have only {e' : Fault} (failed : p.parameterType.result = .error e') : p.Misdeclares e' :=
    ((onlyFails_parameterType hp).fault e' failed).resolve_right (readable.not_isUnread e')
  rw [fault?_eq_some]
  constructor
  · exact only
  · intro misdeclared
    cases h : p.parameterType.result with
    | ok type? => exact absurd h (isFaulty_iff.2 ⟨e, misdeclared⟩).not_ok
    | error e' => rw [misdeclared.unique (only h)]

theorem fault?_parameterType_eq_none (readable : root.IsReadable) (hp : p ∈ root.preorder) :
    p.parameterType.fault? = none ↔ ¬ p.IsFaulty := by
  rw [isFaulty_iff, Option.eq_none_iff_forall_ne_some]
  simp only [ne_eq, fault?_parameterType readable hp, not_exists]

section

variable {ps : List Node} (readable : root.IsReadable)
include readable

theorem firstFault?_eq_none (inTree : ∀ p ∈ ps, p ∈ root.preorder) :
    firstFault? ps = none ↔ ∀ p ∈ ps, ¬ p.IsFaulty := by
  rw [firstFault?, List.findSome?_eq_none_iff]
  exact forall₂_congr fun p hp => fault?_parameterType_eq_none readable (inTree p hp)

/-- The first faulty parameter decides. -/
theorem firstFault?_of_first {before after : List Node} {e : Fault}
    (inTree : ∀ q ∈ before ++ p :: after, q ∈ root.preorder) (sound : ∀ q ∈ before, ¬ q.IsFaulty)
    (misdeclared : p.Misdeclares e) : firstFault? (before ++ p :: after) = some e := by
  have passed : firstFault? before = none :=
    (firstFault?_eq_none readable fun q hq => inTree q (List.mem_append_left _ hq)).2 sound
  have failed : p.parameterType.fault? = some e := by
    have here := inTree p (List.mem_append_right _ List.mem_cons_self)
    exact (fault?_parameterType readable here).2 misdeclared
  rw [firstFault?_append, passed, Option.none_or, firstFault?, List.findSome?_cons, failed]

end

/-! ## Statements -/

section

variable {name : Node} (hn : n ∈ root.preorder) (named : n.child? .name = some name)
  (form : StatementForm.ofType n.type ∈ [.function, .interfaceBlock, .classBlock])
include hn named form

/-- A statement with a name asks the parameters of its callables. -/
theorem asks_statement : (n.statement σ scope).Asks root n.judgedParameters := by
  have plainForms : [.function, .interfaceBlock, .classBlock] ⊆
      [StatementForm.function, .declarators, .interfaceBlock, .classBlock] := by decide
  have noDeclarators : StatementForm.ofType n.type ≠ .declarators :=
    fun declarators => absurd (declarators ▸ form) (by decide)
  obtain ⟨x, plain⟩ := exists_plainStatement σ (plainForms form)
  rw [statement_plain plain, ← askedParameters_of_name named]
  exact asks_plainStatement hn plain noDeclarators

/-- A statement fails just if one of its parameters is faulty. -/
theorem statement_fails_iff (readable : root.IsReadable) :
    (∃ e, (n.statement σ scope).result = .error e) ↔ ∃ p ∈ n.judgedParameters, p.IsFaulty := by
  simp only [← fault?_eq_some, ← Option.ne_none_iff_exists', ne_eq]
  rw [readable.fault?_eq (asks_statement hn named form),
    firstFault?_eq_none readable fun p hp => (holdsParameter_of_judged hn hp).mem]
  simp only [not_forall, not_not, exists_prop]

/-- The first faulty parameter ends a statement. -/
theorem statement_of_first {before after : List Node} {e : Fault} (readable : root.IsReadable)
    (order : n.judgedParameters = before ++ p :: after) (sound : ∀ q ∈ before, ¬ q.IsFaulty)
    (misdeclared : p.Misdeclares e) : (n.statement σ scope).result = .error e := by
  have inTree : ∀ q ∈ before ++ p :: after, q ∈ root.preorder := by
    intro q hq
    exact (holdsParameter_of_judged hn (order ▸ hq)).mem
  rw [← fault?_eq_some, readable.fault?_eq (asks_statement hn named form), order]
  exact firstFault?_of_first readable inTree sound misdeclared

end

/-! ## Scans of one statement -/

/-- A fault that ends the file ends the scan. -/
theorem scan_of_error {e : Fault} (failed : (n.statement σ scope).result = .error e)
    (ends : e.line? = none) : (scan σ scope [n]).result = .error e := by
  rw [scan_singleton, scanned, isolated, rescue_aborts ⟨e, failed, ends⟩]
  exact failed

/-- A statement that is left out has an entry under its name. -/
theorem scan_of_line {name : Node} {e : Fault} {line : Nat} (readable : n.IsReadable)
    (named : n.child? .name = some name) (failed : (n.statement σ scope).result = .error e)
    (recoverable : e.line? = some line) :
    (scan σ scope [n]).result = .ok [] ∧
      (scan σ scope [n]).rejections = (n.statement σ scope).rejections ++
        [{ name := name.text, nodeType := n.type, line := line, error := e.message }] := by
  have inTree := n.mem_preorder_self
  obtain ⟨text, written⟩ :=
    Option.ne_none_iff_exists'.1 (readable name (mem_of_child? inTree named))
  have done : ¬ (n.scanned σ scope).Aborts := by
    obtain ⟨name?, hname⟩ := readable.exists_ok (reads_declaredName? inTree)
    obtain ⟨name', hname'⟩ := readable.exists_ok (reads_nameText? inTree hname)
    rw [scanned, isolated, rescue_line failed recoverable]
    exact not_aborts_of_ok (rejectStatement_of_name hname hname')
  rw [scan_singleton, written, ← declaredText?_of_child? named written]
  exact scanned_of_error failed recoverable done

end Node

/-- **The first fault.** A function, an interface or a class with a name, all of whose texts can be
read, fails just if some parameter of the callables that it translates is faulty.  The first such
parameter decides how: if it is declared as an `Array` with a number of arguments other than one,
the file is aborted; else the statement is left out, for the line of the parameter. -/
theorem statement_firstFault {σ : Settings} {scope : Scope} {n name : Node}
    (readable : n.IsReadable) (type : n.type ∈ ["function_signature", "function_declaration",
      "interface_declaration", "class_declaration", "abstract_class_declaration"])
    (named : n.child? .name = some name) :
    ((∃ e, (n.statement σ scope).result = .error e) ↔ ∃ p ∈ n.judgedParameters, p.IsFaulty) ∧
    ∀ before p after, n.judgedParameters = before ++ p :: after →
      (∀ q ∈ before, ¬ q.IsFaulty) → p.IsFaulty →
      (∀ count, p.IsRestOfArray count →
        (n.statement σ scope).result = .error (.arrayArity count) ∧
        (Node.scan σ scope [n]).result = .error (.arrayArity count)) ∧
      ((∀ count, ¬ p.IsRestOfArray count) →
        (n.statement σ scope).result = .error (.restShape p.type p.line) ∧
        (Node.scan σ scope [n]).result = .ok [] ∧
        (Node.scan σ scope [n]).rejections = [{
          name := name.text
          nodeType := n.type
          line := p.line
          error := "rest parameter must be an array type" }]) := by
  have inTree := n.mem_preorder_self
  have form : StatementForm.ofType n.type ∈ [.function, .interfaceBlock, .classBlock] := by
    simp only [List.mem_cons, List.not_mem_nil, or_false] at type
    rcases type with type | type | type | type | type <;> rw [type] <;> decide
  refine ⟨Node.statement_fails_iff inTree named form readable, ?_⟩
  intro before p after order sound faulty
  have first {e : Fault} (misdeclared : p.Misdeclares e) :
      (n.statement σ scope).result = .error e :=
    Node.statement_of_first inTree named form readable order sound misdeclared
  constructor
  · intro count ofArray
    have several : count ≠ 1 := by
      rintro rfl
      obtain ⟨-, _, -, -, other⟩ := faulty
      exact other ofArray
    have failed := first (.arity ofArray several)
    exact ⟨failed, Node.scan_of_error failed rfl⟩
  · intro other
    obtain ⟨rest, declared, found, noArray, -⟩ := faulty
    have failed := first (.shape rest found noArray other)
    have silent : (n.statement σ scope).rejections = [] :=
      (Node.asks_statement inTree named form).silent
    have left := Node.scan_of_line readable named failed rfl
    rw [silent] at left
    exact ⟨failed, left⟩

namespace Node

/-- A method with given modifiers and one parameter. -/
def methodOfOne (modifiers : List Node) (parameter : Node) : Node :=
  branch "method_signature" "m" [] (modifiers ++ [
    leaf "property_identifier" "m" [.name],
    branch "formal_parameters" "(" [.parameters] [token "(", parameter, token ")"]])

/-- `class C { private m(...a: Array<>); m(...a: b); m(...a: Array<>) }` -/
def classOfFaults : Node :=
  branch "class_declaration" "class C" [] [
    leaf "type_identifier" "C" [.name],
    branch "class_body" "{ }" [.body] [
      methodOfOne [leaf "accessibility_modifier" "private" []] (restParameter arrayOfNothing),
      methodOfOne [] (restParameter (leaf "type_identifier" "b" [])),
      methodOfOne [] (restParameter arrayOfNothing)]]

/-- The private method is not asked, and the last one is not reached. -/
theorem statement_firstFault_classOfFaults :
    (scan {} { path := "c.d.ts" } [classOfFaults]).result = .ok [] ∧
    (scan {} { path := "c.d.ts" } [classOfFaults]).rejections = [{
      name := some "C"
      nodeType := "class_declaration"
      line := 1
      error := "rest parameter must be an array type" }] := by
  have readable : classOfFaults.IsReadable := by
    unfold IsReadable
    decide
  have named : classOfFaults.child? .name = some (leaf "type_identifier" "C" [.name]) := rfl
  have order : classOfFaults.judgedParameters =
      [] ++ restParameter (leaf "type_identifier" "b" []) :: [restParameter arrayOfNothing] := rfl
  have other (count : Nat) :
      ¬ (restParameter (leaf "type_identifier" "b" [])).IsRestOfArray count := by
    rintro ⟨-, declared, _, _, found, kind, -⟩
    cases found
    cases kind
  have faulty : (restParameter (leaf "type_identifier" "b" [])).IsFaulty :=
    ⟨rfl, leaf "type_identifier" "b" [], rfl, by decide, other 1⟩
  obtain ⟨-, first⟩ := @statement_firstFault {} { path := "c.d.ts" } _ _ readable (by decide) named
  exact ((first _ _ _ order nofun faulty).2 other).2

end Node

end KotlinStubs
