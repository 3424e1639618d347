import KotlinStubs.Proofs.Content
import KotlinStubs.Proofs.Varied

/-!
# Bodies and values

Of the body of a function or method and of the value of a declarator, field or parameter, a
translation looks at the row at most, never at what is below.  Such a row is found by the roles on
the way to it (`Node.HasWay`), and whatever is put below it (`Node.refilled`), the statement has the
same outcome.

* `Node.Varies.parameter`: a parameter whose value varies.
* `Node.Varies.callSignature`: a callable whose body or whose parameters vary.
* `Node.Varies.containerStatement`: an interface or class whose members vary.
* `Node.statement_refilled`: a statement, whatever is below a closed row.
* `statement_of_agreesBut`: two trees that agree but below a closed row.
-/

namespace KotlinStubs

open Translation

namespace Node

variable {σ : Settings} {scope : Scope} {R : Node → Node → Prop} {n m c d p q : Node} {f : Field}

/-- A node without any role but one. -/
def HasOnlyRole (f : Field) (n : Node) : Prop := ∀ g ∈ n.fields, g = f

instance (f : Field) (n : Node) : Decidable (n.HasOnlyRole f) :=
  inferInstanceAs (Decidable (∀ g ∈ n.fields, g = f))

theorem HasOnlyRole.not_mem {g : Field} (h : c.HasOnlyRole f) (other : g ≠ f) : g ∉ c.fields :=
  fun role => other (h g role)

namespace Varies

/-! ## Types -/

section

variable (h : Varies R n m) (roles : ∀ {c d : Node}, R c d → .type ∉ c.fields)
include h roles

theorem declaredType? : m.declaredType? = n.declaredType? := by
  unfold Node.declaredType?
  rw [h.child?_eq roles]

theorem reachDeclaredType :
    Translation.reachDeclaredType m = Translation.reachDeclaredType n := by
  unfold Translation.reachDeclaredType
  rw [h.child?_eq roles, h.declaredType? roles]

theorem typeUse : m.typeUse = n.typeUse := by
  unfold Node.typeUse
  rw [h.reachDeclaredType roles, h.declaredType? roles]

end

/-! ## Parameters -/

section

variable (h : Varies (fun c _ => c.HasOnlyRole .value) p q)
include h

theorem parameterType : q.parameterType = p.parameterType := by
  have element (declared : Node) : q.restElement declared = p.restElement declared := by
    unfold restElement
    rw [h.row.type, h.row.line]
  unfold Node.parameterType isRest
  rw [h.declaredType? fun only => only.not_mem (by decide), h.hasPartOfKind]
  simp only [element]

/-- The text of a value is all that is read of it. -/
theorem parameterDefault : q.parameterDefault = p.parameterDefault := by
  unfold Node.parameterDefault
  rw [h.reach?_child?, h.hasPart]
  rcases h.child? .value with same | ⟨c, d, old, new, row, -⟩
  · rw [same]
  · rw [old, new]
    simp only [row.read]

theorem parameterName : q.parameterName σ = p.parameterName σ := by
  have name : Translation.read (q.firstNamed?.getD q) = Translation.read (p.firstNamed?.getD p) := by
    rcases h.firstNamed? with same | ⟨c, d, old, new, row, -⟩
    · rw [same]
      cases p.firstNamed? with
      | none => exact h.row.read
      | some first => rfl
    · rw [old, new]
      exact row.read
  unfold Node.parameterName
  rw [h.child?_eq fun only => only.not_mem (by decide), h.reach?_firstNamed?, name]

theorem parameter : q.parameter σ = p.parameter σ := by
  unfold Node.parameter isRest
  rw [reachAll_alters h.parts, h.reachDeclaredType fun only => only.not_mem (by decide),
    h.parameterType, h.parameterDefault, h.parameterName, h.hasPart, h.hasPartOfKind,
    h.hasPartOfKind]

end

theorem parameterList (h : Varies (fun c d => d.parameter σ = c.parameter σ) n m) :
    m.parameterList σ = n.parameterList σ := by
  unfold Node.parameterList
  rw [reachAll_alters (h.entries _), mapM_alters id (h.payloads _)]

end Varies

/-! ## Callables -/

/-- A child of a callable or declarator that may be exchanged: a body, a value, or a parameter list
for one with the same parameters. -/
def Exchangeable (σ : Settings) (c d : Node) : Prop :=
  c.HasOnlyRole .body ∨ c.HasOnlyRole .value ∨
    (c.HasOnlyRole .parameters ∧ d.parameterList σ = c.parameterList σ)

theorem Exchangeable.not_mem (h : Exchangeable σ c d)
    (other : f ≠ .body ∧ f ≠ .value ∧ f ≠ .parameters) : f ∉ c.fields := by
  obtain ⟨noBody, noValue, noParameters⟩ := other
  rcases h with only | only | ⟨only, _⟩
  · exact only.not_mem noBody
  · exact only.not_mem noValue
  · exact only.not_mem noParameters

namespace Varies

variable (h : Varies (Exchangeable σ) n m)
include h

theorem child?_of_exchangeable (other : f ≠ .body ∧ f ≠ .value ∧ f ≠ .parameters) :
    m.child? f = n.child? f :=
  h.child?_eq fun exchanged => exchanged.not_mem other

theorem callParameters : m.callParameters σ = n.callParameters σ := by
  unfold Node.callParameters
  rw [h.reach?_child?]
  rcases h.child? .parameters with same | ⟨c, d, old, new, -, exchanged⟩
  · rw [same]
  · have role := mem_fields_of_child? old
    rw [old, new]
    rcases exchanged with only | only | ⟨_, parameters⟩
    · exact absurd role (only.not_mem (by decide))
    · exact absurd role (only.not_mem (by decide))
    · exact bind_congr fun _ => parameters

theorem callSignature : m.callSignature σ = n.callSignature σ := by
  unfold Node.callSignature Node.typeParameters? Node.resultTypeName
  rw [h.callParameters, h.child?_of_exchangeable (f := .typeParameters) (by decide),
    h.child?_of_exchangeable (f := .returnType) (by decide)]

theorem method (name : Node) : m.method σ name = n.method σ name := by
  unfold Node.method
  rw [h.callSignature, reachAll_alters h.parts, h.hasPart, h.row.line]

theorem property (name : Node) : m.property σ name = n.property σ name := by
  unfold Node.property
  rw [h.typeUse fun exchanged => exchanged.not_mem (by decide), reachAll_alters h.parts, h.hasPart,
    h.hasPart, h.row.line]

theorem interfaceMember : m.interfaceMember σ = n.interfaceMember σ := by
  unfold Node.interfaceMember
  rw [h.child?_of_exchangeable (by decide), h.row.type, h.row.line]
  simp only [h.method, h.property]

theorem classMember : m.classMember σ = n.classMember σ := by
  unfold Node.classMember namedClassMember
  rw [h.child?_of_exchangeable (by decide), reachAll_alters h.parts, h.isHidden, h.row.type,
    h.row.line]
  simp only [h.method, h.property]

theorem functionStatement : m.functionStatement σ = n.functionStatement σ := by
  unfold Node.functionStatement
  rw [h.child?_of_exchangeable (by decide), h.callSignature, h.row.line]

theorem declarator (isVar : Bool) : m.declarator σ isVar = n.declarator σ isVar := by
  unfold Node.declarator
  rw [h.child?_of_exchangeable (by decide), h.typeUse fun exchanged => exchanged.not_mem (by decide),
    h.row.kind, h.row.type, h.row.line]

end Varies

/-! ## Statements -/

theorem Varies.variablesStatement
    (h : Varies (fun c d => ∀ isVar, d.declarator σ isVar = c.declarator σ isVar) n m) :
    m.variablesStatement σ = n.variablesStatement σ := by
  unfold Node.variablesStatement
  rw [reachAll_alters h.parts, h.hasPart, mapM_alters (fun same => same _) (h.payloads _)]

/-- The body of an interface or class may be exchanged for one whose members are translated alike. -/
theorem Varies.containerStatement {member : Node → Translation (Option Declaration)}
    (h : Varies
      (fun c d => c.HasOnlyRole .body ∧ Varies (fun x y => member y = member x) c d) n m)
    (kind : DeclarationKind) :
    m.containerStatement σ kind member = n.containerStatement σ kind member := by
  have members : m.bodyMembers member = n.bodyMembers member := by
    unfold bodyMembers
    rcases h.child? .body with same | ⟨c, d, old, new, -, -, below⟩
    · rw [same]
    · rw [old, new]
      dsimp only
      rw [reachAll_alters below.namedParts, mapM_alters id below.namedParts]
  have roles {f : Field} {c d : Node} (other : f ≠ .body)
      (h : c.HasOnlyRole .body ∧ Varies (fun x y => member y = member x) c d) : f ∉ c.fields :=
    h.1.not_mem other
  unfold Node.containerStatement Node.typeParameters?
  rw [members, h.reach?_child? .body, h.child?_eq (f := .name) (roles (by decide)),
    h.child?_eq (f := .typeParameters) (roles (by decide)), h.row.line]

/-! ## Ways to rows -/

/-- Whether a way leads from a node to a position.  For each node that it comes to the way tells the
only role that the node may have, or nothing. -/
def HasWay : Node → List (Option Field) → List Nat → Prop
  | _, [], [] => True
  | n, role :: way, i :: p =>
    ∃ c, n.children[i]? = some c ∧ (∀ f ∈ role, c.HasOnlyRole f) ∧ c.HasWay way p
  | _, _, _ => False

/-- The ways from a callable, declarator or property to rows that it does not look below: to its
body, to its value, and to the values of its parameters. -/
def callableWays : List (List (Option Field)) :=
  [[some .body], [some .value], [some .parameters, none, some .value]]

/-- The ways from a statement to rows that it does not look below: those from a function, those from
a declarator in a variable declaration, and those from a member in the body of an interface or
class. -/
def closedWays : StatementForm → List (List (Option Field))
  | .function => callableWays
  | .declarators => callableWays.map (none :: ·)
  | .interfaceBlock | .classBlock => callableWays.map (some .body :: none :: ·)
  | _ => []

/-- A way leads from a statement to a position below which it does not look: the body of a function
or method, or the value of a parameter, declarator or property. -/
def IsClosedAt (n : Node) (p : List Nat) : Prop :=
  ∃ way ∈ closedWays (StatementForm.ofType n.type), n.HasWay way p

/-- The tree with the children of the node at a position replaced. -/
def refilled (children : List Node) : List Nat → Node → Node
  | [], n => { n with children := children }
  | i :: p, n => { n with children := n.children.modify i (refilled children p) }

variable {children : List Node} {role : Option Field} {way : List (Option Field)}
  {position : List Nat}

theorem sameRow_refilled (children : List Node) (position : List Nat) (n : Node) :
    n.SameRow (n.refilled children position) := by
  cases position with
  | nil => exact ⟨rfl, rfl, rfl, rfl, rfl⟩
  | cons i position => exact ⟨rfl, rfl, rfl, rfl, rfl⟩

/-- The child on the way is all that varies. -/
theorem varies_refilled (h : n.HasWay (role :: way) position)
    (exchanged : ∀ c below, c.HasWay way below → (∀ f ∈ role, c.HasOnlyRole f) →
      R c (c.refilled children below)) :
    Varies R n (n.refilled children position) := by
  cases position with
  | nil => cases h
  | cons i below =>
    obtain ⟨c, hc, only, led⟩ := h
    refine ⟨sameRow_refilled children (i :: below) n, ?_⟩
    have row := sameRow_refilled children below c
    have each := alters_of_getElem? hc row (exchanged c below led only)
    obtain ⟨lt, rfl⟩ := List.getElem?_eq_some_iff.1 hc
    rw [refilled, List.modify_eq_take_cons_drop lt]
    exact each

theorem varies_value (h : n.HasWay [some .value] position) :
    Varies (fun c _ => c.HasOnlyRole .value) n (n.refilled children position) :=
  varies_refilled h fun _ _ _ only => only .value rfl

theorem parameterList_refilled (h : n.HasWay [none, some .value] position) :
    (n.refilled children position).parameterList σ = n.parameterList σ := by
  apply Varies.parameterList
  exact varies_refilled h fun c below led _ => (varies_value led).parameter

theorem varies_exchangeable (listed : way ∈ callableWays) (h : n.HasWay way position) :
    Varies (Exchangeable σ) n (n.refilled children position) := by
  simp only [callableWays, List.mem_cons, List.not_mem_nil, or_false] at listed
  rcases listed with rfl | rfl | rfl
  · exact varies_refilled h fun _ _ _ only => Or.inl (only .body rfl)
  · exact varies_refilled h fun _ _ _ only => Or.inr (Or.inl (only .value rfl))
  · refine varies_refilled h fun c below led only => Or.inr (Or.inr ⟨only .parameters rfl, ?_⟩)
    exact parameterList_refilled led

/-- The members of an interface or class are translated alike, whatever is below a closed row. -/
theorem containerStatement_refilled {member : Node → Translation (Option Declaration)}
    (same : ∀ {c d : Node}, Varies (Exchangeable σ) c d → member d = member c)
    (listed : way ∈ callableWays) (h : n.HasWay (some .body :: none :: way) position)
    (kind : DeclarationKind) :
    (n.refilled children position).containerStatement σ kind member =
      n.containerStatement σ kind member := by
  apply Varies.containerStatement
  refine varies_refilled h fun body below led only => ⟨only .body rfl, ?_⟩
  exact varies_refilled led fun _ _ led _ => same (varies_exchangeable listed led)

/-- A statement is translated alike whatever is below a row that it does not look below. -/
theorem plainStatement?_refilled (h : n.IsClosedAt position) (children : List Node) :
    (n.refilled children position).plainStatement? σ = n.plainStatement? σ := by
  obtain ⟨way, listed, led⟩ := h
  unfold plainStatement?
  rw [(sameRow_refilled children position n).type]
  cases form : StatementForm.ofType n.type with
  | function =>
    rw [form] at listed
    exact congrArg some (varies_exchangeable listed led).functionStatement
  | declarators =>
    rw [form] at listed
    obtain ⟨way, inner, rfl⟩ := List.mem_map.1 listed
    refine congrArg some (Varies.variablesStatement (varies_refilled led ?_))
    exact fun c below led _ => (varies_exchangeable inner led).declarator
  | interfaceBlock =>
    rw [form] at listed
    obtain ⟨way, inner, rfl⟩ := List.mem_map.1 listed
    exact congrArg some (containerStatement_refilled Varies.interfaceMember inner led _)
  | classBlock =>
    rw [form] at listed
    obtain ⟨way, inner, rfl⟩ := List.mem_map.1 listed
    exact congrArg some (containerStatement_refilled Varies.classMember inner led _)
  | exported | ambient | expression | namespaceBlock | other => rfl

/-- A statement has the same outcome whatever is below a row that it does not look below. -/
theorem statement_refilled (h : n.IsClosedAt position) (children : List Node) :
    (n.refilled children position).statement σ scope = n.statement σ scope := by
  have form : StatementForm.ofType n.type ∈
      [.function, .declarators, .interfaceBlock, .classBlock] := by
    obtain ⟨way, listed, -⟩ := h
    cases form : StatementForm.ofType n.type <;> rw [form] at listed <;> first | decide | cases listed
  obtain ⟨x, hx⟩ := exists_plainStatement σ form
  rw [statement_plain hx, statement_plain ((plainStatement?_refilled h children).trans hx)]

/-! ## Trees that agree elsewhere -/

/-- Two trees agree on all rows but those below a position.  The numbers of the rows do not count,
since a different number of rows below the position shifts those behind it. -/
def AgreesBut (position : List Nat) (n m : Node) : Prop :=
  (n.refilled [] position).renumbered (fun _ => 0) =
    (m.refilled [] position).renumbered (fun _ => 0)

theorem refilled_refilled (others children : List Node) (position : List Nat) (n : Node) :
    (n.refilled children position).refilled others position = n.refilled others position := by
  induction position generalizing n with
  | nil => rfl
  | cons i position ih =>
    rw [refilled, refilled, refilled, List.modify_modify_eq]
    congr 2
    funext c
    exact ih c

/-- Trees with anything below a position agree on the other rows. -/
theorem agreesBut_refilled (n : Node) (position : List Nat) (children : List Node) :
    AgreesBut position n (n.refilled children position) := by
  rw [AgreesBut, refilled_refilled]

theorem sameRow_renumbered (f : Nat → Nat) (n : Node) : n.SameRow (n.renumbered f) := by
  cases n
  exact ⟨rfl, rfl, rfl, rfl, rfl⟩

theorem children_renumbered (f : Nat → Nat) (n : Node) :
    (n.renumbered f).children = n.children.map (renumbered f) := by
  cases n
  exact renumberedAll_eq f _

theorem AgreesBut.row (h : AgreesBut position n m) : n.SameRow m := by
  have first := (sameRow_refilled [] position n).trans (sameRow_renumbered (fun _ => 0) _)
  have second := (sameRow_refilled [] position m).trans (sameRow_renumbered (fun _ => 0) _)
  rw [← show _ = _ from h] at second
  exact first.trans second.symm

/-- Two trees that agree but below a position have children on the way there that do. -/
theorem AgreesBut.child {i : Nat} (h : AgreesBut (i :: position) n m)
    (hc : n.children[i]? = some c) : ∃ d, m.children[i]? = some d ∧ AgreesBut position c d := by
  have same := congrArg (fun k : Node => k.children[i]?) h
  simp only [children_renumbered, refilled, List.getElem?_map, List.getElem?_modify_eq, hc] at same
  obtain ⟨_, found, agree⟩ := Option.map_eq_some_iff.1 same.symm
  obtain ⟨d, hd, rfl⟩ := Option.map_eq_some_iff.1 found
  exact ⟨d, hd, agree.symm⟩

/-- A way to a position leads there in any tree that agrees but below the position. -/
theorem AgreesBut.hasWay (h : AgreesBut position n m) (led : n.HasWay way position) :
    m.HasWay way position := by
  induction position generalizing n m way with
  | nil =>
    cases way with
    | nil => trivial
    | cons role way => cases led
  | cons i position ih =>
    cases way with
    | nil => cases led
    | cons role way =>
      obtain ⟨c, hc, only, led⟩ := led
      obtain ⟨d, hd, agree⟩ := h.child hc
      refine ⟨d, hd, fun f hf => ?_, ih agree led⟩
      rw [HasOnlyRole, agree.row.fields]
      exact only f hf

theorem AgreesBut.isClosedAt (h : AgreesBut position n m) (closed : n.IsClosedAt position) :
    m.IsClosedAt position := by
  obtain ⟨way, listed, led⟩ := closed
  rw [← h.row.type] at listed
  exact ⟨way, listed, h.hasWay led⟩

end Node

/-- **Bodies and values.** Two trees of a function, variable declaration, interface or class that
agree on all rows but those below the body of the function or of a method, or below the value of a
declarator, a property or a parameter, have the same outcome: the same declarations or the same
fault, the same events and the same rejections. -/
theorem statement_of_agreesBut {n m : Node} {position : List Nat} (closed : n.IsClosedAt position)
    (agree : Node.AgreesBut position n m) (σ : Settings) (scope : Scope) :
    m.statement σ scope = n.statement σ scope := by
  have keeps := Node.keepsContent_renumbered fun _ => 0
  calc m.statement σ scope
    _ = (m.refilled [] position).statement σ scope :=
      (Node.statement_refilled (agree.isClosedAt closed) []).symm
    _ = ((m.refilled [] position).renumbered fun _ => 0).statement σ scope :=
      (keeps.statement _ scope).symm
    _ = ((n.refilled [] position).renumbered fun _ => 0).statement σ scope := by rw [← agree]
    _ = (n.refilled [] position).statement σ scope := keeps.statement _ scope
    _ = n.statement σ scope := Node.statement_refilled closed []

namespace Node

/-- `class C { m(a = 1) {} }` -/
def classWithMethod : Node :=
  branch "class_declaration" "class C \x7b m(a = 1) \x7b\x7d \x7d" []
    [leaf "type_identifier" "C" [.name],
      branch "class_body" "\x7b m(a = 1) \x7b\x7d \x7d" [.body]
        [branch "method_definition" "m(a = 1) \x7b\x7d" []
          [leaf "property_identifier" "m" [.name],
            branch "formal_parameters" "(a = 1)" [.parameters]
              [token "(",
                branch "required_parameter" "a = 1" []
                  [leaf "identifier" "a" [.pattern], leaf "number" "1" [.value]],
                token ")"],
            leaf "statement_block" "\x7b\x7d" [.body]]]]

/-- Something that is no UTF-8, as a predefined type. -/
def illegible : Node := { leaf predefinedType "" [.value, .body] with text := none }

/-- The body of a method may even hold what cannot be read. -/
theorem statement_of_agreesBut_classWithMethod :
    classWithMethod.IsClosedAt [1, 0, 2] ∧
      AgreesBut [1, 0, 2] classWithMethod
        (classWithMethod.refilled [illegible, classWithMethod] [1, 0, 2]) ∧
      (classWithMethod.refilled [illegible, classWithMethod] [1, 0, 2]).statement {} ⟨"c.ts", none⟩ =
        classWithMethod.statement {} ⟨"c.ts", none⟩ := by
  have closed : classWithMethod.IsClosedAt [1, 0, 2] := by
    refine ⟨[some .body, none, some .body], by decide, _, rfl, ?_, _, rfl, ?_, _, rfl, ?_, trivial⟩
    · rintro _ ⟨⟩
      decide
    · exact nofun
    · rintro _ ⟨⟩
      decide
  have agree := agreesBut_refilled classWithMethod [1, 0, 2] [illegible, classWithMethod]
  exact ⟨closed, agree, statement_of_agreesBut closed agree {} ⟨"c.ts", none⟩⟩

end Node

end KotlinStubs
