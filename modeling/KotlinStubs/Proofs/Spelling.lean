import KotlinStubs.Proofs.Reach
import KotlinStubs.Proofs.Resolution

/-!
# Spelling of declared types and of their uses

An interface or class is declared under its escaped name, while a use of it as a type, or as part of
one, is spelled as the source spells it: the resolution of types never escapes.  So the two agree
just if the name needs no escaping, or the quote is empty.

* `Settings.escape_eq_self_iff`: the names that escaping leaves alone.
* `Node.containerStatement_names`: the name that an interface or class is declared under.
* `Node.typeName_of_identifier`, `Node.next_of_identifier`: the spelling of a use.
* `spelling_of_declared_type`: both.
-/

namespace KotlinStubs

open Translation

/-- Escaping leaves alone the names that need none; and every name, if the quote is empty. -/
theorem Settings.escape_eq_self_iff (σ : Settings) (name : String) :
    name = σ.escape name ↔ σ.needsEscaping name = false ∨ σ.quote = "" := by
  unfold escape
  cases needs : σ.needsEscaping name with
  | false => exact ⟨fun _ => .inl rfl, fun _ => rfl⟩
  | true =>
    rw [if_pos rfl]
    constructor
    · intro same
      have length := congrArg String.length same
      rw [String.length_append, String.length_append] at length
      have empty : σ.quote.length = 0 := by omega
      exact Or.inr (String.length_eq_zero_iff.1 empty)
    · rintro (plain | empty)
      · cases plain
      · rw [empty, String.append_empty, String.empty_append]

namespace Node

variable {σ : Settings} {n c name r : Node} {t : String}

theorem kind_of_identifier (type : n.type = "type_identifier") : n.kind = .identifier := by
  have other : n.type ≠ predefinedType := by
    rw [type]
    decide
  rw [kind, if_neg other, type]
  rfl

theorem kotlinName_of_identifier (type : n.type = "type_identifier") (text : n.text = some t) :
    n.kotlinName σ = pure (σ.escape t) := by
  rw [kotlinName, read_of_text text, pure_bind, kind_of_identifier type]
  rfl

/-- An interface or class is declared under its escaped name. -/
theorem containerStatement_names {kind : DeclarationKind}
    {member : Node → Translation (Option Declaration)} (named : c.child? .name = some name)
    (type : name.type = "type_identifier") (text : name.text = some t) :
    (c.containerStatement σ kind member).Gives fun ds => ∀ d ∈ ds, d.name = σ.escape t := by
  unfold containerStatement
  rw [named]
  refine gives_bind fun _ => gives_bind fun _ => gives_bind fun _ => gives_bind fun _ => ?_
  rw [kotlinName_of_identifier type text, pure_bind]
  refine gives_bind fun _ => gives_pure fun d hd => ?_
  rw [List.mem_singleton.1 hd]

/-- A use of a type is spelled as the source spells it. -/
theorem typeName_of_identifier (type : r.type = "type_identifier") (text : r.text = some t) :
    r.typeName.result = .ok t := by
  rw [typeName_identifier (kind_of_identifier type) text]
  rfl

/-- So is a use as part of a type. -/
theorem next_of_identifier (type : r.type = "type_identifier") (text : r.text = some t)
    {tasks : List Task} {names : List String} {m : Machine}
    (next : Machine.Next ⟨.operand (.node r) :: tasks, names⟩ m) : m = ⟨tasks, t :: names⟩ := by
  obtain ⟨task, others, same, step⟩ := next
  cases same
  rw [Machine.step, expand_identifier (kind_of_identifier type) text] at step
  cases step
  rfl

/-- And so is the name of a generic type. -/
theorem Composes.template_eq {template : Template} {operands : List Operand}
    (h : n.Composes template operands) (kind : n.kind = .genericType)
    (named : n.child? .name = some r) (text : r.text = some t) : template = .applied t := by
  cases h with
  | array other => cases kind.symm.trans other
  | function other => cases kind.symm.trans other
  | generic _ named' _ text' =>
    cases named.symm.trans named'
    cases text.symm.trans text'
    rfl

end Node

/-- **Spelling.** Let an interface or class be declared with the name `t`, and let the file use `t`
as a type or as part of one.  The declaration has the escaped name and the use is spelled `t`; they
agree just if `t` needs no escaping or the quote is empty. -/
theorem spelling_of_declared_type {σ : Settings} {scope : Scope} {c name r : Node} {t : String}
    {d : Declaration}
    (container : StatementForm.ofType c.type = .interfaceBlock ∨
      StatementForm.ofType c.type = .classBlock)
    (named : c.child? .name = some name) (type : name.type = "type_identifier")
    (text : name.text = some t) (declared : d ∈ (c.statement σ scope).given)
    (use : r.type = "type_identifier") (same : r.text = some t) :
    d.name = σ.escape t ∧ r.typeName.result = .ok t ∧
      (∀ tasks names m, Machine.Next ⟨.operand (.node r) :: tasks, names⟩ m →
        m = ⟨tasks, t :: names⟩) ∧
      (∀ (n : Node) template operands, n.Composes template operands → n.kind = .genericType →
        n.child? .name = some r → template = .applied t) ∧
      (t = d.name ↔ σ.needsEscaping t = false ∨ σ.quote = "") := by
  have declaredName : d.name = σ.escape t := by
    have names : (c.statement σ scope).Gives fun ds => ∀ d ∈ ds, d.name = σ.escape t := by
      rcases container with form | form
      · rw [Node.statement, form]
        exact Node.containerStatement_names named type text
      · rw [Node.statement, form]
        exact Node.containerStatement_names named type text
    cases outcome : (c.statement σ scope).result with
    | error e =>
      rw [given_error outcome] at declared
      cases declared
    | ok ds =>
      rw [given_ok outcome] at declared
      exact names ds outcome d declared
  refine ⟨declaredName, Node.typeName_of_identifier use same, ?_, ?_, ?_⟩
  · intro tasks names m next
    exact Node.next_of_identifier use same next
  · intro n template operands composes kind named
    exact composes.template_eq kind named same
  · rw [declaredName]
    exact σ.escape_eq_self_iff t

namespace Node

/-- `a: $A` -/
def propertyOfSelf : Node :=
  branch "property_signature" "a: $A" [] [
    leaf "property_identifier" "a" [.name],
    branch "type_annotation" ": $A" [.type] [token ":", leaf "type_identifier" "$A" []]]

/-- `interface $A { a: $A; }` -/
def interfaceOfSelf : Node :=
  branch "interface_declaration" "interface $A \x7b a: $A; \x7d" [] [
    token "interface",
    leaf "type_identifier" "$A" [.name],
    branch "interface_body" "\x7b a: $A; \x7d" [.body] [
      token "\x7b",
      propertyOfSelf,
      token ";",
      token "\x7d"]]

/-- The file with this interface. -/
def fileOfSelf : Node := branch "program" "interface $A \x7b a: $A; \x7d" [] [interfaceOfSelf]

/-- The declaration of its property. -/
def declarationOfProperty : Declaration where
  kind := .property
  name := "a"
  line := 1
  type := some { typeName := "$A" }

/-- The declaration of the interface. -/
def declarationOfSelf : Declaration where
  kind := .interface
  name := "`$A`"
  line := 1
  members := [declarationOfProperty]

/-- The name of the interface is quoted where it is declared and not where it is used. -/
theorem statement_interfaceOfSelf (scope : Scope) :
    (interfaceOfSelf.statement {} scope).result = .ok [declarationOfSelf] := by
  have spelled : (leaf "type_identifier" "$A" []).typeName.result = .ok "$A" :=
    typeName_of_identifier rfl rfl
  have use : propertyOfSelf.typeUse.result = .ok { typeName := "$A" } :=
    result_bind_eq_ok.2 ⟨(), rfl, result_bind_eq_ok.2 ⟨"$A", spelled, rfl⟩⟩
  have property : (propertyOfSelf.property {} (leaf "property_identifier" "a" [.name])).result =
      .ok declarationOfProperty :=
    result_bind_eq_ok.2 ⟨(), rfl, result_bind_eq_ok.2 ⟨_, use, rfl⟩⟩
  have member : (propertyOfSelf.interfaceMember {}).result = .ok (some declarationOfProperty) :=
    result_bind_eq_ok.2 ⟨(), rfl, result_map_eq_ok.2 ⟨_, property, rfl⟩⟩
  have members : (interfaceOfSelf.bodyMembers (interfaceMember {})).result =
      .ok [some declarationOfProperty] :=
    result_bind_eq_ok.2 ⟨(), rfl, result_bind_eq_ok.2 ⟨_, member, rfl⟩⟩
  rw [statement_plain rfl]
  exact result_bind_eq_ok.2 ⟨(), rfl, result_bind_eq_ok.2 ⟨(), rfl, result_bind_eq_ok.2 ⟨(), rfl,
    result_bind_eq_ok.2 ⟨_, members, rfl⟩⟩⟩⟩

theorem spelling_of_declared_type_interfaceOfSelf :
    declarationOfSelf.name = "`$A`" ∧
      (leaf "type_identifier" "$A" []).typeName.result = .ok "$A" := by
  have declared : declarationOfSelf ∈ (interfaceOfSelf.statement {} { path := "a.d.ts" }).given := by
    rw [given_ok (statement_interfaceOfSelf _)]
    exact List.mem_singleton_self _
  obtain ⟨declaration, use, -⟩ :=
    spelling_of_declared_type (r := leaf "type_identifier" "$A" []) (.inl rfl) rfl rfl rfl declared
      rfl rfl
  exact ⟨declaration, use⟩

theorem translate_fileOfSelf :
    ∃ file, translate {} "a.d.ts" fileOfSelf = .ok file ∧ declarationOfSelf ∈ file.declarations := by
  have statement := statement_interfaceOfSelf { path := "a.d.ts" }
  have scan : (fileOfSelf.scanFile {} "a.d.ts").result = .ok [declarationOfSelf] := by
    rw [scanFile_eq, show fileOfSelf.namedParts = [interfaceOfSelf] from rfl, collect_singleton,
      scanned, isolated, rescue_ok statement]
    exact result_bind_eq_ok.2 ⟨(), rfl, result_bind_eq_ok.2 ⟨(), rfl, statement⟩⟩
  exact ⟨⟨"a.d.ts", _, _⟩, translate_eq_ok.2 ⟨scan, rfl, rfl⟩, List.mem_singleton_self _⟩

/-- An interface `$A` is declared between quotes, but used without them. -/
theorem declared_type_spelled_otherwise :
    ¬ ∀ (σ : Settings) (path : String) (root c name r : Node) (t s : String) (d : Declaration)
      (file : TranslatedFile), translate σ path root = .ok file → c ∈ root.preorder →
      (StatementForm.ofType c.type = .interfaceBlock ∨
        StatementForm.ofType c.type = .classBlock) →
      c.child? .name = some name → name.type = "type_identifier" → name.text = some t →
      d ∈ (c.statement σ { path := path }).given → d ∈ file.declarations →
      r ∈ root.preorder → r.type = "type_identifier" → r.text = some t →
      r.typeName.result = .ok s → s = d.name := by
  intro alike
  have declared : declarationOfSelf ∈ (interfaceOfSelf.statement {} { path := "a.d.ts" }).given := by
    rw [given_ok (statement_interfaceOfSelf _)]
    exact List.mem_singleton_self _
  have inTree : fileOfSelf.at? [0] = some interfaceOfSelf := rfl
  have useInTree : fileOfSelf.at? [0, 2, 1, 1, 1] = some (leaf "type_identifier" "$A" []) := rfl
  have use : (leaf "type_identifier" "$A" []).typeName.result = .ok "$A" :=
    typeName_of_identifier rfl rfl
  obtain ⟨file, done, member⟩ := translate_fileOfSelf
  have same : "$A" = "`$A`" := alike {} "a.d.ts" fileOfSelf interfaceOfSelf _ _ "$A" "$A" _ file
    done (mem_preorder_of_at? inTree) (.inl rfl) rfl rfl rfl declared member
    (mem_preorder_of_at? useInTree) rfl rfl use
  exact absurd same (by decide)

end Node

end KotlinStubs
