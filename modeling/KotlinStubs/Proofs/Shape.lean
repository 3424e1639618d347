import Mathlib.Data.List.ReduceOption
import KotlinStubs.Kotlin.Printer
import KotlinStubs.Proofs.StatementForms

/-!
# The shape of translated files

Which parts a declaration has follows from its kind, at every depth, whatever the tree it comes from
(`Declaration.WellShaped`): a callable has a signature, a variable or property a type, only
interfaces, classes and namespaces have members, and only of the kinds that may stand in them.

A text is missing only for callables without signature, so a file of well-shaped declarations has
one.

* `statement_gives`, `scanFile_gives`: every statement and the scan of a file give well-shaped
  declarations, one lemma for each translation.
* `Declaration.WellShaped.exists_render`: a well-shaped declaration has a text wherever it stands.
* `translate_shape`: a translated file is well-shaped and has a text.
-/

namespace KotlinStubs

open Translation

/-! ## Shapes -/

/-- The type of a result or a variable: neither nullable nor for any number of values. -/
structure TypeUse.IsPlain (t : TypeUse) : Prop where
  notNullable : t.isNullable = false
  notVararg : t.isVararg = false

/-- A parameter that may be left out has a default. -/
def FunParam.IsProper (p : FunParam) : Prop := p.type.isNullable = true → p.defaultValue ≠ none

/-- A signature with a plain result and proper parameters. -/
structure CallSignature.IsProper (s : CallSignature) : Prop where
  result : s.returnType.IsPlain
  params : ∀ p ∈ s.params, p.IsProper

/-- The kinds of declarations that a statement can make, apart from namespaces. -/
def DeclarationKind.ofStatements : List DeclarationKind := [function, value, interface, classType]

/-- The kinds of members of interfaces and classes. -/
def DeclarationKind.ofMembers : List DeclarationKind := [method, property]

namespace Declaration

/-- The parts of a declaration fit its kind, and its members are of kinds that may stand in it. -/
def HasShape (d : Declaration) : Prop :=
  match d.kind with
  | .function | .method =>
    (∃ s, d.signature = some s ∧ s.IsProper) ∧ d.type = none ∧ d.members = []
  | .value => (∃ t, d.type = some t ∧ t.IsPlain) ∧ d.signature = none ∧ d.members = []
  | .property => (∃ t, d.type = some t) ∧ d.signature = none ∧ d.members = []
  | .interface | .classType =>
    d.signature = none ∧ d.type = none ∧ ∀ m ∈ d.members, m.kind ∈ DeclarationKind.ofMembers
  | .nameSpace =>
    d.signature = none ∧ d.type = none ∧ ∀ m ∈ d.members, m.kind ∈ DeclarationKind.ofStatements

/-- A declaration and everything in it, at every depth, has the shape of its kind. -/
inductive WellShaped : Declaration → Prop
  | intro {d : Declaration} : d.HasShape → (∀ m ∈ d.members, m.WellShaped) → d.WellShaped

theorem WellShaped.members {d : Declaration} (h : d.WellShaped) :
    ∀ m ∈ d.members, m.WellShaped := by
  cases h with
  | intro _ members => exact members

theorem WellShaped.of_no_members {d : Declaration} (shape : d.HasShape) (none : d.members = []) :
    d.WellShaped := by
  refine .intro shape ?_
  rw [none]
  intro m hm
  cases hm

/-- A declaration that can be a member of an interface or class. -/
def IsMember (d : Declaration) : Prop := d.kind ∈ DeclarationKind.ofMembers ∧ d.WellShaped

/-- A declaration that can stand in a file or namespace and is no namespace. -/
def IsEntry (d : Declaration) : Prop := d.kind ∈ DeclarationKind.ofStatements ∧ d.WellShaped

/-- A declaration that a statement can make in a file or namespace. -/
def IsOutcome (d : Declaration) : Prop :=
  (d.kind ∈ DeclarationKind.ofStatements ∨ d.kind = .nameSpace) ∧ d.WellShaped

theorem IsEntry.isOutcome {d : Declaration} (h : d.IsEntry) : d.IsOutcome := ⟨.inl h.1, h.2⟩

theorem IsEntry.not_nameSpace {d : Declaration} (h : d.IsEntry) : d.kind ≠ .nameSpace := by
  intro kind
  have entry := h.1
  rw [kind] at entry
  exact absurd entry (by decide)

end Declaration

/-! ## What translations give -/

namespace Node

variable {σ : Settings} {scope : Scope}

theorem typeUse_gives (n : Node) : n.typeUse.Gives TypeUse.IsPlain := by
  unfold typeUse
  refine gives_bind fun _ => ?_
  split
  · exact gives_pure ⟨rfl, rfl⟩
  · exact gives_bind fun _ => gives_pure ⟨rfl, rfl⟩

theorem parameterDefault_gives (p : Node) :
    p.parameterDefault.Gives fun value => p.hasPart "?" = true → value ≠ none := by
  unfold parameterDefault
  refine gives_bind fun _ => ?_
  split
  · exact gives_bind fun _ => gives_pure fun _ => Option.some_ne_none _
  · refine gives_pure fun marked => ?_
    rw [if_pos marked]
    exact Option.some_ne_none _

theorem parameter_gives (p : Node) : (p.parameter σ).Gives FunParam.IsProper := by
  unfold parameter
  refine gives_bind fun _ => gives_bind fun _ => gives_bind fun _ => gives_bind fun _ => ?_
  refine p.parameterDefault_gives.bind fun value hvalue => ?_
  exact gives_bind fun _ => gives_pure hvalue

theorem callParameters_gives (n : Node) :
    (n.callParameters σ).Gives fun ps => ∀ p ∈ ps, p.IsProper := by
  unfold callParameters
  refine gives_bind fun _ => ?_
  split
  · unfold parameterList
    exact gives_bind fun _ => Gives.mapM parameter_gives
  · exact gives_pure fun p hp => absurd hp List.not_mem_nil

theorem callSignature_gives (n : Node) : (n.callSignature σ).Gives CallSignature.IsProper := by
  unfold callSignature
  refine gives_bind fun _ => gives_bind fun typeParams => ?_
  refine n.callParameters_gives.bind fun params proper => ?_
  exact gives_bind fun _ => gives_pure ⟨⟨rfl, rfl⟩, proper⟩

theorem method_gives (n name : Node) : (n.method σ name).Gives Declaration.IsMember := by
  unfold method
  refine n.callSignature_gives.bind fun signature proper => ?_
  refine gives_bind fun escaped => gives_bind fun _ => ?_
  split
  · refine gives_bind fun _ => gives_pure ⟨?_, .of_no_members ?_ rfl⟩
    · exact List.mem_cons_of_mem _ List.mem_cons_self
    · exact ⟨⟨_, rfl⟩, rfl, rfl⟩
  · refine gives_pure ⟨List.mem_cons_self, .of_no_members ?_ rfl⟩
    exact ⟨⟨signature, rfl, proper⟩, rfl, rfl⟩

theorem property_gives (n name : Node) : (n.property σ name).Gives Declaration.IsMember := by
  unfold property
  refine gives_bind fun _ => gives_bind fun type => gives_bind fun escaped => ?_
  refine gives_pure ⟨List.mem_cons_of_mem _ List.mem_cons_self, .of_no_members ?_ rfl⟩
  exact ⟨⟨_, rfl⟩, rfl, rfl⟩

theorem interfaceMember_gives (n : Node) :
    (n.interfaceMember σ).Gives fun d? => ∀ d ∈ d?, d.IsMember := by
  unfold interfaceMember
  refine gives_bind fun _ => ?_
  split
  · exact (n.method_gives _).map fun d hd e he => Option.some.inj he ▸ hd
  · exact (n.property_gives _).map fun d hd e he => Option.some.inj he ▸ hd
  · exact gives_bind fun _ => gives_pure fun d hd => by cases hd

/-- A child of a class gives a member of the shape of its kind, or nothing. -/
theorem classMember_gives (n : Node) :
    (n.classMember σ).Gives fun d? => ∀ d ∈ d?, d.IsMember := by
  have nothing : (pure none : Translation (Option Declaration)).Gives
      fun d? => ∀ d ∈ d?, d.IsMember := gives_pure fun d hd => by cases hd
  unfold classMember
  refine gives_bind fun _ => gives_bind fun _ => ?_
  split
  · exact gives_bind fun _ => nothing
  · refine gives_bind fun text => ?_
    split
    · exact gives_bind fun _ => nothing
    · unfold namedClassMember
      refine gives_bind fun hidden => ?_
      split
      · exact gives_bind fun _ => gives_bind fun _ => nothing
      · split
        · exact (n.method_gives _).map fun d hd e he => Option.some.inj he ▸ hd
        · exact (n.property_gives _).map fun d hd e he => Option.some.inj he ▸ hd
        · exact gives_bind fun _ => nothing

/-- All declarations of a list have a property. -/
abbrev All (P : Declaration → Prop) (ds : List Declaration) : Prop := ∀ d ∈ ds, P d

/-- All declarations of a list can stand in a file or namespace and are no namespaces. -/
abbrev AllEntries : List Declaration → Prop := All Declaration.IsEntry

/-- All declarations of a list can be made by a statement. -/
abbrev AllOutcomes : List Declaration → Prop := All Declaration.IsOutcome

theorem all_nil {P : Declaration → Prop} : All P [] := fun _ h => absurd h List.not_mem_nil

theorem all_singleton {P : Declaration → Prop} {d : Declaration} (h : P d) : All P [d] := by
  intro e he
  rw [List.mem_singleton.1 he]
  exact h

theorem functionStatement_gives (n : Node) : (n.functionStatement σ).Gives AllEntries := by
  unfold functionStatement
  refine gives_bind fun _ => ?_
  split
  · exact gives_pure all_nil
  · refine gives_bind fun escaped => n.callSignature_gives.bind fun signature proper => ?_
    refine gives_pure (all_singleton ⟨List.mem_cons_self, .of_no_members ?_ rfl⟩)
    exact ⟨⟨signature, rfl, proper⟩, rfl, rfl⟩

theorem declarator_gives (isVar : Bool) (n : Node) :
    (n.declarator σ isVar).Gives AllEntries := by
  unfold declarator
  split
  · refine gives_bind fun _ => ?_
    split
    · exact gives_pure all_nil
    · refine gives_bind fun escaped => n.typeUse_gives.bind fun type plain => ?_
      refine gives_pure (all_singleton ⟨?_, .of_no_members ?_ rfl⟩)
      · exact List.mem_cons_of_mem _ List.mem_cons_self
      · exact ⟨⟨type, rfl, plain⟩, rfl, rfl⟩
  · exact gives_fail _

theorem variablesStatement_gives (n : Node) : (n.variablesStatement σ).Gives AllEntries := by
  unfold variablesStatement
  refine gives_bind fun _ => ?_
  rw [← map_eq_pure_bind, ← collect_eq_mapM]
  exact Gives.collect fun m _ => m.declarator_gives _

theorem bodyMembers_gives {member : Node → Translation (Option Declaration)} (n : Node)
    (hmember : ∀ m, (member m).Gives fun d? => ∀ d ∈ d?, d.IsMember) :
    (n.bodyMembers member).Gives fun ds => ∀ d? ∈ ds, ∀ d ∈ d?, d.IsMember := by
  unfold bodyMembers
  split
  · exact gives_bind fun _ => Gives.mapM hmember
  · exact gives_pure fun d hd => absurd hd List.not_mem_nil

/-- An interface or class is well-shaped if what its children give is. -/
theorem containerStatement_gives {kind : DeclarationKind}
    {member : Node → Translation (Option Declaration)} (n : Node)
    (hkind : kind = .interface ∨ kind = .classType)
    (hmember : ∀ m, (member m).Gives fun d? => ∀ d ∈ d?, d.IsMember) :
    (n.containerStatement σ kind member).Gives AllEntries := by
  unfold containerStatement
  refine gives_bind fun _ => ?_
  split
  · exact gives_pure all_nil
  · refine gives_bind fun _ => gives_bind fun _ => ?_
    refine (n.bodyMembers_gives hmember).bind fun ds hds => ?_
    refine gives_bind fun _ => gives_bind fun _ => gives_pure ?_
    have proper : ∀ d ∈ ds.reduceOption, d.IsMember := by
      intro d hd
      exact hds _ (List.reduceOption_mem_iff.1 hd) d rfl
    refine all_singleton ⟨?_, .intro ?_ fun m hm => (proper m hm).2⟩
    · rcases hkind with rfl | rfl <;> simp [DeclarationKind.ofStatements]
    · rcases hkind with rfl | rfl <;> exact ⟨rfl, rfl, fun m hm => (proper m hm).1⟩

theorem plainStatement_gives {n : Node} {x : Translation (List Declaration)}
    (h : n.plainStatement? σ = some x) : x.Gives AllEntries := by
  unfold plainStatement? at h
  split at h <;> cases h
  · exact n.functionStatement_gives
  · exact n.variablesStatement_gives
  · exact n.containerStatement_gives (.inl rfl) interfaceMember_gives
  · exact n.containerStatement_gives (.inr rfl) classMember_gives

/-- The namespace made from outcomes keeps those that are no namespaces as its members and lists the
others after itself. -/
theorem all_namespaceOf {name : String} {line : Nat} {ds : List Declaration}
    (h : AllOutcomes ds) : AllOutcomes (namespaceOf name line ds) := by
  intro d hd
  rcases List.mem_cons.1 hd with rfl | hd
  · refine ⟨.inr rfl, .intro ⟨rfl, rfl, fun m hm => ?_⟩ fun m hm => ?_⟩
    · obtain ⟨hm, other⟩ := List.mem_filter.1 hm
      rcases (h m hm).1 with kind | kind
      · exact kind
      · simp [kind] at other
    · exact (h m (List.mem_filter.1 hm).1).2
  · exact h d (List.mem_filter.1 hd).1

theorem rejectStatement_gives (n : Node) (e : Fault) (line : Nat) :
    (n.rejectStatement scope e line).Gives AllOutcomes := by
  unfold rejectStatement
  refine gives_bind fun _ => gives_bind fun _ => gives_bind fun _ => gives_bind fun _ => ?_
  exact gives_pure all_nil

theorem scanned_gives {n : Node} (h : (n.statement σ scope).Gives AllOutcomes) :
    (n.scanned σ scope).Gives AllOutcomes :=
  h.rescue n.rejectStatement_gives

/-- A namespace is well-shaped if its statements give what can stand in it. -/
theorem namespaceStatement_gives {n : Node}
    (ih : ∀ m : Node, sizeOf m < sizeOf n → ∀ scope, (m.statement σ scope).Gives AllOutcomes) :
    (n.namespaceStatement σ scope).Gives AllOutcomes := by
  rw [namespaceStatement_eq]
  refine gives_bind fun _ => gives_bind fun _ => ?_
  split
  · next name body hname hbody =>
    split
    · exact gives_bind fun _ => gives_bind fun _ => gives_pure all_nil
    · refine gives_bind fun text => gives_bind fun _ => ?_
      have inner : (collect (scanned σ (scope.enter text)) body.namedParts).Gives AllOutcomes := by
        refine Gives.collect fun m hm => scanned_gives (ih m ?_ _)
        exact Nat.lt_trans (sizeOf_lt_of_mem_namedParts hm) (sizeOf_lt_of_child? hbody)
      exact inner.bind fun ds hds => gives_pure (all_namespaceOf hds)
  · exact gives_pure all_nil

/-- Every statement gives declarations that can stand in a file or namespace. -/
theorem statement_gives (n : Node) (scope : Scope) :
    (n.statement σ scope).Gives AllOutcomes := by
  induction n using sizeInduction generalizing scope with
  | step n ih =>
    have remark (e : Event) : (do note e; pure [] : Translation (List Declaration)).Gives
        AllOutcomes := gives_bind fun _ => gives_pure all_nil
    cases form : StatementForm.ofType n.type with
    | exported =>
      rw [statement_exported form]
      refine gives_bind fun _ => ?_
      split
      · next inner hinner => exact ih inner (sizeOf_lt_of_child? hinner) scope
      · exact remark _
    | ambient =>
      rw [statement_ambient form]
      refine gives_bind fun _ => Gives.collect fun m hm => ?_
      exact ih m (sizeOf_lt_of_mem_namedParts hm) scope
    | expression =>
      rw [statement_expression form]
      refine gives_bind fun _ => ?_
      split
      · next inner hinner =>
        split
        · exact ih inner (sizeOf_lt_of_firstNamed? hinner) scope
        · exact remark _
      · exact remark _
    | function | declarators | interfaceBlock | classBlock =>
      obtain ⟨x, plain⟩ := exists_plainStatement σ (n := n) (by rw [form]; decide)
      rw [statement_plain plain]
      exact (plainStatement_gives plain).imp fun ds h d hd => (h d hd).isOutcome
    | namespaceBlock =>
      rw [statement_namespace form]
      exact namespaceStatement_gives ih
    | other =>
      rw [statement_other form]
      exact gives_bind fun _ => remark _

/-- The scan of a file gives declarations that can stand in it. -/
theorem scanFile_gives (root : Node) (path : String) :
    (root.scanFile σ path).Gives AllOutcomes := by
  rw [scanFile_eq]
  refine gives_bind fun _ => gives_bind fun _ => ?_
  exact Gives.collect fun n _ => scanned_gives (n.statement_gives _)

end Node

/-! ## Texts -/

namespace Declaration

theorem exists_renderAll {ds : List Declaration} {indent : Int}
    {container : Option DeclarationKind}
    (h : ∀ d ∈ ds, ∃ text, d.render indent container = .ok text) :
    ∃ texts, renderAll indent container ds = .ok texts := by
  induction ds with
  | nil => exact ⟨[], rfl⟩
  | cons d ds ih =>
    obtain ⟨text, htext⟩ := h d List.mem_cons_self
    obtain ⟨texts, htexts⟩ := ih fun e he => h e (List.mem_cons_of_mem d he)
    exact ⟨text :: texts, by rw [renderAll, htext, htexts]; rfl⟩

/-- A well-shaped declaration has a text, in any container and at any indent. -/
theorem WellShaped.exists_render {d : Declaration} (h : d.WellShaped) (indent : Int)
    (container : Option DeclarationKind) : ∃ text, d.render indent container = .ok text := by
  induction h generalizing indent container with
  | @intro d shape _ ih =>
    have members (indent : Int) (container : Option DeclarationKind) :
        ∃ texts, renderAll indent container d.members = .ok texts :=
      exists_renderAll fun m hm => ih m hm indent container
    rcases d with ⟨kind, name, line, signature, type, typeParams, isVar, ms⟩
    cases kind with
    | function =>
      obtain ⟨⟨s, rfl, -⟩, -⟩ := shape
      exact ⟨_, by rw [render]⟩
    | method =>
      obtain ⟨⟨s, rfl, -⟩, -⟩ := shape
      rw [render]
      split
      · exact ⟨_, rfl⟩
      · exact ⟨_, rfl⟩
    | value | property => exact ⟨_, by rw [render]⟩
    | interface | classType =>
      rw [render]
      split
      · exact ⟨_, rfl⟩
      · obtain ⟨texts, htexts⟩ := members (indent + 1) _
        rw [htexts]
        exact ⟨_, rfl⟩
    | nameSpace =>
      obtain ⟨texts, htexts⟩ := members 0 none
      rw [render, htexts]
      exact ⟨_, rfl⟩

theorem exists_renderSections (package : Option String) {ds : List Declaration}
    (h : ∀ d ∈ ds, d.WellShaped) : ∃ texts, renderSections package ds = .ok texts := by
  induction ds with
  | nil => exact ⟨[], rfl⟩
  | cons d ds ih =>
    obtain ⟨lines, hlines⟩ := exists_renderAll fun m hm =>
      ((h d List.mem_cons_self).members m hm).exists_render 0 none
    obtain ⟨texts, htexts⟩ := ih fun e he => h e (List.mem_cons_of_mem d he)
    exact ⟨_, by rw [renderSections, renderSection, hlines, htexts]; rfl⟩

end Declaration

theorem TranslatedFile.exists_render {file : TranslatedFile}
    (h : ∀ d ∈ file.declarations, d.WellShaped) : ∃ text, file.render = .ok text := by
  have kept (p : Declaration → Bool) : ∀ d ∈ file.declarations.filter p, d.WellShaped :=
    fun d hd => h d (List.mem_filter.1 hd).1
  obtain ⟨own, hown⟩ := Declaration.exists_renderAll fun d hd =>
    (kept (·.kind != .nameSpace) d hd).exists_render 0 none
  obtain ⟨sections, hsections⟩ := Declaration.exists_renderSections (packageName? file.path)
    (kept (·.kind == .nameSpace))
  exact ⟨_, by rw [TranslatedFile.render, hown, hsections]; rfl⟩

/-! ## Translated files -/

theorem allOutcomes_of_translate {σ : Settings} {path : String} {root : Node}
    {file : TranslatedFile} (done : translate σ path root = .ok file) :
    Node.AllOutcomes file.declarations :=
  root.scanFile_gives path _ (translate_eq_ok.1 done).1

theorem exists_render_of_translate {σ : Settings} {path : String} {root : Node}
    {file : TranslatedFile} (done : translate σ path root = .ok file) :
    ∃ text, file.render = .ok text :=
  TranslatedFile.exists_render fun d hd => (allOutcomes_of_translate done d hd).2

/-- The declarations of a translated file are of the kinds that statements make, and each of them
and everything in it has the shape of its kind; so the file has a text. -/
theorem translate_shape {σ : Settings} {path : String} {root : Node} {file : TranslatedFile}
    (done : translate σ path root = .ok file) :
    (∀ d ∈ file.declarations,
      (d.kind ∈ DeclarationKind.ofStatements ∨ d.kind = .nameSpace) ∧ d.WellShaped) ∧
      ∃ text, file.render = .ok text :=
  ⟨allOutcomes_of_translate done, exists_render_of_translate done⟩

namespace Node

/-- `interface I { m(a); n?(); p; }`, with a method, an optional method and a property. -/
def interfaceOfMembers : Node :=
  branch "program" "interface I \x7b m(a); n?(); p; \x7d" [] [
    branch "interface_declaration" "interface I \x7b m(a); n?(); p; \x7d" [] [
      token "interface",
      leaf "type_identifier" "I" [.name],
      branch "interface_body" "\x7b m(a); n?(); p; \x7d" [.body] [
        token "\x7b",
        branch "method_signature" "m(a)" [] [
          leaf "property_identifier" "m" [.name],
          branch "formal_parameters" "(a)" [.parameters] [
            token "(",
            branch "required_parameter" "a" [] [leaf "identifier" "a" [.pattern]],
            token ")"]],
        token ";",
        branch "method_signature" "n?()" [] [
          leaf "property_identifier" "n" [.name],
          token "?",
          branch "formal_parameters" "()" [.parameters] [token "(", token ")"]],
        token ";",
        branch "property_signature" "p" [] [leaf "property_identifier" "p" [.name]],
        token ";",
        token "\x7d"]]]

theorem translate_shape_interfaceOfMembers : ∃ file,
    translate {} "i.d.ts" interfaceOfMembers = .ok file ∧
      (∀ d ∈ file.declarations,
        (d.kind ∈ DeclarationKind.ofStatements ∨ d.kind = .nameSpace) ∧ d.WellShaped) ∧
      ∃ text, file.render = .ok text := by
  have scan : ∃ ds, (interfaceOfMembers.scanFile {} "i.d.ts").result = .ok ds := by
    rw [scanFile_eq, show interfaceOfMembers.namedParts = [_] from rfl, collect_singleton, scanned,
      isolated, statement_plain rfl]
    exact ⟨_, rfl⟩
  obtain ⟨ds, hds⟩ := scan
  have done : translate {} "i.d.ts" interfaceOfMembers = .ok ⟨"i.d.ts", ds, _⟩ :=
    translate_eq_ok.2 ⟨hds, rfl, rfl⟩
  exact ⟨_, done, translate_shape done⟩

end Node

end KotlinStubs
