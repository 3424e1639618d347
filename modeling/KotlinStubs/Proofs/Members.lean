import Mathlib.Data.List.ReduceOption
import KotlinStubs.Proofs.Faults
import KotlinStubs.Proofs.Omissions

/-!
# Children of bodies

Each child of the body of an interface or class, comments apart, declares one member or is noted
with one omission of its own.  The members stand in the order of the children, and the omissions are
noted in that order, with remarks on types between them.

* `Node.isMember`: the children that declare members.
* `Node.Yields`: what comes of a child, a member or an omission.
* `Node.interfaceMember_accounts`, `Node.classMember_accounts`: one child.
* `Node.containerStatement_eq_ok`: an interface or class in terms of the children of its body.
* `body_accounted`: all children of a body.
-/

namespace KotlinStubs

/-- What comes of a child of a body: a member, or an event that tells that there is none. -/
inductive Outcome where
  | member (d : Declaration)
  | omission (e : Event)

namespace Outcome

/-- The member, if there is one. -/
def member? : Outcome → Option Declaration
  | member d => some d
  | omission _ => none

/-- The event, if there is no member. -/
def omission? : Outcome → Option Event
  | member _ => none
  | omission e => some e

end Outcome

namespace Node

/-! ## Which children declare members -/

/-- The types of the nodes that declare methods, unless they are optional. -/
def methodTypes : List String :=
  ["method_signature", "method_definition", "abstract_method_signature"]

/-- Whether a child of an interface body declares a member. -/
def isInterfaceMember (c : Node) : Bool :=
  c.type ∈ ["method_signature", "property_signature"] ∧ c.child? .name ≠ none

/-- Whether a child of a class body is static, private or protected. -/
def isWithheld (c : Node) : Bool :=
  c.hasPart "static" || c.hasModifier "private" || c.hasModifier "protected"

/-- Whether a child of a class body declares a member. -/
def isClassMember (c : Node) : Bool :=
  c.type ∈ "public_field_definition" :: methodTypes ∧
    (∃ name ∈ c.child? .name, name.text ≠ some "constructor") ∧ c.isWithheld = false

/-- Whether a child of the body of an interface or class declares a member. -/
def isMember : DeclarationKind → Node → Bool
  | .interface, c => c.isInterfaceMember
  | .classType, c => c.isClassMember
  | _, _ => false

/-! ## What comes of them -/

/-- The member that a child declares has its name and line.  It is a method just if the child
declares a method that is not optional, and else a property, nullable just if the child is marked
`?`. -/
structure DeclaresMember (σ : Settings) (c : Node) (d : Declaration) : Prop where
  kind : d.kind = if c.type ∈ methodTypes ∧ c.hasPart "?" = false then .method else .property
  nullable : d.kind = .property → ∃ type, d.type = some type ∧ type.isNullable = c.hasPart "?"
  name : ∃ name, c.child? .name = some name ∧ (name.kotlinName σ).result = .ok d.name
  line : d.line = c.line

/-- The event for a child that declares no member. -/
inductive Omits (c : Node) : DeclarationKind → Event → Prop
  | interface :
      c.isInterfaceMember = false →
      Omits c .interface (.untranslatedInterfaceMember c.type c.line)
  | nameless :
      c.child? .name = none →
      Omits c .classType (.namelessClassMember c.type c.line)
  | constructor {name} :
      c.child? .name = some name →
      name.text = some "constructor" →
      Omits c .classType (.namelessClassMember c.type c.line)
  | hidden {name text} :
      c.child? .name = some name →
      name.text = some text →
      text ≠ "constructor" →
      c.isWithheld = true →
      Omits c .classType (.hiddenClassMember text c.line)
  | untranslated {name text} :
      c.child? .name = some name →
      name.text = some text →
      text ≠ "constructor" →
      c.isWithheld = false →
      c.type ∉ "public_field_definition" :: methodTypes →
      Omits c .classType (.untranslatedClassMember c.type c.line)

/-- What comes of a child of the body of an interface or class: its member or its omission. -/
inductive Yields (σ : Settings) (kind : DeclarationKind) (c : Node) : Outcome → Prop
  | member {d} :
      c.isMember kind = true →
      c.DeclaresMember σ d →
      Yields σ kind c (.member d)
  | omission {e} :
      c.isMember kind = false →
      c.Omits kind e →
      Yields σ kind c (.omission e)

theorem Omits.isOmission {c : Node} {kind : DeclarationKind} {e : Event} (h : c.Omits kind e) :
    e.isOmission = true := by
  cases h <;> rfl

theorem Omits.not_isMember {c : Node} {kind : DeclarationKind} {e : Event} (h : c.Omits kind e) :
    c.isMember kind = false := by
  cases h with
  | interface other => exact other
  | nameless nameless => simp [isMember, isClassMember, nameless]
  | constructor named text => simp [isMember, isClassMember, named, text]
  | hidden _ _ _ withheld => simp [isMember, isClassMember, withheld]
  | untranslated _ _ _ _ other =>
    simp only [isMember, isClassMember, other, false_and, decide_false]

end Node

namespace Translation

variable {α : Type} {σ : Settings} {kind : DeclarationKind} {c : Node}

/-- The translation of a child gives its member or notes its omission. -/
def AccountsFor (x : Translation (Option Declaration)) (σ : Settings) (kind : DeclarationKind)
    (c : Node) : Prop :=
  ∀ d?, x.result = .ok d? →
    ∃ o, c.Yields σ kind o ∧ o.member? = d? ∧ o.omission?.toList = x.omissions

theorem accountsFor_omission {e : Event} (h : c.Omits kind e) :
    (do note e; pure none : Translation (Option Declaration)).AccountsFor σ kind c := by
  rintro _ ⟨⟩
  refine ⟨.omission e, .omission h.not_isMember h, rfl, ?_⟩
  have noted : (note e).omissions = [e] := List.filter_cons_of_pos h.isOmission
  rw [omissions_bind_of_omitsNone fun _ => omitsNone_pure none, noted]
  rfl

theorem accountsFor_member {x : Translation Declaration} (isMember : c.isMember kind = true)
    (hx : x.OmitsNone) (gives : x.Gives (c.DeclaresMember σ)) :
    (some <$> x).AccountsFor σ kind c := by
  intro d? h
  obtain ⟨d, hd, rfl⟩ := result_map_eq_ok.1 h
  exact ⟨.member d, .member isMember (gives d hd), rfl, (hx.map some).symm⟩

theorem OmitsNone.accountsFor {x : Translation α} {f : α → Translation (Option Declaration)}
    (hx : x.OmitsNone) (hf : ∀ a, x.result = .ok a → (f a).AccountsFor σ kind c) :
    (x >>= f).AccountsFor σ kind c := by
  intro d? h
  obtain ⟨a, ha, h⟩ := result_bind_eq_ok.1 h
  obtain ⟨o, yields, member, omission⟩ := hf a ha d? h
  exact ⟨o, yields, member, omission.trans (hx.omissions_bind ha).symm⟩

end Translation

open Translation

namespace Node

variable {σ : Settings} {scope : Scope} {n c name : Node}

/-! ## One child -/

theorem typeUse_notNullable (n : Node) : n.typeUse.Gives (·.isNullable = false) := by
  unfold typeUse
  refine gives_bind fun _ => ?_
  split
  · exact gives_pure rfl
  · exact gives_bind fun _ => gives_pure rfl

/-- A child of the type of a method declares a method, or a nullable property if it is optional. -/
theorem method_declaresMember (type : c.type ∈ methodTypes) (named : c.child? .name = some name) :
    (c.method σ name).Gives (c.DeclaresMember σ) := by
  intro d h
  unfold method at h
  obtain ⟨signature, _, h⟩ := result_bind_eq_ok.1 h
  obtain ⟨escaped, hname, h⟩ := result_bind_eq_ok.1 h
  obtain ⟨_, _, h⟩ := result_bind_eq_ok.1 h
  split at h
  · next isOptional =>
    obtain ⟨_, _, h⟩ := result_bind_eq_ok.1 h
    cases h
    refine ⟨?_, fun _ => ⟨_, rfl, isOptional.symm⟩, ⟨name, named, hname⟩, rfl⟩
    exact (if_neg fun plain => Bool.noConfusion (isOptional.symm.trans plain.2)).symm
  · next plain =>
    cases h
    refine ⟨?_, nofun, ⟨name, named, hname⟩, rfl⟩
    exact (if_pos ⟨type, Bool.eq_false_iff.2 plain⟩).symm

theorem property_declaresMember (type : c.type ∉ methodTypes) (named : c.child? .name = some name) :
    (c.property σ name).Gives (c.DeclaresMember σ) := by
  intro d h
  unfold property at h
  obtain ⟨_, _, h⟩ := result_bind_eq_ok.1 h
  obtain ⟨use, huse, h⟩ := result_bind_eq_ok.1 h
  obtain ⟨escaped, hname, h⟩ := result_bind_eq_ok.1 h
  cases h
  refine ⟨?_, fun _ => ⟨_, rfl, ?_⟩, ⟨name, named, hname⟩, rfl⟩
  · exact (if_neg fun method => type method.1).symm
  · split
    · next isOptional => exact isOptional.symm
    · next plain => exact (c.typeUse_notNullable use huse).trans (Bool.eq_false_iff.2 plain).symm

theorem interfaceMemberForm_eq_property {type : String} :
    interfaceMemberForm type = .property ↔ type = "property_signature" := by
  constructor
  · intro form
    unfold interfaceMemberForm at form
    split at form <;> first | rfl | cases form
  · rintro rfl
    rfl

theorem classMemberForm_eq_property {type : String} :
    classMemberForm type = .property ↔ type = "public_field_definition" := by
  constructor
  · intro form
    unfold classMemberForm at form
    split at form <;> first | rfl | cases form
  · rintro rfl
    rfl

/-- A child of an interface gives its member, or its omission is noted. -/
theorem interfaceMember_accounts (c : Node) :
    (c.interfaceMember σ).AccountsFor σ .interface c := by
  unfold interfaceMember
  refine (omitsNone_reach? _).accountsFor fun _ _ => ?_
  split
  · next name named form =>
    have type := interfaceMemberForm_eq_method.1 form
    have member : c.isMember .interface = true := by
      simp [isMember, isInterfaceMember, named, type]
    exact accountsFor_member member (c.omitsNone_method name)
      (method_declaresMember (by rw [type]; decide) named)
  · next name named form =>
    have type := interfaceMemberForm_eq_property.1 form
    have member : c.isMember .interface = true := by
      simp [isMember, isInterfaceMember, named, type]
    exact accountsFor_member member (c.omitsNone_property name)
      (property_declaresMember (by rw [type]; decide) named)
  · next noMethod noProperty =>
    refine accountsFor_omission (.interface ?_)
    refine decide_eq_false ?_
    rintro ⟨type, named⟩
    obtain ⟨name, named⟩ := Option.ne_none_iff_exists'.1 named
    simp only [List.mem_cons, List.not_mem_nil, or_false] at type
    rcases type with type | type
    · exact noMethod name named (interfaceMemberForm_eq_method.2 type)
    · exact noProperty name named (interfaceMemberForm_eq_property.2 type)

/-- The children of class bodies that have a name and are no constructors. -/
theorem namedClassMember_accounts {text : String} (named : c.child? .name = some name)
    (htext : name.text = some text) (noConstructor : text ≠ "constructor") :
    (c.namedClassMember σ name).AccountsFor σ .classType c := by
  unfold namedClassMember
  refine c.omitsNone_isHidden.accountsFor fun hidden hhidden => ?_
  have withheld : hidden = c.isWithheld := of_isHidden hhidden
  split
  · next isHidden =>
    rw [isHidden] at withheld
    rw [read_of_text htext, pure_bind]
    exact accountsFor_omission (.hidden named htext noConstructor withheld.symm)
  · next isShown =>
    rw [Bool.not_eq_true] at isShown
    rw [isShown] at withheld
    have member (type : c.type ∈ "public_field_definition" :: methodTypes) :
        c.isMember .classType = true := by
      refine decide_eq_true ⟨type, ⟨name, named, ?_⟩, withheld.symm⟩
      rw [htext]
      exact fun same => noConstructor (Option.some.inj same)
    split
    · next form =>
      have type : c.type ∈ methodTypes := classMemberForm_eq_method.1 form
      exact accountsFor_member (member (List.mem_cons_of_mem _ type)) (c.omitsNone_method name)
        (method_declaresMember type named)
    · next form =>
      have type := classMemberForm_eq_property.1 form
      have noMethod : c.type ∉ methodTypes := by
        rw [type]
        decide
      exact accountsFor_member (member (type ▸ List.mem_cons_self)) (c.omitsNone_property name)
        (property_declaresMember noMethod named)
    · next form =>
      refine accountsFor_omission (.untranslated named htext noConstructor withheld.symm ?_)
      intro type
      rcases List.mem_cons.1 type with type | type
      · rw [classMemberForm_eq_property.2 type] at form
        cases form
      · rw [classMemberForm_eq_method.2 type] at form
        cases form

theorem classMember_accounts (c : Node) : (c.classMember σ).AccountsFor σ .classType c := by
  unfold classMember
  refine (omitsNone_reach? _).accountsFor fun _ _ => ?_
  refine (omitsNone_reachAll _).accountsFor fun _ _ => ?_
  split
  · next nameless => exact accountsFor_omission (.nameless nameless)
  · next name named =>
    refine (omitsNone_read name).accountsFor fun text htext => ?_
    have written := text_of_read htext
    split
    · next isConstructor =>
      exact accountsFor_omission (.constructor named (isConstructor ▸ written))
    · next noConstructor => exact namedClassMember_accounts named written noConstructor

/-! ## All children -/

variable {kind : DeclarationKind} {member : Node → Translation (Option Declaration)}

/-- The children of a body are translated one by one, and what each omits is noted in their order.
-/
theorem bodyMembers_eq_ok {parts : List (Option Declaration)}
    (h : (n.bodyMembers member).result = .ok parts) :
    List.Forall₂ (fun c d? => (member c).result = .ok d?) n.bodyParts parts ∧
      (n.bodyMembers member).omissions = n.bodyParts.flatMap fun c => (member c).omissions := by
  cases found : n.child? .body with
  | some body =>
    rw [bodyMembers, found] at h ⊢
    rw [bodyParts, found]
    obtain ⟨_, reached, h⟩ := result_bind_eq_ok.1 h
    obtain ⟨each, omissions⟩ := omissions_mapM h
    exact ⟨each, ((omitsNone_reachAll _).omissions_bind reached).trans omissions⟩
  | none =>
    rw [bodyMembers, found] at h ⊢
    rw [bodyParts, found]
    cases h
    exact ⟨.nil, rfl⟩

/-- An interface or class with a name gives one declaration, whose members come from the children of
its body in turn, as the omissions do. -/
theorem containerStatement_eq_ok {ds : List Declaration} (named : n.child? .name = some name)
    (h : (n.containerStatement σ kind member).result = .ok ds) :
    ∃ d parts, ds = [d] ∧ d.kind = kind ∧ d.members = parts.reduceOption ∧
      List.Forall₂ (fun c d? => (member c).result = .ok d?) n.bodyParts parts ∧
      (n.containerStatement σ kind member).omissions =
        n.bodyParts.flatMap fun c => (member c).omissions := by
  unfold containerStatement at h ⊢
  simp only [named] at h ⊢
  obtain ⟨_, reached, h⟩ := result_bind_eq_ok.1 h
  obtain ⟨_, reached', h⟩ := result_bind_eq_ok.1 h
  obtain ⟨_, reached'', h⟩ := result_bind_eq_ok.1 h
  obtain ⟨parts, hparts, h⟩ := result_bind_eq_ok.1 h
  obtain ⟨_, _, h⟩ := result_bind_eq_ok.1 h
  obtain ⟨_, _, h⟩ := result_bind_eq_ok.1 h
  cases h
  obtain ⟨each, omissions⟩ := bodyMembers_eq_ok hparts
  refine ⟨_, parts, rfl, rfl, rfl, each, ?_⟩
  rw [(omitsNone_reach? _).omissions_bind reached, (omitsNone_reach? _).omissions_bind reached',
    (omitsNone_reach? _).omissions_bind reached'', ← omissions]
  refine omissions_bind_of_omitsNone fun _ => name.omitsNone_kotlinName.andThen fun _ => ?_
  exact n.omitsNone_typeParameters?.andThen fun _ => omitsNone_pure _

/-- If each child gives its member or notes its omission, the members and the omissions of all of
them are those of one list of outcomes, one for each child. -/
theorem outcomes_of_members (each : ∀ c, (member c).AccountsFor σ kind c) {cs : List Node}
    {parts : List (Option Declaration)}
    (h : List.Forall₂ (fun c d? => (member c).result = .ok d?) cs parts) :
    ∃ outcomes, List.Forall₂ (Yields σ kind) cs outcomes ∧
      parts.reduceOption = outcomes.filterMap Outcome.member? ∧
      (cs.flatMap fun c => (member c).omissions) = outcomes.filterMap Outcome.omission? := by
  induction h with
  | nil => exact ⟨[], .nil, rfl, rfl⟩
  | @cons c d? cs parts done _ ih =>
    obtain ⟨o, yields, rfl, omission⟩ := each c d? done
    obtain ⟨outcomes, others, members, omissions⟩ := ih
    refine ⟨o :: outcomes, .cons yields others, ?_, ?_⟩
    · cases o with
      | member d => exact congrArg (d :: ·) members
      | omission e => exact members
    · rw [List.flatMap_cons, ← omission, omissions]
      cases o <;> rfl

/-- The kind of declaration that an interface or class makes. -/
inductive IsContainer (n : Node) : DeclarationKind → Prop
  | interface : StatementForm.ofType n.type = .interfaceBlock → IsContainer n .interface
  | classType : StatementForm.ofType n.type = .classBlock → IsContainer n .classType

theorem IsContainer.exists_statement_eq (h : n.IsContainer kind) (σ : Settings) (scope : Scope) :
    ∃ member, (∀ c, (member c).AccountsFor σ kind c) ∧
      n.statement σ scope = n.containerStatement σ kind member := by
  cases h with
  | interface form =>
    exact ⟨_, interfaceMember_accounts, statement_plain (by rw [plainStatement?, form])⟩
  | classType form =>
    exact ⟨_, classMember_accounts, statement_plain (by rw [plainStatement?, form])⟩

end Node

open Node

/-- **Children of bodies.** An interface or class with a name, if it is translated, gives one
declaration.  Each child of its body yields one member or one omission, as `isMember` tells; the
members of the declaration are these members and the omissions noted are these omissions, in the
order of the children. -/
theorem body_accounted {σ : Settings} {scope : Scope} {n name : Node} {kind : DeclarationKind}
    {ds : List Declaration} (container : n.IsContainer kind) (named : n.child? .name = some name)
    (done : (n.statement σ scope).result = .ok ds) :
    ∃ d outcomes, ds = [d] ∧ d.kind = kind ∧ List.Forall₂ (Yields σ kind) n.bodyParts outcomes ∧
      d.members = outcomes.filterMap Outcome.member? ∧
      (n.statement σ scope).omissions = outcomes.filterMap Outcome.omission? := by
  obtain ⟨member, each, eq⟩ := container.exists_statement_eq σ scope
  rw [eq] at done ⊢
  obtain ⟨d, parts, one, hkind, members, children, omissions⟩ :=
    containerStatement_eq_ok named done
  obtain ⟨outcomes, yields, hmembers, homissions⟩ := outcomes_of_members each children
  exact ⟨d, outcomes, one, hkind, yields, members.trans hmembers, omissions.trans homissions⟩

namespace Node

/-- A signature of a method without parameters. -/
def bareMethod (name : String) : Node :=
  branch "method_signature" (name ++ "()") [] [
    leaf "property_identifier" name [.name],
    branch "formal_parameters" "()" [.parameters] [token "(", token ")"]]

/-- `static s` -/
def staticField : Node :=
  branch "public_field_definition" "static s" [] [
    token "static", leaf "property_identifier" "s" [.name]]

/-- `p?` -/
def optionalField : Node :=
  branch "public_field_definition" "p?" [] [leaf "property_identifier" "p" [.name], token "?"]

/-- `class A { constructor(); static s; p?; m(); }` -/
def classOfFour : Node :=
  branch "class_declaration" "class A \x7b constructor(); static s; p?; m(); \x7d" [] [
    token "class",
    leaf "type_identifier" "A" [.name],
    branch "class_body" "\x7b constructor(); static s; p?; m(); \x7d" [.body] [
      token "\x7b",
      bareMethod "constructor", token ";",
      staticField, token ";",
      optionalField, token ";",
      bareMethod "m", token ";",
      token "\x7d"]]

theorem body_accounted_classOfFour :
    ∃ ds, (classOfFour.statement {} { path := "a.d.ts" }).result = .ok ds ∧
      ∃ d outcomes, ds = [d] ∧ d.kind = .classType ∧
        List.Forall₂ (Yields {} .classType)
          [bareMethod "constructor", staticField, optionalField, bareMethod "m"] outcomes ∧
        d.members = outcomes.filterMap Outcome.member? ∧
        (classOfFour.statement {} { path := "a.d.ts" }).omissions =
          outcomes.filterMap Outcome.omission? := by
  have done : ∃ ds, (classOfFour.statement {} { path := "a.d.ts" }).result = .ok ds := by
    rw [statement_plain rfl]
    exact ⟨_, rfl⟩
  obtain ⟨ds, done⟩ := done
  exact ⟨ds, done, body_accounted (.classType rfl) rfl done⟩

end Node

end KotlinStubs
