import KotlinStubs.Proofs.Members

/-!
# Members that are not public

A class gives the members of its instances that everybody can use.  A child of its body is left out
for the modifiers `static`, `private` and `protected` and for the name `constructor`, so these
children declare no member; but a private name `#p` and a constructor whose name is quoted are taken
like any other name (`Node.IsDisguised`), and are members nonetheless.

* `Node.IsInternal`: the children of class bodies that are no public members of the instances.
* `Node.isInternal_iff`: which of them declare members.
* `class_members`: the members of a class.
* `exists_internal_members`: a class whose members are all internal.
-/

namespace KotlinStubs

open Translation

namespace Node

variable {σ : Settings} {kind : DeclarationKind} {c : Node}

/-- A child of a class body with a private name, or a constructor whose name is quoted. -/
inductive IsDisguised (c : Node) : Prop
  | privateName {name} :
      c.child? .name = some name →
      name.type = "private_property_identifier" →
      IsDisguised c
  | quotedConstructor {name text} :
      c.child? .name = some name →
      name.kind = .string →
      name.text = some text →
      Settings.withoutEnds text = "constructor" →
      IsDisguised c

/-- A child of a class body that is no public member of the instances. -/
inductive IsInternal (c : Node) : Prop
  | modifier {keyword} :
      keyword ∈ ["private", "protected"] →
      c.hasModifier keyword = true →
      IsInternal c
  | static :
      c.hasPart "static" = true →
      IsInternal c
  | constructor {name} :
      c.child? .name = some name →
      name.text = some "constructor" →
      IsInternal c
  | disguised :
      c.IsDisguised →
      IsInternal c

/-- The internal children that declare members are those in disguise. -/
theorem isInternal_iff (h : c.isClassMember = true) : c.IsInternal ↔ c.IsDisguised := by
  refine ⟨fun internal => ?_, .disguised⟩
  obtain ⟨-, ⟨name, named, noConstructor⟩, shown⟩ := of_decide_eq_true h
  obtain ⟨⟨notStatic, notPrivate⟩, notProtected⟩ :
      (c.hasPart "static" = false ∧ c.hasModifier "private" = false) ∧
        c.hasModifier "protected" = false := by
    simpa only [isWithheld, Bool.or_eq_false_iff] using shown
  cases internal with
  | modifier keyword marked =>
    simp only [List.mem_cons, List.not_mem_nil, or_false] at keyword
    rcases keyword with rfl | rfl
    · cases marked.symm.trans notPrivate
    · cases marked.symm.trans notProtected
  | static marked => cases marked.symm.trans notStatic
  | constructor named' text =>
    cases named'.symm.trans named
    exact absurd text noConstructor
  | disguised disguised => exact disguised

/-- The members among the outcomes are declared, in turn, by the children that declare members. -/
theorem declaresMember_members {cs : List Node} {outcomes : List Outcome}
    (h : List.Forall₂ (Yields σ kind) cs outcomes) :
    List.Forall₂ (DeclaresMember σ) (cs.filter (isMember kind))
      (outcomes.filterMap Outcome.member?) := by
  induction h with
  | nil => exact .nil
  | cons yields _ ih =>
    cases yields with
    | member isMember declares =>
      rw [List.filter_cons_of_pos isMember]
      exact .cons declares ih
    | omission noMember _ =>
      rw [List.filter_cons_of_neg (Bool.eq_false_iff.1 noMember)]
      exact ih

end Node

open Node

/-- **Members of classes.** A class with a name, if it is translated, has as its members what those
children of its body declare that have a name and the form of a member, are not called `constructor`
and are neither static nor private or protected.  The only ones among them that are no public
members of the instances are those with a private name and the constructors whose name is quoted. -/
theorem class_members {σ : Settings} {scope : Scope} {n name : Node} {ds : List Declaration}
    (form : StatementForm.ofType n.type = .classBlock) (named : n.child? .name = some name)
    (done : (n.statement σ scope).result = .ok ds) :
    ∃ d, ds = [d] ∧ d.kind = .classType ∧
      List.Forall₂ (DeclaresMember σ) (n.bodyParts.filter isClassMember) d.members ∧
      ∀ c ∈ n.bodyParts.filter isClassMember, (c.IsInternal ↔ c.IsDisguised) := by
  rw [statement_plain (by rw [plainStatement?, form])] at done
  obtain ⟨d, parts, one, kind, members, children, -⟩ := containerStatement_eq_ok named done
  refine ⟨d, one, kind, ?_, fun c hc => isInternal_iff (List.mem_filter.1 hc).2⟩
  obtain ⟨outcomes, yields, declared, -⟩ := outcomes_of_members classMember_accounts children
  rw [members, declared]
  exact declaresMember_members yields

namespace Node

/-- `#p` -/
def privateField : Node :=
  branch "public_field_definition" "#p" [] [leaf "private_property_identifier" "#p" [.name]]

/-- `'constructor'()` -/
def quotedConstructor : Node :=
  branch "method_signature" "'constructor'()" [] [
    leaf "string" "'constructor'" [.name],
    branch "formal_parameters" "()" [.parameters] [token "(", token ")"]]

/-- `class A { #p; 'constructor'(); }` -/
def classInDisguise : Node :=
  branch "class_declaration" "class A \x7b #p; 'constructor'(); \x7d" [] [
    token "class",
    leaf "type_identifier" "A" [.name],
    branch "class_body" "\x7b #p; 'constructor'(); \x7d" [.body] [
      token "\x7b",
      privateField, token ";",
      quotedConstructor, token ";",
      token "\x7d"]]

theorem class_members_classInDisguise :
    ∃ ds, (classInDisguise.statement {} { path := "a.d.ts" }).result = .ok ds ∧
      ∃ d, ds = [d] ∧ d.kind = .classType ∧
        List.Forall₂ (DeclaresMember {}) [privateField, quotedConstructor] d.members ∧
        ∀ c ∈ [privateField, quotedConstructor], (c.IsInternal ↔ c.IsDisguised) := by
  have done : ∃ ds, (classInDisguise.statement {} { path := "a.d.ts" }).result = .ok ds := by
    rw [statement_plain rfl]
    exact ⟨_, rfl⟩
  obtain ⟨ds, done⟩ := done
  exact ⟨ds, done, class_members rfl rfl done⟩

/-- All children of the body are internal, and all of them declare members. -/
theorem exists_internal_members :
    ∃ d, (classInDisguise.statement {} { path := "a.d.ts" }).result = .ok [d] ∧
      d.kind = .classType ∧ d.members.map (·.name) = ["#p", "constructor"] ∧
      List.Forall₂ (DeclaresMember {}) classInDisguise.bodyParts d.members ∧
      ∀ c ∈ classInDisguise.bodyParts, c.IsInternal := by
  have done : (classInDisguise.statement {} { path := "a.d.ts" }).result =
      (classInDisguise.containerStatement {} .classType (classMember {})).result := by
    rw [statement_plain rfl]
  refine ⟨_, done.trans rfl, rfl, rfl, ?_, ?_⟩
  · refine .cons ⟨rfl, fun _ => ⟨_, rfl, rfl⟩, ⟨_, rfl, rfl⟩, rfl⟩ (.cons ?_ .nil)
    exact ⟨rfl, nofun, ⟨_, rfl, rfl⟩, rfl⟩
  · intro c hc
    rcases List.mem_cons.1 hc with rfl | hc
    · exact .disguised (.privateName rfl rfl)
    · cases List.mem_singleton.1 hc
      exact .disguised (.quotedConstructor rfl rfl rfl (by decide))

end Node

end KotlinStubs
