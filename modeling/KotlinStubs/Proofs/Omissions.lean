import Mathlib.Data.List.Forall2
import KotlinStubs.Member
import KotlinStubs.Proofs.Resolution

/-!
# Omissions

A child of the body of an interface or class that declares no member is noted with an event of its
own, an omission.  The names, types and signatures of the members that there are may be remarked on,
but not with omissions.

* `Translation.omissions_bind_ok`, `Translation.omissions_mapM`: the omissions of composite
  translations, in order.
* `Node.omitsNone_typeName`: the names of types, at any depth.
* `Node.omitsNone_method`, `Node.omitsNone_property`: members.
-/

namespace KotlinStubs

/-- Whether an event tells that a child of a body declares no member. -/
def Event.isOmission : Event → Bool
  | untranslatedInterfaceMember .. => true
  | namelessClassMember .. => true
  | hiddenClassMember .. => true
  | untranslatedClassMember .. => true
  | _ => false

namespace Translation

variable {α β : Type}

/-- The omissions among the events noted. -/
def omissions (x : Translation α) : List Event := x.log.filter Event.isOmission

/-- No omission is noted. -/
def OmitsNone (x : Translation α) : Prop := x.omissions = []

theorem omissions_bind_ok {x : Translation α} {f : α → Translation β} {a : α}
    (h : x.result = .ok a) : (x >>= f).omissions = x.omissions ++ (f a).omissions := by
  rw [bind_ok h]
  exact List.filter_append ..

theorem omissions_bind_error {x : Translation α} {f : α → Translation β} {e : Fault}
    (h : x.result = .error e) : (x >>= f).omissions = x.omissions := by
  rw [bind_error h]
  rfl

theorem omitsNone_pure (a : α) : (pure a : Translation α).OmitsNone := rfl

theorem omitsNone_fail (e : Fault) : (fail e : Translation α).OmitsNone := rfl

theorem OmitsNone.bind {x : Translation α} {f : α → Translation β} (hx : x.OmitsNone)
    (hf : ∀ a, x.result = .ok a → (f a).OmitsNone) : (x >>= f).OmitsNone := by
  unfold OmitsNone at hx ⊢
  cases h : x.result with
  | ok a => rw [omissions_bind_ok h, hx, hf a h, List.append_nil]
  | error e => rw [omissions_bind_error h, hx]

/-- Where nothing need be known of the result of the first part. -/
theorem OmitsNone.andThen {x : Translation α} {f : α → Translation β} (hx : x.OmitsNone)
    (hf : ∀ a, (f a).OmitsNone) : (x >>= f).OmitsNone :=
  hx.bind fun a _ => hf a

theorem OmitsNone.map {x : Translation α} (hx : x.OmitsNone) (f : α → β) :
    (f <$> x).OmitsNone := by
  rw [map_eq_pure_bind]
  exact hx.andThen fun a => omitsNone_pure (f a)

theorem OmitsNone.mapM {f : α → Translation β} {as : List α} (h : ∀ a ∈ as, (f a).OmitsNone) :
    (as.mapM f).OmitsNone := by
  induction as with
  | nil => exact omitsNone_pure []
  | cons a as ih =>
    have first := h a List.mem_cons_self
    have others := ih fun b hb => h b (List.mem_cons_of_mem a hb)
    rw [List.mapM_cons]
    exact first.andThen fun _ => others.andThen fun _ => omitsNone_pure _

theorem OmitsNone.forM {f : α → Translation Unit} (h : ∀ a, (f a).OmitsNone) (as : List α) :
    (as.forM f).OmitsNone := by
  induction as with
  | nil => exact omitsNone_pure ()
  | cons a as ih => exact (h a).andThen fun _ => ih

/-- A first part without omissions leaves those of the second. -/
theorem OmitsNone.omissions_bind {x : Translation α} {f : α → Translation β} {a : α}
    (hx : x.OmitsNone) (h : x.result = .ok a) : (x >>= f).omissions = (f a).omissions := by
  have first : x.omissions = [] := hx
  rw [omissions_bind_ok h, first, List.nil_append]

/-- A second part without omissions leaves those of the first. -/
theorem omissions_bind_of_omitsNone {x : Translation α} {f : α → Translation β}
    (hf : ∀ a, (f a).OmitsNone) : (x >>= f).omissions = x.omissions := by
  cases h : x.result with
  | ok a => rw [omissions_bind_ok h, hf a, List.append_nil]
  | error e => exact omissions_bind_error h

/-- One thing is done for each element in turn, and the omissions are noted in that order. -/
theorem omissions_mapM {f : α → Translation β} {as : List α} {bs : List β}
    (h : (as.mapM f).result = .ok bs) :
    List.Forall₂ (fun a b => (f a).result = .ok b) as bs ∧
      (as.mapM f).omissions = as.flatMap fun a => (f a).omissions := by
  induction as generalizing bs with
  | nil =>
    cases h
    exact ⟨.nil, rfl⟩
  | cons a as ih =>
    rw [List.mapM_cons] at h ⊢
    obtain ⟨b, first, h⟩ := result_bind_eq_ok.1 h
    obtain ⟨rest, others, h⟩ := result_bind_eq_ok.1 h
    cases h
    obtain ⟨each, omissions⟩ := ih others
    refine ⟨.cons first each, ?_⟩
    rw [omissions_bind_ok first, omissions_bind_of_omitsNone fun _ => omitsNone_pure _, omissions,
      List.flatMap_cons]

/-! ## Reading -/

theorem omitsNone_read (n : Node) : (read n).OmitsNone := by
  unfold read
  split
  · exact omitsNone_pure _
  · exact omitsNone_fail _

theorem omitsNone_reach (n : Node) : (reach n).OmitsNone := by
  unfold reach
  split
  · exact omitsNone_pure ()
  · exact omitsNone_fail _

theorem omitsNone_reach? (n? : Option Node) : (reach? n?).OmitsNone := by
  cases n? with
  | none => exact omitsNone_pure ()
  | some n => exact omitsNone_reach n

theorem omitsNone_reachAll (ns : List Node) : (reachAll ns).OmitsNone := by
  induction ns with
  | nil => exact omitsNone_pure ()
  | cons n ns ih => exact (omitsNone_reach n).andThen fun _ => ih

theorem omitsNone_reachDeclaredType (n : Node) : (reachDeclaredType n).OmitsNone :=
  (omitsNone_reach? _).andThen fun _ => omitsNone_reach? _

end Translation

open Translation

namespace Node

variable {σ : Settings}

theorem omitsNone_kotlinName (n : Node) : (n.kotlinName σ).OmitsNone := by
  unfold kotlinName
  refine (omitsNone_read n).andThen fun text => ?_
  split <;> exact omitsNone_pure _

/-! ## Types -/

/-- A remark on a type that is not resolved is no omission of a member. -/
theorem omitsNone_expand (n : Node) : n.expand.OmitsNone := by
  have name (m : Node) : (do return Expansion.name (← read m)).OmitsNone :=
    (omitsNone_read m).andThen fun _ => omitsNone_pure _
  unfold expand
  split
  case h_1 | h_2 | h_3 | h_4 | h_5 | h_6 | h_7 => exact omitsNone_pure _
  case h_8 =>
    refine (omitsNone_reach? _).andThen fun _ => ?_
    split
    · exact omitsNone_pure _
    · exact name n
  case h_9 =>
    refine (omitsNone_reach? _).andThen fun _ => (omitsNone_reach? _).andThen fun _ => ?_
    split
    · refine (omitsNone_read _).andThen fun _ => ?_
      exact (omitsNone_reachAll _).andThen fun _ => omitsNone_pure _
    · exact name n
  case h_10 =>
    have parameters : n.reachParameters.OmitsNone := by
      unfold reachParameters
      split
      · exact (omitsNone_reachAll _).andThen fun _ => .forM omitsNone_reachDeclaredType _
      · exact omitsNone_pure ()
    refine (omitsNone_reach? _).andThen fun _ => (omitsNone_reach? _).andThen fun _ => ?_
    exact parameters.andThen fun _ => omitsNone_pure _
  case h_11 => exact (omitsNone_read n).andThen fun _ => omitsNone_pure _
  case h_12 =>
    have remark : (note (.unresolvedType n.type n.line)).OmitsNone := rfl
    exact remark.andThen fun _ => name n

/-- The induction is on the weight of the type node. -/
theorem omitsNone_typeName (n : Node) : n.typeName.OmitsNone := by
  induction h : n.weight using Nat.strongRecOn generalizing n with
  | ind w ih =>
    rw [typeName_eq]
    refine n.omitsNone_expand.bind fun e he => ?_
    cases e with
    | name text => exact omitsNone_pure text
    | compound template operands =>
      have light := weight_expand he
      refine (OmitsNone.mapM fun o ho => ?_).map _
      cases o with
      | name text => exact omitsNone_pure text
      | node m =>
        have lighter : m.weight ≤ Operand.weightAll operands :=
          Operand.weight_le_weightAll_of_mem ho
        exact ih m.weight (by omega) m rfl

theorem omitsNone_typeNameOrAny (n? : Option Node) : (typeNameOrAny n?).OmitsNone := by
  cases n? with
  | none => exact omitsNone_pure anyName
  | some n => exact n.omitsNone_typeName

theorem omitsNone_typeUse (n : Node) : n.typeUse.OmitsNone := by
  unfold typeUse
  refine (omitsNone_reachDeclaredType n).andThen fun _ => ?_
  split
  · exact omitsNone_pure _
  · exact (omitsNone_typeName _).andThen fun _ => omitsNone_pure _

/-! ## Signatures -/

/-- The element of a rest parameter is found, or is missing, without an omission. -/
theorem omitsNone_restElement (p declared : Node) : (p.restElement declared).OmitsNone := by
  unfold restElement
  split
  · exact (omitsNone_reach? _).andThen fun _ => omitsNone_pure _
  · refine (omitsNone_reach? _).andThen fun _ => (omitsNone_reach? _).andThen fun _ => ?_
    split
    · exact omitsNone_fail _
    · refine (omitsNone_read _).andThen fun _ => ?_
      split
      · split
        · refine (omitsNone_reachAll _).andThen fun _ => ?_
          split
          · exact omitsNone_pure _
          · exact omitsNone_fail _
        · exact omitsNone_fail _
      · exact omitsNone_fail _
  · exact omitsNone_fail _

theorem omitsNone_parameterType (p : Node) : p.parameterType.OmitsNone := by
  unfold parameterType
  split
  · exact omitsNone_pure none
  · split
    · exact p.omitsNone_restElement _
    · exact omitsNone_pure _

theorem omitsNone_parameterDefault (p : Node) : p.parameterDefault.OmitsNone := by
  unfold parameterDefault
  refine (omitsNone_reach? _).andThen fun _ => ?_
  split
  · exact (omitsNone_read _).andThen fun _ => omitsNone_pure _
  · exact omitsNone_pure _

theorem omitsNone_parameterName (p : Node) : (p.parameterName σ).OmitsNone := by
  unfold parameterName
  refine (omitsNone_reach? _).andThen fun _ => ?_
  split
  · exact (omitsNone_reach _).andThen fun _ => omitsNone_kotlinName _
  · refine (omitsNone_reach? _).andThen fun _ => ?_
    exact (omitsNone_read _).andThen fun _ => omitsNone_pure _

theorem omitsNone_parameter (p : Node) : (p.parameter σ).OmitsNone := by
  unfold parameter
  refine (omitsNone_reachAll _).andThen fun _ => (omitsNone_reachDeclaredType p).andThen fun _ => ?_
  refine p.omitsNone_parameterType.andThen fun type? => ?_
  refine (omitsNone_typeNameOrAny type?).andThen fun _ => ?_
  refine p.omitsNone_parameterDefault.andThen fun _ => ?_
  exact p.omitsNone_parameterName.andThen fun _ => omitsNone_pure _

/-- A type parameter is a name and a bound, and neither notes an omission. -/
theorem omitsNone_typeParameter (p : Node) : p.typeParameter.OmitsNone := by
  have name : p.typeParameterName.OmitsNone := by
    unfold typeParameterName
    refine (omitsNone_reach? _).andThen fun _ => ?_
    split
    · exact omitsNone_typeName _
    · exact omitsNone_read p
  unfold typeParameter
  refine name.andThen fun _ => (omitsNone_reach? _).andThen fun _ => ?_
  split
  · exact omitsNone_pure _
  · refine (omitsNone_reach? _).andThen fun _ => ?_
    split
    · exact omitsNone_pure _
    · exact (omitsNone_typeName _).andThen fun _ => omitsNone_pure _

theorem omitsNone_typeParameters? (n : Node) : n.typeParameters?.OmitsNone := by
  unfold typeParameters?
  split
  · refine OmitsNone.map ?_ _
    exact (omitsNone_reachAll _).andThen fun _ => .mapM fun p _ => p.omitsNone_typeParameter
  · exact omitsNone_pure none

/-- A signature notes no omission, as neither its parameters nor its result do. -/
theorem omitsNone_callSignature (n : Node) : (n.callSignature σ).OmitsNone := by
  have params : (n.callParameters σ).OmitsNone := by
    unfold callParameters
    refine (omitsNone_reach? _).andThen fun _ => ?_
    split
    · exact (omitsNone_reachAll _).andThen fun _ => .mapM fun p _ => p.omitsNone_parameter
    · exact omitsNone_pure []
  have clauseTypeName (clause : Node) : clause.clauseTypeName.OmitsNone := by
    unfold Node.clauseTypeName
    split
    · exact (omitsNone_reach? _).andThen fun _ => omitsNone_typeNameOrAny _
    · exact clause.omitsNone_typeName
  have result : n.resultTypeName.OmitsNone := by
    unfold resultTypeName
    refine (omitsNone_reach? _).andThen fun _ => ?_
    split
    · exact clauseTypeName _
    · exact omitsNone_pure unitName
  unfold callSignature
  refine (omitsNone_reach? _).andThen fun _ => n.omitsNone_typeParameters?.andThen fun _ => ?_
  exact params.andThen fun _ => result.andThen fun _ => omitsNone_pure _

/-! ## Members -/

theorem omitsNone_method (n name : Node) : (n.method σ name).OmitsNone := by
  have dropped (escaped : String) (signature : CallSignature) :
      (noteDropped escaped n.line signature).OmitsNone := by
    unfold noteDropped
    split <;> rfl
  unfold method
  refine n.omitsNone_callSignature.andThen fun signature => ?_
  refine name.omitsNone_kotlinName.andThen fun escaped => (omitsNone_reachAll _).andThen fun _ => ?_
  split
  · exact (dropped escaped signature).andThen fun _ => omitsNone_pure _
  · exact omitsNone_pure _

theorem omitsNone_property (n name : Node) : (n.property σ name).OmitsNone := by
  unfold property
  refine (omitsNone_reachAll _).andThen fun _ => n.omitsNone_typeUse.andThen fun _ => ?_
  exact name.omitsNone_kotlinName.andThen fun _ => omitsNone_pure _

/-- Whether a member is hidden is found without an omission; it is noted only behind that. -/
theorem omitsNone_isHidden (n : Node) : n.isHidden.OmitsNone := by
  have modifier (keyword : String) (ns : List Node) : (anyModifier keyword ns).OmitsNone := by
    induction ns with
    | nil => exact omitsNone_pure false
    | cons m ns ih =>
      unfold anyModifier
      split
      · refine (omitsNone_read m).andThen fun _ => ?_
        split
        · exact omitsNone_pure true
        · exact ih
      · exact ih
  unfold isHidden
  split
  · exact omitsNone_pure true
  · refine (modifier _ _).andThen fun _ => ?_
    split
    · exact omitsNone_pure true
    · exact modifier _ _

end Node

end KotlinStubs
