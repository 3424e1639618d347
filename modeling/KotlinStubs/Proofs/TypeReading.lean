import KotlinStubs.Kotlin.Printer
import KotlinStubs.Scan
import KotlinStubs.Proofs.StatementForms
import KotlinStubs.Proofs.TypeDenotation

/-!
# Readings of printed types

What is printed for a parameter, variable or property that is declared with a type node reads as the
type that the node denotes, and as no other.  A type marked `?` is nullable as a whole, function
types included, and an optional method is a nullable function type.

* `Node.parameter_writes`, `Node.typeUse_writes`: what descriptors hold.
* `Node.callSignature_lambdaText`: what a signature is written as.
* `renderedTypes_oneReading`: what is printed.
-/

namespace KotlinStubs

open Translation

/-! ## Descriptors -/

/-- A descriptor holds the text of a type. -/
structure TypeUse.Writes (use : TypeUse) (t : KotlinType) : Prop where
  name : use.typeName = t.text
  function : use.isLambda = t.isFunction
  wellNamed : t.WellNamed

theorem KotlinType.WellNamed.nullableIf {t : KotlinType} (h : t.WellNamed) (isNullable : Bool) :
    (t.nullableIf isNullable).WellNamed := by
  cases isNullable with
  | false => exact h
  | true => exact .nullable h

/-- What is printed is nullable as a whole if the descriptor is. -/
theorem TypeUse.render_eq_text {use : TypeUse} {t : KotlinType} (name : use.typeName = t.text)
    (function : use.isLambda = t.isFunction) :
    use.render = (t.nullableIf use.isNullable).text := by
  rw [render, name, function]
  cases use.isNullable with
  | false => rfl
  | true => rw [KotlinType.nullableIf, if_pos rfl, if_pos rfl, KotlinType.text]

theorem TypeUse.Writes.render_eq {use : TypeUse} {t : KotlinType} (h : use.Writes t) :
    use.render = (t.nullableIf use.isNullable).text :=
  render_eq_text h.name h.function

theorem TypeUse.Writes.oneReading {use : TypeUse} {t : KotlinType} (h : use.Writes t) :
    OneReading use.render (t.nullableIf use.isNullable) := by
  rw [h.render_eq]
  exact (h.wellNamed.nullableIf _).oneReading

/-- The type node found for a parameter or result has the text of a type for its name; none stands
for any value. -/
def NamesOrAny : Option Node → KotlinType → Prop
  | some n, t => n.Names t
  | none, t => t = .name anyName

namespace NamesOrAny

variable {type? : Option Node} {t : KotlinType}

theorem name (h : NamesOrAny type? t) : (Node.typeNameOrAny type?).Gives (· = t.text) := by
  cases type? with
  | none =>
    cases h
    exact gives_pure rfl
  | some n => exact Node.Names.name h

theorem function (h : NamesOrAny type? t) :
    (type?.any (·.kind == .functionType)) = t.isFunction := by
  cases type? with
  | none =>
    cases h
    rfl
  | some n => exact Node.Names.function h

end NamesOrAny

/-- What has elements denotes a type of arrays, and its elements denote their type. -/
theorem Denotes.element {d : Node} {t : KotlinType} {element : Option Node} (h : Denotes d t)
    (has : d.HasElement element) : ∃ value e,
      t = .applied arrayName [value] ∧ element = some e ∧ Denotes e value := by
  cases has with
  | array kind =>
    cases h with
    | array _ found below => exact ⟨_, _, rfl, found, below⟩
    | keyword keyword =>
      rw [kind] at keyword
      cases keyword
    | identifier other | generic other | function other => cases kind.symm.trans other
  | generic kind hname text hlist single =>
    cases h with
    | generic _ hname' text' _ hlist' alternate _ length below =>
      cases hname.symm.trans hname'
      cases text.symm.trans text'
      cases hlist.symm.trans hlist'
      cases alternate.evenPlaces_eq.symm.trans single
      obtain ⟨value, rfl⟩ := List.length_eq_one_iff.1 length.symm
      exact ⟨value, _, rfl, rfl, below _ _ List.mem_cons_self⟩
    | keyword keyword =>
      rw [kind] at keyword
      cases keyword
    | identifier other | array other | function other => cases kind.symm.trans other

/-- No type is an annotation. -/
theorem Denotes.kind_ne_typeClause {n : Node} {t : KotlinType} (h : Denotes n t) :
    n.kind ≠ .typeClause := by
  intro clause
  cases h with
  | keyword keyword =>
    rw [clause] at keyword
    cases keyword
  | identifier kind | array kind | generic kind | function kind => cases clause.symm.trans kind

theorem KotlinType.WellNamed.of_array {t : KotlinType}
    (h : (KotlinType.applied arrayName [t]).WellNamed) : t.WellNamed := by
  cases h with
  | applied _ _ each => exact each t List.mem_cons_self

theorem Declares.wellNamed {n : Node} {t : KotlinType} (h : Declares n t) : t.WellNamed := by
  obtain ⟨typed, untyped⟩ := h
  cases declared : n.declaredType? with
  | none =>
    rw [untyped declared]
    exact KotlinType.wellNamed_any
  | some d => exact (typed d declared).names.wellNamed

theorem TakesType.wellNamed {p : Node} {t : KotlinType} (h : TakesType p t) : t.WellNamed := by
  cases h with
  | untyped _ => exact KotlinType.wellNamed_any
  | single _ _ denotes => exact denotes.names.wellNamed
  | rest _ _ denotes => exact denotes.names.wellNamed.of_array

theorem TakesArgument.wellNamed {p : Node} {t : KotlinType} (h : TakesArgument p t) :
    t.WellNamed := by
  obtain ⟨value, takes, rfl⟩ := h
  split
  · exact KotlinType.wellNamed_array takes.wellNamed
  · exact takes.wellNamed.nullableIf _

theorem ReturnsType.wellNamed {n : Node} {t : KotlinType} (h : ReturnsType n t) :
    t.WellNamed := by
  cases h with
  | none _ => exact KotlinType.wellNamed_unit
  | annotated _ _ _ denotes => exact denotes.names.wellNamed
  | bare _ denotes => exact denotes.names.wellNamed

namespace Node

variable {σ : Settings} {n p : Node} {t : KotlinType}

/-- A parameter gets the text of the type that it takes, or that of all values without one. -/
theorem parameterType_names (h : TakesType p t) : p.parameterType.Gives (NamesOrAny · t) := by
  unfold parameterType
  cases h with
  | untyped declared =>
    rw [declared]
    exact gives_pure rfl
  | single rest declared denotes =>
    rw [declared, rest]
    exact gives_pure denotes.names
  | rest rest declared denotes =>
    rw [declared, rest]
    intro element found
    obtain ⟨value, e, same, rfl, below⟩ := denotes.element (hasElement_of_restElement found)
    cases same
    exact below.names

/-- A parameter that is translated takes values of some type. -/
theorem exists_takesType {param : FunParam} (h : Declares p t)
    (done : (p.parameter σ).result = .ok param) : ∃ value, TakesType p value := by
  cases declared : p.declaredType? with
  | none => exact ⟨_, .untyped declared⟩
  | some d =>
    have denotes : Denotes d t := h.1 d declared
    cases rest : p.isRest with
    | false => exact ⟨t, .single rest declared denotes⟩
    | true =>
      unfold parameter at done
      obtain ⟨_, _, done⟩ := result_bind_eq_ok.1 done
      obtain ⟨_, _, done⟩ := result_bind_eq_ok.1 done
      obtain ⟨element, found, _⟩ := result_bind_eq_ok.1 done
      unfold parameterType at found
      rw [declared] at found
      dsimp only at found
      rw [if_pos rest] at found
      obtain ⟨value, e, rfl, -⟩ := denotes.element (hasElement_of_restElement found)
      exact ⟨value, .rest rest declared denotes⟩

/-- The descriptor of a parameter holds the type of one value. -/
theorem parameter_writes (h : TakesType p t) : (p.parameter σ).Gives fun param =>
    param.type.Writes t ∧ param.type.isNullable = p.hasPart "?" ∧
      param.type.isVararg = p.isRest := by
  unfold parameter
  refine gives_bind fun _ => gives_bind fun _ => ?_
  refine (parameterType_names h).bind fun type? names => ?_
  refine names.name.bind fun typeName same => ?_
  refine gives_bind fun _ => gives_bind fun _ => gives_pure ⟨?_, rfl, rfl⟩
  exact ⟨same, names.function, h.wellNamed⟩

/-- In a function type stands what the parameter takes as an argument. -/
theorem parameter_lambdaText (h : TakesArgument p t) :
    (p.parameter σ).Gives fun param => param.lambdaText = t.text := by
  obtain ⟨value, takes, rfl⟩ := h
  refine (parameter_writes takes).imp ?_
  rintro param ⟨writes, nullable, vararg⟩
  rw [FunParam.lambdaText, vararg]
  split
  · rw [writes.name, KotlinType.text_applied, Template.fill]
    rfl
  · have rendered := writes.render_eq
    rw [nullable] at rendered
    exact rendered

/-- The descriptor of a variable or property holds the type that it is declared with. -/
theorem typeUse_writes (h : Declares n t) :
    n.typeUse.Gives fun use => use.Writes t ∧ use.isNullable = false := by
  have wellNamed := h.wellNamed
  obtain ⟨typed, untyped⟩ := h
  unfold typeUse
  refine gives_bind fun _ => ?_
  split
  · next declared =>
    rw [untyped declared] at wellNamed ⊢
    exact gives_pure ⟨⟨rfl, rfl, wellNamed⟩, rfl⟩
  · next d declared =>
    have names := (typed d declared).names
    exact names.name.bind fun name same => gives_pure ⟨⟨same, names.function, wellNamed⟩, rfl⟩

/-- The parameters of a callable are written, as arguments of a function type, with the texts of the
types that they take. -/
theorem callParameters_lambdaTexts {ps : List Node} {ts : List KotlinType}
    (params : n.HasParameters ps) (each : List.Forall₂ TakesArgument ps ts) :
    (n.callParameters σ).Gives fun params =>
      params.map FunParam.lambdaText = ts.map KotlinType.text := by
  unfold callParameters
  refine gives_bind fun _ => ?_
  cases params with
  | @listed list _ found alternate =>
    have payloads : list.payloads parentheses = ps := alternate.evenPlaces_eq
    rw [found]
    refine gives_bind fun _ => ?_
    rw [payloads]
    exact Gives.mapM_map (each.imp fun _ _ takes => parameter_lambdaText takes)
  | none found =>
    rw [List.forall₂_nil_left_iff] at each
    rw [found, each]
    exact gives_pure rfl

/-- The result of a callable is written with the text of its type. -/
theorem resultTypeName_eq (h : ReturnsType n t) : n.resultTypeName.Gives (· = t.text) := by
  unfold resultTypeName
  refine gives_bind fun _ => ?_
  cases h with
  | none found =>
    rw [found]
    exact gives_pure rfl
  | @annotated clause d t found kind inner denotes =>
    have text : clause.clauseTypeName.Gives (· = t.text) := by
      rw [clauseTypeName, if_pos kind, inner]
      exact gives_bind fun _ => denotes.names.name
    rw [found]
    exact text
  | @bare d t found denotes =>
    have text : d.clauseTypeName.Gives (· = t.text) := by
      rw [clauseTypeName, if_neg denotes.kind_ne_typeClause]
      exact denotes.names.name
    rw [found]
    exact text

/-- A signature is written as a function type. -/
theorem callSignature_lambdaText {ps : List Node} {ts : List KotlinType} {result : KotlinType}
    (params : n.HasParameters ps) (each : List.Forall₂ TakesArgument ps ts)
    (returns : ReturnsType n result) : (n.callSignature σ).Gives fun signature =>
      signature.lambdaText = (KotlinType.function ts result).text := by
  unfold callSignature
  refine gives_bind fun _ => gives_bind fun _ => ?_
  refine (callParameters_lambdaTexts params each).bind fun _ written => ?_
  refine (resultTypeName_eq returns).bind fun _ same => gives_pure ?_
  rw [CallSignature.lambdaText, written, same, KotlinType.text, KotlinType.textAll_eq_map]

/-! ## Declarations -/

/-- The type of a variable reads only as the type that it is declared with. -/
theorem declarator_oneReading {isVar : Bool} (h : Declares n t) :
    (n.declarator σ isVar).Gives fun ds =>
      ∀ d ∈ ds, ∃ use, d.type = some use ∧ OneReading use.render t := by
  unfold declarator
  split
  · refine gives_bind fun _ => ?_
    split
    · exact gives_pure nofun
    · refine gives_bind fun _ => (typeUse_writes h).bind fun use ⟨writes, plain⟩ => gives_pure ?_
      intro d hd
      rw [List.mem_singleton.1 hd]
      have reading := writes.oneReading
      rw [plain] at reading
      exact ⟨use, rfl, reading⟩
  · exact gives_fail _

/-- The type of a property reads only as the type that it is declared with, nullable if it is
optional. -/
theorem property_oneReading {name : Node} (h : Declares n t) :
    (n.property σ name).Gives fun d => ∃ use, d.type = some use ∧
      OneReading use.render (t.nullableIf (n.hasPart "?")) := by
  unfold property
  refine gives_bind fun _ => (typeUse_writes h).bind fun use ⟨writes, plain⟩ => ?_
  refine gives_bind fun _ => gives_pure ⟨_, rfl, ?_⟩
  split
  · next marked =>
    have nullable : ({ use with isNullable := true } : TypeUse).Writes t :=
      ⟨writes.name, writes.function, writes.wellNamed⟩
    rw [marked]
    exact nullable.oneReading
  · next unmarked =>
    have reading := writes.oneReading
    rw [plain] at reading
    rw [Bool.eq_false_iff.2 unmarked]
    exact reading

/-- The type of an optional method reads only as the nullable type of a function. -/
theorem method_oneReading {name : Node} {ps : List Node} {ts : List KotlinType}
    {result : KotlinType} (optional : n.hasPart "?" = true) (params : n.HasParameters ps)
    (each : List.Forall₂ TakesArgument ps ts) (returns : ReturnsType n result) :
    (n.method σ name).Gives fun d => d.kind = .property ∧ ∃ use, d.type = some use ∧
      OneReading use.render (.nullable (.function ts result)) := by
  have arguments : ∀ t ∈ ts, t.WellNamed :=
    forall_of_forall₂ (each.imp fun _ _ takes => takes.wellNamed)
  unfold method
  refine (callSignature_lambdaText params each returns).bind fun signature text => ?_
  refine gives_bind fun _ => gives_bind fun _ => ?_
  rw [if_pos optional]
  refine gives_bind fun _ => gives_pure ⟨rfl, _, rfl, ?_⟩
  have writes : ({ typeName := signature.lambdaText, isNullable := true, isLambda := true } :
      TypeUse).Writes (.function ts result) :=
    ⟨text, rfl, .function arguments returns.wellNamed⟩
  exact writes.oneReading

end Node

/-- **Printed types.** The text printed for the type of a parameter, variable or property that is
declared with keywords, names, arrays, generic types and function types reads as the type denoted,
and as no other; as a whole it is nullable just if the parameter or property is marked `?`.  The
property that stands for an optional method reads as a nullable function type. -/
theorem renderedTypes_oneReading (σ : Settings) :
    (∀ p t param, Declares p t → (p.parameter σ).result = .ok param →
      (∃ value, TakesType p value) ∧ ∀ value, TakesType p value →
        OneReading param.type.render (value.nullableIf (p.hasPart "?"))) ∧
    (∀ n t isVar ds, Declares n t → (n.declarator σ isVar).result = .ok ds →
      ∀ d ∈ ds, ∃ use, d.type = some use ∧ OneReading use.render t) ∧
    (∀ n name t d, Declares n t → (n.property σ name).result = .ok d →
      ∃ use, d.type = some use ∧ OneReading use.render (t.nullableIf (n.hasPart "?"))) ∧
    (∀ n name ps ts result d, n.hasPart "?" = true → n.HasParameters ps →
      List.Forall₂ TakesArgument ps ts → ReturnsType n result →
      (n.method σ name).result = .ok d →
      d.kind = .property ∧
        ∃ use, d.type = some use ∧ OneReading use.render (.nullable (.function ts result))) := by
  refine ⟨?_, ?_, ?_, ?_⟩
  · intro p t param declares done
    refine ⟨Node.exists_takesType declares done, fun value takes => ?_⟩
    obtain ⟨writes, nullable, -⟩ := Node.parameter_writes takes param done
    rw [← nullable]
    exact writes.oneReading
  · intro n t isVar ds declares done
    exact Node.declarator_oneReading declares ds done
  · intro n name t d declares done
    exact Node.property_oneReading declares d done
  · intro n name ps ts result d optional params each returns done
    exact Node.method_oneReading optional params each returns d done

namespace Node

/-- `b`, as a type -/
def typeNamed (text : String) (fields : List Field) : Node := leaf "type_identifier" text fields

theorem denotes_typeNamed {text : String} (fields : List Field) (h : IsName text) :
    Denotes (typeNamed text fields) (.name text) :=
  .identifier rfl rfl h

theorem typeName_typeNamed (text : String) (fields : List Field) :
    (typeNamed text fields).typeName = (do
      note (.unresolvedType "type_identifier" 1)
      pure text) :=
  typeName_identifier rfl rfl

/-- `x: b` -/
def typedParameter : Node :=
  branch "required_parameter" "x: b" [] [
    leaf "identifier" "x" [.pattern],
    branch "type_annotation" ": b" [.type] [token ":", typeNamed "b" []]]

/-- `(x: b) => c` -/
def unaryFunction : Node :=
  branch "function_type" "(x: b) => c" [] [
    branch "formal_parameters" "(x: b)" [.parameters] [token "(", typedParameter, token ")"],
    token "=>",
    typeNamed "c" [.returnType]]

theorem denotes_unaryFunction : Denotes unaryFunction (.function [.name "b"] (.name "c")) := by
  have parameters : unaryFunction.HasParameters [typedParameter] := .listed rfl (.last _)
  refine .function rfl parameters rfl ?_ ?_ ?_ nofun
  · intro p t d pair declared
    cases List.mem_singleton.1 pair
    cases declared
    exact denotes_typeNamed [] (by decide)
  · intro p t pair declared
    cases List.mem_singleton.1 pair
    cases declared
  · rintro _ ⟨⟩
    exact denotes_typeNamed _ (by decide)

theorem exists_typeName_unaryFunction : ∃ s, unaryFunction.typeName.result = .ok s := by
  have expanded : unaryFunction.expand =
      pure (.compound .arrow [.node (typeNamed "b" []), .node (typeNamed "c" [.returnType])]) :=
    rfl
  rw [typeName_eq, expanded, pure_bind, Expansion.typeName, List.mapM_cons, List.mapM_cons,
    Operand.typeName, Operand.typeName, typeName_typeNamed, typeName_typeNamed]
  exact ⟨_, rfl⟩

/-- `f?: (x: b) => c` -/
def optionalFunction : Node :=
  branch "property_signature" "f?: (x: b) => c" [] [
    leaf "property_identifier" "f" [.name],
    token "?",
    branch "type_annotation" ": (x: b) => c" [.type] [token ":", unaryFunction]]

theorem declares_optionalFunction :
    Declares optionalFunction (.function [.name "b"] (.name "c")) := by
  refine ⟨?_, nofun⟩
  rintro _ ⟨⟩
  exact denotes_unaryFunction

/-- The function type stands in parentheses, so that the mark behind them is that of the whole. -/
theorem renderedTypes_oneReading_optionalFunction : ∃ d use,
    (optionalFunction.property {} (leaf "property_identifier" "f" [.name])).result = .ok d ∧
      d.type = some use ∧
      OneReading use.render (.nullable (.function [.name "b"] (.name "c"))) := by
  obtain ⟨s, hs⟩ := exists_typeName_unaryFunction
  have done : ∃ d, (optionalFunction.property {} (leaf "property_identifier" "f" [.name])).result =
      .ok d := by
    have use : ∃ use, optionalFunction.typeUse.result = .ok use :=
      ⟨_, result_bind_eq_ok.2 ⟨(), rfl, result_bind_eq_ok.2 ⟨s, hs, rfl⟩⟩⟩
    obtain ⟨use, huse⟩ := use
    exact ⟨_, result_bind_eq_ok.2 ⟨(), rfl, result_bind_eq_ok.2 ⟨use, huse, rfl⟩⟩⟩
  obtain ⟨d, done⟩ := done
  obtain ⟨use, type, reading⟩ :=
    (renderedTypes_oneReading {}).2.2.1 _ _ _ d declares_optionalFunction done
  exact ⟨d, use, done, type, reading⟩

end Node

end KotlinStubs
