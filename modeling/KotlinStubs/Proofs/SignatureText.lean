import KotlinStubs.Proofs.TypeReading
import KotlinStubs.Proofs.TypeStarts

/-!
# Texts of signatures

Two signatures that are printed alike are the same: the text of a signature tells its type
parameters and their bounds, its parameters with their flags, types and defaults, and its result,
even where the result `Unit` is left out.  Only that a signature has no type parameters can be said
in two ways.

The names, types and defaults are texts that a signature can hold without ambiguity
(`CallSignature.OfWords`).  A parameter may be named `var` or `vararg` all the same, since a
modifier is followed by a blank and a name by a colon.

* `TypeUse.render_inj`, `FunParam.tells_render`, `TypeParam.tells_render`: the parts of a signature.
* `renderedSignature_inj`: signatures.
-/

namespace KotlinStubs

open Text

/-! ## What signatures are made of -/

/-- Whether a character can stand in a default value. -/
def isDefaultChar (c : Char) : Bool :=
  !isWhiteSpace c && !([',', '(', ')', '<', '>'].contains c)

/-- A text of a type that is not nullable as a whole. -/
def IsTypeText (s : String) : Prop :=
  ∃ t : KotlinType, t.OfWords ∧ t.isNullable = false ∧ s = t.text

/-- A descriptor holds the text of a type, and knows whether that is a function type. -/
structure TypeUse.Spells (use : TypeUse) (t : KotlinType) : Prop where
  ofWords : t.OfWords
  plain : t.isNullable = false
  name : use.typeName = t.text
  function : use.isLambda = t.isFunction

/-- A descriptor of a type made of words. -/
def TypeUse.OfWords (use : TypeUse) : Prop := ∃ t, use.Spells t

/-- A type parameter made of words. -/
structure TypeParam.OfWords (p : TypeParam) : Prop where
  name : IsWord p.name
  bound : ∀ b ∈ p.upperBound, IsTypeText b

/-- A parameter made of words. -/
structure FunParam.OfWords (p : FunParam) : Prop where
  name : IsWord p.name
  type : p.type.OfWords
  default : ∀ value ∈ p.defaultValue, IsWordOf isDefaultChar value

/-- A signature made of words, with a single result. -/
structure CallSignature.OfWords (s : CallSignature) : Prop where
  typeParams : ∀ p ∈ s.typeParams.getD [], p.OfWords
  params : ∀ p ∈ s.params, p.OfWords
  result : s.returnType.OfWords
  single : s.returnType.isVararg = false

/-! ## Types -/

namespace KotlinType

theorem OfWords.nullableIf {t : KotlinType} (h : t.OfWords) (plain : t.isNullable = false)
    (isNullable : Bool) : (t.nullableIf isNullable).OfWords := by
  cases isNullable with
  | false => exact h
  | true => exact .nullable h plain

theorem nullableIf_inj {t u : KotlinType} {isNullable isNullable' : Bool}
    (plain : t.isNullable = false) (plain' : u.isNullable = false)
    (same : t.nullableIf isNullable = u.nullableIf isNullable') :
    t = u ∧ isNullable = isNullable' := by
  cases isNullable <;> cases isNullable'
  · exact ⟨same, rfl⟩
  · rw [show t = .nullable u from same] at plain
    cases plain
  · rw [show u = .nullable t from same.symm] at plain'
    cases plain'
  · exact ⟨nullable.inj same, rfl⟩

end KotlinType

namespace TypeUse

theorem Spells.eq {use use' : TypeUse} {t : KotlinType} (h : use.Spells t) (h' : use'.Spells t)
    (nullable : use.isNullable = use'.isNullable) (vararg : use.isVararg = use'.isVararg) :
    use = use' := by
  rcases use with ⟨name, isNullable, isLambda, isVararg⟩
  rcases use' with ⟨name', isNullable', isLambda', isVararg'⟩
  obtain rfl : name = name' := h.name.trans h'.name.symm
  obtain rfl : isLambda = isLambda' := h.function.trans h'.function.symm
  obtain rfl : isNullable = isNullable' := nullable
  obtain rfl : isVararg = isVararg' := vararg
  rfl

/-- The type of a descriptor is told from its text, but for whether it takes many values. -/
theorem render_inj {use use' : TypeUse} {xs ys : List Char} (h : use.OfWords) (h' : use'.OfWords)
    (vararg : use.isVararg = use'.isVararg) (hx : KotlinType.Ends xs) (hy : KotlinType.Ends ys)
    (same : use.render.toList ++ xs = use'.render.toList ++ ys) : use = use' ∧ xs = ys := by
  obtain ⟨t, spells⟩ := h
  obtain ⟨u, spells'⟩ := h'
  rw [render_eq_text spells.name spells.function,
    render_eq_text spells'.name spells'.function] at same
  have told := KotlinType.tells_text (spells.ofWords.nullableIf spells.plain use.isNullable)
  obtain ⟨types, rest⟩ := told (spells'.ofWords.nullableIf spells'.plain _) hx hy same
  obtain ⟨rfl, nullable⟩ := KotlinType.nullableIf_inj spells.plain spells'.plain types
  exact ⟨spells.eq spells' nullable vararg, rest⟩

end TypeUse

/-! ## Modifiers -/

/-- A modifier in front of a name, or none. -/
def modifier (word : String) (isPresent : Bool) : List Char :=
  if isPresent then word.toList ++ [' '] else []

theorem toList_modifier (word : String) (isPresent : Bool) :
    (if isPresent then word ++ " " else "").toList = modifier word isPresent := by
  cases isPresent with
  | false => rfl
  | true => exact String.toList_append

/-- A text starts with a word that is not the given one in front of a blank. -/
def Unmodified (word : String) (xs : List Char) : Prop :=
  ∃ s c zs, IsWord s ∧ isWordChar c = false ∧ (s = word → c ≠ ' ') ∧ xs = s.toList ++ c :: zs

/-- Whether a modifier is there is told from the start of a text. -/
theorem modifier_inj {word : String} (isWord : IsWord word) {isPresent isPresent' : Bool}
    {xs ys : List Char} (hx : Unmodified word xs) (hy : Unmodified word ys)
    (same : modifier word isPresent ++ xs = modifier word isPresent' ++ ys) :
    isPresent = isPresent' ∧ xs = ys := by
  have absent {zs ws : List Char} (hz : Unmodified word zs) :
      modifier word true ++ ws ≠ modifier word false ++ zs := by
    obtain ⟨s, c, rest, isWord', sign, other, rfl⟩ := hz
    intro same
    rw [modifier, if_pos rfl, modifier, if_neg Bool.false_ne_true, List.append_assoc] at same
    have blank : ∀ d ∈ ([' '] ++ ws).head?, isWordChar d = false := by
      rintro _ ⟨⟩
      decide
    have signs : ∀ d ∈ (c :: rest).head?, isWordChar d = false := by
      rintro _ ⟨⟩
      exact sign
    obtain ⟨words, behind⟩ := tells_word isWord isWord' blank signs same
    exact other words.symm (List.cons.inj behind).1.symm
  cases isPresent <;> cases isPresent'
  · exact ⟨rfl, same⟩
  · exact absurd same.symm (absent hx)
  · exact absurd same (absent hy)
  · exact ⟨rfl, List.append_cancel_left same⟩

/-! ## Parameters -/

/-- Behind a parameter there is a comma or the bracket that closes the list. -/
def EndsParam (xs : List Char) : Prop := ∃ c zs, xs = c :: zs ∧ c ∈ [',', ')', '>']

theorem endsParam_cons {c : Char} (h : c ∈ [',', ')', '>']) (xs : List Char) :
    EndsParam (c :: xs) :=
  ⟨c, xs, rfl, h⟩

namespace EndsParam

variable {xs : List Char}

theorem head?_of_all {p : Char → Prop} [DecidablePred p] (h : EndsParam xs)
    (each : [',', ')', '>'].all fun c => p c) : ∀ c ∈ xs.head?, p c := by
  obtain ⟨c, zs, rfl, member⟩ := h
  rintro _ ⟨⟩
  exact of_decide_eq_true (List.all_eq_true.1 each c member)

theorem ends (h : EndsParam xs) : KotlinType.Ends xs := h.head?_of_all (by decide)

theorem ne_blank (h : EndsParam xs) (ys : List Char) : xs ≠ ' ' :: ys := by
  rintro rfl
  exact h.head?_of_all (p := (· ≠ ' ')) (by decide) ' ' rfl rfl

end EndsParam

/-- A part of a parameter that may be missing, with its sign between blanks. -/
def optional (sign : Char) : Option String → List Char
  | some s => ' ' :: sign :: ' ' :: s.toList
  | none => []

/-- A part that may be missing is told, and whether it is there. -/
theorem optional_inj {sign : Char} {P : String → Prop} {F : List Char → Prop}
    {part part' : Option String} {xs ys : List Char} (each : ∀ s ∈ part, Tells id P F s)
    (valid' : ∀ s ∈ part', P s) (hx : EndsParam xs) (hy : EndsParam ys)
    (ends : ∀ zs, EndsParam zs → F zs)
    (same : optional sign part ++ xs = optional sign part' ++ ys) : part = part' ∧ xs = ys := by
  cases part with
  | none =>
    cases part' with
    | none => exact ⟨rfl, same⟩
    | some s' => exact absurd same (hx.ne_blank _)
  | some s =>
    cases part' with
    | none => exact absurd same.symm (hy.ne_blank _)
    | some s' =>
      simp only [optional, List.cons_append, List.cons.injEq, true_and] at same
      obtain ⟨rfl, rest⟩ := each s rfl (valid' s' rfl) (ends xs hx) (ends ys hy) same
      exact ⟨rfl, rest⟩

/-- What stands behind the part in front of an optional one. -/
theorem head?_optional {sign : Char} {p : Char → Prop} [DecidablePred p] {part : Option String}
    {xs : List Char} (hx : EndsParam xs) (each : [',', ')', '>'].all fun c => p c) (blank : p ' ') :
    ∀ c ∈ (optional sign part ++ xs).head?, p c := by
  cases part with
  | none => exact hx.head?_of_all each
  | some s =>
    rintro _ ⟨⟩
    exact blank

namespace FunParam

variable {p : FunParam}

theorem toList_render (p : FunParam) : p.render.toList =
    modifier "vararg" p.type.isVararg ++ (modifier "var" p.isVar ++ (p.name.toList ++
      ':' :: ' ' :: (p.type.render.toList ++ optional '=' p.defaultValue))) := by
  have vararg := toList_modifier "vararg" p.type.isVararg
  have var := toList_modifier "var" p.isVar
  have default : (match p.defaultValue with
      | some value => " = " ++ value
      | none => "").toList = optional '=' p.defaultValue := by
    cases p.defaultValue with
    | none => rfl
    | some value => exact String.toList_append
  rw [render, ← vararg, ← var, ← default]
  simp only [String.toList_append, List.append_assoc]
  rfl

/-- Behind the modifier `vararg` comes the modifier `var` or the name and a colon. -/
theorem OfWords.unmodified (h : p.OfWords) (xs : List Char) :
    Unmodified "vararg" (modifier "var" p.isVar ++ (p.name.toList ++ ':' :: xs)) ∧
      Unmodified "var" (p.name.toList ++ ':' :: xs) := by
  have colon (word : String) : Unmodified word (p.name.toList ++ ':' :: xs) :=
    ⟨p.name, ':', xs, h.name, by decide, fun _ => by decide, rfl⟩
  refine ⟨?_, colon "var"⟩
  cases p.isVar with
  | false => exact colon "vararg"
  | true =>
    refine ⟨"var", ' ', p.name.toList ++ ':' :: xs, by decide, by decide, ?_, ?_⟩
    · intro same
      exact absurd same (by decide)
    · rw [modifier, if_pos rfl, List.append_assoc, List.singleton_append]

/-- Parameters are told one by one: by their modifiers, then by name, type and default. -/
theorem tells_render (h : p.OfWords) : Tells render OfWords EndsParam p := by
  intro q xs ys h' hx hy same
  rw [toList_render, toList_render] at same
  simp only [List.append_assoc, List.cons_append] at same
  have colon {zs : List Char} : ∀ c ∈ (':' :: zs).head?, isWordChar c = false := by
    rintro _ ⟨⟩
    decide
  obtain ⟨vararg, same⟩ :=
    modifier_inj (by decide) (h.unmodified _).1 (h'.unmodified _).1 same
  obtain ⟨var, same⟩ := modifier_inj (by decide) (h.unmodified _).2 (h'.unmodified _).2 same
  obtain ⟨name, same⟩ := tells_word h.name h'.name colon colon same
  simp only [List.cons.injEq, true_and] at same
  obtain ⟨type, same⟩ := TypeUse.render_inj h.type h'.type vararg
    (head?_optional hx (by decide) (by decide)) (head?_optional hy (by decide) (by decide)) same
  obtain ⟨default, rest⟩ := optional_inj (fun v hv => tells_word (h.default v hv)) h'.default hx hy
    (fun _ ends => ends.head?_of_all (by decide)) same
  rcases p with ⟨_, _, _, _⟩
  rcases q with ⟨_, _, _, _⟩
  cases name
  cases type
  cases default
  cases var
  exact ⟨rfl, rest⟩

/-- No parameter starts with the bracket that closes the list. -/
theorem OfWords.append_ne (h : p.OfWords) (xs ys : List Char) :
    p.render.toList ++ xs ≠ ')' :: ys := by
  have first : ∃ s zs, IsWord s ∧ p.render.toList = s.toList ++ zs := by
    rw [toList_render]
    cases p.type.isVararg with
    | true => exact ⟨"vararg", _, by decide, List.append_assoc _ _ _⟩
    | false =>
      cases p.isVar with
      | true => exact ⟨"var", _, by decide, List.append_assoc _ _ _⟩
      | false => exact ⟨p.name, _, h.name, rfl⟩
  obtain ⟨s, zs, isWord, chars⟩ := first
  rw [chars, List.append_assoc]
  exact isWord.append_ne (by decide) _ _

end FunParam

/-! ## Type parameters -/

theorem IsTypeText.tells {s : String} (h : IsTypeText s) :
    Tells id IsTypeText KotlinType.Ends s := by
  obtain ⟨t, ofWords, -, rfl⟩ := h
  rintro _ xs ys ⟨u, ofWords', -, rfl⟩ hx hy same
  obtain ⟨rfl, rest⟩ := KotlinType.tells_text ofWords ofWords' hx hy same
  exact ⟨rfl, rest⟩

namespace TypeParam

variable {p : TypeParam}

theorem toList_render (h : p.OfWords) :
    p.render.toList = p.name.toList ++ optional ':' p.upperBound := by
  rw [render]
  cases bound : p.upperBound with
  | none => exact (List.append_nil _).symm
  | some b =>
    obtain ⟨t, ofWords, -, rfl⟩ := h.bound b bound
    have nonempty : t.text.isEmpty = false := by
      rw [Bool.eq_false_iff, ne_eq, String.isEmpty_iff]
      exact ofWords.text_ne_empty
    dsimp only
    rw [nonempty, if_neg Bool.false_ne_true, String.toList_append, String.toList_append,
      List.append_assoc]
    rfl

theorem tells_render (h : p.OfWords) : Tells render OfWords EndsParam p := by
  intro q xs ys h' hx hy same
  rw [toList_render h, toList_render h', List.append_assoc, List.append_assoc] at same
  obtain ⟨name, same⟩ := tells_word h.name h'.name (head?_optional hx (by decide) (by decide))
    (head?_optional hy (by decide) (by decide)) same
  obtain ⟨bound, rest⟩ := optional_inj (fun b hb => (h.bound b hb).tells) h'.bound hx hy
    (fun _ ends => ends.ends) same
  rcases p with ⟨_, _⟩
  rcases q with ⟨_, _⟩
  cases name
  cases bound
  exact ⟨rfl, rest⟩

theorem OfWords.append_ne (h : p.OfWords) (xs ys : List Char) :
    p.render.toList ++ xs ≠ '>' :: ys := by
  rw [toList_render h, List.append_assoc]
  exact h.name.append_ne (by decide) _ _

end TypeParam

/-! ## Signatures -/

/-- The list of type parameters in front of a name, with the blank behind it. -/
def typeParamList : List TypeParam → List Char
  | [] => []
  | p :: ps => '<' :: ((join ", " ((p :: ps).map TypeParam.render)).toList ++ ['>', ' '])

/-- What stands behind the parameters for a result. -/
def resultPart (omitUnit : Bool) (result : String) : List Char :=
  if omitUnit && result = unitName then [] else ':' :: ' ' :: result.toList

/-- The characters of a written signature, part by part. -/
theorem CallSignature.toList_render (s : CallSignature) (name : String) (omitUnit : Bool) :
    (s.render name omitUnit).toList = "fun ".toList ++ (typeParamList (s.typeParams.getD []) ++
      (name.toList ++ '(' :: ((join ", " (s.params.map FunParam.render)).toList ++
        ')' :: resultPart omitUnit s.returnType.render))) := by
  have list : (if (renderTypeParams s.typeParams).isEmpty then ""
      else renderTypeParams s.typeParams ++ " ").toList = typeParamList (s.typeParams.getD []) := by
    rcases s.typeParams with _ | _ | ⟨p, ps⟩
    · rfl
    · rfl
    · have text : renderTypeParams (some (p :: ps)) =
          "<" ++ join ", " ((p :: ps).map TypeParam.render) ++ ">" := rfl
      have nonempty : (renderTypeParams (some (p :: ps))).isEmpty = false := by
        rw [Bool.eq_false_iff, ne_eq, String.isEmpty_iff, text]
        simp
      rw [nonempty, if_neg Bool.false_ne_true, text]
      simp only [String.toList_append, List.append_assoc]
      rfl
  have result : (if omitUnit && s.returnType.render = unitName then ""
      else ": " ++ s.returnType.render).toList = resultPart omitUnit s.returnType.render := by
    unfold resultPart
    split
    · rfl
    · rw [String.toList_append]
      rfl
  simp only [render, String.toList_append, list, result, List.append_assoc]
  rfl

/-- Whether there are type parameters is told from the first character behind `fun`. -/
theorem typeParamList_inj {ps qs : List TypeParam} {name : String} {xs ys : List Char}
    (isWord : IsWord name) (h : ∀ p ∈ ps, p.OfWords) (h' : ∀ q ∈ qs, q.OfWords)
    (same : typeParamList ps ++ (name.toList ++ xs) = typeParamList qs ++ (name.toList ++ ys)) :
    ps = qs ∧ xs = ys := by
  have noList {zs ws : List Char} : name.toList ++ zs ≠ '<' :: ws :=
    isWord.append_ne (by decide) zs ws
  cases ps with
  | nil =>
    cases qs with
    | nil => exact ⟨rfl, List.append_cancel_left same⟩
    | cons q qs => exact absurd same noList
  | cons p ps =>
    cases qs with
    | nil => exact absurd same.symm noList
    | cons q qs =>
      simp only [typeParamList, List.cons_append, List.append_assoc, List.cons.injEq,
        true_and] at same
      have told := tells_join (endsParam_cons (by decide)) (endsParam_cons (by decide)) (by decide)
        (fun p hp => TypeParam.OfWords.append_ne hp) h fun p hp => TypeParam.tells_render (h p hp)
      obtain ⟨lists, rest⟩ := told h' ⟨_, rfl⟩ ⟨_, rfl⟩ same
      simp only [List.cons.injEq, true_and, List.nil_append] at rest
      exact ⟨lists, List.append_cancel_left rest⟩

/-- A result that is left out is `Unit`. -/
theorem resultPart_inj {omitUnit : Bool} {use use' : TypeUse} (h : use.OfWords)
    (h' : use'.OfWords) (vararg : use.isVararg = use'.isVararg)
    (same : resultPart omitUnit use.render = resultPart omitUnit use'.render) : use = use' := by
  have texts : use.render.toList ++ [] = use'.render.toList ++ [] := by
    unfold resultPart at same
    split at same
    · next left =>
      split at same
      · next left' =>
        simp only [Bool.and_eq_true, decide_eq_true_eq] at left left'
        rw [left.2, left'.2]
      · cases same
    · split at same
      · cases same
      · simp only [List.cons.injEq, true_and] at same
        rw [same]
  have ends : KotlinType.Ends [] := nofun
  exact (TypeUse.render_inj h h' vararg ends ends texts).1

/-- **Texts of signatures.** Under one name, two signatures made of words have the same text just if
they have the same type parameters, the same parameters and the same result. -/
theorem renderedSignature_inj {name : String} (isWord : IsWord name) (omitUnit : Bool)
    {s s' : CallSignature} (h : s.OfWords) (h' : s'.OfWords) :
    s.render name omitUnit = s'.render name omitUnit ↔
      s.typeParams.getD [] = s'.typeParams.getD [] ∧ s.params = s'.params ∧
        s.returnType = s'.returnType := by
  constructor
  · intro same
    have chars := congrArg String.toList same
    rw [CallSignature.toList_render, CallSignature.toList_render] at chars
    obtain ⟨typeParams, chars⟩ := typeParamList_inj isWord h.typeParams h'.typeParams
      (List.append_cancel_left chars)
    simp only [List.cons.injEq, true_and] at chars
    have told := tells_join (endsParam_cons (by decide)) (endsParam_cons (by decide)) (by decide)
      (fun p hp => FunParam.OfWords.append_ne hp) h.params
      fun p hp => FunParam.tells_render (h.params p hp)
    obtain ⟨params, rest⟩ := told h'.params ⟨_, rfl⟩ ⟨_, rfl⟩ chars
    have results := resultPart_inj h.result h'.result (h.single.trans h'.single.symm)
      (List.cons.inj rest).2
    exact ⟨typeParams, params, results⟩
  · rintro ⟨typeParams, params, results⟩
    rw [← String.toList_inj, CallSignature.toList_render, CallSignature.toList_render, typeParams,
      params, results]

/-- The type `(A, N<->?) -> B`. -/
def callbackType : KotlinType :=
  .function [.name "A", .nullable (.applied "N" [.name "-"])] (.name "B")

theorem callbackType_ofWords : callbackType.OfWords := by
  have applied : (KotlinType.applied "N" [.name "-"]).OfWords := by
    refine .applied (by decide) (by decide) ?_
    rintro _ (_ | ⟨_, ⟨⟩⟩)
    exact .name (by decide)
  refine .function ?_ (.name (by decide))
  rintro _ (_ | ⟨_, _ | ⟨_, ⟨⟩⟩⟩)
  · exact .name (by decide)
  · exact .nullable applied rfl

/-- A signature with a parameter that is given, the bound `N<->` and the result `Unit`. -/
def signatureWith (p : FunParam) : CallSignature where
  typeParams := some [{ name := "T", upperBound := some "N<->" }]
  params := [p]
  returnType := { typeName := unitName }

theorem signatureWith_ofWords {p : FunParam} (h : p.OfWords) : (signatureWith p).OfWords where
  typeParams := by
    rintro _ (_ | ⟨_, ⟨⟩⟩)
    refine ⟨by decide, ?_⟩
    rintro _ ⟨⟩
    refine ⟨.applied "N" [.name "-"], .applied (by decide) (by decide) ?_, rfl, rfl⟩
    rintro _ (_ | ⟨_, ⟨⟩⟩)
    exact .name (by decide)
  params := by
    rintro _ (_ | ⟨_, ⟨⟩⟩)
    exact h
  result := ⟨.name unitName, .name (by decide), rfl, rfl, rfl⟩
  single := rfl

/-- `vararg var: ((A, N<->?) -> B)? = x` -/
def optionalCallbacks : FunParam where
  name := "var"
  type := { typeName := callbackType.text, isNullable := true, isLambda := true, isVararg := true }
  defaultValue := some "x"

/-- `var vararg: ((A, N<->?) -> B)? = x` -/
def optionalCallback : FunParam where
  name := "vararg"
  type := { typeName := callbackType.text, isNullable := true, isLambda := true }
  defaultValue := some "x"
  isVar := true

theorem optionalCallbacks_ofWords : optionalCallbacks.OfWords where
  name := by decide
  type := ⟨callbackType, callbackType_ofWords, rfl, rfl, rfl⟩
  default := by
    rintro _ ⟨⟩
    decide

theorem optionalCallback_ofWords : optionalCallback.OfWords where
  name := by decide
  type := ⟨callbackType, callbackType_ofWords, rfl, rfl, rfl⟩
  default := by
    rintro _ ⟨⟩
    decide

/-- Parameters named like modifiers are told from parameters with these modifiers. -/
theorem renderedSignature_inj_modifierNames :
    (signatureWith optionalCallbacks).OfWords ∧ (signatureWith optionalCallback).OfWords ∧
      (signatureWith optionalCallbacks).render "f" true ≠
        (signatureWith optionalCallback).render "f" true := by
  have h := signatureWith_ofWords optionalCallbacks_ofWords
  have h' := signatureWith_ofWords optionalCallback_ofWords
  refine ⟨h, h', fun same => ?_⟩
  obtain ⟨-, params, -⟩ := (renderedSignature_inj (by decide) true h h').1 same
  exact absurd (congrArg (List.map FunParam.isVar) params) (by decide)

end KotlinStubs
