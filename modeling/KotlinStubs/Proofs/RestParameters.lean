import KotlinStubs.Proofs.FunctionTypes

/-!
# Rest parameters

The descriptor of a rest parameter has the type of one element of its array.  Nothing is lost by
that: wrapped again, the name of the element is the name of the declared type, whether that is
written `T[]` or `Array<T>` and whatever stands between the brackets.  The descriptor of any other
parameter has the declared type itself.

* `Node.typeName_of_restElement`: the name of the declared type, from that of its element.
* `Node.parameter_eq_ok`: what the descriptor of a parameter holds.
* `parameter_unwraps`: parameters of every form.
-/

namespace KotlinStubs

open Translation

namespace Node

variable {σ : Settings} {p declared element : Node} {param : FunParam}

/-- A declared type whose element has been found has the name of the element, wrapped: finding the
element reads all that naming the declared type reads, but for the element itself. -/
theorem typeName_of_restElement {inner : String}
    (found : (p.restElement declared).result = .ok (some element))
    (named : element.typeName.result = .ok inner) :
    declared.typeName.result = .ok (arrayName ++ "<" ++ inner ++ ">") := by
  unfold restElement at found
  split at found
  · next kind =>
    obtain ⟨_, reached, found⟩ := result_bind_eq_ok.1 found
    have first : declared.firstNamed? = some element := Except.ok.inj found
    rw [typeName_array kind]
    refine result_bind_eq_ok.2 ⟨_, reached, ?_⟩
    rw [first]
    exact result_bind_eq_ok.2 ⟨inner, named, rfl⟩
  · next kind =>
    obtain ⟨_, reachedName, found⟩ := result_bind_eq_ok.1 found
    obtain ⟨_, reachedList, found⟩ := result_bind_eq_ok.1 found
    split at found
    · cases found
    · next name hname =>
      obtain ⟨text, htext, found⟩ := result_bind_eq_ok.1 found
      split at found
      · next args hargs =>
        split at found
        · next isArray =>
          obtain ⟨_, reachedEntries, found⟩ := result_bind_eq_ok.1 found
          split at found
          · next single =>
            cases found
            cases isArray
            have names : ((args.payloads angles).mapM typeName).result = .ok [inner] := by
              rw [single, List.mapM_cons]
              exact result_bind_eq_ok.2 ⟨inner, named, rfl⟩
            rw [typeName_generic kind]
            refine result_bind_eq_ok.2 ⟨_, reachedName, ?_⟩
            refine result_bind_eq_ok.2 ⟨_, reachedList, ?_⟩
            rw [hname, hargs]
            refine result_bind_eq_ok.2 ⟨_, htext, ?_⟩
            refine result_bind_eq_ok.2 ⟨_, reachedEntries, ?_⟩
            exact result_bind_eq_ok.2 ⟨_, names, rfl⟩
          · cases found
        · cases found
      · cases found
  · cases found

/-- The descriptor of a parameter has the name of the type node found for it, and is for a function
just if that node is a function type. -/
theorem parameter_eq_ok (done : (p.parameter σ).result = .ok param) :
    ∃ type?, p.parameterType.result = .ok type? ∧
      (typeNameOrAny type?).result = .ok param.type.typeName ∧
      param.type.isLambda = type?.any (·.kind == .functionType) := by
  unfold parameter at done
  obtain ⟨_, _, done⟩ := result_bind_eq_ok.1 done
  obtain ⟨_, _, done⟩ := result_bind_eq_ok.1 done
  obtain ⟨type?, found, done⟩ := result_bind_eq_ok.1 done
  obtain ⟨name, named, done⟩ := result_bind_eq_ok.1 done
  obtain ⟨_, _, done⟩ := result_bind_eq_ok.1 done
  obtain ⟨_, _, done⟩ := result_bind_eq_ok.1 done
  cases done
  exact ⟨type?, found, named, rfl⟩

theorem isRest_iff : p.isRest = true ↔
    ∃ c ∈ p.children, c.isComment = false ∧ c.kind = .restPattern := by
  simp [isRest, hasPartOfKind, parts]

/-- The descriptor of a rest parameter, wrapped again. -/
theorem parameter_of_rest (done : (p.parameter σ).result = .ok param) (rest : p.isRest = true)
    (found : p.declaredType? = some declared)
    (full : declared.kind = .arrayType → declared.firstNamed? ≠ none) :
    declared.typeName.result = .ok (arrayName ++ "<" ++ param.type.typeName ++ ">") ∧
      ∃ element, declared.HasElement (some element) ∧
        (param.type.isLambda = true ↔ element.kind = .functionType) := by
  obtain ⟨type?, htype, named, lambda⟩ := parameter_eq_ok done
  rw [parameterType, found] at htype
  dsimp only at htype
  rw [if_pos rest] at htype
  have has := hasElement_of_restElement htype
  cases type? with
  | none =>
    -- an array type alone can be without element, and this one is not
    generalize missing : none = element? at has
    cases has with
    | array kind => exact absurd missing.symm (full kind)
    | generic => cases missing
  | some element =>
    refine ⟨typeName_of_restElement htype named, element, has, ?_⟩
    rw [lambda]
    exact beq_iff_eq

/-- The descriptor of any other parameter. -/
theorem parameter_of_not_rest (done : (p.parameter σ).result = .ok param)
    (single : p.isRest = false) (found : p.declaredType? = some declared) :
    declared.typeName.result = .ok param.type.typeName ∧
      (param.type.isLambda = true ↔ declared.kind = .functionType) := by
  obtain ⟨type?, htype, named, lambda⟩ := parameter_eq_ok done
  rw [parameterType_of_not_rest single] at htype
  cases htype
  rw [found] at named lambda
  refine ⟨named, ?_⟩
  rw [lambda]
  exact beq_iff_eq

/-- The descriptor of a parameter without type, rest parameter or not. -/
theorem parameter_of_untyped (done : (p.parameter σ).result = .ok param)
    (untyped : p.declaredType? = none) :
    param.type.typeName = anyName ∧ param.type.isLambda = false := by
  obtain ⟨type?, htype, named, lambda⟩ := parameter_eq_ok done
  rw [parameterType, untyped] at htype
  cases htype
  exact ⟨(Except.ok.inj named).symm, lambda⟩

end Node

/-- **Rest parameters.** A parameter is for any number of values just if some part of it that is no
comment is a rest pattern.  If it is, and is declared with a type other than an array type without
element, the name of its type is that of the declared type, taken out of `Array<…>`, and it is for
functions just if the element in the array is a function type; if it is not, it has the name of the
declared type, and is for a function just if that is a function type.  Without a declared type it
takes any value. -/
theorem parameter_unwraps {σ : Settings} {p : Node} {param : FunParam}
    (done : (p.parameter σ).result = .ok param) :
    (param.type.isVararg = true ↔
      ∃ c ∈ p.children, c.isComment = false ∧ c.kind = .restPattern) ∧
    (param.type.isVararg = true → ∀ declared, p.declaredType? = some declared →
      (declared.kind = .arrayType → declared.firstNamed? ≠ none) →
      declared.typeName.result = .ok (arrayName ++ "<" ++ param.type.typeName ++ ">") ∧
        ∃ element, declared.HasElement (some element) ∧
          (param.type.isLambda = true ↔ element.kind = .functionType)) ∧
    (param.type.isVararg = false → ∀ declared, p.declaredType? = some declared →
      declared.typeName.result = .ok param.type.typeName ∧
        (param.type.isLambda = true ↔ declared.kind = .functionType)) ∧
    (p.declaredType? = none →
      param.type.typeName = anyName ∧ param.type.isLambda = false) := by
  rw [Node.isVararg_of_parameter done]
  exact ⟨Node.isRest_iff, fun rest _ found full => Node.parameter_of_rest done rest found full,
    fun single _ found => Node.parameter_of_not_rest done single found,
    Node.parameter_of_untyped done⟩

namespace Node

/-- `Array<(x) => b[], /* */>`, with a comma and a comment behind the element -/
def arrayOfFunction : Node :=
  branch "generic_type" "Array<(x) => b[], /* */>" [] [
    leaf "type_identifier" "Array" [.name],
    branch "type_arguments" "<(x) => b[], /* */>" [.typeArguments] [
      token "<",
      functionToArray,
      token ",",
      leaf "comment" "/* */" [],
      token ">"]]

/-- Neither the comma nor the comment behind the element counts as one. -/
theorem parameter_unwraps_arrayOfFunction : ∃ param,
    ((restParameter arrayOfFunction).parameter {}).result = .ok param ∧
      param.type.isVararg = true ∧ param.type.typeName = "(Any) -> Array<b>" ∧
      param.type.isLambda = true ∧
      arrayOfFunction.typeName.result = .ok "Array<(Any) -> Array<b>>" := by
  have named : functionToArray.typeName.result = .ok "(Any) -> Array<b>" := by
    rw [typeName_eq_composedName, composedName_functionToArray]
    rfl
  have element : (restParameter arrayOfFunction).parameterType.result =
      .ok (some functionToArray) := rfl
  obtain ⟨param, done, text⟩ : ∃ param,
      ((restParameter arrayOfFunction).parameter {}).result = .ok param ∧
        param.type.typeName = "(Any) -> Array<b>" :=
    ⟨_, result_bind_eq_ok.2 ⟨(), rfl, result_bind_eq_ok.2 ⟨(), rfl, result_bind_eq_ok.2
      ⟨_, element, result_bind_eq_ok.2 ⟨_, named, rfl⟩⟩⟩⟩, rfl⟩
  obtain ⟨vararg, rest, -, -⟩ := parameter_unwraps done
  have isVararg : param.type.isVararg = true :=
    vararg.2 ⟨_, List.mem_cons_self, rfl, rfl⟩
  obtain ⟨declared, element, has, lambda⟩ := rest isVararg arrayOfFunction rfl nofun
  have found : some element = some functionToArray := has.unique (.generic rfl rfl rfl rfl rfl)
  cases found
  rw [text] at declared
  exact ⟨param, done, isVararg, text, lambda.2 rfl, declared⟩

end Node

end KotlinStubs
