import KotlinStubs.Json.Decode
import KotlinStubs.Kotlin.Descriptor

/-!
# Descriptors from JSON

A descriptor is read from an object with its fields as members.  Fields that have a default may be
left out, members that are no fields are passed over.
-/

namespace KotlinStubs

open Json

/-- A type from JSON. -/
def TypeUse.ofJson : Json → Decoded TypeUse :=
  decodeObject fun j =>
    TypeUse.mk <$> j.required "type_name" decodeString
      <*> j.withDefault "is_nullable" false decodeBool
      <*> j.withDefault "is_lambda" false decodeBool
      <*> j.withDefault "is_vararg" false decodeBool

/-- A parameter from JSON. -/
def FunParam.ofJson : Json → Decoded FunParam :=
  decodeObject fun j =>
    FunParam.mk <$> j.required "name" decodeString
      <*> j.required "type" TypeUse.ofJson
      <*> j.withDefault "default_value" none (decodeOption decodeString)
      <*> j.withDefault "is_var" false decodeBool

/-- A type parameter from JSON. -/
def TypeParam.ofJson : Json → Decoded TypeParam :=
  decodeObject fun j =>
    TypeParam.mk <$> j.required "name" decodeString
      <*> j.withDefault "upper_bound" none (decodeOption decodeString)

/-- Type parameters from JSON, none for null; defects are located as in a member that holds them. -/
def typeParamsOfJson (j : Json) : Decoded (Option (List TypeParam)) :=
  (decodeOption (decodeList TypeParam.ofJson) j).under "type_params"

/-- A signature from JSON. -/
def CallSignature.ofJson : Json → Decoded CallSignature :=
  decodeObject fun j =>
    CallSignature.mk <$> j.withDefault "params" [] (decodeList FunParam.ofJson)
      <*> j.withDefault "type_params" none (decodeOption (decodeList TypeParam.ofJson))
      <*> j.required "return_type" TypeUse.ofJson

/-- A declaration from the members of an object, given its members as declarations. -/
def Declaration.ofMembers (j : Json) (members : Decoded (List Declaration)) :
    Decoded Declaration :=
  Declaration.mk <$> j.required "kind" (decodeName DeclarationKind.ofName?)
    <*> j.required "name" decodeString
    <*> j.withDefault "line" 0 decodeLine
    <*> j.withDefault "signature" none (decodeOption CallSignature.ofJson)
    <*> j.withDefault "type" none (decodeOption TypeUse.ofJson)
    <*> j.withDefault "type_params" none (decodeOption (decodeList TypeParam.ofJson))
    <*> j.withDefault "is_var" true decodeBool
    <*> members

namespace Json

theorem sizeOf_lt_of_get? {j v : Json} {name : String} (h : j.get? name = some v) :
    sizeOf v < sizeOf j := by
  unfold get? at h
  split at h
  · next members =>
    obtain ⟨m, hm, rfl⟩ := Option.map_eq_some_iff.1 h
    have hmem := List.mem_of_getLast? hm
    have hlt := List.sizeOf_lt_of_mem (List.mem_filter.1 hmem).1
    obtain ⟨n, v⟩ := m
    simp only [Prod.mk.sizeOf_spec] at hlt
    simp only [Json.object.sizeOf_spec]
    omega
  · cases h

end Json

mutual

/-- A declaration from JSON. -/
def Declaration.ofJson (j : Json) : Decoded Declaration :=
  match j.asObject? with
  | none => .problem .modelType
  | some _ =>
    Declaration.ofMembers j <|
      match _h : j.get? "members" with
      | none => .valid []
      | some (.array items) =>
        Decoded.under "members" (.all (Decoded.numbered 0 (Declaration.ofJsons items)))
      | some _ => Decoded.under "members" (.problem .listType)
termination_by sizeOf j
decreasing_by
  have := Json.sizeOf_lt_of_get? _h
  simp only [Json.array.sizeOf_spec] at this
  omega

/-- Declarations from JSON, one by one. -/
def Declaration.ofJsons : List Json → List (Decoded Declaration)
  | [] => []
  | j :: js => Declaration.ofJson j :: Declaration.ofJsons js
termination_by js => sizeOf js

end

/-- A rejection from JSON. -/
def Rejection.ofJson : Json → Decoded Rejection :=
  decodeObject fun j =>
    Rejection.mk <$> j.withDefault "name" none (decodeOption decodeString)
      <*> j.required "node_type" decodeString
      <*> j.required "line" decodeLine
      <*> j.required "error" decodeString

/-- A file from JSON. -/
def TranslatedFile.ofJson : Json → Decoded TranslatedFile :=
  decodeObject fun j =>
    TranslatedFile.mk <$> j.required "path" decodeString
      <*> j.withDefault "declarations" [] (decodeList Declaration.ofJson)
      <*> j.withDefault "errors" [] (decodeList Rejection.ofJson)

end KotlinStubs
