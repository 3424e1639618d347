import KotlinStubs.Json.Value
import KotlinStubs.Kotlin.Descriptor

/-!
# Descriptors as JSON

Every field of a descriptor is written, in the order of its declaration.
-/

namespace KotlinStubs

/-- A type as JSON. -/
def TypeUse.toJson (t : TypeUse) : Json :=
  .object [("type_name", .string t.typeName), ("is_nullable", .bool t.isNullable),
    ("is_lambda", .bool t.isLambda), ("is_vararg", .bool t.isVararg)]

/-- A parameter as JSON. -/
def FunParam.toJson (p : FunParam) : Json :=
  .object [("name", .string p.name), ("type", p.type.toJson),
    ("default_value", .ofString? p.defaultValue), ("is_var", .bool p.isVar)]

/-- A type parameter as JSON. -/
def TypeParam.toJson (p : TypeParam) : Json :=
  .object [("name", .string p.name), ("upper_bound", .ofString? p.upperBound)]

/-- Type parameters as JSON, null for none. -/
def typeParamsToJson : Option (List TypeParam) → Json
  | some params => .array (params.map TypeParam.toJson)
  | none => .null

/-- A signature as JSON. -/
def CallSignature.toJson (s : CallSignature) : Json :=
  .object [("params", .array (s.params.map FunParam.toJson)),
    ("type_params", typeParamsToJson s.typeParams), ("return_type", s.returnType.toJson)]

/-- A declaration as JSON, its members given as JSON. -/
def Declaration.toJsonWith (d : Declaration) (members : List Json) : Json :=
  .object [("kind", .string d.kind.name), ("name", .string d.name), ("line", .integer d.line),
    ("signature", (d.signature.map CallSignature.toJson).getD .null),
    ("type", (d.type.map TypeUse.toJson).getD .null),
    ("type_params", typeParamsToJson d.typeParams), ("is_var", .bool d.isVar),
    ("members", .array members)]

mutual

/-- A declaration as JSON. -/
def Declaration.toJson : Declaration → Json
  | d@⟨_, _, _, _, _, _, _, members⟩ => d.toJsonWith (Declaration.toJsons members)

/-- Declarations as JSON. -/
def Declaration.toJsons : List Declaration → List Json
  | [] => []
  | d :: ds => d.toJson :: Declaration.toJsons ds

end

/-- A rejection as JSON. -/
def Rejection.toJson (r : Rejection) : Json :=
  .object [("name", .ofString? r.name), ("node_type", .string r.nodeType),
    ("line", .integer r.line), ("error", .string r.error)]

/-- A file as JSON. -/
def TranslatedFile.toJson (file : TranslatedFile) : Json :=
  .object [("path", .string file.path),
    ("declarations", .array (Declaration.toJsons file.declarations)),
    ("errors", .array (file.rejections.map Rejection.toJson))]

end KotlinStubs
