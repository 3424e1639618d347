/-!
# Kinds of syntax nodes

A grammar names its nodes by open-ended type names; `Kind` is the closed tag that translation looks
at.  A `predefined_type` node is told apart by its keyword (`Kind.ofKeyword`), every other node by
its type name (`Kind.ofType`).
-/

namespace KotlinStubs

/-- The kinds of nodes that translation tells apart. -/
inductive Kind where
  | anyKeyword
  | numberKeyword
  | stringKeyword
  | booleanKeyword
  | voidKeyword
  | arrayType
  | genericType
  | functionType
  | objectType
  | typeClause
  | typePredicate
  | asserts
  | parameter
  | restPattern
  | accessibilityModifier
  | typeParameter
  | variableDeclarator
  | identifier
  | string
  | other
  deriving DecidableEq

namespace Kind

/-- The written name of a kind. -/
def name : Kind → String
  | anyKeyword => "any_keyword"
  | numberKeyword => "number_keyword"
  | stringKeyword => "string_keyword"
  | booleanKeyword => "boolean_keyword"
  | voidKeyword => "void_keyword"
  | arrayType => "array_type"
  | genericType => "generic_type"
  | functionType => "function_type"
  | objectType => "object_type"
  | typeClause => "type_annotation"
  | typePredicate => "type_predicate"
  | asserts => "asserts"
  | parameter => "parameter"
  | restPattern => "rest_pattern"
  | accessibilityModifier => "accessibility_modifier"
  | typeParameter => "type_parameter"
  | variableDeclarator => "variable_declarator"
  | identifier => "identifier"
  | string => "string"
  | other => "other"

/-- All kinds, in the order of their declaration. -/
def all : List Kind :=
  [anyKeyword, numberKeyword, stringKeyword, booleanKeyword, voidKeyword, arrayType, genericType,
    functionType, objectType, typeClause, typePredicate, asserts, parameter, restPattern,
    accessibilityModifier, typeParameter, variableDeclarator, identifier, string, other]

/-- The kind with a given name. -/
def ofName? (s : String) : Option Kind := all.find? (·.name == s)

/-- The kind of a predefined type, by its keyword. -/
def ofKeyword : String → Kind
  | "any" => anyKeyword
  | "number" => numberKeyword
  | "string" => stringKeyword
  | "boolean" => booleanKeyword
  | "void" => voidKeyword
  | _ => other

/-- The kind of any other node, by its type name.  The annotations `: x is T` and `: asserts x` wrap
their content as `: T` does. -/
def ofType : String → Kind
  | "array_type" => arrayType
  | "generic_type" => genericType
  | "function_type" => functionType
  | "object_type" => objectType
  | "type_annotation" => typeClause
  | "type_predicate_annotation" => typeClause
  | "asserts_annotation" => typeClause
  | "type_predicate" => typePredicate
  | "asserts" => asserts
  | "required_parameter" => parameter
  | "optional_parameter" => parameter
  | "rest_pattern" => restPattern
  | "rest_parameter" => restPattern
  | "accessibility_modifier" => accessibilityModifier
  | "type_parameter" => typeParameter
  | "variable_declarator" => variableDeclarator
  | "identifier" => identifier
  | "type_identifier" => identifier
  | "property_identifier" => identifier
  | "shorthand_property_identifier_pattern" => identifier
  | "string" => string
  | _ => other

end Kind

end KotlinStubs
