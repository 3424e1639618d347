/-!
# Descriptors of Kotlin declarations

What a translated file holds: declarations with their signatures and types, and the rejections of
what has no counterpart in Kotlin.  Names are written as they appear in Kotlin, escaped where needed.
-/

namespace KotlinStubs

/-- The kinds of declarations. -/
inductive DeclarationKind where
  | function
  | value
  | interface
  | method
  | property
  | classType
  | nameSpace
  deriving DecidableEq

namespace DeclarationKind

/-- The written name of a kind. -/
def name : DeclarationKind → String
  | function => "function"
  | value => "variable"
  | interface => "interface"
  | method => "method"
  | property => "property"
  | classType => "class"
  | nameSpace => "namespace"

/-- All kinds, in the order of their declaration. -/
def all : List DeclarationKind :=
  [function, value, interface, method, property, classType, nameSpace]

/-- The kind with a given name. -/
def ofName? (s : String) : Option DeclarationKind := all.find? (·.name == s)

end DeclarationKind

/-- The Kotlin name of the type of all values. -/
abbrev anyName : String := "Any"

/-- The Kotlin name of the type without information. -/
abbrev unitName : String := "Unit"

/-- The Kotlin name of the array type. -/
abbrev arrayName : String := "Array"

/-- The type of a parameter, variable, property or result.  A parameter with `isVararg`
takes any number of values of the type. -/
structure TypeUse where
  typeName : String
  isNullable : Bool := false
  isLambda : Bool := false
  isVararg : Bool := false
  deriving DecidableEq

/-- A parameter; `isVar` marks one that declares a property of its class. -/
structure FunParam where
  name : String
  type : TypeUse
  defaultValue : Option String := none
  isVar : Bool := false
  deriving DecidableEq

/-- A type parameter with its upper bound. -/
structure TypeParam where
  name : String
  upperBound : Option String := none
  deriving DecidableEq

/-- The parameters and the result of a callable. -/
structure CallSignature where
  params : List FunParam := []
  typeParams : Option (List TypeParam) := none
  returnType : TypeUse
  deriving DecidableEq

/-- A declaration.  Functions and methods have a signature, variables and properties a type,
interfaces and classes may have type parameters; interfaces, classes and namespaces have members. -/
structure Declaration where
  kind : DeclarationKind
  name : String
  line : Nat := 0
  signature : Option CallSignature := none
  type : Option TypeUse := none
  typeParams : Option (List TypeParam) := none
  isVar : Bool := true
  members : List Declaration := []

/-- A declaration that was left out: its name if it has one, its node type, the line of the part that
has no counterpart, and the reason. -/
structure Rejection where
  name : Option String := none
  nodeType : String
  line : Nat
  error : String
  deriving DecidableEq

/-- The translation of a file. -/
structure TranslatedFile where
  path : String
  declarations : List Declaration := []
  rejections : List Rejection := []

end KotlinStubs
