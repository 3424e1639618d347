import KotlinStubs.Kotlin.Descriptor
import KotlinStubs.Path
import KotlinStubs.Text.Basic

/-!
# Kotlin text of descriptors

Types, parameters, signatures and declarations as Kotlin writes them.  Members of an interface stay
abstract; members of a class are open and, like functions and variables, defined elsewhere.  A file
lists its own declarations first, then one section for each namespace.

* `TranslatedFile.render`: the text of a file.
-/

namespace KotlinStubs

/-- A declaration that has no text: a function or method without signature. -/
inductive RenderFault where
  | unrenderable (kind : DeclarationKind)
  deriving DecidableEq

/-- The wording of a declaration without text, which names its kind in capitals. -/
def RenderFault.message : RenderFault → String
  | unrenderable kind =>
    "Cannot render declaration of kind DeclarationKind." ++ kind.name.map Char.toUpper

/-- The text of a type. -/
def TypeUse.render (t : TypeUse) : String :=
  if t.isNullable then
    if t.isLambda then "(" ++ t.typeName ++ ")?" else t.typeName ++ "?"
  else
    t.typeName

/-- The text of a parameter. -/
def FunParam.render (p : FunParam) : String :=
  (if p.type.isVararg then "vararg " else "") ++ (if p.isVar then "var " else "") ++ p.name ++
    ": " ++ p.type.render ++
    match p.defaultValue with
    | some value => " = " ++ value
    | none => ""

/-- The text of a type parameter.  An empty bound is none. -/
def TypeParam.render (p : TypeParam) : String :=
  match p.upperBound with
  | some bound => if bound.isEmpty then p.name else p.name ++ " : " ++ bound
  | none => p.name

/-- The text of a list of type parameters, empty for none. -/
def renderTypeParams (params : Option (List TypeParam)) : String :=
  match params with
  | none | some [] => ""
  | some params => "<" ++ Text.join ", " (params.map TypeParam.render) ++ ">"

/-- The text of a function.  The result `Unit` can be left out. -/
def CallSignature.render (s : CallSignature) (name : String) (omitUnit : Bool) : String :=
  let typeParams := renderTypeParams s.typeParams
  let result := s.returnType.render
  "fun " ++ (if typeParams.isEmpty then "" else typeParams ++ " ") ++ name ++
    "(" ++ Text.join ", " (s.params.map FunParam.render) ++ ")" ++
    if omitUnit && result = unitName then "" else ": " ++ result

/-- The value of what is defined elsewhere. -/
def definedElsewhere : String := " = definedExternally"

/-- The blanks in front of a line; a negative indent is none. -/
def padding (indent : Int) : String := String.ofList (List.replicate (4 * indent.toNat) ' ')

/-- The text of a variable or property in a container. -/
def Declaration.renderValue (d : Declaration) (container : Option DeclarationKind) : String :=
  let inClass := container = some .classType
  (if inClass then "open " else "") ++ (if d.isVar then "var " else "val ") ++ d.name ++ ": " ++
    (match d.type with
      | some type => type.render
      | none => anyName) ++
    if d.kind = .value || inClass then definedElsewhere else ""

/-- The first line of an interface or class. -/
def Declaration.renderHeader (d : Declaration) : String :=
  (if d.kind = .interface then "interface " else "open class ") ++ d.name ++
    renderTypeParams d.typeParams

/-- The first lines of the section of a namespace, in a package if one is given. -/
def Declaration.sectionLines (d : Declaration) (package : Option String) : List String :=
  let qualified :=
    match package with
    | some p => if p.isEmpty then d.name else p ++ "." ++ d.name
    | none => d.name
  ["@file:JsQualifier(\"" ++ d.name ++ "\")", "package " ++ qualified, ""]

mutual

/-- The text of a declaration in a container.  A namespace ignores the indent. -/
def Declaration.render (indent : Int) (container : Option DeclarationKind) :
    Declaration → Except RenderFault String
  | d@⟨kind, name, _, signature, _, _, _, members⟩ =>
    let pad := padding indent
    match kind, signature with
    | .function, some s => .ok (pad ++ s.render name false ++ definedElsewhere)
    | .method, some s =>
      if container = some .classType then
        .ok (pad ++ "open " ++ s.render name false ++ definedElsewhere)
      else
        .ok (pad ++ s.render name true)
    | .function, none => .error (.unrenderable .function)
    | .method, none => .error (.unrenderable .method)
    | .value, _ | .property, _ => .ok (pad ++ d.renderValue container)
    | .interface, _ | .classType, _ =>
      if members.isEmpty then
        .ok (pad ++ d.renderHeader)
      else do
        let lines ← Declaration.renderAll (indent + 1) (some kind) members
        pure (pad ++ d.renderHeader ++ " \x7b\n" ++ Text.joinLines lines ++ "\n" ++ pad ++ "\x7d")
    | .nameSpace, _ => do
      let lines ← Declaration.renderAll 0 none members
      pure (Text.joinLines (d.sectionLines none ++ lines))

/-- The texts of declarations in a container. -/
def Declaration.renderAll (indent : Int) (container : Option DeclarationKind) :
    List Declaration → Except RenderFault (List String)
  | [] => .ok []
  | d :: ds => do
    let text ← Declaration.render indent container d
    let texts ← Declaration.renderAll indent container ds
    pure (text :: texts)

end

/-- The section of a namespace, in a package if one is given. -/
def Declaration.renderSection (d : Declaration) (package : Option String) :
    Except RenderFault String := do
  let lines ← Declaration.renderAll 0 none d.members
  pure (Text.joinLines (d.sectionLines package ++ lines))

/-- The sections of namespaces. -/
def renderSections (package : Option String) : List Declaration →
    Except RenderFault (List String)
  | [] => .ok []
  | d :: ds => do
    let text ← d.renderSection package
    let texts ← renderSections package ds
    pure (text :: texts)

/-- The ruler between two sections. -/
def sectionSeparator : String :=
  "\n\n// " ++ String.ofList (List.replicate 90 '-') ++ "\n"

/-- The text of a file. -/
def TranslatedFile.render (file : TranslatedFile) : Except RenderFault String := do
  let own ← Declaration.renderAll 0 none (file.declarations.filter (·.kind != .nameSpace))
  let sections ← renderSections (packageName? file.path)
    (file.declarations.filter (·.kind == .nameSpace))
  pure (Text.join sectionSeparator
    ((if own.isEmpty then [] else [Text.joinLines own]) ++ sections))

end KotlinStubs
