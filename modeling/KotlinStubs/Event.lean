/-!
# Events

What a translation notes on its way: each thing that it passes over, and each declaration that it
rejects.
-/

namespace KotlinStubs

/-- How much an event matters. -/
inductive Level where
  | debug
  | warning
  deriving DecidableEq

/-- The written name of a level. -/
def Level.name : Level → String
  | debug => "debug"
  | warning => "warning"

/-- A value noted with an event. -/
inductive Detail where
  | text (s : String)
  | number (n : Nat)
  | absent
  deriving DecidableEq

/-- The things that a translation notes. -/
inductive Event where
  | untranslatedNode (nodeType : String) (line : Nat) (raw : String)
  | exportWithoutDeclaration (line : Nat)
  | expressionStatement (line : Nat)
  | externalModule (name : String) (line : Nat)
  | untranslatedInterfaceMember (nodeType : String) (line : Nat)
  | namelessClassMember (nodeType : String) (line : Nat)
  | hiddenClassMember (name : String) (line : Nat)
  | untranslatedClassMember (nodeType : String) (line : Nat)
  | droppedTypeParameters (name : String) (line : Nat)
  | unresolvedType (nodeType : String) (line : Nat)
  | rejected (path : String) (qualifier : Option String) (nodeType : String) (line : Nat)
      (error : String)
  deriving DecidableEq

namespace Event

/-- Only a rejection is more than a remark. -/
def level : Event → Level
  | rejected .. => .warning
  | _ => .debug

/-- The wording of an event. -/
def title : Event → String
  | untranslatedNode .. => "Skipping untranslated node"
  | exportWithoutDeclaration .. => "Skipping export without declaration"
  | expressionStatement .. => "Skipping expression statement"
  | externalModule .. => "Skipping external module declaration"
  | untranslatedInterfaceMember .. => "Skipping untranslated interface member"
  | namelessClassMember .. => "Skipping class member"
  | hiddenClassMember .. => "Skipping static or non-public class member"
  | untranslatedClassMember .. => "Skipping untranslated class member"
  | droppedTypeParameters .. => "Dropping type parameters of optional method"
  | unresolvedType .. => "Unresolved type kind, passing source text through"
  | rejected .. => "Skipping declaration that cannot be translated"

/-- The values noted with an event, by their names. -/
def details : Event → List (String × Detail)
  | untranslatedNode nodeType line raw =>
    [("node_type", .text nodeType), ("line", .number line), ("raw", .text raw)]
  | exportWithoutDeclaration line => [("line", .number line)]
  | expressionStatement line => [("line", .number line)]
  | externalModule name line => [("module", .text name), ("line", .number line)]
  | untranslatedInterfaceMember nodeType line =>
    [("node_type", .text nodeType), ("line", .number line)]
  | namelessClassMember nodeType line => [("node_type", .text nodeType), ("line", .number line)]
  | hiddenClassMember name line => [("name", .text name), ("line", .number line)]
  | untranslatedClassMember nodeType line =>
    [("node_type", .text nodeType), ("line", .number line)]
  | droppedTypeParameters name line => [("name", .text name), ("line", .number line)]
  | unresolvedType nodeType line => [("node_type", .text nodeType), ("line", .number line)]
  | rejected path qualifier nodeType line error =>
    [("path", .text path), ("namespace", (qualifier.map .text).getD .absent),
      ("node_type", .text nodeType), ("line", .number line), ("error", .text error)]

end Event

end KotlinStubs
