import KotlinStubs.Syntax.Kind

/-!
# Faults

The causes that end a translation.  A rest parameter of the wrong shape ends only the statement that
holds it (`Fault.line?` gives its line); every other fault ends the file.
-/

namespace KotlinStubs

/-- Why a translation cannot go on. -/
inductive Fault where
  /-- A rest parameter, given by its node type and line, is declared with a type that is no array. -/
  | restShape (nodeType : String) (line : Nat)
  /-- A rest parameter is declared as `Array` with a number of arguments other than one. -/
  | arrayArity (count : Nat)
  /-- A separated list holds a payload of another kind than expected. -/
  | wrongEntry (expected : Kind) (nodeType : String)
  /-- A text that is asked for is no UTF-8. -/
  | undecodable
  deriving DecidableEq

namespace Fault

/-- The line of the part of a statement that makes it impossible to represent, if it is only this
statement that the fault ends. -/
def line? : Fault → Option Nat
  | restShape _ line => some line
  | _ => none

/-- The wording of a fault. -/
def message : Fault → String
  | restShape _ _ => "rest parameter must be an array type"
  | arrayArity count =>
    "Array should have one generic parameter, but have " ++ toString count ++ "."
  | wrongEntry expected nodeType =>
    "Expected " ++ expected.name ++ " in separated list, got " ++ nodeType
  | undecodable => "text is not UTF-8"

end Fault

end KotlinStubs
