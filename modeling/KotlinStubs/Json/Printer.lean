import KotlinStubs.Json.Value
import KotlinStubs.Text.Quoted
import KotlinStubs.Text.Basic

/-!
# Writing JSON

`Json.write` is the text without white space, `Json.pretty` the text with one item a line, each level
indented by two blanks.  Only quotes, backslashes and control characters are escaped.
-/

namespace KotlinStubs

namespace Json

/-- A character as it is written in a string. -/
def escapeChar (c : Char) : List Char :=
  match c with
  | '"' => ['\\', '"']
  | '\\' => ['\\', '\\']
  | '\x08' => ['\\', 'b']
  | '\x0c' => ['\\', 'f']
  | '\n' => ['\\', 'n']
  | '\r' => ['\\', 'r']
  | '\t' => ['\\', 't']
  | _ =>
    if c.toNat < 32 then
      '\\' :: 'u' :: Text.hexDigits c.toNat 4
    else
      [c]

/-- A text as a string. -/
def quote (s : String) : String := String.ofList ('"' :: s.toList.flatMap escapeChar ++ ['"'])

/-- A string with half of a surrogate pair has no text; it is written as the empty string. -/
def writeScalar : Json → String
  | bool true => "true"
  | bool false => "false"
  | integer i => toString i
  | real text => text
  | string s => quote s
  | unpairedString => quote ""
  | _ => "null"

mutual

/-- The text without white space. -/
def write : Json → String
  | array items => "[" ++ Text.join "," (writeItems items) ++ "]"
  | object members => "\x7b" ++ Text.join "," (writeMembers members) ++ "\x7d"
  | scalar => writeScalar scalar

/-- The texts of items. -/
def writeItems : List Json → List String
  | [] => []
  | j :: rest => write j :: writeItems rest

/-- The texts of members. -/
def writeMembers : List (String × Json) → List String
  | [] => []
  | (name, j) :: rest => (quote name ++ ":" ++ write j) :: writeMembers rest

end

/-- A line feed and the indent of a level. -/
def newLine (level : Nat) : String := String.ofList ('\n' :: List.replicate (2 * level) ' ')

mutual

/-- The text with one item a line, on a given level. -/
def prettyAt (level : Nat) : Json → String
  | array [] => "[]"
  | array items =>
    "[" ++ newLine (level + 1) ++ Text.join ("," ++ newLine (level + 1)) (prettyItems level items) ++
      newLine level ++ "]"
  | object [] => "\x7b\x7d"
  | object members =>
    "\x7b" ++ newLine (level + 1) ++
      Text.join ("," ++ newLine (level + 1)) (prettyMembers level members) ++ newLine level ++ "\x7d"
  | scalar => writeScalar scalar

/-- The texts of the items of a container on a level. -/
def prettyItems (level : Nat) : List Json → List String
  | [] => []
  | j :: rest => prettyAt (level + 1) j :: prettyItems level rest

/-- The texts of the members of a container on a level. -/
def prettyMembers (level : Nat) : List (String × Json) → List String
  | [] => []
  | (name, j) :: rest => (quote name ++ ": " ++ prettyAt (level + 1) j) :: prettyMembers level rest

end

/-- The text with one item a line. -/
def pretty (j : Json) : String := prettyAt 0 j

end Json

end KotlinStubs
