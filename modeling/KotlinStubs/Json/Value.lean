/-!
# JSON values

A `Json` value keeps the members of an object in the order of their writing.  Integers are exact; a
number with a fraction or an exponent, an infinity and NaN are kept as written.  A string may hold
half of a surrogate pair, which is a value but no text.
-/

namespace KotlinStubs

/-- A JSON value. -/
inductive Json where
  | null
  | bool (b : Bool)
  | integer (i : Int)
  | real (text : String)
  | string (s : String)
  | unpairedString
  | array (items : List Json)
  | object (members : List (String × Json))

namespace Json

/-- The number of digits of the longest integer that is read. -/
def maxDigits : Nat := 4300

/-- The value of decimal digits. -/
def digitsValue (ds : List Char) : Nat := ds.foldl (fun v c => 10 * v + (c.toNat - 48)) 0

/-- The value of a member; the last one of its name counts. -/
def get? (name : String) : Json → Option Json
  | object members => (members.filter (·.1 == name)).getLast?.map (·.2)
  | _ => none

/-- The text of a string value. -/
def asString? : Json → Option String
  | string s => some s
  | _ => none

/-- The value of an integer. -/
def asInt? : Json → Option Int
  | integer i => some i
  | _ => none

/-- The value of an integer that is not negative. -/
def asNat? (j : Json) : Option Nat := j.asInt?.bind Int.toNat?

/-- The value of a truth value. -/
def asBool? : Json → Option Bool
  | bool b => some b
  | _ => none

/-- The items of an array. -/
def asArray? : Json → Option (List Json)
  | array items => some items
  | _ => none

/-- The members of an object. -/
def asObject? : Json → Option (List (String × Json))
  | object members => some members
  | _ => none

/-- A text or null. -/
def ofString? : Option String → Json
  | some s => string s
  | none => null

/-- An array of texts. -/
def ofStrings (texts : List String) : Json := array (texts.map string)

end Json

end KotlinStubs
