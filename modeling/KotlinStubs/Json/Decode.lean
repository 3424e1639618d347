import KotlinStubs.Json.Value
import KotlinStubs.Text.Basic

/-!
# Decoding JSON

A decoder turns a JSON value into a value of another type or lists every defect of it, each with the
place where it was found.  `Decoded` is an applicative functor: the defects of the parts of a value
add up in the order of the parts.
-/

namespace KotlinStubs

/-- What can be wrong with a value. -/
inductive Problem where
  | missing
  | stringType
  | stringUnicode
  | boolType
  | boolParsing
  | intType
  | intParsing
  | intParsingSize
  | listType
  | setType
  | modelType
  | enumeration
  | extraForbidden
  deriving DecidableEq

/-- The written name of a problem. -/
def Problem.name : Problem → String
  | missing => "missing"
  | stringType => "string_type"
  | stringUnicode => "string_unicode"
  | boolType => "bool_type"
  | boolParsing => "bool_parsing"
  | intType => "int_type"
  | intParsing => "int_parsing"
  | intParsingSize => "int_parsing_size"
  | listType => "list_type"
  | setType => "set_type"
  | modelType => "model_type"
  | enumeration => "enum"
  | extraForbidden => "extra_forbidden"

/-- A problem and the place where it was found, as the names and positions on the way there. -/
structure Defect where
  location : List String
  problem : Problem
  deriving DecidableEq

/-- A value, or what is wrong. -/
inductive Decoded (α : Type) where
  | valid (a : α)
  | invalid (defects : List Defect)

namespace Decoded

variable {α β : Type}

/-- A function applied to a value; the defects of both add up. -/
def apply (f : Decoded (α → β)) (x : Decoded α) : Decoded β :=
  match f, x with
  | valid f, valid a => valid (f a)
  | valid _, invalid ds => invalid ds
  | invalid ds, valid _ => invalid ds
  | invalid ds, invalid es => invalid (ds ++ es)

instance : Applicative Decoded where
  pure := valid
  seq f x := f.apply (x ())

/-- A value with one problem, found at the place in question itself. -/
def problem (p : Problem) : Decoded α := invalid [⟨[], p⟩]

/-- The same value, found one step further in. -/
def under (step : String) : Decoded α → Decoded α
  | valid a => valid a
  | invalid ds => invalid (ds.map fun d => ⟨step :: d.location, d.problem⟩)

/-- Several values; their defects add up. -/
def all : List (Decoded α) → Decoded (List α)
  | [] => valid []
  | x :: xs => List.cons <$> x <*> all xs

/-- The values at the positions from a number on. -/
def numbered : Nat → List (Decoded α) → List (Decoded α)
  | _, [] => []
  | k, x :: xs => x.under (toString k) :: numbered (k + 1) xs

end Decoded

namespace Json

variable {α : Type}

/-- A text. -/
def decodeString : Json → Decoded String
  | string s => .valid s
  | unpairedString => .problem .stringUnicode
  | _ => .problem .stringType

/-- The words for true, in lower case. -/
def trueWords : List String := ["1", "t", "y", "on", "yes", "true"]

/-- The words for false, in lower case. -/
def falseWords : List String := ["0", "f", "n", "no", "off", "false"]

/-- A truth value, also written as one of the numbers 0 and 1 or as a word. -/
def decodeBool : Json → Decoded Bool
  | bool b => .valid b
  | integer 0 => .valid false
  | integer 1 => .valid true
  | integer _ => .problem .boolParsing
  | string s =>
    let word := s.map Char.toLower
    if trueWords.contains word then .valid true
    else if falseWords.contains word then .valid false
    else .problem .boolParsing
  | _ => .problem .boolType

/-- The integer that characters write as JSON does: a minus or none, and digits without a leading
zero.  The length is checked before what follows the digits. -/
def plainInteger (cs : List Char) : Decoded Int :=
  let negative := cs.head? == some '-'
  let unsigned := if negative then cs.tail else cs
  let digits := unsigned.takeWhile Char.isDigit
  if digits.isEmpty then
    .problem .intParsing
  else if digits.head? == some '0' then
    if unsigned = ['0'] then .valid 0 else .problem .intParsing
  else if maxDigits < digits.length + negative.toNat then
    .problem .intParsingSize
  else if unsigned.all Char.isDigit then
    .valid (if negative then -digitsValue digits else digitsValue digits)
  else
    .problem .intParsing

/-- The characters from the end of leading zeros on, given the last of the zeros and low lines read
so far.  They end at another digit, at a minus, or at a point, which keeps the character in front of
it; a number of zeros only keeps its last character.  A low line kept so is no digit, and the number
is refused later. -/
def afterZeros? (last : Char) : List Char → Option (List Char)
  | [] => some [last]
  | c :: rest =>
    if c = '0' || c = '_' then afterZeros? c rest
    else if c.isDigit || c = '-' then some (c :: rest)
    else if c = '.' then some (last :: c :: rest)
    else none

/-- The characters of a number without leading zeros, if they start with a digit. -/
def withoutLeadingZeros? : List Char → Option (List Char)
  | [] => none
  | c :: rest =>
    if c = '0' then afterZeros? c rest
    else if c.isDigit then some (c :: rest)
    else none

/-- The characters without a fraction of zeros at the end. -/
def withoutZeroFraction (cs : List Char) : List Char :=
  match cs.dropWhile (· != '.') with
  | '.' :: zeros =>
    if !zeros.isEmpty && zeros.all (· == '0') then cs.takeWhile (· != '.') else cs
  | _ => cs

/-- Whether low lines stand alone and inside, given whether one stands in front. -/
def isGrouped (behindLine : Bool) : List Char → Bool
  | [] => !behindLine
  | c :: rest => if c = '_' then !behindLine && isGrouped true rest else isGrouped false rest

/-- The characters without low lines, if these stand alone and inside. -/
def ungrouped (cs : List Char) : List Char :=
  if isGrouped true cs then cs.filter (· != '_') else cs

/-- The characters of an integer without what JSON does not write: leading zeros, a fraction of
zeros, low lines. -/
def cleanedDigits? (cs : List Char) : Option (List Char) :=
  (withoutLeadingZeros? cs).map fun cs => ungrouped (withoutZeroFraction cs)

/-- The characters of an integer without what JSON does not write, a plus among it. -/
def cleanedInteger? : List Char → Option (List Char)
  | '+' :: cs => cleanedDigits? cs
  | '-' :: cs => (cleanedDigits? cs).map ('-' :: ·)
  | cs => cleanedDigits? cs

/-- An integer written as a text: as JSON writes it or else, cleaned, between white space. -/
def decodeIntegerText (s : String) : Decoded Int :=
  match plainInteger s.toList with
  | .invalid [⟨[], .intParsing⟩] =>
    match cleanedInteger? (Text.stripped Text.isWhiteSpace s.toList) with
    | some cs => plainInteger cs
    | none => .problem .intParsing
  | x => x

/-- A line number, also written as a truth value or as a text.  There is no line below zero. -/
def decodeLine : Json → Decoded Nat
  | integer i => .valid i.toNat
  | bool b => .valid b.toNat
  | string s => Int.toNat <$> decodeIntegerText s
  | _ => .problem .intType

/-- A value that may be null. -/
def decodeOption (decode : Json → Decoded α) : Json → Decoded (Option α)
  | null => .valid none
  | j => some <$> decode j

/-- The items of an array, each found at its position. -/
def decodeList (decode : Json → Decoded α) : Json → Decoded (List α)
  | array items => .all (Decoded.numbered 0 (items.map decode))
  | _ => .problem .listType

/-- A value given by its name. -/
def decodeName (ofName? : String → Option α) : Json → Decoded α
  | string s =>
    match ofName? s with
    | some a => .valid a
    | none => .problem .enumeration
  | _ => .problem .enumeration

/-- A member that must be present. -/
def required (j : Json) (name : String) (decode : Json → Decoded α) : Decoded α :=
  Decoded.under name <|
    match j.get? name with
    | some v => decode v
    | none => .problem .missing

/-- A member with a default. -/
def withDefault (j : Json) (name : String) (otherwise : α) (decode : Json → Decoded α) : Decoded α :=
  match j.get? name with
  | some v => (decode v).under name
  | none => .valid otherwise

/-- A value decoded from the members of an object. -/
def decodeObject (decode : Json → Decoded α) (j : Json) : Decoded α :=
  match j with
  | object _ => decode j
  | _ => .problem .modelType

end Json

end KotlinStubs
