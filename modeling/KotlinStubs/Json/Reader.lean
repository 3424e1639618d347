import KotlinStubs.Json.Value
import KotlinStubs.Text.Quoted

/-!
# Reading JSON

A text is read character by character.  A `Reader` holds the containers that are open, the innermost
first, and what is due next; `Reader.step` takes one character.

* `Json.parse?` is a fold over the characters, so it ends on every text.
-/

namespace KotlinStubs

namespace Json

/-- A container still open, with what it holds so far in reverse order. -/
inductive Frame where
  /-- an array -/
  | items (done : List Json)
  /-- an object between two members -/
  | members (done : List (String × Json))
  /-- an object whose member of a name has no value yet -/
  | member (done : List (String × Json)) (name : String)

/-- The characters of a string read so far, in reverse order, and what the backslash has begun. -/
structure Writing where
  isName : Bool
  done : List Char := []
  /-- a first half of a surrogate pair that waits for the second -/
  half : Option Nat := none
  /-- whether some half of a surrogate pair stands alone -/
  isUnpaired : Bool := false

/-- What is due next. -/
inductive Due where
  /-- a value, or the end of an array without items -/
  | value (mayClose : Bool)
  /-- the name of a member, or the end of an object without members -/
  | name (mayClose : Bool)
  /-- the colon after a name -/
  | colon
  /-- a comma or the end of the container, or the end of the text -/
  | separator
  /-- more of a string -/
  | character (w : Writing)
  /-- what a backslash in a string stands for -/
  | escape (w : Writing)
  /-- a hexadecimal digit of a code unit, of which some are read -/
  | digit (w : Writing) (digits : Nat) (unit : Nat)
  /-- more of a number, of `null`, `true`, `false`, `NaN` or an infinity -/
  | word (done : List Char)

/-- The state between two characters. -/
structure Reader where
  frames : List Frame
  due : Due
  result : Option Json

/-! ## Words -/

/-- Whether the characters are one digit or more. -/
def isDigits (cs : List Char) : Bool := !cs.isEmpty && cs.all Char.isDigit

/-- Whether the characters are an exponent, or none. -/
def isExponent : List Char → Bool
  | [] => true
  | e :: '+' :: ds => (e == 'e' || e == 'E') && isDigits ds
  | e :: '-' :: ds => (e == 'e' || e == 'E') && isDigits ds
  | e :: ds => (e == 'e' || e == 'E') && isDigits ds

/-- Whether the characters are a fraction, an exponent or both. -/
def isFraction : List Char → Bool
  | '.' :: cs => isDigits (cs.takeWhile Char.isDigit) && isExponent (cs.dropWhile Char.isDigit)
  | cs => isExponent cs

/-- The value of a number without its sign. -/
def number? (negative : Bool) (cs : List Char) : Option Json :=
  let whole := cs.takeWhile Char.isDigit
  let rest := cs.dropWhile Char.isDigit
  if whole.isEmpty || (whole.head? == some '0' && whole.length != 1) then
    none
  else if rest.isEmpty then
    if whole.length ≤ maxDigits then
      some (.integer (if negative then -digitsValue whole else digitsValue whole))
    else
      none
  else if isFraction rest then
    some (.real (String.ofList (if negative then '-' :: cs else cs)))
  else
    none

/-- The value that a word stands for. -/
def word? (cs : List Char) : Option Json :=
  match String.ofList cs with
  | "null" => some .null
  | "true" => some (.bool true)
  | "false" => some (.bool false)
  | "NaN" => some (.real "NaN")
  | "Infinity" => some (.real "Infinity")
  | "-Infinity" => some (.real "-Infinity")
  | _ =>
    match cs with
    | '-' :: cs => number? true cs
    | cs => number? false cs

/-! ## Strings -/

namespace Writing

/-- A half of a surrogate pair that waits for the other stands alone. -/
def settle (w : Writing) : Writing :=
  if w.half.isSome then { w with half := none, isUnpaired := true } else w

/-- Adds a character. -/
def push (w : Writing) (c : Char) : Writing :=
  let w := w.settle
  { w with done := c :: w.done }

/-- Adds a code unit; two halves of a surrogate pair make one character. -/
def pushUnit (w : Writing) (unit : Nat) : Writing :=
  if 0xDC00 ≤ unit && unit ≤ 0xDFFF then
    match w.half with
    | some high =>
      { w with
        half := none
        done := Char.ofNat (0x10000 + (high - 0xD800) * 0x400 + (unit - 0xDC00)) :: w.done }
    | none => { w with isUnpaired := true }
  else if 0xD800 ≤ unit && unit ≤ 0xDBFF then
    let w := w.settle
    { w with half := some unit }
  else
    w.push (Char.ofNat unit)

/-- The text written. -/
def text (w : Writing) : String := String.ofList w.done.reverse

end Writing

/-- The character that a letter after a backslash stands for. -/
def escaped? : Char → Option Char
  | '"' => some '"'
  | '\\' => some '\\'
  | '/' => some '/'
  | 'b' => some '\x08'
  | 'f' => some '\x0c'
  | 'n' => some '\n'
  | 'r' => some '\r'
  | 't' => some '\t'
  | _ => none

/-- White space between the parts of a text. -/
def isSpace (c : Char) : Bool := c == ' ' || c == '\t' || c == '\n' || c == '\r'

namespace Reader

/-- Puts a finished value into the innermost container. -/
def finish (frames : List Frame) (v : Json) : Option Reader :=
  match frames with
  | [] => some ⟨[], .separator, some v⟩
  | .items done :: frames => some ⟨.items (v :: done) :: frames, .separator, none⟩
  | .member done name :: frames => some ⟨.members ((name, v) :: done) :: frames, .separator, none⟩
  | .members _ :: _ => none

/-- Ends a string, which is a name or a value. -/
def finishString (frames : List Frame) (w : Writing) : Option Reader :=
  let w := w.settle
  if w.isName then
    match frames with
    | .members done :: frames => some ⟨.member done w.text :: frames, .colon, none⟩
    | _ => none
  else
    finish frames (if w.isUnpaired then .unpairedString else .string w.text)

/-- Takes a character where a value is due. -/
def stepValue (frames : List Frame) (mayClose : Bool) (c : Char) : Option Reader :=
  match c with
  | '"' => some ⟨frames, .character { isName := false }, none⟩
  | '[' => some ⟨.items [] :: frames, .value true, none⟩
  | '{' => some ⟨.members [] :: frames, .name true, none⟩
  | ']' =>
    match frames with
    | .items done :: frames => if mayClose then finish frames (.array done.reverse) else none
    | _ => none
  | _ => some ⟨frames, .word [c], none⟩

/-- Takes a character after a value. -/
def stepSeparator (frames : List Frame) (result : Option Json) (c : Char) : Option Reader :=
  if isSpace c then
    some ⟨frames, .separator, result⟩
  else
    match frames, c with
    | .items done :: frames, ',' => some ⟨.items done :: frames, .value false, none⟩
    | .items done :: frames, ']' => finish frames (.array done.reverse)
    | .members done :: frames, ',' => some ⟨.members done :: frames, .name false, none⟩
    | .members done :: frames, '}' => finish frames (.object done.reverse)
    | _, _ => none

/-- Takes a character. -/
def step (r : Reader) (c : Char) : Option Reader :=
  match r.due with
  | .value mayClose => if isSpace c then some r else stepValue r.frames mayClose c
  | .name mayClose =>
    if isSpace c then
      some r
    else if c == '"' then
      some ⟨r.frames, .character { isName := true }, none⟩
    else
      match r.frames with
      | .members done :: frames =>
        if c == '}' && mayClose then finish frames (.object done.reverse) else none
      | _ => none
  | .colon =>
    if isSpace c then some r
    else if c == ':' then some ⟨r.frames, .value false, none⟩
    else none
  | .separator => stepSeparator r.frames r.result c
  | .character w =>
    if c == '"' then finishString r.frames w
    else if c == '\\' then some ⟨r.frames, .escape w, none⟩
    else if c.toNat < 32 then none
    else some ⟨r.frames, .character (w.push c), none⟩
  | .escape w =>
    if c == 'u' then some ⟨r.frames, .digit w 0 0, none⟩
    else (escaped? c).map fun e => ⟨r.frames, .character (w.push e), none⟩
  | .digit w digits unit =>
    match Text.hexValue? c with
    | none => none
    | some v =>
      if digits = 3 then some ⟨r.frames, .character (w.pushUnit (16 * unit + v)), none⟩
      else some ⟨r.frames, .digit w (digits + 1) (16 * unit + v), none⟩
  | .word done =>
    if isSpace c || c == ',' || c == ']' || c == '}' then do
      let r ← finish r.frames (← word? done.reverse)
      stepSeparator r.frames r.result c
    else
      some ⟨r.frames, .word (c :: done), none⟩

/-- The value that the whole text stands for. -/
def value? (r : Reader) : Option Json :=
  match r.due, r.frames with
  | .separator, [] => r.result
  | .word done, [] => word? done.reverse
  | _, _ => none

end Reader

/-- The value that a text writes, if it is JSON. -/
def parse? (text : String) : Option Json := do
  let r ← text.toList.foldlM Reader.step ⟨[], .value false, none⟩
  r.value?

end Json

end KotlinStubs
