import KotlinStubs.Text.Basic

/-!
# Environment files

An environment file binds names to values, one binding a line: `NAME=value`, with an optional
`export` in front and the value bare or between quotes.  Blank lines, comments from `#` on and lines
that do not parse are passed over.  A value may refer to others as `${NAME}` or `${NAME:-default}`.

* `EnvFile.read`: the bindings of a file, the last one of a name in the place of the first.
* `reference?_length`: a reference takes at least its closing brace, so substitution ends.
-/

namespace KotlinStubs.EnvFile

open Text

/-- A name and its value; a name without equals sign has none. -/
structure Binding where
  name : String
  value : Option String
  deriving DecidableEq

/-- The characters without a byte order mark in front. -/
def dropMark : List Char → List Char
  | '\ufeff' :: rest => rest
  | cs => cs

/-- Every line ends in a line feed. -/
def normalizeLines : List Char → List Char
  | '\r' :: '\n' :: rest => '\n' :: normalizeLines rest
  | '\r' :: rest => '\n' :: normalizeLines rest
  | c :: rest => c :: normalizeLines rest
  | [] => []

/-! ## Parts of a line -/

/-- A blank inside a line. -/
def isInnerBlank (c : Char) : Bool := isBlank c && c != '\n'

/-- The characters after the line. -/
def dropLine (cs : List Char) : List Char := (cs.dropWhile (· != '\n')).tail

/-- The characters after the word `export` and the blanks behind it. -/
def dropExport (cs : List Char) : List Char :=
  match cs with
  | 'e' :: 'x' :: 'p' :: 'o' :: 'r' :: 't' :: c :: rest =>
    if isInnerBlank c then rest.dropWhile isInnerBlank else cs
  | _ => cs

/-- Whether a character can stand in a name without quotes. -/
def isNameChar (c : Char) : Bool := c != '=' && c != '#' && !isBlank c

/-- The name at the start of a line, none in front of a comment, and what follows it. -/
def name? (cs : List Char) : Option (Option String × List Char) :=
  match cs with
  | '#' :: _ => some (none, cs)
  | '\'' :: rest =>
    let name := rest.takeWhile (· != '\'')
    match name, rest.dropWhile (· != '\'') with
    | _ :: _, _ :: later => some (some (String.ofList name), later)
    | _, _ => none
  | _ =>
    let name := cs.takeWhile isNameChar
    if name.isEmpty then none else some (some (String.ofList name), cs.dropWhile isNameChar)

/-- The characters up to the quote that closes a value, and those after it.  A backslash takes the
character behind it along. -/
def closeQuote (quote : Char) : List Char → Option (List Char × List Char)
  | [] => none
  | ['\\'] => none
  | '\\' :: c :: rest =>
    (closeQuote quote rest).map fun (v, later) => ('\\' :: c :: v, later)
  | c :: rest =>
    if c = quote then some ([], rest)
    else (closeQuote quote rest).map fun (v, later) => (c :: v, later)

/-- The characters with the escapes that stand for one character replaced by it. -/
def unescape (meaning : Char → Option Char) : List Char → List Char
  | '\\' :: c :: rest =>
    match meaning c with
    | some d => d :: unescape meaning rest
    | none => '\\' :: unescape meaning (c :: rest)
  | c :: rest => c :: unescape meaning rest
  | [] => []

/-- What a character after a backslash stands for in single quotes. -/
def singleEscape : Char → Option Char
  | '\\' => some '\\'
  | '\'' => some '\''
  | _ => none

/-- What a character after a backslash stands for in double quotes. -/
def doubleEscape : Char → Option Char
  | '\\' => some '\\'
  | '\'' => some '\''
  | '"' => some '"'
  | 'a' => some '\x07'
  | 'b' => some '\x08'
  | 'f' => some '\x0c'
  | 'n' => some '\n'
  | 'r' => some '\r'
  | 't' => some '\t'
  | 'v' => some '\x0b'
  | _ => none

/-- The characters before a comment, which starts at a `#` behind a blank. -/
def cutComment (behindBlank : Bool) : List Char → List Char
  | [] => []
  | c :: rest => if c = '#' && behindBlank then [] else c :: cutComment (isBlank c) rest

/-- A value without quotes, the rest of a line. -/
def bareValue (behindBlank : Bool) (line : List Char) : List Char :=
  ((cutComment behindBlank line).reverse.dropWhile isBlank).reverse

/-- The value at the start of some characters, which may come behind a blank, and what follows it. -/
def value? (behindBlank : Bool) (cs : List Char) : Option (String × List Char) :=
  match cs with
  | '\'' :: rest =>
    (closeQuote '\'' rest).map fun (v, later) => (String.ofList (unescape singleEscape v), later)
  | '"' :: rest =>
    (closeQuote '"' rest).map fun (v, later) => (String.ofList (unescape doubleEscape v), later)
  | _ =>
    some (String.ofList (bareValue behindBlank (cs.takeWhile (· != '\n'))),
      cs.dropWhile (· != '\n'))

/-- The value after an equals sign and blanks, none without the sign, and what follows. -/
def assigned? (cs : List Char) : Option (Option String × List Char) :=
  match cs with
  | '=' :: rest =>
    let behindBlank := rest.head?.any isInnerBlank
    (value? behindBlank (rest.dropWhile isInnerBlank)).map fun (v, later) => (some v, later)
  | _ => some (none, cs)

/-- The characters after the line, if nothing but a comment is left on it. -/
def endLine? (cs : List Char) : Option (List Char) :=
  match cs.dropWhile isInnerBlank with
  | [] => some []
  | '\n' :: rest => some rest
  | '#' :: rest => some (dropLine rest)
  | _ => none

/-- The binding at the start of a line, if it parses, and the characters after it. -/
def binding (cs : List Char) : Option Binding × List Char :=
  let cs := dropExport cs
  match name? cs with
  | none => (none, dropLine cs)
  | some (name, later) =>
    match assigned? (later.dropWhile isInnerBlank) with
    | none => (none, dropLine later)
    | some (value, later) =>
      match endLine? later with
      | none => (none, dropLine later)
      | some rest => (name.map fun n => ⟨n, value⟩, rest)

/-- At most a number of bindings. -/
def bindings : Nat → List Char → List Binding
  | 0, _ => []
  | limit + 1, cs =>
    match cs.dropWhile isBlank with
    | [] => []
    | c :: rest =>
      let (b, later) := binding (c :: rest)
      b.toList ++ bindings limit later

/-! ## References -/

/-- A reference to a name, with the value that stands for it if it has none. -/
structure Reference where
  name : String
  otherwise : String

/-- The reference whose opening brace has been read, and the characters after it. -/
def reference? (cs : List Char) : Option (Reference × List Char) :=
  let name := String.ofList (cs.takeWhile fun c => c != '}' && c != ':')
  match cs.dropWhile fun c => c != '}' && c != ':' with
  | '}' :: rest => some (⟨name, ""⟩, rest)
  | ':' :: '-' :: rest =>
    match rest.dropWhile (· != '}') with
    | _ :: later => some (⟨name, String.ofList (rest.takeWhile (· != '}'))⟩, later)
    | [] => none
  | _ => none

/-- A reference takes some characters, so reading a value ends. -/
theorem reference?_length {cs later : List Char} {r : Reference}
    (h : reference? cs = some (r, later)) : later.length < cs.length := by
  have hdrop (p : Char → Bool) (l : List Char) : (l.dropWhile p).length ≤ l.length :=
    (List.dropWhile_sublist p).length_le
  have hcs := hdrop (fun c => c != '}' && c != ':') cs
  unfold reference? at h
  simp only at h
  split at h
  · next rest heq =>
    cases h
    rw [heq] at hcs
    exact hcs
  · next rest heq =>
    have hrest := hdrop (· != '}') rest
    split at h
    · next c later' heq' =>
      cases h
      rw [heq] at hcs
      rw [heq'] at hrest
      simp only [List.length_cons] at hcs hrest
      omega
    · cases h
  · cases h

/-- The characters with every reference replaced. -/
def substitute (value? : String → Option String) (cs : List Char) : List Char :=
  match cs with
  | '$' :: '{' :: rest =>
    match _h : reference? rest with
    | some (r, later) => ((value? r.name).getD r.otherwise).toList ++ substitute value? later
    | none => '$' :: substitute value? ('{' :: rest)
  | c :: rest => c :: substitute value? rest
  | [] => []
termination_by cs.length
decreasing_by
  · have := reference?_length _h
    simp only [List.length_cons]
    omega
  · simp
  · simp

/-! ## Files -/

/-- The bindings with one more: in the place of an earlier one of its name, or at the end. -/
def insert (b : Binding) : List Binding → List Binding
  | [] => [b]
  | a :: rest => if a.name = b.name then b :: rest else a :: insert b rest

/-- The value that a name has in a reference: that of the file, or else of the environment. -/
def lookup (environment : List (String × String)) (known : List Binding) (name : String) :
    Option String :=
  match known.find? (·.name == name) with
  | some b => some (b.value.getD "")
  | none => environment.lookup name

/-- The bindings of a file in which references are replaced. -/
def read (environment : List (String × String)) (text : String) : List Binding :=
  let cs := normalizeLines (dropMark text.toList)
  (bindings cs.length cs).foldl (fun known b =>
    let value := b.value.map fun v =>
      String.ofList (substitute (lookup environment known) v.toList)
    insert ⟨b.name, value⟩ known) []

end KotlinStubs.EnvFile
