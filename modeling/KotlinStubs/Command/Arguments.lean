import KotlinStubs.Text.Basic
import KotlinStubs.Text.Quoted
import KotlinStubs.Text.Similarity

/-!
# Arguments of the command

Options may stand anywhere before `--` and may be repeated; what is no option is a source.  A fault
of an option is found while the arguments are read, so it comes before anything else.  For a long
name without option the most similar ones are suggested.

* `Arguments.parse`: the options and sources of some arguments.
-/

namespace KotlinStubs

/-- What is wrong with the use of the command. -/
inductive UsageFault where
  | noSuchOption (name : String) (suggestions : List String)
  | takesNoValue (name : String)
  | missingSource
  | sourceNotFound (path : String)
  | sourceIsDirectory (path : String)
  | unexpectedArguments (arguments : List String)
  deriving DecidableEq

/-- The question for the options that may have been meant, in their order as texts. -/
def suggestionText : List String → String
  | [] => ""
  | [name] => " Did you mean " ++ Text.display name ++ "?"
  | names =>
    let sorted := names.mergeSort fun a b => decide (a ≤ b)
    " (Did you mean one of: " ++ Text.join ", " (sorted.map Text.display) ++ "?)"

/-- The wording of a usage fault. -/
def UsageFault.message : UsageFault → String
  | noSuchOption name suggestions =>
    "No such option " ++ Text.display name ++ "." ++ suggestionText suggestions
  | takesNoValue name => "Option " ++ Text.display name ++ " does not take a value."
  | missingSource => "Missing argument 'SOURCE'."
  | sourceNotFound path =>
    "Invalid value for 'SOURCE': File " ++ Text.display path ++ " does not exist."
  | sourceIsDirectory path =>
    "Invalid value for 'SOURCE': File " ++ Text.display path ++ " is a directory."
  | unexpectedArguments [argument] => "Got unexpected extra argument (" ++ argument ++ ")"
  | unexpectedArguments arguments =>
    "Got unexpected extra arguments (" ++ Text.join " " arguments ++ ")"

/-- The arguments of the command, read. -/
structure Arguments where
  json : Bool := false
  debug : Bool := false
  help : Bool := false
  sources : List String := []
  deriving DecidableEq

namespace Arguments

/-- The long names of all options. -/
def longNames : List String := ["--json", "--debug", "--no-debug", "--help"]

/-- The number of options suggested for one that does not exist. -/
def suggestionLimit : Nat := 3

/-- The fault of a long name without option. -/
def noSuchLongName (name : String) : UsageFault :=
  .noSuchOption name (Text.similarTexts suggestionLimit name longNames)

/-- The arguments with one more option, given by its long name. -/
def withLong (a : Arguments) (name : List Char) : Option Arguments :=
  match String.ofList name with
  | "--json" => some { a with json := true }
  | "--debug" => some { a with debug := true }
  | "--no-debug" => some { a with debug := false }
  | "--help" => some { a with help := true }
  | _ => none

/-- The arguments with options given by letters after one hyphen. -/
def withShort (a : Arguments) : List Char → Except UsageFault Arguments
  | [] => .ok a
  | 'h' :: letters => withShort { a with help := true } letters
  | letter :: _ => .error (.noSuchOption (String.ofList ['-', letter]) [])

/-- The arguments with one more option: a long name with an optional value, or else letters. -/
def withOption (a : Arguments) (text : List Char) : Except UsageFault Arguments :=
  let name := text.takeWhile (· != '=')
  match a.withLong name with
  | some a => if text.contains '=' then .error (.takesNoValue (String.ofList name)) else .ok a
  | none =>
    match text with
    | '-' :: '-' :: _ => .error (noSuchLongName (String.ofList name))
    | _ => a.withShort text.tail

/-- The arguments with one more source. -/
def withSource (a : Arguments) (source : String) : Arguments :=
  { a with sources := a.sources ++ [source] }

/-- Whether an argument is an option: it starts with a hyphen and is not just that. -/
def isOption : List Char → Bool
  | '-' :: _ :: _ => true
  | _ => false

/-- The arguments with more of them read. -/
def parseFrom (a : Arguments) : List String → Except UsageFault Arguments
  | [] => .ok a
  | text :: rest =>
    if text = "--" then
      .ok (rest.foldl withSource a)
    else if isOption text.toList then do
      parseFrom (← a.withOption text.toList) rest
    else
      parseFrom (a.withSource text) rest

/-- The arguments, read. -/
def parse (texts : List String) : Except UsageFault Arguments := parseFrom {} texts

end Arguments

end KotlinStubs
