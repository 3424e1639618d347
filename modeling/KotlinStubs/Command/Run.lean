import KotlinStubs.Command.Arguments
import KotlinStubs.Command.Workspace
import KotlinStubs.Json.Printer
import KotlinStubs.Kotlin.Encode
import KotlinStubs.Kotlin.Printer
import KotlinStubs.Scan
import KotlinStubs.Settings.Load
import KotlinStubs.Text.ControlSequence

/-!
# Run of the command

The command translates one source and prints the declarations as Kotlin or as JSON.  Each rejection
is reported on a line of its own, and the exit code tells whether there was one.

* `Command.run`: the outcome for some arguments, an environment and a workspace.
-/

namespace KotlinStubs.Command

/-- Why a run of the command broke off. -/
inductive Failure where
  | settings (e : SettingsFault)
  | translation (e : Fault)
  | rendering (e : RenderFault)
  | unusablePath

/-- The wording of a failure. -/
def Failure.message : Failure → String
  | settings e => e.message
  | translation e => e.message
  | rendering e => e.message
  | unusablePath => "embedded null byte"

/-- What a run of the command leaves behind. -/
structure Outcome where
  exitCode : Nat
  output : String := ""
  errors : String := ""
  failure : Option Failure := none

/-- A text as it is written for a reader without terminal, its last line ended. -/
def line (s : String) : String := Text.plain s ++ "\n"

/-- The first line of every usage text. -/
def usageLine : String := "Usage: tskt [OPTIONS] SOURCE"

/-- The text that explains the command. -/
def helpText : String :=
  Text.joinLines
    [usageLine,
      "",
      "  Translate the declarations of a TypeScript file into Kotlin signatures.",
      "",
      "Options:",
      "  --json                Print the translated declarations as JSON instead of",
      "                        Kotlin.",
      "  --debug / --no-debug  Enable debug logging of skipped and unresolved nodes.",
      "  -h, --help            Show this message and exit."]

/-- The report of a usage fault.  A value that an option does not take is reported without the
usage. -/
def usageReport (e : UsageFault) : String :=
  match e with
  | .takesNoValue _ => line ("Error: " ++ e.message)
  | _ =>
    Text.join "" [line usageLine, line "Try 'tskt --help' for help.", line "",
      line ("Error: " ++ e.message)]

/-- The outcome of a usage fault. -/
def misused (e : UsageFault) : Outcome := { exitCode := 2, errors := usageReport e }

/-- The outcome of a run that broke off. -/
def broken (e : Failure) : Outcome := { exitCode := 1, failure := some e }

/-- The report of a rejection in a file, under the name of what was rejected or else its node
type. -/
def rejectionReport (path : String) (r : Rejection) : String :=
  let subject := match r.name with
    | some name => if name.isEmpty then r.nodeType else name
    | none => r.nodeType
  line (path ++ ":" ++ toString r.line ++ ": " ++ subject ++ ": " ++ r.error)

/-- The output for a file, as JSON or as Kotlin. -/
def outputText (json : Bool) (file : TranslatedFile) : Except RenderFault String :=
  if json then .ok (line file.toJson.pretty) else line <$> file.render

/-- The outcome for a file with its output. -/
def report (file : TranslatedFile) (output : String) : Outcome where
  exitCode := if file.rejections.isEmpty then 0 else 1
  output := output
  errors := Text.join "" (file.rejections.map (rejectionReport file.path))

/-- The outcome for a source. -/
def translateSource (json : Bool) (environment : List (String × String)) (path : String)
    (root : Node) : Outcome :=
  match Settings.load { environment := environment } with
  | .error e => broken (.settings e)
  | .ok σ =>
    match translate σ (Path.display path) root with
    | .error e => broken (.translation e)
    | .ok file =>
      match outputText json file with
      | .error e => broken (.rendering e)
      | .ok output => report file output

/-- Whether no file can have a path. -/
def isUnusablePath (path : String) : Bool := path.toList.contains '\x00'

/-- The outcome for arguments that were read.  Help goes before the checks of the source, and these
before the check that there is only one. -/
def execute (arguments : Arguments) (environment : List (String × String)) (files : Workspace) :
    Outcome :=
  if arguments.help then
    { exitCode := 0, output := line helpText }
  else
    match arguments.sources with
    | [] => misused .missingSource
    | path :: others =>
      if isUnusablePath path then
        broken .unusablePath
      else
        match files path, others with
        | .missing, _ => misused (.sourceNotFound path)
        | .directory, _ => misused (.sourceIsDirectory path)
        | .source root, [] => translateSource arguments.json environment path root
        | .source _, _ => misused (.unexpectedArguments others)

/-- The outcome of a run of the command. -/
def run (texts : List String) (environment : List (String × String)) (files : Workspace) :
    Outcome :=
  match Arguments.parse texts with
  | .error e => misused e
  | .ok arguments => execute arguments environment files

end KotlinStubs.Command
