import KotlinStubs.Command.Run
import KotlinStubs.Json.Reader
import KotlinStubs.Syntax.Rows

/-!
# The command

The source is read from its file, its syntax tree as a JSON array of rows from standard input.
-/

namespace KotlinStubs.Command

/-- The variables of the environment that can hold settings, by their names in capitals. -/
def settingVariables : IO (List (String × String)) := do
  let lead := ({} : Sources).lead
  let found ← Setting.all.mapM fun setting => do
    let name := lead ++ setting.name.map Char.toUpper
    return (← IO.getEnv name).map fun value => (name, value)
  pure (found.filterMap id)

/-- The tree that rows written as JSON give a source. -/
def readTree? (bytes : ByteArray) (text : String) : Option Node := do
  let rows ← (← Json.parse? text).asArray?
  Node.ofRows? bytes (rows.filterMap Row.ofJson?)

/-- The number of the system error for reading a directory. -/
def directoryError : UInt32 := 21

/-- What a path leads to. -/
def readEntry (path : String) : IO Entry := do
  try
    let bytes ← IO.FS.readBinFile path
    let text ← (← IO.getStdin).readToEnd
    pure (((readTree? bytes text).map .source).getD .missing)
  catch
    | .inappropriateType _ code _ => pure (if code = directoryError then .directory else .missing)
    | _ => pure .missing

/-- What the sources of the command lead to. -/
def readWorkspace (texts : List String) : IO Workspace :=
  match Arguments.parse texts with
  | .ok { help := false, sources := path :: _, .. } => do
    let entry ← readEntry path
    pure fun _ => entry
  | _ => pure fun _ => .missing

/-- Runs the command on the files and the environment of the system. -/
def perform (texts : List String) : IO UInt32 := do
  let outcome := run texts (← settingVariables) (← readWorkspace texts)
  (← IO.getStdout).putStr outcome.output
  (← IO.getStderr).putStr outcome.errors
  if let some e := outcome.failure then
    (← IO.getStderr).putStrLn e.message
  pure outcome.exitCode.toUInt32

end KotlinStubs.Command

/-- Runs the command. -/
def main (texts : List String) : IO UInt32 := KotlinStubs.Command.perform texts
