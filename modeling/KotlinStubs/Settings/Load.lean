import KotlinStubs.Json.Decode
import KotlinStubs.Json.Reader
import KotlinStubs.Settings.Basic
import KotlinStubs.Settings.EnvFile
import KotlinStubs.Text.Basic
import KotlinStubs.Text.Lowercase

/-!
# Loading settings

A setting is taken from the first source that gives it: the arguments, the environment, an
environment file, the default.  An argument goes by the name of a setting, a variable by that name
behind a lead, both in any case.  Sets are written as JSON in variables; a set that is not JSON ends
the loading, even if an earlier source gives the setting.

* `Settings.load`: the settings of some sources.
-/

namespace KotlinStubs

/-- The settings. -/
inductive Setting where
  | reservedWords
  | escapeMarkers
  | quote
  | grammar
  deriving DecidableEq

namespace Setting

/-- All settings, in the order of their checks. -/
def all : List Setting := [reservedWords, escapeMarkers, quote, grammar]

/-- The written name of a setting. -/
def name : Setting → String
  | reservedWords => "reserved_words"
  | escapeMarkers => "escape_markers"
  | quote => "quote"
  | grammar => "grammar"

/-- Whether a setting is a set of texts. -/
def isSet : Setting → Bool
  | reservedWords | escapeMarkers => true
  | quote | grammar => false

/-- Whether a text is the name of a setting. -/
def isName (s : String) : Bool := all.any (·.name == s)

/-- Whether a text names a setting in any case. -/
def isNameInAnyCase (s : String) : Bool := isName (Text.lower s)

end Setting

/-- The sources that hold text. -/
inductive Source where
  | environment
  | envFile
  deriving DecidableEq

/-- The written name of a source. -/
def Source.name : Source → String
  | environment => "EnvSettingsSource"
  | envFile => "DotEnvSettingsSource"

/-- Why settings cannot be loaded. -/
inductive SettingsFault where
  /-- A set is not written as JSON. -/
  | unreadable (setting : Setting) (source : Source)
  /-- Some values are not those of settings. -/
  | invalid (defects : List Defect)

/-- The wording of a fault; defects are listed by their places. -/
def SettingsFault.message : SettingsFault → String
  | unreadable setting source =>
    "error parsing value for field \"" ++ setting.name ++ "\" from source \"" ++ source.name ++ "\""
  | invalid defects =>
    Text.join "; " (defects.map fun d => Text.join "." d.location ++ ": " ++ d.problem.name)

/-- What settings are loaded from.  The lead stands in front of a setting's name in the environment
and in the file. -/
structure Sources where
  arguments : List (String × Json) := []
  environment : List (String × String) := []
  lead : String := "TSKT_"
  envFile : Option String := none

namespace Sources

/-- The arguments that are no settings but tell where settings come from. -/
def originNames : List String := ["env_prefix", "env_file", "toml_file", "json_file"]

/-- The sources that arguments ask for.  A lead may be among the arguments; a file that they name is
not read. -/
def ofArguments (arguments : List (String × Json)) : Sources :=
  let sources : Sources := { arguments := arguments.filter fun a => !originNames.contains a.1 }
  match (arguments.lookup "env_prefix").bind Json.asString? with
  | some lead => { sources with lead := lead }
  | none => sources

/-- The values that arguments give to settings, the first of a name in any case being the one that
counts. -/
def argumentValues (s : Sources) : List (String × Json) :=
  (s.arguments.filter fun a => Setting.isNameInAnyCase a.1).map fun a => (Text.lower a.1, a.2)

/-- The name of a setting in the environment, in lower case. -/
def variableName (s : Sources) (setting : Setting) : String := Text.lower (s.lead ++ setting.name)

/-- The variables of the environment, with their names in lower case. -/
def environmentVariables (s : Sources) : List EnvFile.Binding :=
  s.environment.foldl (fun known v => EnvFile.insert ⟨Text.lower v.1, some v.2⟩ known) []

/-- The variables of the environment file, with their names in lower case. -/
def fileVariables (s : Sources) : List EnvFile.Binding :=
  (EnvFile.read s.environment (s.envFile.getD "")).foldl
    (fun known b => EnvFile.insert { b with name := Text.lower b.name } known) []

/-- The value that some variables give a setting, if any.  A set written as null is not given. -/
def given (s : Sources) (source : Source) (bindings : List EnvFile.Binding) (setting : Setting) :
    Except SettingsFault (Option Json) :=
  match (bindings.find? (·.name == s.variableName setting)).bind (·.value) with
  | none => .ok none
  | some text =>
    if setting.isSet then
      match Json.parse? text with
      | none => .error (.unreadable setting source)
      | some .null => .ok none
      | some j => .ok (some j)
    else
      .ok (some (.string text))

/-- The values that some variables give to the settings. -/
def givenAll (s : Sources) (source : Source) (bindings : List EnvFile.Binding) :
    Except SettingsFault (List (String × Json)) := do
  let values ← Setting.all.mapM fun setting => do
    return (← s.given source bindings setting).map fun j => (setting.name, j)
  pure (values.filterMap id)

/-- Whether a variable of the environment file belongs to no setting.  One without value is passed
over, and so is one that goes by the bare name of a setting. -/
def isForeign (s : Sources) (b : EnvFile.Binding) : Bool :=
  !(b.value.getD "").isEmpty && !(!s.lead.isEmpty && Setting.isName b.name) &&
    !Setting.all.any fun setting => b.name == s.variableName setting

/-- The names that belong to no setting: those of the environment file, then those of arguments. -/
def foreignNames (s : Sources) : List String :=
  ((s.fileVariables.filter s.isForeign).map (·.name) ++
    (s.arguments.map (·.1)).filter fun name => !Setting.isNameInAnyCase name).eraseDups

end Sources

/-- Texts in increasing order without repetition. -/
def sortedTexts (texts : List String) : List String :=
  texts.eraseDups.mergeSort fun a b => decide (a ≤ b)

/-- A text from JSON.  A string with half of a surrogate pair is none, as it occurs in no name. -/
def decodeText? : Json → Decoded (Option String)
  | .unpairedString => .valid none
  | j => some <$> j.decodeString

/-- A set of texts from JSON. -/
def decodeTexts : Json → Decoded (List String)
  | .array items =>
    (fun texts => sortedTexts texts.reduceOption) <$>
      Decoded.all (Decoded.numbered 0 (items.map decodeText?))
  | _ => .problem .setType

/-- Settings from the values given, the first of a name being the one that counts. -/
def Settings.decode (values : List (String × Json)) : Decoded Settings :=
  let defaults : Settings := {}
  let field {α : Type} (setting : Setting) (otherwise : α) (decode : Json → Decoded α) :
      Decoded α :=
    match values.lookup setting.name with
    | some j => (decode j).under setting.name
    | none => .valid otherwise
  Settings.mk <$> field .reservedWords defaults.reservedWords decodeTexts
    <*> field .escapeMarkers defaults.escapeMarkers decodeTexts
    <*> field .quote defaults.quote Json.decodeString
    <*> field .grammar defaults.grammar (Json.decodeName Grammar.ofName?)

/-- The defects that names without setting are. -/
def foreignDefects (names : List String) : Decoded Unit :=
  match names with
  | [] => .valid ()
  | _ => .invalid (names.map fun name => ⟨[name], .extraForbidden⟩)

/-- The settings of some sources, or why they cannot be loaded. -/
def Settings.load (s : Sources) : Except SettingsFault Settings := do
  let fromEnvironment ← s.givenAll .environment s.environmentVariables
  let fromFile ← s.givenAll .envFile s.fileVariables
  let values := s.argumentValues ++ fromEnvironment ++ fromFile
  match Settings.decode values <* foreignDefects s.foreignNames with
  | .valid settings => pure settings
  | .invalid defects => .error (.invalid defects)

/-- Settings as JSON. -/
def Settings.toJson (σ : Settings) : Json :=
  .object [("reserved_words", .ofStrings σ.reservedWords),
    ("escape_markers", .ofStrings σ.escapeMarkers), ("quote", .string σ.quote),
    ("grammar", .string σ.grammar.name)]

end KotlinStubs
