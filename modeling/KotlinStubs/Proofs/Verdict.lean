import KotlinStubs.Command.Run
import KotlinStubs.Proofs.ControlCharacters
import KotlinStubs.Proofs.Isolation
import KotlinStubs.Proofs.Shape

/-!
# The verdict of the command

A run of the command over a source that exists breaks off before it prints anything, because the
settings cannot be loaded or the translation ends with a fault, or it prints the whole text of the
file and reports each rejection.  Which of these happens, the exit code and the reports do not depend
on the format or on the amount of logging that the options ask for (`SameVerdict`).

The text of a translated file never fails, so nothing can break off a run that got as far as that.
What is written is for no terminal, so control sequences are left out of it; JSON holds none.

* `Arguments.parse_use`: the arguments of a run, whatever options for the output are among them.
* `Command.translateSource_of_translate`: once a source is translated, nothing fails.
* `Command.translateSource_ends`, `Command.translateSource_sameVerdict`: the outcome for a source, and
  in either format.
* `Command.run_verdict`: what a run leaves behind.
* `Command.exists_output_incomplete`: control sequences are missing in what is written.
-/

namespace KotlinStubs

open Translation

/-! ## Arguments -/

namespace Arguments

/-- The options that choose the format and the amount of logging. -/
def outputOptions : List String := ["--json", "--debug", "--no-debug"]

/-- Arguments that ask for the translation of the source at a path, among them any options for the
output. -/
def IsUse (path : String) (texts : List String) : Prop :=
  ∃ before after, texts = before ++ path :: after ∧
    ∀ option ∈ before ++ after, option ∈ outputOptions

/-- Options for the output decide on the format and the amount of logging only; the format is JSON
if it was so or if `--json` is among them. -/
theorem parseFrom_outputOptions {options : List String}
    (h : ∀ option ∈ options, option ∈ outputOptions) (a : Arguments) (rest : List String) :
    ∃ debug, parseFrom a (options ++ rest) =
      parseFrom { a with json := a.json || options.contains "--json", debug := debug } rest := by
  induction options generalizing a with
  | nil => exact ⟨a.debug, by simp⟩
  | cons option options ih =>
    obtain ⟨first, others⟩ := List.forall_mem_cons.1 h
    obtain ⟨_, one⟩ : ∃ debug, parseFrom a (option :: (options ++ rest)) =
        parseFrom { a with json := a.json || option == "--json", debug := debug }
          (options ++ rest) := by
      simp only [outputOptions, List.mem_cons, List.not_mem_nil, or_false] at first
      rcases first with rfl | rfl | rfl
      · exact ⟨a.debug, by rw [beq_self_eq_true, Bool.or_true]; rfl⟩
      · exact ⟨true, by rw [show ("--debug" == "--json") = false from rfl, Bool.or_false]; rfl⟩
      · exact ⟨false, by rw [show ("--no-debug" == "--json") = false from rfl, Bool.or_false]; rfl⟩
    obtain ⟨debug, many⟩ := ih others _
    refine ⟨debug, (one.trans many).trans ?_⟩
    rw [Bool.or_assoc, List.contains_cons, Bool.beq_comm]

theorem parseFrom_source {text : String} (h : isOption text.toList = false) (a : Arguments)
    (rest : List String) : parseFrom a (text :: rest) = parseFrom (a.withSource text) rest := by
  have notEnd : text ≠ "--" := by
    rintro rfl
    exact absurd h (by decide)
  rw [parseFrom, if_neg notEnd, h]
  rfl

/-- What is read from the arguments of a use: the path, and whether JSON is asked for. -/
theorem parse_use {path : String} {texts : List String} (use : IsUse path texts)
    (plain : isOption path.toList = false) :
    ∃ debug, parse texts =
      .ok { json := texts.contains "--json", debug := debug, sources := [path] } := by
  obtain ⟨before, after, rfl, options⟩ := use
  have other : ("--json" == path) = false := by
    refine beq_false_of_ne ?_
    rintro rfl
    exact absurd plain (by decide)
  obtain ⟨_, first⟩ := parseFrom_outputOptions
    (fun option h => options option (List.mem_append_left _ h)) {} (path :: after)
  rw [parseFrom_source plain] at first
  obtain ⟨debug, last⟩ := parseFrom_outputOptions
    (fun option h => options option (List.mem_append_right _ h)) _ []
  rw [List.append_nil] at last
  refine ⟨debug, (first.trans last).trans ?_⟩
  rw [List.contains_append, List.contains_cons, other, Bool.false_or]
  rfl

end Arguments

/-- The name of what was rejected, or else its node type. -/
def Rejection.subject (r : Rejection) : String :=
  match r.name with
  | some name => if name.isEmpty then r.nodeType else name
  | none => r.nodeType

/-- The entry for a rejection in the source at a path. -/
def Rejection.entry (path : String) (r : Rejection) : String :=
  path ++ ":" ++ toString r.line ++ ": " ++ r.subject ++ ": " ++ r.error

namespace Command

open Arguments

variable {environment : List (String × String)} {files : Workspace} {path : String} {root : Node}
  {texts texts' : List String}

/-! ## Outcomes -/

/-- Two outcomes differ, if at all, in what is on standard output. -/
structure Outcome.SameVerdict (o o' : Outcome) : Prop where
  exitCode : o.exitCode = o'.exitCode
  errors : o.errors = o'.errors
  failure : o.failure = o'.failure

/-- An outcome that gives a file in one of the formats and an entry for each of its rejections, in
their order. -/
structure Outcome.Reports (json : Bool) (file : TranslatedFile) (o : Outcome) : Prop where
  failure : o.failure = none
  exitCode : o.exitCode = if file.rejections = [] then 0 else 1
  asJson : json = true → o.output = file.toJson.pretty ++ "\n"
  asKotlin : json = false → ∃ text, file.render = .ok text ∧ o.output = Text.plain text ++ "\n"
  errors : o.errors =
    Text.join "" (file.rejections.map fun r => Text.plain (r.entry file.path) ++ "\n")

/-- The ways in which a run over the source at a path ends: before anything is written, or with the
file that the source is translated to. -/
inductive Outcome.Ends (environment : List (String × String)) (path : String) (root : Node)
    (json : Bool) : Outcome → Prop
  | settings {e} :
      Settings.load { environment := environment } = .error e →
      Ends environment path root json
        { exitCode := 1, output := "", errors := "", failure := some (.settings e) }
  | translation {σ e} :
      Settings.load { environment := environment } = .ok σ →
      translate σ (Path.display path) root = .error e →
      Ends environment path root json
        { exitCode := 1, output := "", errors := "", failure := some (.translation e) }
  | file {σ file o} :
      Settings.load { environment := environment } = .ok σ →
      translate σ (Path.display path) root = .ok file →
      o.Reports json file →
      Ends environment path root json o

/-! ## Sources -/

/-- Once a source is translated, a run gives its text and its rejections, in either format. -/
theorem translateSource_of_translate {σ : Settings} {file : TranslatedFile}
    (loaded : Settings.load { environment := environment } = .ok σ)
    (done : translate σ (Path.display path) root = .ok file) :
    ∃ text, file.render = .ok text ∧ ∀ json, translateSource json environment path root =
      report file (line (if json then file.toJson.pretty else text)) := by
  obtain ⟨text, rendered⟩ := exists_render_of_translate done
  refine ⟨text, rendered, fun json => ?_⟩
  simp only [translateSource, loaded, done, outputText]
  cases json with
  | true => rfl
  | false => simp only [rendered]; rfl

theorem reports_report {file : TranslatedFile} {text : String} (rendered : file.render = .ok text)
    (json : Bool) :
    (report file (line (if json then file.toJson.pretty else text))).Reports json file where
  failure := rfl
  exitCode := by
    rw [report]
    simp only [List.isEmpty_iff]
  asJson := by
    rintro rfl
    exact congrArg (· ++ "\n") file.inert_toJson.plain_eq
  asKotlin := by
    rintro rfl
    exact ⟨text, rendered, rfl⟩
  errors := rfl

/-- A run over a source ends in one of the three ways. -/
theorem translateSource_ends (environment : List (String × String)) (path : String) (root : Node)
    (json : Bool) :
    (translateSource json environment path root).Ends environment path root json := by
  cases loaded : Settings.load { environment := environment } with
  | error e =>
    rw [translateSource, loaded]
    exact .settings loaded
  | ok σ =>
    cases done : translate σ (Path.display path) root with
    | error e =>
      simp only [translateSource, loaded, done]
      exact .translation loaded done
    | ok file =>
      obtain ⟨text, rendered, outcome⟩ := translateSource_of_translate loaded done
      rw [outcome json]
      exact .file loaded done (reports_report rendered json)

/-- The format decides on nothing but the text that is printed. -/
theorem translateSource_sameVerdict (environment : List (String × String)) (path : String)
    (root : Node) (json json' : Bool) :
    (translateSource json environment path root).SameVerdict
      (translateSource json' environment path root) := by
  cases loaded : Settings.load { environment := environment } with
  | error e =>
    simp only [translateSource, loaded]
    exact ⟨rfl, rfl, rfl⟩
  | ok σ =>
    cases done : translate σ (Path.display path) root with
    | error e =>
      simp only [translateSource, loaded, done]
      exact ⟨rfl, rfl, rfl⟩
    | ok file =>
      obtain ⟨text, -, outcome⟩ := translateSource_of_translate loaded done
      rw [outcome json, outcome json']
      exact ⟨rfl, rfl, rfl⟩

/-! ## Runs -/

/-- A run over a source that exists is decided by its path and by the format. -/
theorem run_use (source : files path = .source root) (plain : isOption path.toList = false)
    (usable : isUnusablePath path = false) (use : IsUse path texts) :
    run texts environment files =
      translateSource (texts.contains "--json") environment path root := by
  obtain ⟨debug, parsed⟩ := parse_use use plain
  simp only [run, parsed, execute, usable, source, Bool.false_eq_true, if_false]

/-- **Verdict.** Whatever options for the output are given, runs over a source that exists agree on
the exit code, on the reports and on the failure, if any.  Each of them writes nothing, as the settings
cannot be loaded or the translation ends with a fault, or it writes all of the file and an entry for
each rejection; the exit code is zero just if there is none. -/
theorem run_verdict (source : files path = .source root) (plain : isOption path.toList = false)
    (usable : isUnusablePath path = false) (use : IsUse path texts) (use' : IsUse path texts') :
    (run texts environment files).SameVerdict (run texts' environment files) ∧
      (run texts environment files).Ends environment path root (texts.contains "--json") := by
  rw [run_use source plain usable use, run_use source plain usable use']
  exact ⟨translateSource_sameVerdict _ _ _ _ _, translateSource_ends _ _ _ _⟩

end Command

namespace Node

/-- `function f(a = "\x1b[m") function g(...a: b)`, where `b` is no array type. -/
def styledDefault : Node :=
  branch "program" "function" [] [
    branch "function_signature" "function f(a = \"\x1b[m\")" [] [
      token "function",
      leaf "identifier" "f" [.name],
      branch "formal_parameters" "(a = \"\x1b[m\")" [.parameters] [
        token "(",
        branch "required_parameter" "a = \"\x1b[m\"" [] [
          leaf "identifier" "a" [.pattern],
          token "=",
          leaf "string" "\"\x1b[m\"" [.value]],
        token ")"]],
    restOfNoArray]

/-- The file that `styledDefault` is translated to. -/
def styledFile : TranslatedFile where
  path := "\x1b[ma.ts"
  declarations := [{
    kind := .function
    name := "f"
    line := 1
    signature := some {
      params := [{ name := "a", type := { typeName := anyName }, defaultValue := "\"\x1b[m\"" }]
      returnType := { typeName := unitName } } }]
  rejections := [{
    name := "g"
    nodeType := "function_signature"
    line := 1
    error := "rest parameter must be an array type" }]

theorem translate_styledDefault : translate {} "\x1b[ma.ts" styledDefault = .ok styledFile := by
  obtain ⟨log, scan⟩ : ∃ log, styledDefault.scanFile {} "\x1b[ma.ts" =
      ⟨log, styledFile.rejections, .ok styledFile.declarations⟩ := by
    rw [scanFile_eq, show styledDefault.namedParts = [_, restOfNoArray] from rfl, collect_cons,
      collect_singleton, scanned_restOfNoArray, rejection_restOfNoArray, scanned, isolated,
      statement_plain rfl]
    exact ⟨_, rfl⟩
  rw [translate_eq_ok, scan]
  exact ⟨rfl, rfl, rfl⟩

end Node

namespace Command

open Arguments Node

theorem run_verdict_styledDefault :
    IsUse "\x1b[ma.ts" ["\x1b[ma.ts"] ∧ IsUse "\x1b[ma.ts" ["--json", "\x1b[ma.ts", "--debug"] ∧
      (run ["--json", "\x1b[ma.ts", "--debug"] [] fun _ => .source styledDefault).SameVerdict
        (run ["\x1b[ma.ts"] [] fun _ => .source styledDefault) ∧
      (run ["--json", "\x1b[ma.ts", "--debug"] [] fun _ => .source styledDefault).Ends [] "\x1b[ma.ts"
        styledDefault true := by
  have alone : IsUse "\x1b[ma.ts" ["\x1b[ma.ts"] := ⟨[], [], rfl, by decide⟩
  have among : IsUse "\x1b[ma.ts" ["--json", "\x1b[ma.ts", "--debug"] :=
    ⟨["--json"], ["--debug"], rfl, by decide⟩
  exact ⟨alone, among, run_verdict rfl (by decide) (by decide) among alone⟩

/-- What is printed is not the text of the file, and what is reported not the entry for the rejection:
control sequences are missing in both. -/
theorem exists_output_incomplete : ∃ σ file text,
    Settings.load { environment := [] } = .ok σ ∧
      translate σ (Path.display "\x1b[ma.ts") styledDefault = .ok file ∧ file.render = .ok text ∧
      (run ["\x1b[ma.ts"] [] fun _ => .source styledDefault).output ≠ text ++ "\n" ∧
      (run ["\x1b[ma.ts"] [] fun _ => .source styledDefault).errors ≠
        Text.join "" (file.rejections.map fun r => r.entry file.path ++ "\n") := by
  have loaded : Settings.load { environment := [] } = .ok {} := rfl
  have done : translate {} (Path.display "\x1b[ma.ts") styledDefault = .ok styledFile :=
    translate_styledDefault
  have outcome : run ["\x1b[ma.ts"] [] (fun _ => .source styledDefault) =
      translateSource false [] "\x1b[ma.ts" styledDefault :=
    run_use rfl (by decide) (by decide) ⟨[], [], rfl, by decide⟩
  have rendered : styledFile.render =
      .ok "fun f(a: Any = \"\x1b[m\"): Unit = definedExternally" := rfl
  obtain ⟨text, rendered', reported⟩ := translateSource_of_translate loaded done
  cases rendered.symm.trans rendered'
  have output : Text.plain "fun f(a: Any = \"\x1b[m\"): Unit = definedExternally" =
      "fun f(a: Any = \"" ++ "\"): Unit = definedExternally" :=
    Text.plain_of_sequence rfl rfl (by decide) (by decide)
  have errors : Text.plain "\x1b[ma.ts:1: g: rest parameter must be an array type" =
      "" ++ "a.ts:1: g: rest parameter must be an array type" :=
    Text.plain_of_sequence rfl rfl (by decide) (by decide)
  rw [outcome, reported false]
  refine ⟨{}, styledFile, _, loaded, done, rendered, ?_, ?_⟩
  · show Text.plain "fun f(a: Any = \"\x1b[m\"): Unit = definedExternally" ++ "\n" ≠ _
    rw [output]
    decide
  · show Text.plain "\x1b[ma.ts:1: g: rest parameter must be an array type" ++ "\n" ≠ _
    rw [errors]
    decide

end Command

end KotlinStubs
