import CorpusJudge.Harness.Parallel
import CorpusJudge.Settings.File
import CorpusJudge.Summary

/-!
# The application

What comes of a command line: an exit code, a text on standard output, and trouble, if there was
any.  Solutions that fail are no trouble.
-/

namespace CorpusJudge

/-- What keeps a run from being completed. -/
inductive ToolError where
  | noJobs
  | settings (path : Path) (error : Settings.LoadError)
  | invalid (fault : Settings.Fault)
  | scan (error : CorpusError)
  | verify (error : HarnessError)
  | summary (error : ReplaceError)
  deriving DecidableEq, Repr

namespace ToolError

/-- The wording of an error and of its cause, if it has one. -/
def withCause (message : String) : Option String → String
  | some cause => message ++ ": " ++ cause
  | none => message

/-- The cause of an error about settings. -/
def settingsCause? : Settings.LoadError → Option String
  | .unreadable _ error => some error.message
  | .unusable _ => none

/-- The cause of an error about the corpus. -/
def corpusCause? : CorpusError → Option String
  | .missing _ => none
  | .unreadable _ error => some error.message

/-- The cause of an error of the harness. -/
def harnessCause? : HarnessError → Option String
  | .execution error => error.cause?
  | .output reason => some reason

/-- The wording of the error, from what failed down to its cause. -/
def message : ToolError → String
  | .noJobs => "--jobs must be >= 1"
  | .settings path error =>
    withCause s!"load {path.text}: {error.message}" (settingsCause? error)
  | .invalid fault => s!"validate config: invalid config: {fault.message}"
  | .scan error => withCause s!"scan corpus: {error.message}" (corpusCause? error)
  | .verify error => withCause s!"verify corpus: {error.message}" (harnessCause? error)
  | .summary error => error.message

end ToolError

/-- What keeps a command line from being carried out. -/
inductive Trouble where
  | usage (error : CommandLine.UsageError)
  | tool (error : ToolError)
  deriving DecidableEq, Repr

/-- The wording of the trouble. -/
def Trouble.message : Trouble → String
  | .usage error => s!"error: {error.message}"
  | .tool error => s!"tool error: {error.message}"

/-- What comes of a command line. -/
structure Conclusion where
  exitCode : Nat
  output : String
  trouble : Option Trouble
  deriving DecidableEq, Repr

namespace Conclusion

/-- All went well. -/
def done (output : String) : Conclusion := ⟨0, output, none⟩

/-- Something failed after some output. -/
def failed (output : String) (error : ToolError) : Conclusion := ⟨2, output, some (.tool error)⟩

end Conclusion

/-- What a run is embedded in: whether its output goes to a terminal, what time it was when the
machine's clock started, and where metadata can be asked for. -/
structure Surroundings where
  isTerminal : Bool
  epoch : Instant
  service : String → Source

namespace Application

/-- Whether the report is colored, which the environment may force or forbid.  Otherwise only a
terminal shows colors. -/
def wantsColor (isTerminal : Bool) (environment : List (String × Octets)) : Bool :=
  let isOn (name : String) : Option Bool := (environment.lookup name).map (· ≠ ['0'])
  if isOn "CLICOLOR_FORCE" = some true then true
  else if (isOn "NO_COLOR").isSome then false
  else isTerminal && (isOn "CLICOLOR").getD true

/-- How help is emphasized, which the environment may forbid or force by a variable that is not
empty.  Otherwise only a terminal shows emphasis. -/
def helpEmphasis (isTerminal : Bool) (environment : List (String × Octets)) :
    CommandLine.Emphasis :=
  let isGiven (name : String) : Bool := (environment.lookup name).any (!·.isEmpty)
  if isGiven "NO_COLOR" then .none
  else if isGiven "CLICOLOR_FORCE" then .terminal
  else if isTerminal && environment.lookup "CLICOLOR" ≠ some ['0'] then .terminal
  else .none

/-- The settings for a run: those of the file that it names or else the built-in ones, except for
what it sets itself. -/
def settingsFor (invocation : Invocation) (files : FileTree) : Except ToolError Settings := do
  let settings ← match invocation.config with
    | none => pure Settings.standard
    | some path => (Settings.load files path).mapError (.settings path)
  let settings := { settings with
    corpusDir := invocation.corpus.getD settings.corpusDir
    timeoutMs := invocation.timeoutMs.getD settings.timeoutMs }
  settings.validate.mapError .invalid

/-- Where the corpus can be downloaded. -/
def corpusUrl : String :=
  "https://drive.google.com/file/d/1kvFxYh2fo3bHfVj1OKKLX8YzuxswHvYg/view?usp=sharing"

/-- What to do when there is no corpus. -/
def downloadAdvice (root : Path) : String :=
  s!"Download {corpusUrl} and extract it to a directory named '{root.text}' in this folder.\n"

/-- The names of problems, each on a line. -/
def listing (problems : List Problem) : String :=
  String.join (problems.map fun problem => problem.name ++ "\n")

/-- What is kept of the outcomes: the failures, the report, and the text of the report. -/
structure Record where
  failures : List Failure
  reporter : Reporter
  text : String

section

variable [Kernel]

/-- The digest of a solution's file, unless it cannot be read any more. -/
def digest? (solution : Path) : Work (Option String) := do
  match ← Work.read solution with
  | .ok content => return some (Sha256.hexDigest content)
  | .error error =>
    Work.note (.digestMissing solution error)
    return none

/-- The failure that an outcome is, unless it is a pass. -/
def failure? (outcome : Outcome) : Work (Option Failure) := do
  if outcome.verdict.isPass then return none
  return some ⟨outcome.solution, outcome.verdict, ← digest? outcome.solution⟩

/-- Keep an outcome. -/
def keep : Sink Record := fun outcome => do
  let failure ← liftM (failure? outcome)
  modify fun record =>
    let (text, reporter) := record.reporter.record outcome
    { failures := record.failures ++ failure.toList
      reporter := reporter
      text := record.text ++ text }
  return .ok ()

end

variable [Platform]

/-- Verify problems by as many workers as are asked for. -/
def verify (harness : Harness) (jobs : Nat) (problems : List Problem) :
    Verification Record RunStats :=
  if jobs = 1 then harness.run keep problems else harness.runPooled jobs keep problems

/-- The point in time some microseconds after another. -/
def momentAfter (start : Instant) (micros : Nat) : Instant :=
  let nanos := start.nanos + 1000 * micros
  ⟨start.seconds + (nanos / 1000000000 : Nat), nanos % 1000000000⟩

/-- Verify problems, and leave a summary where one is asked for. -/
def judge (surroundings : Surroundings) (invocation : Invocation) (harness : Harness)
    (problems : List Problem) : Work Conclusion := do
  let colored := wantsColor surroundings.isTerminal (← Work.machine).environment
  let start ← Work.clock
  let (result, record) ← (verify harness invocation.jobs problems).run.run
    ⟨[], .new invocation.compact colored, ""⟩
  match result with
  | .error error => return .failed record.text (.verify error)
  | .ok stats =>
    let output := record.text ++ record.reporter.finish
    match invocation.summary with
    | none => return .done output
    | some path =>
      let stop ← Work.clock
      let summary : Summary := {
        terms := .of invocation harness.settings
        started := momentAfter surroundings.epoch start
        finished := momentAfter surroundings.epoch stop
        durationMs := (stop - start) / 1000
        stats := stats
        totals := record.reporter.totals
        failures := record.failures }
      match ← Work.replace path summary.document with
      | .ok () => return .done output
      | .error error => return .failed output (.summary error)

/-- Carry out a run. -/
def run (surroundings : Surroundings) (invocation : Invocation) : Work Conclusion := do
  if invocation.jobs = 0 then return .failed "" .noJobs
  match settingsFor invocation (← Work.files) with
  | .error error => return .failed "" error
  | .ok settings =>
    let harness := Harness.ofSettings settings (surroundings.service settings.metadataUrl)
    match harness.problems (invocation.resumeFrom.map Resume.mk) (← Work.files) with
    | .error (.missing root) => return ⟨1, downloadAdvice root, none⟩
    | .error error => return .failed "" (.scan error)
    | .ok problems =>
      if invocation.listOnly then return .done (listing problems)
      judge surroundings invocation harness problems

/-- Carry out a command line. -/
def answer (surroundings : Surroundings) (words : List String) : Work Conclusion := do
  match CommandLine.read words with
  | .error error => return ⟨2, "", some (.usage error)⟩
  | .ok .help =>
    let environment := (← Work.machine).environment
    return .done (CommandLine.helpText (helpEmphasis surroundings.isTerminal environment))
  | .ok .version => return .done CommandLine.versionText
  | .ok (.run invocation) => run surroundings invocation

end Application

end CorpusJudge
