import CorpusJudge.Eligibility.Rules
import CorpusJudge.Path
import CorpusJudge.Text.Lowercase
import CorpusJudge.Text.Quoted

/-!
# Settings

Everything about a run that its user may change: where the corpus lies and how its directories are
named, where missing metadata comes from, which interpreter runs the solutions and for how long,
which problems are left out and which solutions count.
-/

namespace CorpusJudge

/-! ## Excluded problems

Problems are left out by name, either by the exact name or by any name with the same lower-case
form. -/

/-- The names of problems to leave out. -/
structure Exclusions where
  exact : List String
  caseless : List String
  deriving DecidableEq, Repr

namespace Exclusions

/-- The built-in list: problems solved by luck or self-reference, problems whose answers depend on
the host's floating-point or rational arithmetic, and problems under whose names differently
spelled ones were collected. -/
def standard : Exclusions where
  exact := ["123", "123 Reloaded", "Error", "Inverse Quine", "Not Quine", "Palindromic Quine",
    "Quine", "Timeout", "area of triangle", "0_5 broken keyboard", "Cancel fractions",
    "Equal Temperament", "MIDI note number to frequency", "Numloop"]
  caseless := ["helloworld", "christmas tree", "multiplication table"]

/-- Whether a problem is left out. -/
def excludes (exclusions : Exclusions) (problem : String) : Bool :=
  exclusions.exact.contains problem ||
    (exclusions.caseless.map Text.lowercase).contains (Text.lowercase problem)

end Exclusions

/-! ## The settings of a run -/

/-- The command that runs a solution; the path of the solution becomes its last argument. -/
structure InterpreterCommand where
  program : String
  arguments : List String
  deriving DecidableEq, Repr

/-- The settings of a run. -/
structure Settings where
  corpusDir : Path
  solutionsSubdir : String
  metadataFile : String
  metadataUrl : String
  interpreter : InterpreterCommand
  timeoutMs : Nat
  exclusions : Exclusions
  rules : Rules
  deriving DecidableEq, Repr

/-- The built-in interpreter command. -/
def InterpreterCommand.standard : InterpreterCommand where
  program := "ruby"
  arguments := ["--encoding", "ASCII-8BIT", "golfscript.rb"]

namespace Settings

/-- The built-in settings. -/
def standard : Settings where
  corpusDir := ⟨"problems"⟩
  solutionsSubdir := "gs"
  metadataFile := "problem.json"
  metadataUrl := "http://golf.shinh.org/jsonp.rb?"
  interpreter := .standard
  timeoutMs := 5000
  exclusions := .standard
  rules := .standard

/-- What makes settings unusable. -/
inductive Fault where
  | noTimeout
  | noSolutionsSubdir
  | noMetadataFile
  | noProgram
  | emptyPattern (index : Nat)
  | negativeRadius (author : String)
  | windowOverflow (author : String)
  deriving DecidableEq, Repr

/-- The wording of a fault. -/
def Fault.message : Fault → String
  | .noTimeout => "timeout_ms must be >= 1"
  | .noSolutionsSubdir => "solutions_subdir must not be empty"
  | .noMetadataFile => "metadata_file must not be empty"
  | .noProgram => "interpreter.program must not be empty"
  | .emptyPattern index => s!"eligibility.rejected_patterns[{index}] is empty"
  | .negativeRadius author => s!"carve-out for {Text.quoted author} has a negative radius"
  | .windowOverflow author =>
    s!"carve-out window for {Text.quoted author} overflows a unix timestamp"

/-- What is wrong with a window, if anything: its bounds have to be time stamps themselves. -/
def windowFault? (window : Window) : Option Fault :=
  if window.radius < 0 then some (.negativeRadius window.author)
  else if Integer.fits (window.center - window.radius) &&
      Integer.fits (window.center + window.radius) then none
  else some (.windowOverflow window.author)

/-- The first fault of the settings, if there is one. -/
def fault? (settings : Settings) : Option Fault :=
  if settings.timeoutMs = 0 then some .noTimeout
  else if settings.solutionsSubdir.isEmpty then some .noSolutionsSubdir
  else if settings.metadataFile.isEmpty then some .noMetadataFile
  else if settings.interpreter.program.isEmpty then some .noProgram
  else match settings.rules.rejected.findIdx? String.isEmpty with
    | some index => some (.emptyPattern index)
    | none => settings.rules.windows.findSome? windowFault?

/-- The settings themselves when they have no fault. -/
def validate (settings : Settings) : Except Fault Settings :=
  match settings.fault? with
  | some fault => .error fault
  | none => .ok settings

/-- The first admissible time stamp. -/
def minTimestamp (settings : Settings) : Int :=
  settings.rules.minDate.seconds

end Settings

end CorpusJudge
