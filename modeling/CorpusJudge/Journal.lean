import CorpusJudge.Corpus
import CorpusJudge.Eligibility
import CorpusJudge.Problem.Metadata

/-!
# The journal

What a run says about itself beside its results.
-/

namespace CorpusJudge

/-- Why metadata could not be fetched: the request failed, or its answer could not be kept. -/
inductive FetchError where
  | request (error : RequestError)
  | store (path : Path) (error : FileError)
  deriving DecidableEq, Repr

/-- The wording of the error. -/
def FetchError.message : FetchError → String
  | request error => s!"http GET {error.url}: {error.reason}"
  | store path error => s!"write {path.text}: {error.message}"

/-- How important an event is. -/
inductive Level where
  | info
  | warn
  | debug
  deriving DecidableEq, Repr

/-- The word for a level. -/
def Level.label : Level → String
  | info => "INFO"
  | warn => "WARN"
  | debug => "DEBUG"

/-- Something worth a note. -/
inductive Event where
  | fetching (problem : String)
  | fetchFailed (problem : String) (error : FetchError)
  | cacheUnreadable (path : Path) (error : FileError)
  | cacheMalformed (problem : String)
  | problemSkipped (problem : String) (error : CorpusError)
  | solutionUnreadable (solution : Path) (error : FileError)
  | solutionSkipped (solution : Path) (reason : Ineligible)
  | mismatch (solution : Path) (exitCode : Option Nat) (stderr : Bytes)
  | outputOpen (solution : Path)
  | digestMissing (solution : Path) (error : FileError)
  deriving DecidableEq, Repr

namespace Event

/-- How important the event is.  Of the reasons to skip a solution, only a malformed name is worth
a warning. -/
def level : Event → Level
  | fetching _ => .info
  | solutionSkipped _ (.malformedTimestamp _) => .warn
  | solutionSkipped _ _ => .debug
  | mismatch _ _ _ => .debug
  | outputOpen _ => .debug
  | _ => .warn

/-- The wording of the event. -/
def message : Event → String
  | fetching problem => s!"Fetching {problem}"
  | fetchFailed _ error => s!"metadata fetch failed: {error.message}"
  | cacheUnreadable _ error => s!"read cached metadata: {error.message}"
  | cacheMalformed _ => "cached metadata is not valid json, skipping"
  | problemSkipped _ error => s!"skipping problem: {error.message}"
  | solutionUnreadable _ error => s!"read solution: {error.message}"
  | solutionSkipped _ reason => s!"skipping: {reason.message}"
  | mismatch _ _ _ => "interpreter output mismatch"
  | outputOpen _ => "interpreter exited but its output is still open at the deadline"
  | digestMissing solution error => s!"hash solution: {solution.text}: {error.message}"

/-- An exit code as it is noted. -/
def exitCodeText : Option Nat → String
  | some code => s!"Some({code})"
  | none => "None"

/-- What the event is about. -/
def fields : Event → List (String × String)
  | fetching problem => [("problem", problem)]
  | fetchFailed problem _ => [("problem", problem)]
  | cacheUnreadable path _ => [("path", path.text)]
  | cacheMalformed problem => [("problem", problem)]
  | problemSkipped problem _ => [("problem", problem)]
  | solutionUnreadable solution _ => [("solution", solution.text)]
  | solutionSkipped solution _ => [("solution", solution.text)]
  | mismatch solution exitCode stderr =>
    [("solution", solution.text), ("exit_code", exitCodeText exitCode),
      ("stderr", Utf8.display stderr)]
  | outputOpen solution => [("solution", solution.text)]
  | digestMissing _ _ => []

end Event

end CorpusJudge
