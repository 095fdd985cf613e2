import CorpusJudge.Files.Tree
import CorpusJudge.Settings.Document
import CorpusJudge.Text.Utf8

/-!
# Settings files

Settings are loaded from a file that holds a settings document.
-/

namespace CorpusJudge.Settings

/-- Why a file gives no settings. -/
inductive LoadError where
  | unreadable (path : Path) (error : FileError)
  | unusable (error : TextError)
  deriving DecidableEq, Repr

/-- The wording of the error.  About a malformed document, nothing more is said. -/
def TextError.message : TextError → String
  | .malformed => "parse config: "
  | .invalid fault => s!"invalid config: {fault.message}"

/-- The wording of the error. -/
def LoadError.message : LoadError → String
  | .unreadable path error => s!"read config {path.text}: {error.message}"
  | .unusable error => error.message

/-- The settings that a file holds. -/
def load (files : FileTree) (path : Path) : Except LoadError Settings :=
  match files.read path with
  | .error error => .error (.unreadable path error)
  | .ok content =>
    match Utf8.decode? content with
    | none => .error (.unreadable path .notText)
    | some text => (ofText text).mapError .unusable

end CorpusJudge.Settings
