import CorpusJudge.Instant
import CorpusJudge.Text.Integer

/-!
# Rules of eligibility

What a solution must satisfy, beyond being text with a readable submission time, before it is
run: a first admissible date, windows of time in which an author's submissions do not count, and
pieces of source text that may not occur.
-/

namespace CorpusJudge

/-- An open window of time around `center`, in seconds since 1970, in which files whose name starts
with `author` do not count. -/
structure Window where
  author : String
  center : Int
  radius : Int
  deriving DecidableEq, Repr

/-- Whether a file falls into the window.  A bound beyond the range of time stamps counts as the
end of that range. -/
def Window.covers (window : Window) (fileName : String) (time : Int) : Bool :=
  window.author.toList.isPrefixOf fileName.toList &&
    Integer.clamp (window.center - window.radius) < time &&
    time < Integer.clamp (window.center + window.radius)

/-- The rules that depend on the settings. -/
structure Rules where
  minDate : Instant
  windows : List Window
  rejected : List String
  deriving DecidableEq, Repr

/-- The built-in rules: nothing before 2008, nothing from one author's known bad hours, and no
source that reads its neighbours, draws random numbers or interpolates. -/
def Rules.standard : Rules where
  minDate := ⟨1199145600, 0⟩
  windows := [⟨"lynn", 1531576304, 10000⟩]
  rejected := ["../s/", "rand", "#\x7b"]

end CorpusJudge
