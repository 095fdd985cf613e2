import CorpusJudge.Path
import CorpusJudge.Text.Escaped

/-!
# Reports

Every executed solution has an outcome.  The report shows one status line per outcome, with an
excerpt of actual and expected output where they differ, and ends with the totals.  A compact
report lets a pass overwrite the line of the pass directly before it.
-/

namespace CorpusJudge

/-- How a solution did: its output agreed, differed, or was not complete in time. -/
inductive Verdict where
  | pass
  | fail
  | slow
  deriving DecidableEq, Repr

namespace Verdict

/-- The word that stands for the verdict. -/
def label : Verdict → String
  | .pass => "PASS"
  | .fail => "FAIL"
  | .slow => "SLOW"

/-- Whether the verdict is a pass. -/
def isPass (verdict : Verdict) : Bool :=
  verdict = .pass

end Verdict

/-- What came out of running one solution. -/
structure Outcome where
  solution : Path
  verdict : Verdict
  actual : Bytes
  expected : Bytes
  deriving DecidableEq, Repr

/-- The numbers of outcomes by verdict.  A slow outcome is also a fail. -/
structure Totals where
  passes : Nat
  fails : Nat
  slow : Nat
  deriving DecidableEq, Repr

namespace Totals

/-- The totals before the first outcome. -/
def zero : Totals := ⟨0, 0, 0⟩

/-- The totals with one more verdict. -/
def add (totals : Totals) : Verdict → Totals
  | .pass => { totals with passes := totals.passes + 1 }
  | .fail => { totals with fails := totals.fails + 1 }
  | .slow => { totals with fails := totals.fails + 1, slow := totals.slow + 1 }

/-- The line that ends a report. -/
def summaryLine (totals : Totals) : String :=
  s!"{totals.passes} passes, {totals.fails} fails"

end Totals

/-- A report that is being written. -/
structure Reporter where
  compact : Bool
  colored : Bool
  lastWasPass : Bool
  totals : Totals
  deriving DecidableEq, Repr

namespace Reporter

/-- A report on nothing yet. -/
def new (compact colored : Bool) : Reporter :=
  ⟨compact, colored, false, .zero⟩

/-- The terminal's number for a verdict's color. -/
def colorCode : Verdict → String
  | .pass => "32"
  | .fail => "31"
  | .slow => "33"

/-- The label of a verdict, colored where the report is. -/
def label (reporter : Reporter) (verdict : Verdict) : String :=
  if reporter.colored then
    "\x1b[" ++ colorCode verdict ++ "m" ++ verdict.label ++ "\x1b[0m"
  else verdict.label

/-- The line that tells the verdict on a solution. -/
def statusLine (reporter : Reporter) (outcome : Outcome) : String :=
  reporter.label outcome.verdict ++ " " ++ outcome.solution.text ++ "\n"

/-- The line that shows how actual and expected output begin. -/
def excerptLine (outcome : Outcome) : String :=
  "  actual=" ++ Escaped.excerpt outcome.actual ++ " expected=" ++
    Escaped.excerpt outcome.expected ++ "\n"

/-- Go up one line and clear it. -/
def overwritePrevious : String := "\x1b[1A\x1b[2K"

/-- The text for one more outcome and the report after it. -/
def record (reporter : Reporter) (outcome : Outcome) : String × Reporter :=
  let passed := outcome.verdict.isPass
  let lead := if passed && reporter.compact && reporter.lastWasPass then overwritePrevious else ""
  let details := if passed then "" else excerptLine outcome
  (lead ++ reporter.statusLine outcome ++ details,
    { reporter with lastWasPass := passed, totals := reporter.totals.add outcome.verdict })

/-- The text that ends the report. -/
def finish (reporter : Reporter) : String :=
  reporter.totals.summaryLine ++ "\n"

end Reporter

end CorpusJudge
