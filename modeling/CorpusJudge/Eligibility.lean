import CorpusJudge.Eligibility.Rules
import CorpusJudge.Problem.Metadata
import CorpusJudge.Solution
import CorpusJudge.Text.Utf8

/-!
# Eligibility

Only eligible solutions are run.  The rules are checked in a fixed order and the first one that
fails is reported.
-/

namespace CorpusJudge

/-- The rule that a solution fails. -/
inductive Ineligible where
  | noExpectedOutput
  | emptySolution
  | malformedTimestamp (error : TimestampError)
  | beforeMinDate (time : Int)
  | inWindow (author : String)
  | notText
  | containsNul
  | rejectedPattern (pattern : String)
  deriving DecidableEq, Repr

/-- The wording of a failed rule. -/
def Ineligible.message : Ineligible → String
  | .noExpectedOutput => "problem has no expected output"
  | .emptySolution => "solution is empty"
  | .malformedTimestamp error => error.message
  | .beforeMinDate time => s!"timestamp {time} is before the minimum date"
  | .inWindow author => s!"inside the excluded window for {Text.quoted author}"
  | .notText => "solution is not valid utf-8"
  | .containsNul => "solution contains a NUL byte"
  | .rejectedPattern pattern => s!"solution contains {Text.quoted pattern}"

namespace Rules

/-- Check that the source is text without a NUL byte and without a rejected pattern. -/
def checkSource (rules : Rules) (source : Bytes) : Except Ineligible Unit :=
  if !Utf8.isText source then .error .notText
  else if source.contains 0 then .error .containsNul
  else match rules.rejected.find? fun pattern => source.containsBlock (Bytes.ofString pattern) with
    | some pattern => .error (.rejectedPattern pattern)
    | none => .ok ()

/-- Check that a file submitted at a time may count. -/
def checkTime (rules : Rules) (fileName : String) (time : Int) : Except Ineligible Unit :=
  if time < rules.minDate.seconds then .error (.beforeMinDate time)
  else match rules.windows.find? fun window => window.covers fileName time with
    | some window => .error (.inWindow window.author)
    | none => .ok ()

/-- Check every rule in order. -/
def check (rules : Rules) (metadata : Metadata) (solution : Solution) : Except Ineligible Unit :=
  if !metadata.isJudgeable then .error .noExpectedOutput
  else if solution.source.isEmpty then .error .emptySolution
  else match solution.timestamp with
    | .error error => .error (.malformedTimestamp error)
    | .ok time => do
      rules.checkTime solution.fileName time
      rules.checkSource solution.source

/-- Whether a solution may be run. -/
def admits (rules : Rules) (metadata : Metadata) (solution : Solution) : Bool :=
  (rules.check metadata solution).isOk

end Rules

end CorpusJudge
