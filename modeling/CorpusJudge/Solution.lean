import CorpusJudge.Bytes
import CorpusJudge.Path
import CorpusJudge.Text.Integer
import CorpusJudge.Text.Quoted
import CorpusJudge.Text.Segments

/-!
# Solutions

A solution is a file of program text whose name tells who submitted it and when.
-/

namespace CorpusJudge

/-! ## Submission times in file names

A solution's file name carries the time of its submission, in seconds since 1970, as the
second-to-last of its dot-separated segments: `author.1230000000.gs`. -/

/-- Why a file name gives no submission time. -/
inductive TimestampError where
  | missingSegment (name : String)
  | notAnInteger (name segment : String)
  deriving DecidableEq, Repr

/-- The wording of a timestamp error. -/
def TimestampError.message : TimestampError → String
  | .missingSegment name => s!"file name has no timestamp segment: {name}"
  | .notAnInteger name segment =>
    s!"timestamp segment {Text.quoted segment} is not an integer in {name}"

/-- The second-to-last dot-separated segment of a file name, if it has two. -/
def timestampSegment? (name : String) : Option (List Char) :=
  match (Text.segments '.' name.toList).reverse with
  | _ :: segment :: _ => some segment
  | _ => none

/-- The submission time in a file name. -/
def timestampOf (name : String) : Except TimestampError Int :=
  match timestampSegment? name with
  | none => .error (.missingSegment name)
  | some segment =>
    match Integer.read? segment with
    | none => .error (.notAnInteger name (String.ofList segment))
    | some time => .ok time

/-! ## Solutions -/

/-- A solution as it was read from a file. -/
structure Solution where
  path : Path
  fileName : String
  source : Bytes
  deriving DecidableEq, Repr

namespace Solution

/-- The solution that a file holds. -/
def ofFile (path : Path) (source : Bytes) : Solution :=
  ⟨path, path.fileName?.getD "", source⟩

/-- Who submitted it: the file name up to its first dot. -/
def author (solution : Solution) : String :=
  String.ofList (solution.fileName.toList.takeWhile (· ≠ '.'))

/-- When it was submitted. -/
def timestamp (solution : Solution) : Except TimestampError Int :=
  timestampOf solution.fileName

end Solution

end CorpusJudge
