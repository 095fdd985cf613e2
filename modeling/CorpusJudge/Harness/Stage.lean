import CorpusJudge.Harness.Parallel

/-!
# Stages of a verification

A worker verifies its problem step by step: it looks for the cache file, asks the source, writes the
cache file, lists the solutions, and reads and executes them one by one.  Every step makes at most
one request about files, so that the steps of other workers may come between any two of them.
-/

namespace CorpusJudge

/-- How far the verification of a problem has come, with what the next step needs. -/
inductive Stage where
  | loading
  | fetching
  | storing (document : Bytes)
  | listing (document : Bytes)
  | choosing (metadata : Metadata) (skipped : Nat) (outcomes : List Outcome) (paths : List Path)
  | executing (metadata : Metadata) (skipped : Nat) (outcomes : List Outcome) (path : Path)
      (rest : List Path)

/-- What has become of a problem: it waits for a worker, one is underway with it, what was found is
about to be sent, it has been sent, or the problem was dropped because the run was over. -/
inductive Task where
  | waiting
  | underway (stage : Stage)
  | finished (verified : Verified)
  | sent
  | dropped

/-- Nothing came of a problem: it has no metadata, or its solutions cannot be listed. -/
def Verified.passedOver : Verified := ⟨[], .ok ⟨false, 0⟩⟩

namespace Stage

variable [Kernel]

/-- What becomes of a problem when its document is there: the solutions are listed if the document
makes sense. -/
def list (problem : Problem) (document : Bytes) : Work Task := do
  match Metadata.ofDocument? document with
  | none =>
    Work.note (.cacheMalformed problem.name)
    return .finished .passedOver
  | some metadata =>
    match problem.listSolutions (← Work.files) with
    | .error error =>
      Work.note (.problemSkipped problem.name error)
      return .finished .passedOver
    | .ok paths => return .underway (.choosing metadata 0 [] paths)

/-- The next step of a verification. -/
def advance (harness : Harness) (problem : Problem) : Stage → Work Task
  | loading => do
    match loadCached (← Work.files) problem.metadataPath with
    | .ok (some document) => return .underway (.listing document)
    | .ok none => return .underway .fetching
    | .error error =>
      Work.note (.cacheUnreadable problem.metadataPath error)
      return .finished .passedOver
  | fetching => do
    Work.note (.fetching problem.name)
    match harness.source problem.name with
    | .ok document => return .underway (.storing document)
    | .error error =>
      Work.note (.fetchFailed problem.name (.request error))
      return .finished .passedOver
  | storing document => do
    match ← Work.write problem.metadataPath document with
    | .ok () => return .underway (.listing document)
    | .error error =>
      Work.note (.fetchFailed problem.name (.store problem.metadataPath error))
      return .finished .passedOver
  | listing document => list problem document
  | choosing _ skipped outcomes [] => return .finished ⟨outcomes, .ok ⟨true, skipped⟩⟩
  | choosing metadata skipped outcomes (path :: rest) => do
    if ← harness.eligible? metadata path then
      return .underway (.executing metadata skipped outcomes path rest)
    else return .underway (.choosing metadata (skipped + 1) outcomes rest)
  | executing metadata skipped outcomes path rest => do
    match ← harness.judge path metadata.inputBytes metadata.expectedBytes with
    | .error error => return .finished ⟨outcomes, .error error⟩
    | .ok outcome => return .underway (.choosing metadata skipped (outcomes ++ [outcome]) rest)

end Stage

end CorpusJudge
