import CorpusJudge.Answer
import CorpusJudge.Problem.Cache
import CorpusJudge.Report

/-!
# The harness

A problem is verified by executing its eligible solutions one after the other and handing the outcomes
to a sink.  A run verifies problems in order.
-/

namespace CorpusJudge

/-- Why a run stops. -/
inductive HarnessError where
  | execution (error : ExecutionError)
  | output (reason : String)
  deriving DecidableEq, Repr

/-- The wording of the error. -/
def HarnessError.message : HarnessError → String
  | execution error => error.message
  | output reason => s!"write report: {reason}"

/-- What takes the outcomes of a run.  It has a state of its own and may fail. -/
abbrev Sink [Kernel] (σ : Type) := Outcome → StateT σ (StateM Workbench) (Except String Unit)

/-- Part of a run with a sink. -/
abbrev Verification [Kernel] (σ α : Type) := ExceptT HarnessError (StateT σ (StateM Workbench)) α

/-- What verifying one problem comes to: whether its metadata was there, and how many solutions were
skipped. -/
structure ProblemStats where
  resolved : Bool
  skipped : Nat
  deriving DecidableEq, Repr

/-- What a run comes to: how many problems had metadata, and how many solutions were skipped. -/
structure RunStats where
  problems : Nat
  skipped : Nat
  deriving DecidableEq, Repr

namespace RunStats

/-- The stats before the first problem. -/
def zero : RunStats := ⟨0, 0⟩

/-- The stats with one more problem. -/
def absorb (stats : RunStats) (problem : ProblemStats) : RunStats where
  problems := if problem.resolved then stats.problems + 1 else stats.problems
  skipped := stats.skipped + problem.skipped

end RunStats

/-- What a run works with. -/
structure Harness [Kernel] where
  settings : Settings
  source : Source
  executor : Executor

namespace Harness

/-- The interpreter that settings ask for. -/
def interpreterOf (settings : Settings) : Interpreter where
  program := settings.interpreter.program
  arguments := settings.interpreter.arguments
  timeout := settings.timeoutMs

/-- A harness that executes solutions by the interpreter of its settings. -/
def ofSettings [Platform] (settings : Settings) (source : Source) : Harness where
  settings := settings
  source := source
  executor := (interpreterOf settings).perform

variable [Kernel]

/-- The problems of the corpus. -/
def problems (harness : Harness) (resume : Option Resume) (files : FileTree) :
    Except CorpusError (List Problem) :=
  Corpus.scan harness.settings harness.settings.corpusDir resume files

/-- The verdict on an execution. -/
def verdictOn (execution : Execution) (expected : Bytes) : Verdict :=
  match execution with
  | .timedOut _ _ => .slow
  | .completed _ stdout _ => if Answer.agrees stdout expected then .pass else .fail

/-- What is worth a note about an execution. -/
def eventOf? (solution : Path) (execution : Execution) (expected : Bytes) : Option Event :=
  match execution with
  | .timedOut .outputOpen _ => some (.outputOpen solution)
  | .timedOut .running _ => none
  | .completed exitCode stdout stderr =>
    if Answer.agrees stdout expected then none else some (.mismatch solution exitCode stderr)

/-- Execute one solution and compare its output with what is expected. -/
def judge (harness : Harness) (solution : Path) (input expected : Bytes) :
    Work (Except HarnessError Outcome) := do
  match ← Work.execute harness.executor solution input with
  | .error error => return .error (.execution error)
  | .ok execution =>
    if let some event := eventOf? solution execution expected then Work.note event
    return .ok ⟨solution, verdictOn execution expected, execution.stdout, expected⟩

/-- Read a solution and check whether it is eligible; otherwise note why it is not run. -/
def eligible? (harness : Harness) (metadata : Metadata) (path : Path) : Work Bool := do
  match ← Work.read path with
  | .error error =>
    Work.note (.solutionUnreadable path error)
    return false
  | .ok source =>
    match harness.settings.rules.check metadata (.ofFile path source) with
    | .ok () => return true
    | .error reason =>
      Work.note (.solutionSkipped path reason)
      return false

variable {σ : Type}

/-- Do something on the workbench in the course of a run. -/
def onBench {α : Type} (work : Work α) : Verification σ α :=
  ExceptT.lift (liftM work)

/-- Hand an outcome to the sink. -/
def deliver (sink : Sink σ) (outcome : Outcome) : Verification σ Unit :=
  ExceptT.mk do
    match ← sink outcome with
    | .ok () => return .ok ()
    | .error reason => return .error (.output reason)

/-- Verify the solutions at some paths; the result is how many were skipped, beside those skipped
before. -/
def verifySolutions (harness : Harness) (sink : Sink σ) (metadata : Metadata) (skipped : Nat) :
    List Path → Verification σ Nat
  | [] => return skipped
  | path :: rest => do
    if ← onBench (harness.eligible? metadata path) then
      match ← onBench (harness.judge path metadata.inputBytes metadata.expectedBytes) with
      | .error error => throw error
      | .ok outcome =>
        deliver sink outcome
        harness.verifySolutions sink metadata skipped rest
    else harness.verifySolutions sink metadata (skipped + 1) rest

/-- Verify a problem.  One without metadata, or whose solutions cannot be listed, is passed over. -/
def verifyProblem (harness : Harness) (sink : Sink σ) (problem : Problem) :
    Verification σ ProblemStats := do
  match ← onBench (problem.resolve harness.source) with
  | none => return ⟨false, 0⟩
  | some metadata =>
    match problem.listSolutions (← onBench Work.files) with
    | .error error =>
      onBench (Work.note (.problemSkipped problem.name error))
      return ⟨false, 0⟩
    | .ok paths => return ⟨true, ← harness.verifySolutions sink metadata 0 paths⟩

/-- Verify problems in order. -/
def run (harness : Harness) (sink : Sink σ) (problems : List Problem) : Verification σ RunStats :=
  problems.foldlM (fun stats problem => do
    return stats.absorb (← harness.verifyProblem sink problem)) .zero

end Harness

end CorpusJudge
