import CorpusJudge.Harness

/-!
# Parallel runs

Workers verify problems in any order.  What they find is held back until everything before it has
been handed to the sink, so that the sink sees the same as in a run without workers.
-/

namespace CorpusJudge

/-- What a worker found out about a problem: its outcomes, and what verifying it came to. -/
structure Verified where
  outcomes : List Outcome
  result : Except HarnessError ProblemStats

/-- Findings that have arrived, by the place of their problem: those before `next` have been passed
on, the others are held back. -/
structure ReorderBuffer (α : Type) where
  next : Nat
  pending : List (Nat × α)

namespace ReorderBuffer

variable {α : Type}

/-- Nothing has arrived yet. -/
def empty : ReorderBuffer α := ⟨0, []⟩

/-- Take out whatever can be passed on, in order. -/
def release : Nat → ReorderBuffer α → List α × ReorderBuffer α
  | 0, buffer => ([], buffer)
  | fuel + 1, buffer =>
    match buffer.pending.lookup buffer.next with
    | none => ([], buffer)
    | some found =>
      let rest := buffer.pending.filter fun (place, _) => place ≠ buffer.next
      let (more, last) := release fuel ⟨buffer.next + 1, rest⟩
      (found :: more, last)

/-- Take in what has arrived for a place, and take out whatever can be passed on now. -/
def receive (buffer : ReorderBuffer α) (place : Nat) (found : α) : List α × ReorderBuffer α :=
  let pending := (place, found) :: buffer.pending
  release pending.length ⟨buffer.next, pending⟩

end ReorderBuffer

namespace Harness

variable {σ : Type}

section

variable [Kernel]

/-- Verify a problem for later: the outcomes are kept. -/
def verifyAside (harness : Harness) (problem : Problem) : Work Verified := do
  let keep : Sink (List Outcome) := fun outcome => do
    modify (· ++ [outcome])
    return .ok ()
  let (result, outcomes) ← (harness.verifyProblem keep problem).run.run []
  return ⟨outcomes, result⟩

/-- Hand what was found about a problem to the sink. -/
def replay (sink : Sink σ) (stats : RunStats) (verified : Verified) : Verification σ RunStats := do
  verified.outcomes.forM (deliver sink)
  match verified.result with
  | .error error => throw error
  | .ok found => return stats.absorb found

/-- Verify problems in the order in which workers take them up. -/
def runInOrder (harness : Harness) (sink : Sink σ) (stats : RunStats)
    (buffer : ReorderBuffer Verified) : List (Nat × Problem) → Verification σ RunStats
  | [] => return stats
  | (place, problem) :: rest => do
    let verified ← onBench (harness.verifyAside problem)
    let (ready, buffer) := buffer.receive place verified
    let stats ← ready.foldlM (replay sink) stats
    harness.runInOrder sink stats buffer rest

/-- Verify problems by workers, which take them up in order. -/
def runParallel (harness : Harness) (sink : Sink σ) (problems : List Problem) :
    Verification σ RunStats :=
  harness.runInOrder sink .zero .empty (problems.zipIdx.map fun (problem, place) => (place, problem))

end

/-- Verify problems by so many workers, unless there cannot be so many. -/
def runPooled [Platform] (harness : Harness) (jobs : Nat) (sink : Sink σ) (problems : List Problem) :
    Verification σ RunStats := do
  match Platform.poolFault? jobs (← onBench Work.machine) with
  | some reason => throw (.execution (.pool reason))
  | none => harness.runParallel sink problems

end Harness

end CorpusJudge
