import CorpusJudge.Harness.Stage

/-!
# Crews

A parallel run as its parts see it: workers, who take up problems in any order and verify them stage
by stage; a mailbox for what they have found; and a clerk, who takes the findings out of the mailbox
and hands them to the sink in the order of the problems.  When the clerk stops, workers drop the
problems they take up from then on, as soon as they notice.

A run is a sequence of moves.  Which move comes next is left open, so whatever holds after every
sequence of moves holds whichever way the workers are scheduled.
-/

namespace CorpusJudge

/-- A parallel run underway: the problems and what has become of each, findings on their way to the
clerk, the clerk's buffer, the findings that are being handed to the sink, the stats so far, the
sink's state, the workbench, and the clerk's answer once there is one. -/
structure Crew [Kernel] (σ : Type) where
  tasks : List (Problem × Task)
  mailbox : List (Nat × Verified)
  buffer : ReorderBuffer Verified
  ready : List Verified
  stats : RunStats
  state : σ
  bench : Workbench
  answer : Option (Except HarnessError RunStats)

/-- Something that one of the crew does: a worker takes up a problem, and may notice that the run is
over; a worker goes one step further; the clerk takes a message out of the mailbox, hands on the next
outcome or result, or ends the run because no message will come any more. -/
inductive Move where
  | take (place : Nat) (drops : Bool)
  | work (place : Nat)
  | receive
  | deliver
  | close

namespace Task

/-- Whether a worker is occupied with the problem. -/
def isBusy : Task → Bool
  | underway _ => true
  | finished _ => true
  | _ => false

/-- Whether no worker has anything to do with the problem any more. -/
def hasEnded : Task → Bool
  | sent => true
  | dropped => true
  | _ => false

end Task

namespace Crew

variable [Kernel] {σ : Type}

/-- A run before its first move. -/
def start (problems : List Problem) (state : σ) (bench : Workbench) : Crew σ where
  tasks := problems.map (·, .waiting)
  mailbox := []
  buffer := .empty
  ready := []
  stats := .zero
  state := state
  bench := bench
  answer := none

/-- Whether the clerk has stopped because of an error. -/
def isAborted (crew : Crew σ) : Bool :=
  match crew.answer with
  | some (.error _) => true
  | _ => false

/-- Whether every problem is done with. -/
def isIdle (crew : Crew σ) : Bool :=
  crew.tasks.all (·.2.hasEnded)

/-- Whether the run is over: the clerk has an answer and the workers are done. -/
def isOver (crew : Crew σ) : Bool :=
  crew.answer.isSome && crew.isIdle

/-- How many workers are occupied. -/
def busy (crew : Crew σ) : Nat :=
  crew.tasks.countP (·.2.isBusy)

/-- Note what has become of a problem. -/
def assign (crew : Crew σ) (place : Nat) (problem : Problem) (task : Task) : Crew σ :=
  { crew with tasks := crew.tasks.set place (problem, task) }

/-- A free worker takes up a problem that waits.  It may drop the problem if the run is aborted, and
it may also miss that. -/
def take (jobs : Nat) (place : Nat) (drops : Bool) (crew : Crew σ) : Option (Crew σ) :=
  match crew.tasks[place]? with
  | some (problem, .waiting) =>
    if jobs ≤ crew.busy then none
    else if drops then
      if crew.isAborted then some (crew.assign place problem .dropped) else none
    else some (crew.assign place problem (.underway .loading))
  | _ => none

/-- A worker goes one step further, or sends what it has found. -/
def work (harness : Harness) (place : Nat) (crew : Crew σ) : Option (Crew σ) :=
  match crew.tasks[place]? with
  | some (problem, .underway stage) =>
    let (task, bench) := (stage.advance harness problem).run crew.bench
    some { crew.assign place problem task with bench := bench }
  | some (problem, .finished verified) =>
    some { crew.assign place problem .sent with mailbox := crew.mailbox ++ [(place, verified)] }
  | _ => none

/-- The clerk takes a message, once everything that was ready has been handed on. -/
def receive (crew : Crew σ) : Option (Crew σ) :=
  match crew.answer, crew.ready, crew.mailbox with
  | none, [], (place, verified) :: mailbox =>
    let (ready, buffer) := crew.buffer.receive place verified
    some { crew with mailbox := mailbox, buffer := buffer, ready := ready }
  | _, _, _ => none

/-- The clerk hands on the next outcome, or takes the result behind the last one. -/
def deliver (sink : Sink σ) (crew : Crew σ) : Option (Crew σ) :=
  match crew.answer, crew.ready with
  | none, ⟨outcome :: outcomes, result⟩ :: ready =>
    let ((reply, state), bench) := ((sink outcome).run crew.state).run crew.bench
    match reply with
    | .ok () =>
      some { crew with ready := ⟨outcomes, result⟩ :: ready, state := state, bench := bench }
    | .error reason =>
      some { crew with state := state, bench := bench, answer := some (.error (.output reason)) }
  | none, ⟨[], .ok found⟩ :: ready =>
    some { crew with ready := ready, stats := crew.stats.absorb found }
  | none, ⟨[], .error error⟩ :: _ => some { crew with answer := some (.error error) }
  | _, _ => none

/-- The clerk answers when nothing is left to hand on and nobody can send anything any more. -/
def close (crew : Crew σ) : Option (Crew σ) :=
  match crew.answer, crew.ready, crew.mailbox with
  | none, [], [] => if crew.isIdle then some { crew with answer := some (.ok crew.stats) } else none
  | _, _, _ => none

/-- The run after a move, if the move is possible. -/
def step (harness : Harness) (sink : Sink σ) (jobs : Nat) (crew : Crew σ) :
    Move → Option (Crew σ)
  | .take place drops => crew.take jobs place drops
  | .work place => crew.work harness place
  | .receive => crew.receive
  | .deliver => crew.deliver sink
  | .close => crew.close

/-- The runs that some moves lead to. -/
inductive Reached (harness : Harness) (sink : Sink σ) (jobs : Nat) (first : Crew σ) :
    Crew σ → Prop where
  | first : Reached harness sink jobs first first
  | move {crew next : Crew σ} (move : Move) :
      Reached harness sink jobs first crew → crew.step harness sink jobs move = some next →
      Reached harness sink jobs first next

end Crew

end CorpusJudge
