import CorpusJudge.Proofs.Harness.Changes
import CorpusJudge.Proofs.Harness.Stages
import Mathlib.Algebra.Ring.Nat

/-!
# Crews come to an end

However the moves of a crew are ordered, only finitely many follow one another, and as long as the
run is not over, one of them is possible.
-/

namespace CorpusJudge

variable [Kernel]

namespace Task

/-- How many changes of its kind a task has before it, at most.  Choosing and executing count once
for all the solutions. -/
def height : Task → Nat
  | waiting => 8
  | underway .loading => 7
  | underway .fetching => 6
  | underway (.storing _) => 5
  | underway (.listing _) => 4
  | underway (.choosing ..) => 3
  | underway (.executing ..) => 3
  | finished _ => 2
  | sent => 0
  | dropped => 0

/-- How many more times a task moves between choosing and executing, at most. -/
def turns : Task → Nat
  | underway (.choosing _ _ _ paths) => 2 * paths.length
  | underway (.executing _ _ _ _ rest) => 2 * rest.length + 1
  | _ => 0

end Task

/-- A step of a verification lowers its task, or takes one of its turns. -/
theorem Stage.advance_lowers (harness : Harness) (problem : Problem) (stage : Stage)
    (bench : Workbench) :
    let task := ((stage.advance harness problem).run bench).1
    task.height < (Task.underway stage).height ∨
      task.height = (Task.underway stage).height ∧ task.turns < (Task.underway stage).turns := by
  rcases next : (stage.advance harness problem).run bench with ⟨task, left⟩
  cases step_of_advance next with
  | eligible | ineligible =>
      exact .inr ⟨rfl, by simp only [Task.turns, List.length_cons]; omega⟩
  | judged => exact .inr ⟨rfl, Nat.lt_succ_self _⟩
  | _ => exact .inl (by simp [Task.height])

namespace Crew

variable {σ : Type} {harness : Harness} {sink : Sink σ} {jobs : Nat}

/-- The changes that are left, first without and then with those that repeat for every solution and
every outcome. -/
def remaining (crew : Crew σ) : Nat × Nat :=
  ((crew.tasks.map (·.2.height)).sum + crew.mailbox.length + crew.answer.elim 1 fun _ => 0,
    (crew.tasks.map (·.2.turns)).sum +
      (crew.ready.map fun verified => verified.outcomes.length + 1).sum)

omit [Kernel] in
/-- A task that becomes another one takes its place in the sum. -/
private theorem sum_set (weight : Task → Nat) {tasks : List (Problem × Task)} {place : Nat}
    {problem : Problem} {old : Task} (new : Task) (there : tasks[place]? = some (problem, old)) :
    ((tasks.set place (problem, new)).map (weight ·.2)).sum + weight old =
      (tasks.map (weight ·.2)).sum + weight new := by
  induction tasks generalizing place with
  | nil => simp at there
  | cons first rest ih =>
      cases place with
      | zero =>
          obtain rfl : first = (problem, old) := by simpa using there
          simp only [List.set_cons_zero, List.map_cons, List.sum_cons]
          omega
      | succ place =>
          have later := ih (by simpa using there)
          simp only [List.set_cons_succ, List.map_cons, List.sum_cons]
          omega

/-- Every change leaves fewer changes. -/
theorem Change.remaining_lt {crew next : Crew σ} (changed : Change harness sink jobs crew next) :
    Prod.Lex (· < ·) (· < ·) next.remaining crew.remaining := by
  rw [Prod.lex_def]
  cases changed with
  | @taken place problem waits free =>
      have heights := sum_set Task.height (.underway .loading) waits
      have lower : (Task.underway .loading).height < Task.waiting.height := by decide
      left
      simp only [remaining, assign]
      omega
  | @dropped place problem waits free aborted =>
      have heights := sum_set Task.height .dropped waits
      have lower : Task.dropped.height < Task.waiting.height := by decide
      left
      simp only [remaining, assign]
      omega
  | @advanced place problem stage task bench busy advanced =>
      have heights := sum_set Task.height task busy
      have turns := sum_set Task.turns task busy
      have lowers := stage.advance_lowers harness problem crew.bench
      simp only [advanced] at lowers
      simp only [remaining, assign]
      rcases lowers with lower | ⟨same, fewer⟩
      · left
        omega
      · right
        constructor <;> omega
  | @sent place problem verified busy =>
      have heights := sum_set Task.height .sent busy
      have lower : Task.sent.height + 2 = (Task.finished verified).height := rfl
      left
      simp only [remaining, assign, List.length_append, List.length_singleton]
      omega
  | received unanswered nothing arrived received =>
      left
      simp [remaining, arrived]
  | handed unanswered first called =>
      right
      simp [remaining, first]
  | refused unanswered first called =>
      left
      simp [remaining, unanswered]
  | absorbed unanswered first =>
      right
      simp [remaining, first]
  | failed unanswered first =>
      left
      simp [remaining, unanswered]
  | closed unanswered nothing nobody idle =>
      left
      simp [remaining, unanswered]

/-- No crew can go on moving for ever. -/
theorem moves_end (harness : Harness) (sink : Sink σ) (jobs : Nat) :
    WellFounded fun after before : Crew σ =>
      ∃ move, before.step harness sink jobs move = some after := by
  refine Subrelation.wf (r := InvImage (Prod.Lex (· < ·) (· < ·)) remaining) ?_
    (InvImage.wf _ (Prod.lex Nat.lt_wfRel Nat.lt_wfRel).wf)
  rintro after before ⟨move, stepped⟩
  exact (change_of_step stepped).remaining_lt

/-- Whoever is busy can go on. -/
private theorem change_of_busy {crew : Crew σ} {place : Nat} {problem : Problem} {task : Task}
    (there : crew.tasks[place]? = some (problem, task)) (busy : task.isBusy = true) :
    ∃ next, Change harness sink jobs crew next := by
  cases task with
  | underway stage => exact ⟨_, .advanced there rfl⟩
  | finished verified => exact ⟨_, .sent there⟩
  | waiting => cases busy
  | sent => cases busy
  | dropped => cases busy

/-- The clerk can go on unless there is an answer, or a worker still has something to do. -/
private theorem change_of_idle {crew : Crew σ} (unanswered : crew.answer = none)
    (idle : crew.isIdle = true) : ∃ next, Change harness sink jobs crew next := by
  cases ready : crew.ready with
  | nil =>
      cases arrived : crew.mailbox with
      | nil => exact ⟨_, .closed unanswered ready arrived idle⟩
      | cons entry mailbox => exact ⟨_, .received unanswered ready arrived rfl⟩
  | cons verified ready' =>
      obtain ⟨outcomes, result⟩ := verified
      cases outcomes with
      | nil =>
          cases result with
          | ok found => exact ⟨_, .absorbed unanswered ready⟩
          | error error => exact ⟨_, .failed unanswered ready⟩
      | cons outcome outcomes =>
          rcases called : ((sink outcome).run crew.state).run crew.bench with
            ⟨⟨reply, state⟩, bench⟩
          cases reply with
          | ok _ => exact ⟨_, .handed unanswered ready called⟩
          | error reason => exact ⟨_, .refused unanswered ready called⟩

/-- As long as the run is not over and there is a worker, somebody can go on. -/
theorem exists_change {crew : Crew σ} (someone : 1 ≤ jobs) (goesOn : crew.isOver = false) :
    ∃ next, Change harness sink jobs crew next := by
  by_cases idle : crew.isIdle = true
  · refine change_of_idle ?_ idle
    simpa [isOver, idle] using goesOn
  · simp only [isIdle, List.all_eq_true, not_forall] at idle
    obtain ⟨⟨problem, task⟩, member, unended⟩ := idle
    obtain ⟨place, there⟩ := List.mem_iff_getElem?.mp member
    by_cases busy : ∃ (place : Nat) (problem : Problem) (task : Task),
        crew.tasks[place]? = some (problem, task) ∧ task.isBusy = true
    · obtain ⟨place, problem, task, there, busy⟩ := busy
      exact change_of_busy there busy
    · have nobody : crew.busy = 0 := by
        refine List.countP_eq_zero.mpr fun other member isBusy => busy ?_
        obtain ⟨place, there⟩ := List.mem_iff_getElem?.mp member
        exact ⟨place, other.1, other.2, there, isBusy⟩
      cases task with
      | waiting => exact ⟨_, .taken there (by omega)⟩
      | underway stage => exact (busy ⟨place, problem, _, there, rfl⟩).elim
      | finished verified => exact (busy ⟨place, problem, _, there, rfl⟩).elim
      | sent => exact (unended rfl).elim
      | dropped => exact (unended rfl).elim

end Crew

end CorpusJudge
