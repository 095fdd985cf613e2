import CorpusJudge.Proofs.Cache.Stages

/-!
# Cache files in the course of a run without workers

A run without workers takes up one problem after the other, and stops at the first error.  The cache
files of the problems that it has taken up are there as far as the source knows them; nothing has
been done about the others.
-/

namespace CorpusJudge

/-- The tasks when the problems in front have been taken up and the others still wait. -/
def tasksAt (front rest : List Problem) : List (Problem × Task) :=
  front.map (·, .sent) ++ rest.map (·, .waiting)

theorem tasksAt_getElem? (front rest : List Problem) (problem : Problem) :
    (tasksAt front (problem :: rest))[front.length]? = some (problem, .waiting) := by
  simp [tasksAt]

theorem tasksAt_set (front rest : List Problem) (problem : Problem) :
    (tasksAt front (problem :: rest)).set front.length (problem, .sent) =
      tasksAt (front ++ [problem]) rest := by
  simp [tasksAt]

/-- Only the cache files of problems that have been taken up have been stored. -/
theorem tasksAt_hasStored {front rest : List Problem} {place : Nat} {problem : Problem} {task : Task}
    (there : (tasksAt front rest)[place]? = some (problem, task)) (stored : task.hasStored = true) :
    place < front.length := by
  refine Nat.lt_of_not_le fun behind => ?_
  rw [tasksAt, List.getElem?_append_right (by simpa using behind), List.getElem?_map] at there
  obtain ⟨_, -, same⟩ := Option.map_eq_some_iff.mp there
  cases same
  cases stored

/-- A task that has come to an outcome has been past the source and the cache. -/
theorem Task.hasStored_of_outcomes {task : Task} (some : task.outcomes ≠ []) :
    task.hasAsked = true ∧ task.hasStored = true := by
  cases task with
  | waiting => exact absurd rfl some
  | sent => exact absurd rfl some
  | dropped => exact absurd rfl some
  | finished verified => exact ⟨rfl, rfl⟩
  | underway stage =>
      cases stage with
      | loading => exact absurd rfl some
      | fetching => exact absurd rfl some
      | storing document => exact absurd rfl some
      | listing document => exact ⟨rfl, rfl⟩
      | choosing metadata skipped outcomes paths => exact ⟨rfl, rfl⟩
      | executing metadata skipped outcomes path rest => exact ⟨rfl, rfl⟩

namespace Caching

variable [Kernel] {σ : Type} {harness : Harness} {sink : Sink σ} {start bench : Workbench}
variable {problems : List Problem} {problem : Problem} {tasks : List (Problem × Task)}

/-- Handing an outcome to a sink that spares the corpus. -/
theorem called {source : Source} (caching : Caching source start problems tasks bench)
    (sinkSpares : sink.Spares (Concerns start.machine.files problems)) {outcome : Outcome}
    {state after : σ} {reply : Except String Unit} {left : Workbench}
    (called : ((sink outcome).run state).run bench = ((reply, after), left)) :
    Caching source start problems tasks left := by
  have spared := sinkSpares outcome state bench
  rw [called] at spared
  exact caching.untouched spared.1 spared.2

/-- A worker who is alone verifies a problem to its end. -/
theorem alone (apart : Apart start.machine.files problems)
    (spares : harness.Spares (Concerns start.machine.files problems))
    (sinkSpares : sink.Spares (Concerns start.machine.files problems)) {task : Task} {state : σ}
    {ended : Completed σ ProblemStats}
    (led : Task.Alone harness sink problem task state bench ended)
    (caching : Caching harness.source start problems tasks bench) {place : Nat}
    (there : tasks[place]? = some (problem, task)) :
    Caching harness.source start problems (tasks.set place (problem, .sent)) ended.bench := by
  obtain ⟨inside, -⟩ := List.getElem?_eq_some_iff.mp there
  induction led generalizing tasks with
  | finished verified state bench => exact caching.relabel apart there .sent rfl rfl nofun
  | @step stage state bench left task ended next same led ih =>
      have advanced := caching.advance apart spares there next
      have later := ih advanced (by simp [inside]) (by simpa using inside)
      rwa [List.set_set] at later
  | @taken stage state after bench left given task outcome ended next added called led ih =>
      have advanced := (caching.advance apart spares there next).called sinkSpares called
      have later := ih advanced (by simp [inside]) (by simpa using inside)
      rwa [List.set_set] at later
  | @refused stage state after bench left given task outcome reason next added called =>
      have advanced := (caching.advance apart spares there next).called sinkSpares called
      have some : task.outcomes ≠ [] := by simp [added]
      obtain ⟨asked, stored⟩ := Task.hasStored_of_outcomes some
      have there : (tasks.set place (problem, task))[place]? = Option.some (problem, task) := by
        simp [inside]
      have sent := advanced.relabel apart there .sent asked.symm stored.symm nofun
      rwa [List.set_set] at sent

/-- Verifying a problem that waits. -/
theorem verifyProblem (apart : Apart start.machine.files problems)
    (spares : harness.Spares (Concerns start.machine.files problems))
    (sinkSpares : sink.Spares (Concerns start.machine.files problems))
    (caching : Caching harness.source start problems tasks bench) {place : Nat}
    (there : tasks[place]? = some (problem, .waiting)) (state : σ) :
    Caching harness.source start problems (tasks.set place (problem, .sent))
      ((harness.verifyProblem sink problem).complete state bench).bench := by
  obtain ⟨inside, -⟩ := List.getElem?_eq_some_iff.mp there
  have begun := caching.relabel apart there (.underway .loading) rfl rfl
    fun stage same => by cases same; trivial
  have there : (tasks.set place (problem, .underway .loading))[place]? =
      some (problem, .underway .loading) := by simp [inside]
  have ended := alone apart spares sinkSpares
    (Task.Alone.verifyProblem harness sink problem state bench) begun there
  rwa [List.set_set] at ended

/-- A run takes up problems until it ends.  If it ends well, these are all of them; if not, the run
of any fewer of them would have ended well. -/
theorem runFrom (apart : Apart start.machine.files problems)
    (spares : harness.Spares (Concerns start.machine.files problems))
    (sinkSpares : sink.Spares (Concerns start.machine.files problems))
    (front rest later : List Problem)
    (caching : Caching harness.source start problems (tasksAt front (rest ++ later)) bench)
    (stats : RunStats) (state : σ) :
    let ended := (harness.runFrom sink stats rest).complete state bench
    ∃ taken left, rest = taken ++ left ∧
      Caching harness.source start problems (tasksAt (front ++ taken) (left ++ later)) ended.bench ∧
      (ended.value.isOk = true → left = []) ∧
      ∀ fewer, fewer <+: taken → fewer ≠ taken →
        ((harness.runFrom sink stats fewer).complete state bench).value.isOk = true := by
  induction rest generalizing front stats state bench with
  | nil => exact ⟨[], [], rfl, by simpa using caching, fun _ => rfl, fun fewer initial _ => by
      obtain rfl := List.prefix_nil.mp initial
      rfl⟩
  | cons problem rest ih =>
      have verified := verifyProblem apart spares sinkSpares caching
        (tasksAt_getElem? front (rest ++ later) problem) state
      rw [List.cons_append, tasksAt_set] at verified
      simp only [Harness.complete_runFrom_cons]
      rcases ended : (harness.verifyProblem sink problem).complete state bench with
        ⟨value, after, left⟩
      rw [ended] at verified
      cases value with
      | error error =>
          refine ⟨[problem], rest, rfl, verified, nofun, ?_⟩
          intro fewer initial differs
          rcases List.prefix_cons_iff.mp initial with rfl | ⟨front, rfl, within⟩
          · rfl
          · exact absurd (by rw [List.prefix_nil.mp within]) differs
      | ok found =>
          obtain ⟨taken, left, rfl, caching, all, before⟩ :=
            ih (front ++ [problem]) verified (stats.absorb found) after
          refine ⟨problem :: taken, left, rfl, by simpa using caching, all, ?_⟩
          intro fewer initial differs
          rcases List.prefix_cons_iff.mp initial with rfl | ⟨front, rfl, within⟩
          · rfl
          · rw [Harness.complete_runFrom_cons, ended]
            exact before front within fun same => differs (by rw [same])

end Caching

end CorpusJudge
