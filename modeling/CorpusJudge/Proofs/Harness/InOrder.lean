import CorpusJudge.Proofs.Harness.Changes
import CorpusJudge.Proofs.Harness.Responses
import CorpusJudge.Proofs.Harness.Stages

/-!
# Workers one after the other

The harness runs its workers in the order of the problems, each to the end before the next one
starts.  That is one of the ways in which a crew can move.
-/

namespace CorpusJudge

variable [Kernel] {σ : Type}

theorem Harness.verifyAside_run (harness : Harness) (problem : Problem) (bench : Workbench) :
    (harness.verifyAside problem).run bench =
      let ended := (harness.verifyProblem .keeping problem).complete [] bench
      (⟨ended.state, ended.value⟩, ended.bench) := rfl

namespace Harness

variable (sink : Sink σ) (stats : RunStats) (result : Except HarnessError ProblemStats) (state : σ)
variable (bench : Workbench)

theorem complete_replay_nil :
    (replay sink stats ⟨[], result⟩).complete state bench =
      ⟨result.map stats.absorb, state, bench⟩ := by
  cases result <;> rfl

theorem complete_replay_cons (outcome : Outcome) (outcomes : List Outcome) :
    (replay sink stats ⟨outcome :: outcomes, result⟩).complete state bench =
      match ((sink outcome).run state).run bench with
      | ((.ok (), after), left) => (replay sink stats ⟨outcomes, result⟩).complete after left
      | ((.error reason, after), left) => ⟨.error (.output reason), after, left⟩ := by
  have unfolded : (outcome :: outcomes).forM (deliver sink) =
      (do deliver sink outcome; outcomes.forM (deliver sink)) := rfl
  simp only [replay, unfolded, Verification.complete_bind, Verification.complete_deliver]
  rcases ((sink outcome).run state).run bench with ⟨⟨reply, after⟩, left⟩
  cases reply <;> rfl

end Harness

namespace Crew

variable {harness : Harness} {sink : Sink σ} {jobs : Nat} {first crew : Crew σ}

/-- A worker verifies a problem while nobody else moves. -/
theorem Reached.alone {problem : Problem} {task : Task} {outcomes : List Outcome}
    {bench : Workbench} {ended : Completed (List Outcome) ProblemStats}
    (led : Task.Alone harness .keeping problem task outcomes bench ended)
    (reached : Reached harness sink jobs first crew) {place : Nat} (kept : outcomes = task.outcomes)
    (there : crew.tasks[place]? = some (problem, task)) (here : crew.bench = bench) :
    Reached harness sink jobs first
      { crew.assign place problem (.finished ⟨ended.state, ended.value⟩) with
        bench := ended.bench } := by
  induction led generalizing crew with
  | finished verified outcomes bench =>
      subst kept here
      rw [show (Task.finished ⟨(Task.finished verified).outcomes, verified.result⟩) =
        Task.finished verified from rfl, assign_self there]
      exact reached
  | @step stage outcomes bench left task ended next same led ih =>
      subst here
      have later := ih (reached.change (.advanced there next)) (kept.trans same.symm)
        (by simpa using assign_getElem? there task place) rfl
      simpa [assign] using later
  | @taken stage outcomes after bench left given task outcome ended next added called led ih =>
      subst here
      obtain ⟨rfl, rfl⟩ : outcomes ++ [outcome] = after ∧ left = given := by
        cases called
        exact ⟨rfl, rfl⟩
      have later := ih (reached.change (.advanced there next)) (by rw [added, kept])
        (by simpa using assign_getElem? there task place) rfl
      simpa [assign] using later
  | refused next added called => cases called

/-- A worker takes up a problem, verifies it and sends what has been found; then the clerk takes the
message out of the mailbox. -/
theorem Reached.verified (reached : Reached harness sink jobs first crew) {problem : Problem}
    {place : Nat} (waits : crew.tasks[place]? = some (problem, .waiting)) (free : crew.busy < jobs)
    (unanswered : crew.answer = none) (nothing : crew.ready = []) (empty : crew.mailbox = [])
    {verified : Verified} {bench : Workbench} {ready : List Verified}
    {buffer : ReorderBuffer Verified}
    (aside : (harness.verifyAside problem).run crew.bench = (verified, bench))
    (arrival : crew.buffer.receive place verified = (ready, buffer)) :
    Reached harness sink jobs first
      { crew.assign place problem .sent with
        bench := bench, buffer := buffer, ready := ready } := by
  rw [Harness.verifyAside_run] at aside
  obtain ⟨rfl, rfl⟩ := Prod.mk.inj aside
  have begun : (crew.assign place problem (.underway .loading)).tasks[place]? =
      some (problem, .underway .loading) := by
    simpa using assign_getElem? waits (.underway .loading) place
  have finished := (reached.change (.taken waits free)).alone
    (Task.Alone.verifyProblem harness .keeping problem [] crew.bench) rfl begun rfl
  simp only [assign_assign] at finished
  have sent := finished.change (.sent (by simpa using assign_getElem? waits _ place))
  have letter (message : Nat × Verified) : crew.mailbox ++ [message] = [message] := by
    rw [empty, List.nil_append]
  have received := sent.change (.received unanswered nothing (letter _) arrival)
  simpa [assign, empty] using received

/-- The clerk hands on what was found about a problem. -/
theorem Reached.replayed (reached : Reached harness sink jobs first crew) {verified : Verified}
    {ready : List Verified} (unanswered : crew.answer = none)
    (all : crew.ready = verified :: ready) :
    match (Harness.replay sink crew.stats verified).complete crew.state crew.bench with
    | ⟨.ok stats, state, bench⟩ =>
        Reached harness sink jobs first
          { crew with ready := ready, stats := stats, state := state, bench := bench }
    | ⟨.error error, state, bench⟩ =>
        ∃ left, Reached harness sink jobs first
          { crew with
            ready := left, state := state, bench := bench, answer := some (.error error) } := by
  obtain ⟨outcomes, result⟩ := verified
  induction outcomes generalizing crew with
  | nil =>
      rw [Harness.complete_replay_nil]
      cases result with
      | ok found => exact reached.change (.absorbed unanswered all)
      | error error => exact ⟨_, reached.change (.failed unanswered all)⟩
  | cons outcome outcomes ih =>
      rw [Harness.complete_replay_cons]
      rcases called : ((sink outcome).run crew.state).run crew.bench with ⟨⟨reply, after⟩, left⟩
      cases reply with
      | error reason => exact ⟨_, reached.change (.refused unanswered all called)⟩
      | ok _ => exact ih (reached.change (.handed unanswered all called)) unanswered rfl

/-- The clerk hands on everything that is ready, up to the first error. -/
theorem Reached.delivered (reached : Reached harness sink jobs first crew) {ready : List Verified}
    (unanswered : crew.answer = none) (all : crew.ready = ready) :
    match (ready.foldlM (Harness.replay sink) crew.stats).complete crew.state crew.bench with
    | ⟨.ok stats, state, bench⟩ =>
        Reached harness sink jobs first
          { crew with ready := [], stats := stats, state := state, bench := bench }
    | ⟨.error error, state, bench⟩ =>
        ∃ stats left, Reached harness sink jobs first
          { crew with
            ready := left, stats := stats, state := state, bench := bench,
            answer := some (.error error) } := by
  induction ready generalizing crew with
  | nil =>
      have same : crew = { crew with ready := [] } := by
        rw [← all]
      simp only [List.foldlM_nil, Verification.complete_pure]
      rwa [← same]
  | cons verified ready ih =>
      have replayed := reached.replayed unanswered all
      rw [List.foldlM_cons, Verification.complete_bind]
      rcases ended : (Harness.replay sink crew.stats verified).complete crew.state crew.bench with
        ⟨value, after, left⟩
      rw [ended] at replayed
      cases value with
      | error error => exact ⟨_, replayed⟩
      | ok stats => exact ih replayed unanswered rfl

/-! ## One problem after the other -/

/-- The problems in front are done with, the rest of them waits. -/
structure Divided (crew : Crew σ) (front : List (Problem × Task)) (rest : List Problem) : Prop where
  tasks : crew.tasks = front ++ rest.map (·, .waiting)
  ended : ∀ entry ∈ front, entry.2.hasEnded = true

variable {front : List (Problem × Task)} {problem : Problem} {rest : List Problem}

theorem Divided.start (problems : List Problem) (state : σ) (bench : Workbench) :
    (Crew.start problems state bench).Divided [] problems where
  tasks := rfl
  ended := by simp

theorem Divided.free (divided : crew.Divided front rest) (someone : 1 ≤ jobs) :
    crew.busy < jobs := by
  have nobody : crew.busy = 0 := by
    refine List.countP_eq_zero.mpr fun entry member => ?_
    rw [divided.tasks] at member
    rcases List.mem_append.mp member with before | waits
    · have ended := divided.ended entry before
      obtain ⟨problem, task⟩ := entry
      cases task <;> simp_all [Task.isBusy, Task.hasEnded]
    · obtain ⟨problem, -, rfl⟩ := List.mem_map.mp waits
      simp [Task.isBusy]
  omega

theorem Divided.waits (divided : crew.Divided front (problem :: rest)) :
    crew.tasks[front.length]? = some (problem, .waiting) := by
  simp [divided.tasks]

theorem Divided.assign (divided : crew.Divided front (problem :: rest)) (task : Task)
    (ended : task.hasEnded = true) :
    (crew.assign front.length problem task).Divided (front ++ [(problem, task)]) rest where
  tasks := by simp [Crew.assign, divided.tasks]
  ended := by
    intro entry member
    rcases List.mem_append.mp member with before | last
    · exact divided.ended entry before
    · rw [List.mem_singleton.mp last]
      exact ended

theorem Divided.idle (divided : crew.Divided front []) : crew.isIdle = true := by
  refine List.all_eq_true.mpr fun entry member => divided.ended entry ?_
  simpa [divided.tasks] using member

/-- Once the run is aborted, a worker drops everything that still waits. -/
theorem Reached.aborted (reached : Reached harness sink jobs first crew) (someone : 1 ≤ jobs)
    (divided : crew.Divided front rest) {error : HarnessError}
    (answer : crew.answer = some (.error error)) :
    ∃ after, Reached harness sink jobs first after ∧ after.isOver = true ∧
      after.answer = some (.error error) ∧ after.state = crew.state ∧ after.bench = crew.bench := by
  induction rest generalizing crew front with
  | nil => exact ⟨crew, reached, by simp [isOver, answer, divided.idle], answer, rfl, rfl⟩
  | cons problem rest ih =>
      have dropped := reached.change
        (.dropped divided.waits (divided.free someone) (by simp [isAborted, answer]))
      obtain ⟨after, finished⟩ := ih dropped (divided.assign .dropped rfl) answer
      exact ⟨after, finished⟩

/-- A run in the order of the problems is one of the runs of a crew. -/
theorem Reached.inOrder (reached : Reached harness sink jobs first crew) (someone : 1 ≤ jobs)
    (divided : crew.Divided front rest) (unanswered : crew.answer = none)
    (nothing : crew.ready = []) (empty : crew.mailbox = []) :
    let places := (rest.zipIdx front.length).map fun (problem, place) => (place, problem)
    let ended :=
      (harness.runInOrder sink crew.stats crew.buffer places).complete crew.state crew.bench
    ∃ after, Reached harness sink jobs first after ∧ after.isOver = true ∧
      after.answer = some ended.value ∧ after.state = ended.state ∧ after.bench = ended.bench := by
  induction rest generalizing crew front with
  | nil =>
      have idle : isIdle { crew with answer := some (.ok crew.stats) } = true := divided.idle
      exact ⟨_, reached.change (.closed unanswered nothing empty divided.idle),
        by simp [isOver, idle], rfl, rfl, rfl⟩
  | cons problem rest ih =>
      rcases aside : (harness.verifyAside problem).run crew.bench with ⟨found, left⟩
      rcases arrival : crew.buffer.receive front.length found with ⟨ready, buffer⟩
      have delivered := (reached.verified divided.waits (divided.free someone) unanswered nothing
        empty aside arrival).delivered unanswered rfl
      have assigned := divided.assign .sent rfl
      simp only [List.zipIdx_cons, List.map_cons, Harness.runInOrder]
      rw [Verification.complete_onBench_bind, aside]
      simp only [arrival, Verification.complete_bind]
      simp only [Crew.assign] at delivered assigned
      rcases handed : (ready.foldlM (Harness.replay sink) crew.stats).complete crew.state left with
        ⟨value, after, given⟩
      rw [handed] at delivered
      cases value with
      | error error =>
          obtain ⟨stats, remains, refused⟩ := delivered
          exact refused.aborted someone ⟨assigned.tasks, assigned.ended⟩ rfl
      | ok stats =>
          have later := ih delivered ⟨assigned.tasks, assigned.ended⟩ unanswered rfl empty
          rw [List.length_append, List.length_singleton] at later
          exact later

/-- What the harness does with its workers is one of the runs of a crew. -/
theorem reached_runParallel (harness : Harness) (sink : Sink σ) (someone : 1 ≤ jobs)
    (problems : List Problem) (state : σ) (bench : Workbench) :
    let ended := (harness.runParallel sink problems).complete state bench
    ∃ crew, Reached harness sink jobs (start problems state bench) crew ∧ crew.isOver = true ∧
      crew.answer = some ended.value ∧ crew.state = ended.state ∧ crew.bench = ended.bench :=
  Reached.first.inOrder someone (.start problems state bench) rfl rfl rfl

end Crew

end CorpusJudge
