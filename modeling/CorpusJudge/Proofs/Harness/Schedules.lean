import CorpusJudge.Proofs.Cache.Settled
import CorpusJudge.Proofs.Harness.InOrder
import CorpusJudge.Proofs.Harness.Interleaving
import CorpusJudge.Proofs.Harness.Progress

/-!
# Schedules

A crew over settled problems hands the sink what a run without workers hands it, whichever way its
moves are ordered, and comes to the same answer.
-/

namespace CorpusJudge

section

variable [Kernel] {σ : Type} {harness : Harness} {world : Workbench → Prop} {problems : List Problem}
variable {found : Problem → Verified} {sink : Sink σ} {respond : Response σ}

/-- A run over settled problems comes to what the findings about all of them amount to. -/
theorem Harness.Settled.run (settled : harness.Settled world problems found)
    (responds : sink.Responds respond) (keeps : sink.Keeps world) (state : σ) {bench : Workbench}
    (here : world bench) :
    let ended := (harness.run sink problems).complete state bench
    (ended.value, ended.state) = respond.replayAll .zero (problems.map found) state :=
  (settled.runFrom responds keeps (fun _ member => member) .zero state here).2

/-- A log of the calls changes nothing else about a run over settled problems. -/
theorem Harness.Settled.run_logged (settled : harness.Settled world problems found)
    (responds : sink.Responds respond) (keeps : sink.Keeps world) (state : σ) {bench : Workbench}
    (here : world bench) :
    let logged := (harness.run sink.logged problems).complete (state, []) bench
    let plain := (harness.run sink problems).complete state bench
    logged.value = plain.value ∧ logged.state = (plain.state, logged.state.2) := by
  intro logged plain
  have plainly := settled.run responds keeps state here
  have whole := settled.run responds.logged keeps.logged (state, []) here
  obtain ⟨value, same⟩ := respond.replayAll_logged_fst .zero (problems.map found) state []
  rw [← plainly, ← whole] at value same
  exact ⟨value, Prod.ext same rfl⟩

namespace Crew

variable {jobs : Nat} {crew : Crew σ}

/-- The state of the clerk's sink only ever moves on towards what the run comes to. -/
theorem log_prefix_outlook (found : Problem → Verified) (known : List Problem)
    (respond : Response σ) (crew : Crew (σ × List (Outcome × Bool))) :
    crew.state.2 <+: (crew.outlook found known respond.logged).2.2 := by
  unfold outlook
  split
  · exact List.prefix_rfl
  · exact (respond.replayAll_logged _ _ _ _).1

/-- A run that is over has its outlook for an answer. -/
theorem outlook_of_isOver (found : Problem → Verified) (known : List Problem)
    (respond : Response σ) (finished : crew.isOver = true) :
    ∃ value, crew.answer = some value ∧
      crew.outlook found known respond = (value, crew.state) := by
  simp only [isOver, Bool.and_eq_true, Option.isSome_iff_exists] at finished
  obtain ⟨⟨value, answer⟩, -⟩ := finished
  exact ⟨value, answer, by simp [outlook, answer]⟩

/-- A run that has ended well has sent what was found about all the problems. -/
theorem Reached.allSent {state : σ} {bench : Workbench}
    (reached : Reached harness sink jobs (start problems state bench) crew)
    (finished : crew.isOver = true) {stats : RunStats} (answer : crew.answer = some (.ok stats)) :
    crew.tasks = problems.map (·, .sent) := by
  have fine : crew.isAborted = false := by simp [isAborted, answer]
  exact reached.enrolled.allSent fine (Bool.and_eq_true_iff.mp finished).2

/-- Whatever moves have been made, the run comes to what a run without workers comes to. -/
theorem Reached.comes (settled : harness.Settled world problems found)
    (responds : sink.Responds respond) (keeps : sink.Keeps world) {state : σ} {bench : Workbench}
    (here : world bench) (reached : Reached harness sink jobs (start problems state bench) crew) :
    let ended := (harness.run sink problems).complete state bench
    crew.outlook found problems respond = (ended.value, ended.state) := by
  obtain ⟨-, posted, outlook⟩ := reached.outlook settled responds keeps here
  rw [outlook problems List.prefix_rfl (posted.next_le reached.enrolled)]
  exact (settled.run responds keeps state here).symm

/-- A run that is over has the answer of a run without workers, and its sink is in the same state. -/
theorem Reached.ends (settled : harness.Settled world problems found)
    (responds : sink.Responds respond) (keeps : sink.Keeps world) {state : σ} {bench : Workbench}
    (here : world bench) (reached : Reached harness sink jobs (start problems state bench) crew)
    (finished : crew.isOver = true) :
    let ended := (harness.run sink problems).complete state bench
    crew.answer = some ended.value ∧ crew.state = ended.state := by
  obtain ⟨value, answer, outlook⟩ := outlook_of_isOver found problems respond finished
  rw [reached.comes settled responds keeps here] at outlook
  obtain ⟨rfl, same⟩ := Prod.mk.inj outlook
  exact ⟨answer, same.symm⟩

/-- Whichever way the moves of a crew are ordered, it calls the sink as a run without workers does,
as far as it gets, and never again after a refusal; only finitely many moves follow one another; as
long as the run is not over, some move is possible; and once it is over, the sink has been called
for everything, and the answer is the same.  The harness itself moves in one of these ways. -/
theorem agrees_with_run (settled : harness.Settled world problems found)
    (responds : sink.Responds respond) (keeps : sink.Keeps world) (someone : 1 ≤ jobs) (state : σ)
    {bench : Workbench} (here : world bench) :
    let sequential := (harness.run sink problems).complete state bench
    let calls := ((harness.run sink.logged problems).complete (state, []) bench).state.2
    let parallel := (harness.runParallel sink.logged problems).complete (state, []) bench
    Orderly calls ∧
      (WellFounded fun after before : Crew (σ × List (Outcome × Bool)) =>
        ∃ move, before.step harness sink.logged jobs move = some after) ∧
      (∀ crew, Reached harness sink.logged jobs (start problems (state, []) bench) crew →
        crew.state.2 <+: calls ∧
          (crew.isOver = false →
            ∃ move next, crew.step harness sink.logged jobs move = some next) ∧
          (crew.isOver = true →
            crew.answer = some sequential.value ∧ crew.state = (sequential.state, calls))) ∧
      parallel.value = sequential.value ∧ parallel.state = (sequential.state, calls) := by
  intro sequential calls parallel
  obtain ⟨sameValue, sameState⟩ := settled.run_logged responds keeps state here
  have ends {crew : Crew (σ × List (Outcome × Bool))}
      (reached : Reached harness sink.logged jobs (start problems (state, []) bench) crew)
      (finished : crew.isOver = true) :
      crew.answer = some sequential.value ∧ crew.state = (sequential.state, calls) := by
    obtain ⟨answer, same⟩ := reached.ends settled responds.logged keeps.logged here finished
    exact ⟨answer.trans (congrArg some sameValue), same.trans sameState⟩
  refine ⟨?_, moves_end harness sink.logged jobs, ?_, ?_⟩
  · obtain ⟨-, orderly⟩ := respond.replayAll_logged .zero (problems.map found) state []
    rw [← settled.run responds.logged keeps.logged (state, []) here] at orderly
    exact orderly (by simp)
  · intro crew reached
    refine ⟨?_, ?_, ends reached⟩
    · have longer := log_prefix_outlook found problems respond crew
      rwa [reached.comes settled responds.logged keeps.logged here] at longer
    · intro goesOn
      obtain ⟨next, changed⟩ := exists_change someone goesOn
      obtain ⟨move, stepped⟩ := changed.exists_move
      exact ⟨move, next, stepped⟩
  · obtain ⟨crew, reached, finished, answer, same, -⟩ :=
      reached_runParallel harness sink.logged someone problems (state, []) bench
    obtain ⟨value, whole⟩ := ends reached finished
    rw [answer] at value
    rw [same] at whole
    exact ⟨Option.some.inj value, whole⟩

end Crew

end

attribute [local instance] Platform.small in
/-- On the sample corpus, two workers report in order that one solution fails and the other one passes,
whichever way they move. -/
theorem Crew.agrees_with_run_sample :
    let parallel :=
      (Harness.sample.runParallel Sink.keeping.logged Problem.samples).complete ([], []) .sample
    parallel.value = .ok ⟨2, 0⟩ ∧ parallel.state.2 = Outcome.samples.map (·, true) ∧
      ∀ crew, Reached Harness.sample Sink.keeping.logged 2 (start Problem.samples ([], []) .sample)
        crew → crew.isOver = true → crew.state.2 = Outcome.samples.map (·, true) := by
  intro parallel
  have settled := Harness.settled Problem.samples_apart FileTree.sample_wellFormed
    (Harness.sample_spares _) Harness.sample_replies
  have here : Filled Harness.sample.source .sample Problem.samples
      Workbench.sample.machine.files := .refl _ _ FileTree.sample_wellFormed
  have two : 1 ≤ 2 := by decide
  obtain ⟨-, -, reached, value, state⟩ := agrees_with_run settled Sink.keeping_responds
    (fun _ _ _ here => here) two [] here
  obtain ⟨kept, left, sequential, -⟩ := Harness.sample_run
  obtain ⟨plain, -⟩ := settled.run_logged Sink.keeping_responds (fun _ _ _ here => here) [] here
  rw [← plain, sequential] at value
  rw [sequential] at state reached
  refine ⟨value, congrArg Prod.snd state, fun crew moves finished => ?_⟩
  obtain ⟨-, -, ends⟩ := reached crew moves
  exact congrArg Prod.snd (ends finished).2

end CorpusJudge
