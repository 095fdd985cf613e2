import CorpusJudge.Proofs.Harness.InOrder

/-!
# Sinks in step

Two sinks are in step if they reply alike, leave the same workbench, and stay related in their own
states.  Then so are the runs that they take part in, whichever way workers are scheduled.  A sink
that also keeps a record of its deliveries is in step with the sink itself.
-/

namespace CorpusJudge

variable [Kernel] {σ τ α : Type}

/-- An outcome that was handed to a sink, and the files as they were then. -/
structure Delivery where
  outcome : Outcome
  files : FileTree

namespace Sink

/-- The sink with a record of its deliveries. -/
def watched (sink : Sink σ) : Sink (σ × List Delivery) := fun outcome => do
  let (state, deliveries) ← get
  let files ← liftM Work.files
  let (reply, state) ← (sink outcome).run state
  set (state, deliveries ++ [⟨outcome, files⟩])
  return reply

theorem watched_run (sink : Sink σ) (outcome : Outcome) (state : σ) (deliveries : List Delivery)
    (bench : Workbench) :
    ((sink.watched outcome).run (state, deliveries)).run bench =
      let ((reply, after), left) := ((sink outcome).run state).run bench
      ((reply, (after, deliveries ++ [⟨outcome, bench.machine.files⟩])), left) := rfl

/-- What has been delivered before stays on record, and the files are those before the call. -/
theorem deliveries_of_watched {sink : Sink σ} {outcome : Outcome} {state after : σ × List Delivery}
    {bench left : Workbench} {reply : Except String Unit}
    (called : ((sink.watched outcome).run state).run bench = ((reply, after), left)) :
    after.2 = state.2 ++ [⟨outcome, bench.machine.files⟩] := by
  obtain ⟨state, deliveries⟩ := state
  rw [watched_run] at called
  rcases ((sink outcome).run state).run bench with ⟨⟨_, _⟩, _⟩
  cases called
  rfl

/-- Where the states of two sinks are related, the sinks reply alike, leave the same workbench, and
their states stay related. -/
def InStep (sink : Sink σ) (other : Sink τ) (related : σ → τ → Prop) : Prop :=
  ∀ outcome state mate bench, related state mate →
    ∃ reply after next left, ((sink outcome).run state).run bench = ((reply, after), left) ∧
      ((other outcome).run mate).run bench = ((reply, next), left) ∧ related after next

end Sink

/-- What two parts of a run come to is the same, up to related states. -/
inductive Completed.InStep (related : σ → τ → Prop) : Completed σ α → Completed τ α → Prop where
  | intro {value : Except HarnessError α} {state : σ} {mate : τ} {bench : Workbench} :
      related state mate → InStep related ⟨value, state, bench⟩ ⟨value, mate, bench⟩

namespace Harness

variable {sink : Sink σ} {other : Sink τ} {related : σ → τ → Prop} (harness : Harness)

theorem inStep_verifySolutions (inStep : sink.InStep other related) (metadata : Metadata)
    (skipped : Nat) (paths : List Path) {state : σ} {mate : τ} (together : related state mate)
    (bench : Workbench) :
    Completed.InStep related
      ((harness.verifySolutions sink metadata skipped paths).complete state bench)
      ((harness.verifySolutions other metadata skipped paths).complete mate bench) := by
  induction paths generalizing skipped state mate bench with
  | nil => exact ⟨together⟩
  | cons path rest ih =>
      rw [complete_verifySolutions_cons, complete_verifySolutions_cons]
      rcases (harness.eligible? metadata path).run bench with ⟨eligible, left⟩
      cases eligible with
      | false => exact ih (skipped + 1) together left
      | true =>
          simp only
          rcases (harness.judge path metadata.inputBytes metadata.expectedBytes).run left with
            ⟨reply, left⟩
          cases reply with
          | error error => exact ⟨together⟩
          | ok outcome =>
              obtain ⟨reply, after, next, given, called, alike, stays⟩ :=
                inStep outcome state mate left together
              simp only [called, alike]
              cases reply with
              | error reason => exact ⟨stays⟩
              | ok _ => exact ih skipped stays given

theorem inStep_verifyProblem (inStep : sink.InStep other related) (problem : Problem) {state : σ}
    {mate : τ} (together : related state mate) (bench : Workbench) :
    Completed.InStep related ((harness.verifyProblem sink problem).complete state bench)
      ((harness.verifyProblem other problem).complete mate bench) := by
  rw [complete_verifyProblem, complete_verifyProblem]
  rcases (problem.resolve harness.source).run bench with ⟨metadata?, left⟩
  cases metadata? with
  | none => exact ⟨together⟩
  | some metadata =>
      simp only
      cases problem.listSolutions left.machine.files with
      | error error => exact ⟨together⟩
      | ok paths =>
          have verified := harness.inStep_verifySolutions inStep metadata 0 paths together left
          simp only
          generalize (harness.verifySolutions sink metadata 0 paths).complete state left = ended
            at verified ⊢
          generalize (harness.verifySolutions other metadata 0 paths).complete mate left = alike
            at verified ⊢
          obtain ⟨stays⟩ := verified
          exact ⟨stays⟩

theorem inStep_runFrom (inStep : sink.InStep other related) (stats : RunStats)
    (problems : List Problem) {state : σ} {mate : τ} (together : related state mate)
    (bench : Workbench) :
    Completed.InStep related ((harness.runFrom sink stats problems).complete state bench)
      ((harness.runFrom other stats problems).complete mate bench) := by
  induction problems generalizing stats state mate bench with
  | nil => exact ⟨together⟩
  | cons problem rest ih =>
      have verified := harness.inStep_verifyProblem inStep problem together bench
      rw [complete_runFrom_cons, complete_runFrom_cons]
      generalize (harness.verifyProblem sink problem).complete state bench = ended at verified ⊢
      generalize (harness.verifyProblem other problem).complete mate bench = alike at verified ⊢
      obtain @⟨reply, after, next, left, stays⟩ := verified
      cases reply with
      | error error => exact ⟨stays⟩
      | ok found => exact ih (stats.absorb found) stays left

end Harness

/-! ## Crews -/

namespace Crew

variable {harness : Harness} {sink : Sink σ} {other : Sink τ} {related : σ → τ → Prop}
variable {jobs : Nat} {crew next first : Crew σ}

/-- The crew with another state of its sink. -/
def withState (crew : Crew σ) (state : τ) : Crew τ where
  tasks := crew.tasks
  mailbox := crew.mailbox
  buffer := crew.buffer
  ready := crew.ready
  stats := crew.stats
  state := state
  bench := crew.bench
  answer := crew.answer

/-- Whatever changes a crew changes the other one too. -/
theorem Change.inStep (inStep : sink.InStep other related)
    (changed : Change harness sink jobs crew next) {mate : τ}
    (together : related crew.state mate) :
    ∃ after, related next.state after ∧
      Change harness other jobs (crew.withState mate) (next.withState after) := by
  cases changed with
  | taken waits free => exact ⟨mate, together, .taken waits free⟩
  | dropped waits free aborted => exact ⟨mate, together, .dropped waits free aborted⟩
  | advanced busy advanced => exact ⟨mate, together, .advanced busy advanced⟩
  | sent busy => exact ⟨mate, together, .sent busy⟩
  | received unanswered nothing arrived received =>
      exact ⟨mate, together, .received unanswered nothing arrived received⟩
  | @handed outcome _ _ _ _ _ unanswered begins called =>
      obtain ⟨_, _, after, _, same, alike, stays⟩ := inStep outcome _ mate crew.bench together
      rw [called] at same
      cases same
      exact ⟨after, stays, .handed unanswered begins alike⟩
  | @refused outcome _ _ _ _ _ _ unanswered begins called =>
      obtain ⟨_, _, after, _, same, alike, stays⟩ := inStep outcome _ mate crew.bench together
      rw [called] at same
      cases same
      exact ⟨after, stays, .refused unanswered begins alike⟩
  | absorbed unanswered begins => exact ⟨mate, together, .absorbed unanswered begins⟩
  | failed unanswered begins => exact ⟨mate, together, .failed unanswered begins⟩
  | closed unanswered nothing nobody idle =>
      exact ⟨mate, together, .closed unanswered nothing nobody idle⟩

/-- Whatever a crew reaches the other one reaches too. -/
theorem Reached.inStep (inStep : sink.InStep other related)
    (reached : Reached harness sink jobs first crew) {mate : τ}
    (together : related first.state mate) :
    ∃ after, related crew.state after ∧
      Reached harness other jobs (first.withState mate) (crew.withState after) := by
  induction reached with
  | first => exact ⟨mate, together, .first⟩
  | move move _ stepped ih =>
      obtain ⟨before, together, reached⟩ := ih
      obtain ⟨after, stays, changed⟩ := (change_of_step stepped).inStep inStep together
      exact ⟨after, stays, reached.change changed⟩

end Crew

/-! ## Ends -/

namespace Harness

/-- What verifying problems by a number of workers can come to.  One worker goes through them in
order; more of them move in any order that a crew can. -/
inductive Ends (harness : Harness) (sink : Sink σ) (jobs : Nat) (problems : List Problem) (state : σ)
    (bench : Workbench) : Completed σ RunStats → Prop where
  | alone : jobs = 1 →
      Ends harness sink jobs problems state bench
        ((harness.run sink problems).complete state bench)
  | crew {crew : Crew σ} {value : Except HarnessError RunStats} : jobs ≠ 1 →
      Crew.Reached harness sink jobs (.start problems state bench) crew → crew.isOver = true →
      crew.answer = some value →
      Ends harness sink jobs problems state bench ⟨value, crew.state, crew.bench⟩

variable {harness : Harness} {sink : Sink σ} {other : Sink τ} {related : σ → τ → Prop} {jobs : Nat}
variable {problems : List Problem} {state : σ} {bench : Workbench} {ended : Completed σ RunStats}

/-- A single worker can come to one end only. -/
theorem Ends.alone_eq (ends : harness.Ends sink 1 problems state bench ended) :
    ended = (harness.run sink problems).complete state bench := by
  cases ends with
  | alone => rfl
  | crew several => exact absurd rfl several

/-- With a sink in step, a run can come to the same. -/
theorem Ends.inStep (inStep : sink.InStep other related)
    (ends : harness.Ends sink jobs problems state bench ended) (mate : τ)
    (together : related state mate) :
    ∃ after, related ended.state after ∧
      harness.Ends other jobs problems mate bench ⟨ended.value, after, ended.bench⟩ := by
  cases ends with
  | alone single =>
      have ran := harness.inStep_runFrom inStep .zero problems together bench
      have ends : harness.Ends other jobs problems mate bench
          ((harness.run other problems).complete mate bench) := .alone single
      rw [run_eq_runFrom] at ends ⊢
      generalize (harness.runFrom sink .zero problems).complete state bench = ended at ran ⊢
      generalize (harness.runFrom other .zero problems).complete mate bench = alike at ran ends
      obtain ⟨stays⟩ := ran
      exact ⟨_, stays, ends⟩
  | crew several reached allOver answer =>
      obtain ⟨after, stays, reached⟩ := reached.inStep inStep together
      exact ⟨after, stays, .crew several reached allOver answer⟩

/-- What the harness itself does with its workers is among that. -/
theorem ends_verify (someone : 1 ≤ jobs) :
    harness.Ends sink jobs problems state bench
      ((if jobs = 1 then harness.run sink problems
        else harness.runParallel sink problems : Verification σ RunStats).complete state bench) := by
  split
  · next single => exact .alone single
  · next several =>
      obtain ⟨crew, reached, allOver, answer, sameState, sameBench⟩ :=
        Crew.reached_runParallel harness sink someone problems state bench
      have ends := Ends.crew several reached allOver answer
      rwa [sameState, sameBench] at ends

end Harness

end CorpusJudge
