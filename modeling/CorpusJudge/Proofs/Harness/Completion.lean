import CorpusJudge.Harness.Parallel

/-!
# Completing part of a run

Part of a run takes the sink's state and the workbench along.  Completing it gives its value and
what both have become; every way of combining parts has an equation about completion, so that
nothing else has to look inside the monads.
-/

namespace CorpusJudge

variable [Kernel] {σ α β : Type}

/-- What part of a run comes to: its value, the sink's state, and the workbench. -/
structure Completed (σ α : Type) where
  value : Except HarnessError α
  state : σ
  bench : Workbench

namespace Verification

/-- Carry out part of a run, with the sink in some state, on a workbench. -/
def complete (work : Verification σ α) (state : σ) (bench : Workbench) : Completed σ α :=
  let ((value, state), bench) := (work.run.run state).run bench
  ⟨value, state, bench⟩

@[simp] theorem complete_pure (value : α) (state : σ) (bench : Workbench) :
    complete (pure value : Verification σ α) state bench = ⟨.ok value, state, bench⟩ := rfl

@[simp] theorem complete_onBench (work : Work α) (state : σ) (bench : Workbench) :
    complete (Harness.onBench work : Verification σ α) state bench =
      ⟨.ok (work.run bench).1, state, (work.run bench).2⟩ := rfl

theorem complete_bind (work : Verification σ α) (next : α → Verification σ β) (state : σ)
    (bench : Workbench) :
    complete (work >>= next) state bench =
      match complete work state bench with
      | ⟨.ok value, state, bench⟩ => complete (next value) state bench
      | ⟨.error error, state, bench⟩ => ⟨.error error, state, bench⟩ := by
  unfold complete
  simp only [ExceptT.run_bind, StateT.run_bind]
  simp only [bind]
  rcases (StateT.run (StateT.run (ExceptT.run work) state) bench :
    (Except HarnessError α × σ) × Workbench) with ⟨⟨value, state⟩, bench⟩
  cases value <;> rfl

@[simp] theorem complete_onBench_bind (work : Work α) (next : α → Verification σ β) (state : σ)
    (bench : Workbench) :
    complete (Harness.onBench work >>= next) state bench =
      complete (next (work.run bench).1) state (work.run bench).2 := by
  rw [complete_bind, complete_onBench]

theorem complete_deliver (sink : Sink σ) (outcome : Outcome) (state : σ) (bench : Workbench) :
    complete (Harness.deliver sink outcome) state bench =
      match ((sink outcome).run state).run bench with
      | ((.ok (), state), bench) => ⟨.ok (), state, bench⟩
      | ((.error reason, state), bench) => ⟨.error (.output reason), state, bench⟩ := by
  unfold complete Harness.deliver
  simp only [ExceptT.run_mk, StateT.run_bind]
  rcases (StateT.run (StateT.run (sink outcome) state) bench :
    (Except String Unit × σ) × Workbench) with ⟨⟨reply, state⟩, bench⟩
  cases reply <;> rfl

end Verification

/-! ## Work on the bench -/

/-- The workbench with one more event in its journal. -/
def Workbench.noting (bench : Workbench) (event : Event) : Workbench :=
  { bench with journal := bench.journal ++ [event] }

namespace Work

@[simp] theorem run_pure (value : α) (bench : Workbench) :
    (pure value : Work α).run bench = (value, bench) := rfl

theorem run_bind (work : Work α) (next : α → Work β) (bench : Workbench) :
    (work >>= next).run bench = (next (work.run bench).1).run (work.run bench).2 := rfl

@[simp] theorem run_files (bench : Workbench) :
    files.run bench = (bench.machine.files, bench) := rfl

@[simp] theorem run_note (event : Event) (bench : Workbench) :
    (note event).run bench = ((), bench.noting event) := rfl

@[simp] theorem run_clock (bench : Workbench) : clock.run bench = (bench.machine.clock, bench) :=
  rfl

theorem run_replace (path : Path) (content : Bytes) (bench : Workbench) :
    (replace path content).run bench = ((bench.machine.files.replace path content).1, { bench with
      machine := bench.machine.withFiles (bench.machine.files.replace path content).2 }) := rfl

theorem run_write (path : Path) (content : Bytes) (bench : Workbench) :
    (write path content).run bench =
      match bench.machine.files.write path content with
      | .error error => (.error error, bench)
      | .ok files => (.ok (), { bench with machine := bench.machine.withFiles files }) := by
  simp only [write, change, run_bind, run_files]
  cases bench.machine.files.write path content <;> rfl

theorem run_execute (executor : Executor) (solution : Path) (input : Bytes) (bench : Workbench) :
    (execute executor solution input).run bench =
      let (result, machine) := executor solution input bench.machine
      (result, { bench with machine := machine }) := rfl

end Work

namespace Problem

variable (problem : Problem) (source : Source) (bench : Workbench)

theorem fetchAndStore_run :
    (problem.fetchAndStore source).run bench =
      match source problem.name with
      | .error error => (.error (.request error), bench.noting (.fetching problem.name))
      | .ok content =>
          match (Work.write problem.metadataPath content).run
            (bench.noting (.fetching problem.name)) with
          | (.error error, left) => (.error (.store problem.metadataPath error), left)
          | (.ok (), left) => (.ok content, left) := by
  simp only [fetchAndStore, Work.run_bind, Work.run_note]
  cases source problem.name with
  | error error => rfl
  | ok content =>
      simp only [Work.run_bind]
      rcases (Work.write problem.metadataPath content).run
        (bench.noting (.fetching problem.name)) with ⟨reply, left⟩
      cases reply <;> rfl

theorem document?_run :
    (problem.document? source).run bench =
      match loadCached bench.machine.files problem.metadataPath with
      | .ok (some content) => (some content, bench)
      | .error error => (none, bench.noting (.cacheUnreadable problem.metadataPath error))
      | .ok none =>
          match (problem.fetchAndStore source).run bench with
          | (.ok content, left) => (some content, left)
          | (.error error, left) => (none, left.noting (.fetchFailed problem.name error)) := by
  simp only [document?, Work.run_bind, Work.run_files]
  cases loadCached bench.machine.files problem.metadataPath with
  | error error => rfl
  | ok content? =>
      cases content? with
      | some content => rfl
      | none =>
          simp only [Work.run_bind]
          rcases (problem.fetchAndStore source).run bench with ⟨reply, left⟩
          cases reply <;> rfl

theorem resolve_run :
    (problem.resolve source).run bench =
      match (problem.document? source).run bench with
      | (none, left) => (none, left)
      | (some document, left) =>
          match Metadata.ofDocument? document with
          | some metadata => (some metadata, left)
          | none => (none, left.noting (.cacheMalformed problem.name)) := by
  simp only [resolve, Work.run_bind]
  rcases (problem.document? source).run bench with ⟨document?, left⟩
  cases document? with
  | none => rfl
  | some document =>
      simp only
      cases Metadata.ofDocument? document <;> rfl

end Problem

namespace Harness

variable (harness : Harness)

theorem eligible?_run (metadata : Metadata) (path : Path) (bench : Workbench) :
    (harness.eligible? metadata path).run bench =
      match bench.machine.files.read path with
      | .error error => (false, bench.noting (.solutionUnreadable path error))
      | .ok source =>
          match harness.settings.rules.check metadata (.ofFile path source) with
          | .ok () => (true, bench)
          | .error reason => (false, bench.noting (.solutionSkipped path reason)) := by
  simp only [eligible?, Work.read, Work.run_bind, Work.run_files, Work.run_pure]
  cases bench.machine.files.read path with
  | error error => rfl
  | ok source =>
      simp only
      cases harness.settings.rules.check metadata (.ofFile path source) <;> rfl

theorem judge_run (solution : Path) (input expected : Bytes) (bench : Workbench) :
    (harness.judge solution input expected).run bench =
      match harness.executor solution input bench.machine with
      | (.error error, machine) => (.error (.execution error), { bench with machine := machine })
      | (.ok execution, machine) =>
          let left : Workbench := { bench with machine := machine }
          (.ok ⟨solution, verdictOn execution expected, execution.stdout, expected⟩,
            match eventOf? solution execution expected with
            | some event => left.noting event
            | none => left) := by
  rcases executed : harness.executor solution input bench.machine with ⟨result, machine⟩
  simp only [judge, Work.run_bind, Work.run_execute, executed]
  cases result with
  | error error => rfl
  | ok execution =>
      simp only
      cases eventOf? solution execution expected <;> rfl

variable {harness} in
/-- A solution that is taken for eligible could be read and keeps the rules, and nothing is noted. -/
theorem eligible?_eq_true {metadata : Metadata} {path : Path} {bench left : Workbench}
    (chosen : (harness.eligible? metadata path).run bench = (true, left)) :
    left = bench ∧ ∃ source, bench.machine.files.read path = .ok source ∧
      harness.settings.rules.check metadata (.ofFile path source) = .ok () := by
  rw [eligible?_run] at chosen
  split at chosen
  · cases chosen
  · next source read =>
      split at chosen <;> cases chosen
      next kept => exact ⟨rfl, source, read, kept⟩

variable {harness} in
/-- Of a solution that is not taken for eligible it is noted why. -/
theorem eligible?_eq_false {metadata : Metadata} {path : Path} {bench left : Workbench}
    (chosen : (harness.eligible? metadata path).run bench = (false, left)) :
    (∃ error, bench.machine.files.read path = .error error ∧
      left = bench.noting (.solutionUnreadable path error)) ∨
    ∃ source reason, bench.machine.files.read path = .ok source ∧
      harness.settings.rules.check metadata (.ofFile path source) = .error reason ∧
      left = bench.noting (.solutionSkipped path reason) := by
  rw [eligible?_run] at chosen
  split at chosen
  · next error read =>
      cases chosen
      exact .inl ⟨error, read, rfl⟩
  · next source read =>
      split at chosen <;> cases chosen
      next reason broken => exact .inr ⟨source, reason, read, broken, rfl⟩

variable {harness} in
/-- A solution is judged by what executing it came to. -/
theorem judge_eq_ok {solution : Path} {input expected : Bytes} {bench left : Workbench}
    {outcome : Outcome}
    (judged : (harness.judge solution input expected).run bench = (.ok outcome, left)) :
    ∃ execution machine, harness.executor solution input bench.machine = (.ok execution, machine) ∧
      outcome = ⟨solution, verdictOn execution expected, execution.stdout, expected⟩ ∧
      left.machine = machine ∧
      left.journal = bench.journal ++ (eventOf? solution execution expected).toList := by
  rw [judge_run] at judged
  split at judged
  · cases judged
  · next execution machine executed =>
      cases judged
      refine ⟨execution, machine, executed, rfl, ?_⟩
      cases eventOf? solution execution expected with
      | none => exact ⟨rfl, (List.append_nil _).symm⟩
      | some event => exact ⟨rfl, rfl⟩

variable {harness} in
/-- A solution that cannot be judged could not be executed, and nothing is noted. -/
theorem judge_eq_error {solution : Path} {input expected : Bytes} {bench left : Workbench}
    {error : HarnessError}
    (judged : (harness.judge solution input expected).run bench = (.error error, left)) :
    ∃ reason machine, harness.executor solution input bench.machine = (.error reason, machine) ∧
      error = .execution reason ∧ left = { bench with machine := machine } := by
  rw [judge_run] at judged
  split at judged <;> cases judged
  next reason machine failed => exact ⟨reason, machine, failed, rfl, rfl⟩

/-! ## Parts of a run -/

variable (sink : Sink σ)

theorem complete_verifySolutions_nil (metadata : Metadata) (skipped : Nat) (state : σ)
    (bench : Workbench) :
    (harness.verifySolutions sink metadata skipped []).complete state bench =
      ⟨.ok skipped, state, bench⟩ := rfl

theorem complete_verifySolutions_cons (metadata : Metadata) (skipped : Nat) (path : Path)
    (rest : List Path) (state : σ) (bench : Workbench) :
    (harness.verifySolutions sink metadata skipped (path :: rest)).complete state bench =
      match (harness.eligible? metadata path).run bench with
      | (false, left) =>
          (harness.verifySolutions sink metadata (skipped + 1) rest).complete state left
      | (true, left) =>
          match (harness.judge path metadata.inputBytes metadata.expectedBytes).run left with
          | (.error error, left) => ⟨.error error, state, left⟩
          | (.ok outcome, left) =>
              match ((sink outcome).run state).run left with
              | ((.ok (), after), given) =>
                  (harness.verifySolutions sink metadata skipped rest).complete after given
              | ((.error reason, after), given) => ⟨.error (.output reason), after, given⟩ := by
  simp only [verifySolutions, Verification.complete_onBench_bind]
  rcases (harness.eligible? metadata path).run bench with ⟨eligible, left⟩
  cases eligible with
  | false => rfl
  | true =>
      simp only [if_true, Verification.complete_onBench_bind]
      rcases (harness.judge path metadata.inputBytes metadata.expectedBytes).run left with
        ⟨reply, left⟩
      cases reply with
      | error error => rfl
      | ok outcome =>
          simp only [Verification.complete_bind, Verification.complete_deliver]
          rcases ((sink outcome).run state).run left with ⟨⟨reply, after⟩, given⟩
          cases reply <;> rfl

theorem complete_verifyProblem (problem : Problem) (state : σ) (bench : Workbench) :
    (harness.verifyProblem sink problem).complete state bench =
      match (problem.resolve harness.source).run bench with
      | (none, left) => ⟨.ok ⟨false, 0⟩, state, left⟩
      | (some metadata, left) =>
          match problem.listSolutions left.machine.files with
          | .error error =>
              ⟨.ok ⟨false, 0⟩, state, left.noting (.problemSkipped problem.name error)⟩
          | .ok paths =>
              let ended := (harness.verifySolutions sink metadata 0 paths).complete state left
              ⟨ended.value.map (⟨true, ·⟩), ended.state, ended.bench⟩ := by
  simp only [verifyProblem, Verification.complete_onBench_bind]
  rcases (problem.resolve harness.source).run bench with ⟨metadata?, left⟩
  cases metadata? with
  | none => rfl
  | some metadata =>
      simp only [Verification.complete_onBench_bind, Work.run_files]
      cases problem.listSolutions left.machine.files with
      | error error => rfl
      | ok paths =>
          simp only [Verification.complete_bind]
          rcases (harness.verifySolutions sink metadata 0 paths).complete state left with
            ⟨value, after, given⟩
          cases value <;> rfl

/-- Verify problems in order, on top of the stats of problems before them. -/
def runFrom (stats : RunStats) (problems : List Problem) : Verification σ RunStats :=
  problems.foldlM (fun stats problem => do
    return stats.absorb (← harness.verifyProblem sink problem)) stats

theorem run_eq_runFrom (problems : List Problem) :
    harness.run sink problems = harness.runFrom sink .zero problems := rfl

@[simp] theorem complete_runFrom_nil (stats : RunStats) (state : σ) (bench : Workbench) :
    (harness.runFrom sink stats []).complete state bench = ⟨.ok stats, state, bench⟩ := rfl

theorem complete_runFrom_cons (stats : RunStats) (problem : Problem) (rest : List Problem)
    (state : σ) (bench : Workbench) :
    (harness.runFrom sink stats (problem :: rest)).complete state bench =
      match (harness.verifyProblem sink problem).complete state bench with
      | ⟨.ok found, after, left⟩ =>
          (harness.runFrom sink (stats.absorb found) rest).complete after left
      | ⟨.error error, after, left⟩ => ⟨.error error, after, left⟩ := by
  simp only [runFrom, List.foldlM_cons, Verification.complete_bind]
  rcases (harness.verifyProblem sink problem).complete state bench with ⟨value, after, left⟩
  cases value <;> rfl

/-- A run of some problems and then of others. -/
theorem complete_runFrom_append (stats : RunStats) (front back : List Problem) (state : σ)
    (bench : Workbench) :
    (harness.runFrom sink stats (front ++ back)).complete state bench =
      match (harness.runFrom sink stats front).complete state bench with
      | ⟨.ok found, after, left⟩ => (harness.runFrom sink found back).complete after left
      | ⟨.error error, after, left⟩ => ⟨.error error, after, left⟩ := by
  induction front generalizing stats state bench with
  | nil => rfl
  | cons problem rest ih =>
      rw [List.cons_append, complete_runFrom_cons, complete_runFrom_cons]
      rcases (harness.verifyProblem sink problem).complete state bench with ⟨value, after, left⟩
      cases value with
      | error error => rfl
      | ok found => exact ih (stats.absorb found) after left

end Harness

/-- The stats of two runs together. -/
def RunStats.add (one other : RunStats) : RunStats where
  problems := one.problems + other.problems
  skipped := one.skipped + other.skipped

omit [Kernel] in
theorem RunStats.add_zero (stats : RunStats) : stats.add .zero = stats := rfl

omit [Kernel] in
theorem RunStats.add_absorb (one other : RunStats) (problem : ProblemStats) :
    (one.add other).absorb problem = one.add (other.absorb problem) := by
  simp only [absorb, add, Nat.add_assoc, RunStats.mk.injEq, and_true]
  split <;> rfl

/-- Stats from before are added to those of a run, and change nothing else about it. -/
theorem Harness.complete_runFrom_add (harness : Harness) (sink : Sink σ) (one other : RunStats)
    (problems : List Problem) (state : σ) (bench : Workbench) :
    (harness.runFrom sink (one.add other) problems).complete state bench =
      let ended := (harness.runFrom sink other problems).complete state bench
      ⟨ended.value.map one.add, ended.state, ended.bench⟩ := by
  induction problems generalizing other state bench with
  | nil => rfl
  | cons problem rest ih =>
      simp only [complete_runFrom_cons]
      rcases (harness.verifyProblem sink problem).complete state bench with ⟨value, after, left⟩
      cases value with
      | error error => rfl
      | ok found =>
          simp only [RunStats.add_absorb]
          exact ih (other.absorb found) after left

end CorpusJudge
