import CorpusJudge.Proofs.Cache.Crews
import CorpusJudge.Proofs.Harness.Lockstep

/-!
# The files of deliveries

Where the interpreter leaves the corpus alone, the file of a solution holds the same when its outcome
is delivered as at the start and at the end, whichever way workers are scheduled.
-/

namespace CorpusJudge

variable [Kernel] {σ : Type} {harness : Harness} {sink : Sink σ} {start bench left : Workbench}
variable {problems : List Problem} {problem : Problem} {task : Task}

/-- The path is that of a solution that could be read at the start. -/
def Submitted (start : FileTree) (problems : List Problem) (path : Path) : Prop :=
  ∃ problem ∈ problems, ∃ paths content, problem.listSolutions start = .ok paths ∧ path ∈ paths ∧
    start.read path = .ok content

/-- The solutions that a verification has still to do with are those of its problem. -/
def Stage.Draws (start : FileTree) (problem : Problem) : Stage → Prop
  | choosing _ _ _ paths => ∃ all, problem.listSolutions start = .ok all ∧ paths ⊆ all
  | executing _ _ _ path rest => ∃ all content, problem.listSolutions start = .ok all ∧
      path ∈ all ∧ start.read path = .ok content ∧ rest ⊆ all
  | _ => True

/-- What was found is about submitted solutions only. -/
def Verified.Draws (start : FileTree) (problems : List Problem) (verified : Verified) : Prop :=
  ∀ outcome ∈ verified.outcomes, Submitted start problems outcome.solution

/-- A task has to do with submitted solutions only. -/
structure Task.Draws (start : FileTree) (problems : List Problem) (problem : Problem)
    (task : Task) : Prop where
  stage : ∀ stage, task = .underway stage → stage.Draws start problem
  outcomes : ∀ outcome ∈ task.outcomes, Submitted start problems outcome.solution

/-- Every delivery is of a submitted solution, and came when nothing had happened to the corpus but
that cache files were filled in. -/
def Genuine (source : Source) (start : FileTree) (problems : List Problem)
    (deliveries : List Delivery) : Prop :=
  ∀ delivery ∈ deliveries, Filled source start problems delivery.files ∧
    Submitted start problems delivery.outcome.solution

omit [Kernel] in
theorem Genuine.concat {source : Source} {start : FileTree} {deliveries : List Delivery}
    (genuine : Genuine source start problems deliveries) {outcome : Outcome} {files : FileTree}
    (filled : Filled source start problems files)
    (submitted : Submitted start problems outcome.solution) :
    Genuine source start problems (deliveries ++ [⟨outcome, files⟩]) := by
  intro delivery member
  rcases List.mem_append.mp member with before | last
  · exact genuine delivery before
  · rw [List.mem_singleton.mp last]
    exact ⟨filled, submitted⟩

/-- Calling a sink that is watched adds a genuine delivery. -/
theorem Genuine.called {source : Source} {start : FileTree} {state after : σ × List Delivery}
    (genuine : Genuine source start problems state.2)
    (filled : Filled source start problems bench.machine.files) {outcome : Outcome}
    (submitted : Submitted start problems outcome.solution) {reply : Except String Unit}
    (called : ((sink.watched outcome).run state).run bench = ((reply, after), left)) :
    Genuine source start problems after.2 :=
  Sink.deliveries_of_watched called ▸ genuine.concat filled submitted

theorem Sink.Spares.watched {places : Location → Prop} (spares : sink.Spares places) :
    sink.watched.Spares places := by
  rintro outcome ⟨state, deliveries⟩ bench
  exact spares outcome state bench

omit [Kernel] in
/-- A submitted solution reads as at the start. -/
theorem Filled.read_submitted {source : Source} {start files : FileTree}
    (filled : Filled source start problems files) (apart : Apart start problems)
    (formed : start.WellFormed) {path : Path} (submitted : Submitted start problems path) :
    ∃ content, start.read path = .ok content ∧ files.read path = .ok content := by
  obtain ⟨problem, member, paths, content, listed, among, read⟩ := submitted
  exact ⟨content, read, (filled.read apart formed member listed among content).mpr read⟩

/-! ## Steps of a verification -/

section

variable {source : Source} {files : FileTree}

omit [Kernel] in
theorem Task.Draws.begun (files : FileTree) (problems : List Problem) (problem : Problem) :
    (Task.underway .loading).Draws files problems problem :=
  ⟨fun stage same => by cases same; trivial, nofun⟩

omit [Kernel] in
/-- A task that is not underway and has come to no outcome. -/
theorem Task.Draws.idle {files : FileTree} (rests : ∀ stage, task ≠ .underway stage)
    (none : task.outcomes = []) : task.Draws files problems problem :=
  ⟨fun stage same => absurd same (rests stage), by simp [none]⟩

/-- Every step of a verification has to do with submitted solutions only. -/
theorem Task.Draws.advance
    (filled : Filled harness.source start.machine.files problems bench.machine.files)
    (apart : Apart start.machine.files problems) (formed : start.machine.files.WellFormed)
    (member : problem ∈ problems) {stage : Stage}
    (draws : (Task.underway stage).Draws start.machine.files problems problem)
    (next : (stage.advance harness problem).run bench = (task, left)) :
    task.Draws start.machine.files problems problem := by
  cases Stage.step_of_advance next with
  | cached | missed | answered | stored =>
      exact ⟨fun stage same => by cases same; trivial, nofun⟩
  | unreadable | unanswered | unstored | malformed | unlisted => exact ⟨nofun, nofun⟩
  | @listed _ _ paths _ listed =>
      have begun := (filled.listSolutions apart formed member paths).mp listed
      exact ⟨fun stage same => by cases same; exact ⟨paths, begun, fun _ among => among⟩, nofun⟩
  | completed => exact ⟨nofun, draws.outcomes⟩
  | @eligible _ _ _ path _ _ chosen =>
      obtain ⟨all, listed, within⟩ := draws.stage _ rfl
      obtain ⟨among, further⟩ := List.cons_subset.mp within
      obtain ⟨-, content, read, -⟩ := Harness.eligible?_eq_true chosen
      have begun := (filled.read apart formed member listed among content).mp read
      refine ⟨fun stage same => ?_, draws.outcomes⟩
      cases same
      exact ⟨all, content, listed, among, begun, further⟩
  | ineligible =>
      obtain ⟨all, listed, within⟩ := draws.stage _ rfl
      obtain ⟨-, further⟩ := List.cons_subset.mp within
      exact ⟨fun stage same => by cases same; exact ⟨all, listed, further⟩, draws.outcomes⟩
  | failed => exact ⟨nofun, draws.outcomes⟩
  | judged judged =>
      obtain ⟨all, content, listed, among, read, further⟩ := draws.stage _ rfl
      obtain ⟨execution, machine, -, rfl, -⟩ := Harness.judge_eq_ok judged
      refine ⟨fun stage same => by cases same; exact ⟨all, listed, further⟩, ?_⟩
      intro outcome judged
      rcases List.mem_append.mp judged with before | last
      · exact draws.outcomes outcome before
      · rw [List.mem_singleton.mp last]
        exact ⟨problem, member, all, content, listed, among, read⟩

end

/-! ## A run without workers -/

namespace Caching

variable {tasks : List (Problem × Task)}

/-- A worker who is alone hands on genuine deliveries. -/
theorem genuine_alone (apart : Apart start.machine.files problems)
    (formed : start.machine.files.WellFormed)
    (spares : harness.Spares (Concerns start.machine.files problems))
    (sinkSpares : sink.Spares (Concerns start.machine.files problems))
    {state : σ × List Delivery} {ended : Completed (σ × List Delivery) ProblemStats}
    (led : Task.Alone harness sink.watched problem task state bench ended)
    (caching : Caching harness.source start problems tasks bench) {place : Nat}
    (there : tasks[place]? = some (problem, task))
    (draws : task.Draws start.machine.files problems problem)
    (genuine : Genuine harness.source start.machine.files problems state.2) :
    Genuine harness.source start.machine.files problems ended.state.2 := by
  obtain ⟨inside, -⟩ := List.getElem?_eq_some_iff.mp there
  have member : problem ∈ problems := List.mem_of_getElem? (caching.listed there)
  induction led generalizing tasks with
  | finished verified state bench => exact genuine
  | @step stage state bench left task ended next same led ih =>
      exact ih (caching.advance apart spares there next) (by simp [inside])
        (draws.advance caching.filled apart formed member next) genuine (by simpa using inside)
  | @taken stage state after bench left given task outcome ended next added called led ih =>
      have advanced := caching.advance apart spares there next
      have drawn := draws.advance caching.filled apart formed member next
      have submitted := drawn.outcomes outcome (by simp [added])
      exact ih (advanced.called sinkSpares.watched called) (by simp [inside]) drawn
        (genuine.called advanced.filled submitted called) (by simpa using inside)
  | @refused stage state after bench left given task outcome reason next added called =>
      have advanced := caching.advance apart spares there next
      have drawn := draws.advance caching.filled apart formed member next
      have submitted := drawn.outcomes outcome (by simp [added])
      exact genuine.called advanced.filled submitted called

/-- A run without workers hands on genuine deliveries. -/
theorem genuine_runFrom (apart : Apart start.machine.files problems)
    (formed : start.machine.files.WellFormed)
    (spares : harness.Spares (Concerns start.machine.files problems))
    (sinkSpares : sink.Spares (Concerns start.machine.files problems))
    (front rest : List Problem)
    (caching : Caching harness.source start problems (tasksAt front rest) bench) (stats : RunStats)
    {state : σ × List Delivery}
    (genuine : Genuine harness.source start.machine.files problems state.2) :
    let ended := (harness.runFrom sink.watched stats rest).complete state bench
    Genuine harness.source start.machine.files problems ended.state.2 ∧
      Filled harness.source start.machine.files problems ended.bench.machine.files := by
  induction rest generalizing front stats state bench with
  | nil => exact ⟨genuine, caching.filled⟩
  | cons problem rest ih =>
      have waits := tasksAt_getElem? front rest problem
      obtain ⟨inside, -⟩ := List.getElem?_eq_some_iff.mp waits
      have verified := verifyProblem apart spares sinkSpares.watched caching waits state
      have begun := caching.relabel apart waits (.underway .loading) rfl rfl
        fun stage same => by cases same; trivial
      have there : ((tasksAt front (problem :: rest)).set front.length
          (problem, .underway .loading))[front.length]? = some (problem, .underway .loading) := by
        simp [inside]
      have delivered := genuine_alone apart formed spares sinkSpares
        (Task.Alone.verifyProblem harness sink.watched problem state bench) begun there (.begun ..)
        genuine
      rw [tasksAt_set] at verified
      simp only [Harness.complete_runFrom_cons]
      rcases ended : (harness.verifyProblem sink.watched problem).complete state bench with
        ⟨value, after, left⟩
      rw [ended] at verified delivered
      cases value with
      | error error => exact ⟨delivered, verified.filled⟩
      | ok found => exact ih (front ++ [problem]) verified (stats.absorb found) delivered

end Caching

/-! ## Crews -/

namespace Crew

variable {jobs : Nat} {crew next : Crew (σ × List Delivery)}

/-- Whatever a crew has to do with is about submitted solutions, and its deliveries are genuine. -/
structure Sincere (source : Source) (start : FileTree) (problems : List Problem)
    (crew : Crew (σ × List Delivery)) : Prop where
  tasks : ∀ problem task, (problem, task) ∈ crew.tasks → task.Draws start problems problem
  mailbox : ∀ message ∈ crew.mailbox, message.2.Draws start problems
  buffer : ∀ entry ∈ crew.buffer.pending, entry.2.Draws start problems
  ready : ∀ verified ∈ crew.ready, verified.Draws start problems
  deliveries : Genuine source start problems crew.state.2

variable {source : Source}

theorem Sincere.assign {files : FileTree} (sincere : Sincere source files problems crew)
    (place : Nat) (draws : task.Draws files problems problem) :
    ∀ other given, (other, given) ∈ (crew.assign place problem task).tasks →
      given.Draws files problems other := by
  intro other given member
  rcases mem_assign member with ⟨rfl, rfl⟩ | before
  · exact draws
  · exact sincere.tasks other given before

theorem Change.sincere (apart : Apart start.machine.files problems)
    (formed : start.machine.files.WellFormed)
    (caching : Caching harness.source start problems crew.tasks crew.bench)
    (sincere : Sincere harness.source start.machine.files problems crew)
    (changed : Change harness sink.watched jobs crew next) :
    Sincere harness.source start.machine.files problems next := by
  cases changed with
  | taken waits free => exact { sincere with tasks := sincere.assign _ (.begun ..) }
  | dropped waits free aborted =>
      exact { sincere with tasks := sincere.assign _ (.idle nofun rfl) }
  | @advanced place problem stage task bench busy advanced =>
      have member : problem ∈ problems := List.mem_of_getElem? (caching.listed busy)
      have draws := sincere.tasks _ _ (mem_of_place busy)
      exact { sincere with
        tasks := sincere.assign _ (draws.advance caching.filled apart formed member advanced) }
  | @sent place problem verified busy =>
      have draws := sincere.tasks _ _ (mem_of_place busy)
      refine { sincere with tasks := sincere.assign _ (.idle nofun rfl), mailbox := ?_ }
      intro message member
      rcases List.mem_append.mp member with before | last
      · exact sincere.mailbox message before
      · rw [List.mem_singleton.mp last]
        exact draws.outcomes
  | @received place verified mailbox ready buffer unanswered nothing arrived received =>
      have messages := sincere.mailbox
      rw [arrived] at messages
      obtain ⟨first, others⟩ := List.forall_mem_cons.mp messages
      obtain ⟨passed, held⟩ := ReorderBuffer.forall_receive
        (Verified.Draws start.machine.files problems) place sincere.buffer first
      rw [received] at passed held
      exact { sincere with mailbox := others, buffer := held, ready := passed }
  | @handed outcome outcomes result ready state bench unanswered begins called =>
      have findings := sincere.ready
      rw [begins] at findings
      obtain ⟨first, others⟩ := List.forall_mem_cons.mp findings
      obtain ⟨submitted, later⟩ := List.forall_mem_cons.mp first
      exact { sincere with
        ready := List.forall_mem_cons.mpr ⟨later, others⟩
        deliveries := sincere.deliveries.called caching.filled submitted called }
  | @refused outcome outcomes result ready reason state bench unanswered begins called =>
      have findings := sincere.ready
      rw [begins] at findings
      have submitted := findings _ List.mem_cons_self outcome List.mem_cons_self
      exact { sincere with
        deliveries := sincere.deliveries.called caching.filled submitted called }
  | @absorbed found ready unanswered begins =>
      have findings := sincere.ready
      rw [begins] at findings
      exact { sincere with ready := (List.forall_mem_cons.mp findings).2 }
  | failed unanswered begins => exact { sincere with }
  | closed unanswered nothing nobody idle => exact { sincere with }

theorem Reached.sincere (apart : Apart start.machine.files problems)
    (formed : start.machine.files.WellFormed)
    (spares : harness.Spares (Concerns start.machine.files problems))
    (sinkSpares : sink.Spares (Concerns start.machine.files problems)) {state : σ × List Delivery}
    (genuine : Genuine harness.source start.machine.files problems state.2)
    (reached : Reached harness sink.watched jobs (.start problems state start) crew) :
    Sincere harness.source start.machine.files problems crew := by
  induction reached with
  | first =>
      refine ⟨fun problem task member => ?_, nofun, nofun, nofun, genuine⟩
      obtain ⟨_, -, same⟩ := List.mem_map.mp member
      cases same
      exact .idle nofun rfl
  | move move reached stepped ih =>
      exact (change_of_step stepped).sincere apart formed
        (reached.caching formed apart spares sinkSpares.watched) ih

end Crew

/-- Where the interpreter leaves the corpus alone, so does a run: every outcome that it delivers is of
a solution whose file could be read at the start, and can be read with the same content when the
outcome is delivered and at the end. -/
theorem Harness.Ends.keepsSolutions {jobs : Nat} {state : σ}
    {ended : Completed (σ × List Delivery) RunStats}
    (ends : harness.Ends sink.watched jobs problems (state, []) start ended)
    (formed : start.machine.files.WellFormed) (apart : Apart start.machine.files problems)
    (spares : harness.Spares (Concerns start.machine.files problems))
    (sinkSpares : sink.Spares (Concerns start.machine.files problems)) :
    ∀ delivery ∈ ended.state.2, ∃ content,
      start.machine.files.read delivery.outcome.solution = .ok content ∧
      delivery.files.read delivery.outcome.solution = .ok content ∧
      ended.bench.machine.files.read delivery.outcome.solution = .ok content := by
  have begun : Genuine harness.source start.machine.files problems [] := nofun
  have whole : Genuine harness.source start.machine.files problems ended.state.2 ∧
      Filled harness.source start.machine.files problems ended.bench.machine.files := by
    cases ends with
    | alone single =>
        exact Caching.genuine_runFrom apart formed spares sinkSpares [] problems
          (.begun harness.source problems formed) .zero begun
    | crew several reached allOver answer =>
        exact ⟨(reached.sincere apart formed spares sinkSpares begun).deliveries,
          (reached.caching formed apart spares sinkSpares.watched).filled⟩
  intro delivery member
  obtain ⟨filled, submitted⟩ := whole.1 delivery member
  obtain ⟨content, before, now⟩ := filled.read_submitted apart formed submitted
  obtain ⟨_, same, after⟩ := whole.2.read_submitted apart formed submitted
  rw [before] at same
  cases same
  exact ⟨content, before, now, after⟩

end CorpusJudge
