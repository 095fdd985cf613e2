import CorpusJudge.Proofs.Harness.Courses
import CorpusJudge.Proofs.Harness.Interleaving
import CorpusJudge.Proofs.Harness.Lockstep

/-!
# Interrupted runs

A run stops at the first problem, in order, with a solution that cannot be executed.  Until then the
sink has been handed the outcomes in front of that solution, in the order of problems and solutions,
and nothing else, even where workers had gone on to problems behind it.
-/

namespace CorpusJudge

variable [Kernel]

/-- The sink leaves the machine alone. -/
def Sink.IsQuiet {σ : Type} (sink : Sink σ) : Prop :=
  ∀ outcome state bench, (((sink outcome).run state).run bench).2.machine = bench.machine

theorem Sink.IsQuiet.watched {σ : Type} {sink : Sink σ} (quiet : sink.IsQuiet) :
    sink.watched.IsQuiet := by
  rintro outcome ⟨state, deliveries⟩ bench
  exact quiet outcome state bench

namespace Harness

/-- A run through some problems that an error has interrupted, and the outcomes in front: those of
the problems before, and of the solutions before in the same problem. -/
inductive Interrupted (harness : Harness) (world : Workbench → Prop) (error : ExecutionError) :
    List Problem → List Outcome → Prop where
  | here {problem : Problem} {rest : List Problem} {outcomes : List Outcome} :
      harness.Finds world problem ⟨outcomes, .error (.execution error)⟩ →
      Interrupted harness world error (problem :: rest) outcomes
  | behind {problem : Problem} {rest : List Problem} {outcomes more : List Outcome}
      {stats : ProblemStats} :
      harness.Finds world problem ⟨outcomes, .ok stats⟩ →
      Interrupted harness world error rest more →
      Interrupted harness world error (problem :: rest) (outcomes ++ more)

/-- At some place among the problems there is one whose verification can come to this. -/
def ComesTo (harness : Harness) (world : Workbench → Prop) (problems : List Problem) (place : Nat)
    (verified : Verified) : Prop :=
  ∃ problem, problems[place]? = some problem ∧
    Task.Reached harness world problem (.finished verified)

variable {harness : Harness} {world wider : Workbench → Prop} {error : ExecutionError}

theorem ComesTo.mono (grows : ∀ bench, world bench → wider bench) {problems : List Problem}
    {place : Nat} {verified : Verified} (comes : harness.ComesTo world problems place verified) :
    harness.ComesTo wider problems place verified := by
  obtain ⟨problem, listed, reached⟩ := comes
  exact ⟨problem, listed, reached.mono grows⟩

/-- Findings about all problems up to the first one with an error make an interrupted run. -/
theorem Interrupted.of_places {problems : List Problem} {passed later : List Verified}
    {outcomes : List Outcome} (well : ∀ verified ∈ passed, ∃ stats, verified.result = .ok stats)
    (comes : ∀ (place : Nat) verified,
      (passed ++ ⟨outcomes, .error (.execution error)⟩ :: later)[place]? = some verified →
        harness.ComesTo world problems place verified) :
    harness.Interrupted world error problems (passed.flatMap Verified.outcomes ++ outcomes) := by
  induction passed generalizing problems with
  | nil =>
      obtain ⟨problem, listed, reached⟩ := comes 0 _ rfl
      cases problems with
      | nil => cases listed
      | cons first rest =>
          obtain rfl := Option.some.inj listed
          exact .here reached.known
  | cons first passed ih =>
      obtain ⟨problem, listed, reached⟩ := comes 0 _ rfl
      obtain ⟨⟨stats, fine⟩, rests⟩ := List.forall_mem_cons.mp well
      obtain ⟨found, _⟩ := first
      obtain rfl : _ = Except.ok stats := fine
      cases problems with
      | nil => cases listed
      | cons _ rest =>
          obtain rfl := Option.some.inj listed
          have interrupted := @ih rest rests fun place => comes (place + 1)
          rw [List.flatMap_cons, List.append_assoc]
          exact .behind reached.known interrupted

end Harness

variable {σ : Type} {harness : Harness} {sink : Sink σ} {problems : List Problem}
variable {problem : Problem} {task : Task} {start bench left : Workbench}
variable {moments : List Workbench}

/-! ## A run without workers -/

/-- A worker who is alone hands on what the verification comes to at the moments that it goes
through. -/
theorem Task.Alone.told (quiet : sink.IsQuiet) (member : problem ∈ problems)
    {state : σ × List Delivery} {ended : Completed (σ × List Delivery) ProblemStats}
    (led : Task.Alone harness sink.watched problem task state bench ended)
    (course : harness.Course problems start moments bench)
    (reached : Task.Reached harness (· ∈ moments) problem task) :
    ∃ later, moments ⊆ later ∧ harness.Course problems start later ended.bench ∧
      ((∃ reason, ended.value = .error (.output reason)) ∨ ∃ more,
        Task.Reached harness (· ∈ later) problem
          (.finished ⟨task.outcomes ++ more, ended.value⟩) ∧
        ended.state.2.map Delivery.outcome = state.2.map Delivery.outcome ++ more) := by
  induction led generalizing moments with
  | finished verified state bench =>
      exact ⟨moments, fun _ => id, course, .inr ⟨[], by simpa [Task.outcomes] using reached,
        (List.append_nil _).symm⟩⟩
  | @step stage state bench left task ended next same led ih =>
      have happens := Stage.Known.happens reached.known member next
      have advanced := (reached.of_advance course.here next).mono
        fun _ => List.mem_cons_of_mem left
      obtain ⟨later, grown, led, told⟩ := ih (course.goesOn happens) advanced
      rw [same] at told
      exact ⟨later, fun _ before => grown (List.mem_cons_of_mem _ before), led, told⟩
  | @taken stage state after bench left given task outcome ended next added called led ih =>
      have happens := Stage.Known.happens reached.known member next
      have silent : given.machine = left.machine := by
        rw [← quiet.watched outcome state left, called]
      have advanced := (reached.of_advance course.here next).mono fun _ before =>
        List.mem_cons_of_mem given (List.mem_cons_of_mem left before)
      obtain ⟨later, grown, led, told⟩ := ih ((course.goesOn happens).goesOn (.noted silent))
        advanced
      refine ⟨later, fun _ before =>
        grown (List.mem_cons_of_mem _ (List.mem_cons_of_mem _ before)), led, ?_⟩
      rcases told with failed | ⟨more, finished, delivered⟩
      · exact .inl failed
      · rw [added, List.append_assoc] at finished
        refine .inr ⟨outcome :: more, finished, ?_⟩
        rw [delivered, Sink.deliveries_of_watched called, List.map_append, List.append_assoc]
        rfl
  | @refused stage state after bench left given task outcome reason next added called =>
      have happens := Stage.Known.happens reached.known member next
      have silent : given.machine = left.machine := by
        rw [← quiet.watched outcome state left, called]
      exact ⟨_, fun _ before => List.mem_cons_of_mem _ (List.mem_cons_of_mem _ before),
        (course.goesOn happens).goesOn (.noted silent), .inl ⟨reason, rfl⟩⟩

/-- A run without workers that an execution has interrupted. -/
theorem Harness.runFrom_interrupted (quiet : sink.IsQuiet) {rest : List Problem}
    (within : rest ⊆ problems) {stats : RunStats} {state : σ × List Delivery} {error : ExecutionError}
    (course : harness.Course problems start moments bench)
    (failed : ((harness.runFrom sink.watched stats rest).complete state bench).value =
      .error (.execution error)) :
    let ended := (harness.runFrom sink.watched stats rest).complete state bench
    ∃ later outcomes, moments ⊆ later ∧ harness.Course problems start later ended.bench ∧
      harness.Interrupted (· ∈ later) error rest outcomes ∧
      ended.state.2.map Delivery.outcome = state.2.map Delivery.outcome ++ outcomes := by
  induction rest generalizing stats state bench moments with
  | nil => cases failed
  | cons problem rest ih =>
      obtain ⟨member, within⟩ := List.cons_subset.mp within
      obtain ⟨later, grown, led, told⟩ := (Task.Alone.verifyProblem harness sink.watched problem
        state bench).told quiet member course .begun
      rw [complete_runFrom_cons] at failed ⊢
      rcases verified : (harness.verifyProblem sink.watched problem).complete state bench with
        ⟨value, after, left⟩
      rw [verified] at failed led told
      cases value with
      | error reason =>
          obtain rfl : reason = .execution error := Except.error.inj failed
          rcases told with ⟨_, output⟩ | ⟨outcomes, finished, delivered⟩
          · cases output
          · exact ⟨later, outcomes, grown, led, .here finished.known, delivered⟩
      | ok found =>
          rcases told with ⟨_, output⟩ | ⟨outcomes, finished, delivered⟩
          · cases output
          · obtain ⟨last, more, further, ended, interrupted, whole⟩ := ih within led failed
            refine ⟨last, outcomes ++ more, fun _ before => further (grown before), ended,
              .behind (finished.mono fun _ before => further before).known interrupted, ?_⟩
            rw [← List.append_assoc, ← delivered]
            exact whole

/-! ## Crews -/

/-- Findings as they were before some outcomes of the first one had been handed on. -/
def Verified.rejoin (handed : List Outcome) : List Verified → List Verified
  | [] => []
  | first :: rest => ⟨handed ++ first.outcomes, first.result⟩ :: rest

omit [Kernel] in
theorem Verified.rejoin_nil (findings : List Verified) : rejoin [] findings = findings := by
  cases findings <;> rfl

namespace Crew

variable {jobs : Nat} {crew next : Crew (σ × List Delivery)} {world wider : Workbench → Prop}

/-- The clerk's books: what was found about the problems in front has been passed on and came to no
error; of the next finding some outcomes have been handed on; and that finding and those that are
ready behind it belong to the next places. -/
structure Books (harness : Harness) (world : Workbench → Prop) (problems : List Problem)
    (deliveries : List Delivery) (next : Nat) (ready passed : List Verified)
    (handed : List Outcome) : Prop where
  delivered : deliveries.map Delivery.outcome = passed.flatMap Verified.outcomes ++ handed
  well : ∀ verified ∈ passed, ∃ stats, verified.result = .ok stats
  next : next = passed.length + ready.length
  whole : ready = [] → handed = []
  comes : ∀ (place : Nat) verified,
    (passed ++ Verified.rejoin handed ready)[place]? = some verified →
      harness.ComesTo world problems place verified

/-- Every finding is on its way under the place of its problem, the clerk keeps books unless the sink
refuses an outcome, and stops at an execution's error only once everything in front has been
handed on. -/
structure Told (harness : Harness) (world : Workbench → Prop) (problems : List Problem)
    (crew : Crew (σ × List Delivery)) : Prop where
  occupied : Occupied world harness crew
  mailbox : ∀ message ∈ crew.mailbox, harness.ComesTo world problems message.1 message.2
  buffer : ∀ entry ∈ crew.buffer.pending, harness.ComesTo world problems entry.1 entry.2
  books : (∀ reason, crew.answer ≠ some (.error (.output reason))) → ∃ passed handed,
    Books harness world problems crew.state.2 crew.buffer.next crew.ready passed handed
  stopped : ∀ error, crew.answer = some (.error (.execution error)) →
    ∃ later, crew.ready = ⟨[], .error (.execution error)⟩ :: later

section

variable {deliveries : List Delivery} {place : Nat} {ready passed : List Verified}
variable {handed outcomes : List Outcome} {outcome : Outcome} {found : ProblemStats}
variable {result : Except HarnessError ProblemStats}

theorem Books.mono (books : Books harness world problems deliveries place ready passed handed)
    (grows : ∀ bench, world bench → wider bench) :
    Books harness wider problems deliveries place ready passed handed :=
  { books with comes := fun place verified there => (books.comes place verified there).mono grows }

/-- Once nothing is ready any more, findings for the next places may be. -/
theorem Books.receive (books : Books harness world problems deliveries place [] passed handed)
    (comes : ∀ (position : Nat) verified, ready[position]? = some verified →
      harness.ComesTo world problems (place + position) verified) :
    Books harness world problems deliveries (place + ready.length) ready passed handed := by
  obtain rfl := books.whole rfl
  obtain rfl : place = passed.length := books.next
  refine ⟨books.delivered, books.well, rfl, fun _ => rfl, ?_⟩
  intro other verified there
  rw [Verified.rejoin_nil] at there
  by_cases front : other < passed.length
  · rw [List.getElem?_append_left front] at there
    exact books.comes other verified (by rwa [List.getElem?_append_left front])
  · have behind := Nat.le_of_not_lt front
    rw [List.getElem?_append_right behind] at there
    have comes := comes _ verified there
    rwa [Nat.add_sub_cancel' behind] at comes

/-- The next outcome is handed on. -/
theorem Books.hand
    (books : Books harness world problems deliveries place (⟨outcome :: outcomes, result⟩ :: ready)
      passed handed) (files : FileTree) :
    Books harness world problems (deliveries ++ [⟨outcome, files⟩]) place
      (⟨outcomes, result⟩ :: ready) passed (handed ++ [outcome]) where
  delivered := by
    rw [List.map_append, books.delivered, List.append_assoc]
    rfl
  well := books.well
  next := books.next
  whole := nofun
  comes := by simpa [Verified.rejoin] using books.comes

/-- A finding that has been handed on as a whole is passed on. -/
theorem Books.absorb
    (books : Books harness world problems deliveries place (⟨[], .ok found⟩ :: ready) passed
      handed) :
    Books harness world problems deliveries place ready (passed ++ [⟨handed, .ok found⟩]) [] where
  delivered := by
    rw [books.delivered, List.flatMap_append, List.append_nil]
    simp
  well := by
    intro verified member
    rcases List.mem_append.mp member with before | last
    · exact books.well verified before
    · exact ⟨found, by rw [List.mem_singleton.mp last]⟩
  next := by
    rw [books.next, List.length_append, List.length_cons, List.length_singleton]
    omega
  whole := fun _ => rfl
  comes := by
    have comes := books.comes
    rw [Verified.rejoin, List.append_nil] at comes
    rwa [Verified.rejoin_nil, List.append_assoc]

end

theorem Told.mono (told : Told harness world problems crew)
    (grows : ∀ bench, world bench → wider bench) : Told harness wider problems crew where
  occupied := ⟨grows _ told.occupied.here, fun problem task member busy =>
    (told.occupied.reached problem task member busy).mono grows⟩
  mailbox := fun message member => (told.mailbox message member).mono grows
  buffer := fun entry member => (told.buffer entry member).mono grows
  books := by
    intro unrefused
    obtain ⟨passed, handed, books⟩ := told.books unrefused
    exact ⟨passed, handed, books.mono grows⟩
  stopped := told.stopped

theorem Told.begun (harness : Harness) (problems : List Problem) (state : σ)
    (here : world bench) : Told harness world problems (.start problems (state, []) bench) where
  occupied := .start harness problems _ here
  mailbox := nofun
  buffer := nofun
  books := fun _ => ⟨[], [], ⟨rfl, nofun, rfl, fun _ => rfl, nofun⟩⟩
  stopped := nofun

/-- What a change does to the workbench. -/
theorem Change.happens (quiet : sink.IsQuiet) (enrolled : Enrolled problems crew)
    (occupied : Occupied world harness crew)
    (changed : Change harness sink.watched jobs crew next) :
    harness.Happens problems crew.bench next.bench := by
  cases changed with
  | @advanced place problem stage task bench busy advanced =>
      have reached := occupied.reached problem _ (mem_of_place busy) rfl
      exact Stage.Known.happens reached.known (enrolled.mem (mem_of_place busy)) advanced
  | @handed outcome _ _ _ state bench unanswered first called =>
      exact .noted (by rw [← quiet.watched outcome crew.state crew.bench, called])
  | @refused outcome _ _ _ reason state bench unanswered first called =>
      exact .noted (by rw [← quiet.watched outcome crew.state crew.bench, called])
  | _ => exact .noted rfl

/-- A change that stays inside the world keeps everything told from there. -/
theorem Told.change (told : Told harness world problems crew) (enrolled : Enrolled problems crew)
    (changed : Change harness sink.watched jobs crew next) (there : world next.bench) :
    Told harness world problems next := by
  have occupied := told.occupied.moves changed there
  -- as long as there is no answer, the clerk keeps books
  have kept (unanswered : crew.answer = none) : ∃ passed handed,
      Books harness world problems crew.state.2 crew.buffer.next crew.ready passed handed :=
    told.books (by simp [unanswered])
  cases changed with
  | taken => exact ⟨occupied, told.mailbox, told.buffer, told.books, told.stopped⟩
  | dropped => exact ⟨occupied, told.mailbox, told.buffer, told.books, told.stopped⟩
  | advanced => exact ⟨occupied, told.mailbox, told.buffer, told.books, told.stopped⟩
  | @sent place problem verified busy =>
      refine ⟨occupied, fun message member => ?_, told.buffer, told.books, told.stopped⟩
      rcases List.mem_append.mp member with before | last
      · exact told.mailbox message before
      · rw [List.mem_singleton.mp last]
        refine ⟨problem, ?_, told.occupied.reached problem _ (mem_of_place busy) rfl⟩
        rw [← enrolled.roster, List.getElem?_map, busy]
        rfl
  | @received place verified mailbox ready buffer unanswered nothing arrived received =>
      have messages := told.mailbox
      rw [arrived] at messages
      obtain ⟨first, others⟩ := List.forall_mem_cons.mp messages
      obtain ⟨later, passes, held⟩ := ReorderBuffer.forall_receive_at
        (harness.ComesTo world problems) told.buffer first
      rw [received] at later passes held
      obtain ⟨passed, handed, books⟩ := kept unanswered
      rw [nothing] at books
      refine ⟨occupied, others, held, fun _ => ⟨passed, handed, ?_⟩, fun error answer => ?_⟩
      · exact later ▸ books.receive passes
      · cases unanswered.symm.trans answer
  | handed unanswered first called =>
      obtain ⟨passed, handed, books⟩ := kept unanswered
      rw [first] at books
      have books := books.hand crew.bench.machine.files
      rw [← Sink.deliveries_of_watched called] at books
      refine ⟨occupied, told.mailbox, told.buffer, fun _ => ⟨passed, _, books⟩,
        fun error answer => ?_⟩
      cases unanswered.symm.trans answer
  | refused unanswered first called =>
      exact ⟨occupied, told.mailbox, told.buffer, fun unrefused => absurd rfl (unrefused _), nofun⟩
  | absorbed unanswered first =>
      obtain ⟨passed, handed, books⟩ := kept unanswered
      rw [first] at books
      refine ⟨occupied, told.mailbox, told.buffer, fun _ => ⟨_, [], books.absorb⟩,
        fun error answer => ?_⟩
      cases unanswered.symm.trans answer
  | failed unanswered first =>
      refine ⟨occupied, told.mailbox, told.buffer, fun _ => kept unanswered, fun error answer => ?_⟩
      cases answer
      exact ⟨_, first⟩
  | closed unanswered nothing nobody idle =>
      exact ⟨occupied, told.mailbox, told.buffer, fun _ => kept unanswered, nofun⟩

/-- Whatever moves have been made, the moments that the crew has gone through tell of it. -/
theorem Reached.told (quiet : sink.IsQuiet) {state : σ}
    (reached : Reached harness sink.watched jobs (.start problems (state, []) start) crew) :
    ∃ moments, harness.Course problems start moments crew.bench ∧
      Told harness (· ∈ moments) problems crew := by
  induction reached with
  | first => exact ⟨[start], .begun, .begun harness problems state List.mem_cons_self⟩
  | @move crew next move reached stepped ih =>
      obtain ⟨moments, course, told⟩ := ih
      have changed := change_of_step stepped
      have further := course.goesOn (changed.happens quiet reached.enrolled told.occupied)
      have grown := told.mono fun _ => List.mem_cons_of_mem next.bench
      exact ⟨_, further, grown.change reached.enrolled changed further.here⟩

/-- A crew that has stopped at an execution's error has delivered the outcomes in front. -/
theorem Told.interrupted (told : Told harness world problems crew) {error : ExecutionError}
    (answer : crew.answer = some (.error (.execution error))) :
    harness.Interrupted world error problems (crew.state.2.map Delivery.outcome) := by
  obtain ⟨passed, handed, books⟩ := told.books (by simp [answer])
  obtain ⟨later, first⟩ := told.stopped error answer
  have comes := books.comes
  rw [first, Verified.rejoin, List.append_nil] at comes
  rw [books.delivered]
  exact .of_places books.well comes

end Crew

/-! ## Ends -/

/-- A run that an execution has interrupted, with any number of workers: the deliveries are those of
the outcomes in front, and the workbench has gone through a course of its own. -/
theorem Harness.Ends.interrupted {jobs : Nat} {state : σ}
    {ended : Completed (σ × List Delivery) RunStats} {error : ExecutionError}
    (ends : harness.Ends sink.watched jobs problems (state, []) start ended)
    (quiet : sink.IsQuiet) (failed : ended.value = .error (.execution error)) :
    ∃ moments, harness.Course problems start moments ended.bench ∧
      harness.Interrupted (· ∈ moments) error problems
        (ended.state.2.map Delivery.outcome) := by
  cases ends with
  | alone single =>
      rw [run_eq_runFrom] at failed ⊢
      obtain ⟨moments, outcomes, -, course, interrupted, delivered⟩ :=
        runFrom_interrupted quiet (fun _ => id) .begun failed
      exact ⟨moments, course, by rwa [delivered]⟩
  | crew several reached allOver answer =>
      obtain rfl : _ = Except.error (HarnessError.execution error) := failed
      obtain ⟨moments, course, told⟩ := reached.told quiet
      exact ⟨moments, course, told.interrupted answer⟩

end CorpusJudge
