import CorpusJudge.Proofs.Harness.Changes
import CorpusJudge.Proofs.Harness.Settled
import CorpusJudge.Proofs.ReorderBuffer

/-!
# Interleaved verifications

Over settled problems it does not matter how the moves of a crew are ordered.  What the clerk has
handed on, what is ready, and what is found about the problems behind that always add up to the
same: to what the findings about all the problems amount to, one after the other.
-/

namespace CorpusJudge

variable [Kernel]

/-- What is found about the problem at a place. -/
def findings (problems : List Problem) (found : Problem → Verified) (place : Nat) : Verified :=
  (problems[place]?.map found).getD .passedOver

omit [Kernel] in
/-- The findings from one place to another are those about the problems there. -/
theorem findings_range' {problems known : List Problem} (found : Problem → Verified)
    (initial : known <+: problems) {next count : Nat} (within : next + count ≤ known.length) :
    (List.range' next count).map (findings problems found) ++
        (known.drop (next + count)).map found =
      (known.drop next).map found := by
  induction count generalizing next with
  | zero => rfl
  | succ count ih =>
      have inside : next < known.length := by omega
      have insideAll := Nat.lt_of_lt_of_le inside initial.length_le
      have first : findings problems found next = found known[next] := by
        rw [findings, List.getElem?_eq_getElem insideAll, initial.getElem inside]
        rfl
      have rest := @ih (next + 1) (by omega)
      have sum : next + (count + 1) = next + 1 + count := by omega
      rw [List.drop_eq_getElem_cons inside, List.map_cons, ← rest, List.range'_succ, List.map_cons,
        List.cons_append, first, sum]

namespace Crew

variable {σ : Type}

variable (world : Workbench → Prop) (problems : List Problem) (found : Problem → Verified)

/-- The tasks are those of the problems, and one is dropped only when the run is aborted. -/
structure Enrolled (crew : Crew σ) : Prop where
  roster : crew.tasks.map Prod.fst = problems
  dropped : ∀ problem, (problem, Task.dropped) ∈ crew.tasks → crew.isAborted = true

/-- The workers verify the problems, inside the world. -/
structure Occupied (harness : Harness) (crew : Crew σ) : Prop where
  here : world crew.bench
  reached : ∀ problem task, (problem, task) ∈ crew.tasks → task.isBusy = true →
    Task.Reached harness world problem task

/-- Every finding that was sent is in the mailbox or has arrived in the buffer, under the place of
its problem, and none was sent twice. -/
structure Posted (crew : Crew σ) : Prop where
  buffer : crew.buffer.Sound (findings problems found)
  genuine : ∀ message ∈ crew.mailbox, message.2 = findings problems found message.1
  distinct : (crew.mailbox.map Prod.fst).Nodup
  new : ∀ message ∈ crew.mailbox, ¬ crew.buffer.Arrived message.1
  sent : ∀ place, (crew.buffer.Arrived place ∨ place ∈ crew.mailbox.map Prod.fst) ↔
    ∃ problem, crew.tasks[place]? = some (problem, .sent)

/-- What the run comes to for the sink if there are only some of the problems: the answer if there
is one, otherwise what is still to be handed on, on top of what has been. -/
def outlook (known : List Problem) (respond : Response σ) (crew : Crew σ) :
    Except HarnessError RunStats × σ :=
  match crew.answer with
  | some value => (value, crew.state)
  | none =>
    respond.replayAll crew.stats (crew.ready ++ (known.drop crew.buffer.next).map found) crew.state

variable {world problems found} {harness : Harness} {sink : Sink σ} {respond : Response σ}
variable {jobs : Nat} {crew next : Crew σ}

theorem Enrolled.start (problems : List Problem) (state : σ) (bench : Workbench) :
    Enrolled problems (Crew.start problems state bench) where
  roster := by simp [Crew.start, Function.comp_def]
  dropped := by
    intro problem member
    obtain ⟨_, -, same⟩ := List.mem_map.mp member
    cases same

theorem Occupied.start (harness : Harness) (problems : List Problem) (state : σ)
    {bench : Workbench} (here : world bench) :
    Occupied world harness (Crew.start problems state bench) where
  here := here
  reached := by
    intro problem task member busy
    obtain ⟨_, -, same⟩ := List.mem_map.mp member
    cases same
    cases busy

theorem Posted.start (found : Problem → Verified) (problems : List Problem) (state : σ)
    (bench : Workbench) : Posted problems found (Crew.start problems state bench) where
  buffer := ReorderBuffer.empty_sound _
  genuine := by simp [Crew.start]
  distinct := by simp [Crew.start]
  new := by simp [Crew.start]
  sent := by
    intro place
    simp [Crew.start]

theorem Enrolled.assign (enrolled : Enrolled problems crew) {place : Nat} {problem : Problem}
    {old : Task} (there : crew.tasks[place]? = some (problem, old)) (task : Task)
    (dropped : task = .dropped → crew.isAborted = true) :
    Enrolled problems (crew.assign place problem task) where
  roster := (assign_problems there task).trans enrolled.roster
  dropped := by
    intro other member
    rcases mem_assign member with ⟨-, same⟩ | before
    · exact dropped same.symm
    · exact enrolled.dropped other before

theorem Occupied.assign (occupied : Occupied world harness crew) (place : Nat) {problem : Problem}
    {task : Task} (reached : task.isBusy = true → Task.Reached harness world problem task) :
    Occupied world harness (crew.assign place problem task) where
  here := occupied.here
  reached := by
    intro other given member busy
    rcases mem_assign member with ⟨rfl, rfl⟩ | before
    · exact reached busy
    · exact occupied.reached other given before busy

/-- A finding that is not sent yet stays where it is. -/
theorem Posted.assign (posted : Posted problems found crew) {place : Nat} {problem : Problem}
    {old : Task} (there : crew.tasks[place]? = some (problem, old)) (task : Task)
    (unsent : old ≠ .sent) (keeps : task ≠ .sent) :
    Posted problems found (crew.assign place problem task) where
  buffer := posted.buffer
  genuine := posted.genuine
  distinct := posted.distinct
  new := posted.new
  sent := by
    intro other
    refine (posted.sent other).trans ?_
    rw [assign_getElem? there]
    split
    case isTrue same =>
      subst same
      simp [there, unsent, keeps]
    case isFalse => rfl

theorem Enrolled.mem (enrolled : Enrolled problems crew) {problem : Problem} {task : Task}
    (member : (problem, task) ∈ crew.tasks) : problem ∈ problems :=
  enrolled.roster ▸ List.mem_map_of_mem member

/-- Every change keeps the tasks those of the problems. -/
theorem Enrolled.change (enrolled : Enrolled problems crew)
    (changed : Change harness sink jobs crew next) : Enrolled problems next := by
  have unaborted (unanswered : crew.answer = none) {claim : Prop}
      (aborted : crew.isAborted = true) : claim := by
    simp [isAborted, unanswered] at aborted
  cases changed with
  | taken waits free => exact enrolled.assign waits _ nofun
  | dropped waits free aborted => exact enrolled.assign waits _ fun _ => aborted
  | @advanced place problem stage task bench busy advanced =>
      have goesOn := stage.advance_isBusy harness problem crew.bench
      rw [advanced] at goesOn
      have assigned := enrolled.assign busy task fun same => by
        rw [same] at goesOn
        cases goesOn
      exact ⟨assigned.roster, assigned.dropped⟩
  | sent busy =>
      have assigned := enrolled.assign busy .sent nofun
      exact ⟨assigned.roster, assigned.dropped⟩
  | received => exact ⟨enrolled.roster, enrolled.dropped⟩
  | handed => exact ⟨enrolled.roster, enrolled.dropped⟩
  | refused => exact ⟨enrolled.roster, fun _ _ => rfl⟩
  | absorbed => exact ⟨enrolled.roster, enrolled.dropped⟩
  | failed => exact ⟨enrolled.roster, fun _ _ => rfl⟩
  | closed unanswered =>
      exact ⟨enrolled.roster, fun problem member => unaborted unanswered
        (enrolled.dropped problem member)⟩

theorem Reached.enrolled {state : σ} {bench : Workbench}
    (reached : Reached harness sink jobs (Crew.start problems state bench) crew) :
    Enrolled problems crew := by
  induction reached with
  | first => exact .start problems state bench
  | move move _ stepped ih => exact ih.change (change_of_step stepped)

/-- Once every problem is done with in a run that is not aborted, all findings have been sent. -/
theorem Enrolled.sent (enrolled : Enrolled problems crew) (fine : crew.isAborted = false)
    (idle : crew.isIdle = true) {problem : Problem} {task : Task}
    (member : (problem, task) ∈ crew.tasks) : task = .sent := by
  have ended := List.all_eq_true.mp idle _ member
  cases task with
  | waiting => cases ended
  | underway stage => cases ended
  | finished verified => cases ended
  | dropped =>
      rw [enrolled.dropped problem member] at fine
      cases fine
  | sent => rfl

theorem Enrolled.allSent (enrolled : Enrolled problems crew) (fine : crew.isAborted = false)
    (idle : crew.isIdle = true) : crew.tasks = problems.map (·, .sent) := by
  rw [← enrolled.roster, List.map_map]
  have same : ∀ entry ∈ crew.tasks, id entry = (entry.1, Task.sent) :=
    fun entry member => Prod.ext rfl (enrolled.sent fine idle member)
  exact (List.map_id crew.tasks).symm.trans (List.map_congr_left same)

/-- A change that stays inside the world keeps the workers at verifying problems there. -/
theorem Occupied.moves (occupied : Occupied world harness crew)
    (changed : Change harness sink jobs crew next) (there : world next.bench) :
    Occupied world harness next := by
  cases changed with
  | taken => exact occupied.assign _ fun _ => .begun
  | dropped => exact occupied.assign _ nofun
  | @advanced place problem stage task bench busy advanced =>
      have reached := occupied.reached problem _ (mem_of_place busy) rfl
      have assigned := occupied.assign place fun _ => reached.of_advance occupied.here advanced
      exact ⟨there, assigned.reached⟩
  | @sent place problem verified busy =>
      have assigned : Occupied world harness (crew.assign place problem .sent) :=
        occupied.assign place nofun
      exact ⟨assigned.here, assigned.reached⟩
  | _ => exact ⟨there, occupied.reached⟩

/-- Over settled problems, every change keeps the workers at verifying problems inside the world. -/
theorem Occupied.change (settled : harness.Settled world problems found) (keeps : sink.Keeps world)
    (enrolled : Enrolled problems crew) (occupied : Occupied world harness crew)
    (changed : Change harness sink jobs crew next) : Occupied world harness next := by
  refine occupied.moves changed ?_
  cases changed with
  | @advanced place problem stage task bench busy advanced =>
      have member := mem_of_place busy
      have reached := occupied.reached problem _ member rfl
      have there :=
        settled.keeps problem (enrolled.mem member) stage crew.bench reached occupied.here
      rwa [advanced] at there
  | @handed outcome _ _ _ state bench unanswered first called =>
      have kept := keeps outcome crew.state crew.bench occupied.here
      rwa [called] at kept
  | @refused outcome _ _ _ reason state bench unanswered first called =>
      have kept := keeps outcome crew.state crew.bench occupied.here
      rwa [called] at kept
  | _ => exact occupied.here

/-- A finding that is sent for the first time joins the mailbox. -/
theorem Posted.post (posted : Posted problems found crew) {place : Nat} {problem : Problem}
    {verified : Verified} (there : crew.tasks[place]? = some (problem, .finished verified))
    (genuine : verified = findings problems found place) :
    Posted problems found { crew.assign place problem .sent with
      mailbox := crew.mailbox ++ [(place, verified)] } := by
  -- the problem was not sent yet, so its place is neither in the buffer nor in the mailbox
  have fresh := (not_congr (posted.sent place)).mpr (by simp [there])
  simp only [not_or] at fresh
  refine ⟨posted.buffer, ?_, ?_, ?_, ?_⟩
  · intro message member
    rcases List.mem_append.mp member with old | new
    · exact posted.genuine message old
    · rw [List.mem_singleton.mp new]
      exact genuine
  · rw [List.map_append, List.map_singleton, List.nodup_append]
    refine ⟨posted.distinct, List.nodup_cons.mpr ⟨List.not_mem_nil, .nil⟩, ?_⟩
    rintro other old _ new rfl
    obtain rfl : other = place := List.mem_singleton.mp new
    exact fresh.2 old
  · intro message member
    rcases List.mem_append.mp member with old | new
    · exact posted.new message old
    · rw [List.mem_singleton.mp new]
      exact fresh.1
  · intro other
    have assigned := assign_getElem? there .sent other
    have before := posted.sent other
    have same : (crew.assign place problem .sent).buffer = crew.buffer := rfl
    simp only
    rw [assigned, same, List.map_append, List.mem_append, ← or_assoc, before]
    split
    case isTrue same => simp [same]
    case isFalse differs => simp [differs]

section

variable {place : Nat} {verified : Verified} {mailbox : List (Nat × Verified)}
variable {ready : List Verified} {buffer : ReorderBuffer Verified}

/-- What taking a message out of the mailbox makes of the buffer. -/
theorem Posted.receives (posted : Posted problems found crew)
    (arrived : crew.mailbox = (place, verified) :: mailbox)
    (received : crew.buffer.receive place verified = (ready, buffer)) :
    buffer.Sound (findings problems found) ∧ buffer.next = crew.buffer.next + ready.length ∧
      ready = (List.range' crew.buffer.next ready.length).map (findings problems found) ∧
      ∀ other, buffer.Arrived other ↔ crew.buffer.Arrived other ∨ other = place := by
  have genuine : verified = findings problems found place :=
    posted.genuine (place, verified) (by simp [arrived])
  have new : ¬ crew.buffer.Arrived place := posted.new (place, verified) (by simp [arrived])
  have receives := posted.buffer.receive new
  rwa [← genuine, received] at receives

/-- A message that is taken out of the mailbox has arrived. -/
theorem Posted.receive (posted : Posted problems found crew)
    (arrived : crew.mailbox = (place, verified) :: mailbox)
    (received : crew.buffer.receive place verified = (ready, buffer)) :
    Posted problems found { crew with mailbox := mailbox, buffer := buffer, ready := ready } := by
  obtain ⟨sound, -, -, arrives⟩ := posted.receives arrived received
  have distinct := posted.distinct
  rw [arrived, List.map_cons, List.nodup_cons] at distinct
  refine ⟨sound, ?_, distinct.2, ?_, ?_⟩
  · exact fun message member => posted.genuine message (by simp [arrived, member])
  · intro message member
    rw [arrives, not_or]
    refine ⟨posted.new message (by simp [arrived, member]), ?_⟩
    rintro rfl
    exact distinct.1 (List.mem_map.mpr ⟨message, member, rfl⟩)
  · intro other
    rw [← posted.sent other, arrives, arrived, List.map_cons, List.mem_cons, or_assoc]

end

/-- Every change leaves every finding that was sent in the mailbox or in the buffer. -/
theorem Posted.change (settled : harness.Settled world problems found)
    (enrolled : Enrolled problems crew) (occupied : Occupied world harness crew)
    (posted : Posted problems found crew) (changed : Change harness sink jobs crew next) :
    Posted problems found next := by
  cases changed with
  | taken waits free => exact posted.assign waits _ nofun nofun
  | dropped waits free aborted => exact posted.assign waits _ nofun nofun
  | @advanced place problem stage task bench busy advanced =>
      have goesOn := stage.advance_isBusy harness problem crew.bench
      rw [advanced] at goesOn
      have assigned := posted.assign busy task nofun
        (fun same => by rw [same] at goesOn; cases goesOn)
      exact ⟨assigned.buffer, assigned.genuine, assigned.distinct, assigned.new, assigned.sent⟩
  | @sent place problem verified busy =>
      have member := mem_of_place busy
      have listed := enrolled.mem member
      have same := settled.yields problem listed verified (occupied.reached problem _ member rfl)
      have here : findings problems found place = found problem := by
        rw [findings, ← enrolled.roster, List.getElem?_map, busy]
        rfl
      exact posted.post busy (same.trans here.symm)
  | received unanswered nothing arrived received => exact posted.receive arrived received
  | handed unanswered first called =>
      exact ⟨posted.buffer, posted.genuine, posted.distinct, posted.new, posted.sent⟩
  | refused unanswered first called =>
      exact ⟨posted.buffer, posted.genuine, posted.distinct, posted.new, posted.sent⟩
  | absorbed unanswered first =>
      exact ⟨posted.buffer, posted.genuine, posted.distinct, posted.new, posted.sent⟩
  | failed unanswered first =>
      exact ⟨posted.buffer, posted.genuine, posted.distinct, posted.new, posted.sent⟩
  | closed unanswered nothing nobody idle =>
      exact ⟨posted.buffer, posted.genuine, posted.distinct, posted.new, posted.sent⟩

/-- Whatever place has arrived is one of a problem. -/
theorem Posted.next_le (enrolled : Enrolled problems crew)
    (posted : Posted problems found crew) : crew.buffer.next ≤ problems.length := by
  refine Nat.le_of_not_lt fun beyond => ?_
  obtain ⟨problem, there⟩ := (posted.sent problems.length).mp (.inl (.inl beyond))
  obtain ⟨inside, -⟩ := List.getElem?_eq_some_iff.mp there
  rw [← enrolled.roster, List.length_map] at inside
  exact Nat.lt_irrefl _ inside

/-- Once every problem is done with and nothing is on its way, all the findings have arrived. -/
theorem Posted.next_eq (enrolled : Enrolled problems crew) (posted : Posted problems found crew)
    (unanswered : crew.answer = none) (nobody : crew.mailbox = []) (idle : crew.isIdle = true) :
    crew.buffer.next = problems.length := by
  refine Nat.le_antisymm (posted.next_le enrolled) (Nat.le_of_not_lt fun behind => ?_)
  rw [← enrolled.roster, List.length_map] at behind
  have there := List.getElem?_eq_getElem behind
  rcases last : crew.tasks[crew.buffer.next] with ⟨problem, task⟩
  rw [last] at there
  have fine : crew.isAborted = false := by simp [isAborted, unanswered]
  obtain rfl : task = .sent := enrolled.sent fine idle (mem_of_place there)
  rcases (posted.sent _).mpr ⟨problem, there⟩ with arrived | held
  · exact posted.buffer.not_arrived_next arrived
  · simp [nobody] at held

/-- No change alters what the run comes to, if everything that has arrived is accounted for. -/
theorem outlook_change (responds : sink.Responds respond) (enrolled : Enrolled problems crew)
    (posted : Posted problems found crew) (changed : Change harness sink jobs crew next)
    {known : List Problem}
    (initial : known <+: problems) (within : next.buffer.next ≤ known.length) :
    next.outlook found known respond = crew.outlook found known respond := by
  cases changed with
  | taken waits free => rfl
  | dropped waits free aborted => rfl
  | advanced busy advanced => rfl
  | sent busy => rfl
  | received unanswered nothing arrived received =>
      obtain ⟨-, later, released, -⟩ := posted.receives arrived received
      simp only at within
      have rest := findings_range' found initial (later ▸ within)
      simp only [outlook, unanswered, nothing, List.nil_append]
      rw [released, later, rest]
  | @handed outcome outcomes result ready state bench unanswered first called =>
      have response := responds outcome crew.state crew.bench
      rw [called] at response
      simp only [outlook, unanswered, first, List.cons_append, Response.replayAll, Response.replay,
        Response.hand, ← response]
  | @refused outcome outcomes result ready reason state bench unanswered first called =>
      have response := responds outcome crew.state crew.bench
      rw [called] at response
      simp only [outlook, unanswered, first, List.cons_append, Response.replayAll, Response.replay,
        Response.hand, ← response]
  | absorbed unanswered first =>
      simp only [outlook, unanswered, first, List.cons_append, Response.replayAll, Response.replay,
        Response.hand, Except.map]
  | failed unanswered first =>
      simp only [outlook, unanswered, first, List.cons_append, Response.replayAll, Response.replay,
        Response.hand, Except.map]
  | closed unanswered nothing nobody idle =>
      have all := posted.next_eq enrolled unanswered nobody idle
      have none : known.drop problems.length = [] :=
        List.drop_eq_nil_of_le initial.length_le
      simp only [outlook, unanswered, nothing, all, none, List.map_nil, List.append_nil,
        Response.replayAll]

/-- What has arrived is never taken back. -/
theorem Change.next_le (posted : Posted problems found crew)
    (changed : Change harness sink jobs crew next) : crew.buffer.next ≤ next.buffer.next := by
  cases changed with
  | received unanswered nothing arrived received =>
      obtain ⟨-, later, -, -⟩ := posted.receives arrived received
      exact later ▸ Nat.le_add_right ..
  | _ => exact Nat.le_refl _

/-- Whatever moves have been made, the run still comes to what the findings about all the problems
amount to, and likewise if there are only some of them, as long as nothing else has arrived. -/
theorem Reached.outlook (settled : harness.Settled world problems found)
    (responds : sink.Responds respond) (keeps : sink.Keeps world) {state : σ} {bench : Workbench}
    (here : world bench) (reached : Reached harness sink jobs (start problems state bench) crew) :
    Occupied world harness crew ∧ Posted problems found crew ∧
      ∀ known, known <+: problems → crew.buffer.next ≤ known.length →
        crew.outlook found known respond = respond.replayAll .zero (known.map found) state := by
  induction reached with
  | first =>
      exact ⟨.start harness problems state here, .start found problems state bench,
        fun known _ _ => rfl⟩
  | move move reached stepped ih =>
      obtain ⟨occupied, posted, same⟩ := ih
      have enrolled := reached.enrolled
      have changed := change_of_step stepped
      refine ⟨occupied.change settled keeps enrolled changed,
        posted.change settled enrolled occupied changed, fun known initial within => ?_⟩
      rw [outlook_change responds enrolled posted changed initial within]
      exact same known initial (Nat.le_trans (changed.next_le posted) within)

end Crew

end CorpusJudge
