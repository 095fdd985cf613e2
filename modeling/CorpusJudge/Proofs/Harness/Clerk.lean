import CorpusJudge.Proofs.Execution
import CorpusJudge.Proofs.Harness.Changes
import CorpusJudge.Proofs.Harness.Responses
import CorpusJudge.Proofs.ReorderBuffer
import Mathlib.Algebra.Ring.Nat
import Mathlib.Data.List.Induction
import Mathlib.Data.List.Perm.Subperm
import Mathlib.Tactic.Choose

/-!
# The clerk

What the clerk makes of the messages that come in, in whatever order they do: the findings about the
first problems up to a gap have been handed on in order, and those behind the gap are held back.
-/

namespace CorpusJudge

section

variable [Kernel] {σ : Type}

/-- The sink takes every outcome. -/
def Sink.TakesAll (sink : Sink σ) : Prop :=
  ∀ outcome state bench, (((sink outcome).run state).run bench).1.1 = .ok ()

theorem Sink.TakesAll.logged_run {sink : Sink σ} (takes : sink.TakesAll) (outcome : Outcome)
    (state : σ × List (Outcome × Bool)) (bench : Workbench) :
    ∃ after left, ((sink.logged outcome).run state).run bench =
      ((.ok (), (after, state.2 ++ [(outcome, true)])), left) := by
  obtain ⟨state, log⟩ := state
  have taken := takes outcome state bench
  rw [Sink.logged_run]
  rcases called : ((sink outcome).run state).run bench with ⟨⟨reply, after⟩, left⟩
  rw [called] at taken
  obtain rfl : reply = .ok () := taken
  exact ⟨after, left, rfl⟩

/-- The calls of a sink that takes all of a problem's outcomes. -/
def Verified.calls (verified : Verified) : List (Outcome × Bool) :=
  verified.outcomes.map (·, true)

/-- The stats with those of some more problems, as far as there are any. -/
def RunStats.absorbAll (stats : RunStats) (findings : List Verified) : RunStats :=
  findings.foldl (fun stats verified => (verified.result.map stats.absorb).toOption.getD stats) stats

omit [Kernel] in
theorem RunStats.absorbAll_append (stats : RunStats) (one other : List Verified) :
    stats.absorbAll (one ++ other) = (stats.absorbAll one).absorbAll other :=
  List.foldl_append

omit [Kernel] in
theorem RunStats.absorbAll_eq {findings : List Verified} {each : List ProblemStats}
    (fine : findings.map (·.result) = each.map .ok) (stats : RunStats) :
    stats.absorbAll findings = ⟨stats.problems + each.countP (·.resolved),
      stats.skipped + (each.map (·.skipped)).sum⟩ := by
  induction findings generalizing each stats with
  | nil =>
      obtain rfl : each = [] := List.map_eq_nil_iff.mp fine.symm
      rfl
  | cons verified rest ih =>
      obtain ⟨found, more, rfl, result, later⟩ := List.map_eq_cons_iff.mp fine.symm
      have absorbed : stats.absorbAll (verified :: rest) = (stats.absorb found).absorbAll rest := by
        have found : verified.result = .ok found := result.symm
        simp only [absorbAll, List.foldl_cons, found]
        rfl
      rw [absorbed, ih later.symm]
      simp only [absorb, List.countP_cons, List.map_cons, List.sum_cons, RunStats.mk.injEq]
      constructor
      · split <;> omega
      · omega

namespace Crew

/-! ## What has been heard -/

/-- The runs in which the clerk has taken some messages out of the mailbox, in this order.  In between,
workers post whatever messages they have, and do whatever else they do. -/
inductive Heard (sink : Sink σ) (state : σ) : List (Nat × Verified) → Crew σ → Prop where
  | start (problems : List Problem) (bench : Workbench) :
      Heard sink state [] (.start problems state bench)
  | elsewhere {heard : List (Nat × Verified)} {crew : Crew σ} (tasks : List (Problem × Task))
      (posted : List (Nat × Verified)) (bench : Workbench) : Heard sink state heard crew →
      Heard sink state heard
        { crew with tasks := tasks, mailbox := crew.mailbox ++ posted, bench := bench }
  | received {heard mailbox : List (Nat × Verified)} {message : Nat × Verified}
      {crew next : Crew σ} : Heard sink state heard crew → crew.mailbox = message :: mailbox →
      crew.receive = some next → Heard sink state (heard ++ [message]) next
  | delivered {heard : List (Nat × Verified)} {crew next : Crew σ} : Heard sink state heard crew →
      crew.deliver sink = some next → Heard sink state heard next

theorem receive_eq_some {crew next : Crew σ} (received : crew.receive = some next) :
    crew.answer = none ∧ crew.ready = [] ∧ ∃ place verified mailbox,
      crew.mailbox = (place, verified) :: mailbox ∧
      next = { crew with
        mailbox := mailbox
        ready := (crew.buffer.receive place verified).1
        buffer := (crew.buffer.receive place verified).2 } := by
  unfold receive at received
  split at received
  case h_1 unanswered nothing arrived =>
    cases received
    exact ⟨unanswered, nothing, _, _, _, arrived, rfl⟩
  case h_2 => cases received

/-- The clerk has heard some messages.  They and those in the mailbox are about tasks that have been sent,
each about one of its own. -/
structure Hears (sink : Sink σ) (state : σ) (problems : List Problem)
    (messages : List (Nat × Verified)) (crew : Crew σ) : Prop where
  heard : Heard sink state messages crew
  roster : crew.tasks.map Prod.fst = problems
  distinct : ((messages ++ crew.mailbox).map Prod.fst).Nodup
  sent : ∀ message ∈ messages ++ crew.mailbox, ∃ problem,
    crew.tasks[message.1]? = some (problem, .sent)

namespace Hears

variable {sink : Sink σ} {state : σ} {problems : List Problem} {messages : List (Nat × Verified)}
variable {crew next : Crew σ} {place : Nat} {problem : Problem} {old : Task}

theorem start (sink : Sink σ) (problems : List Problem) (state : σ) (bench : Workbench) :
    Hears sink state problems [] (.start problems state bench) where
  heard := .start problems bench
  roster := by simp [Crew.start, Function.comp_def]
  distinct := .nil
  sent := nofun

/-- What was sent is still there when something has become of a task that was not. -/
theorem sent_assign (hears : Hears sink state problems messages crew)
    (there : crew.tasks[place]? = some (problem, old)) (unsent : old ≠ .sent) (task : Task)
    {message : Nat × Verified} (member : message ∈ messages ++ crew.mailbox) :
    message.1 ≠ place ∧ ∃ sender,
      (crew.assign place problem task).tasks[message.1]? = some (sender, .sent) := by
  obtain ⟨sender, sent⟩ := hears.sent message member
  have differs : message.1 ≠ place := by
    intro same
    rw [same, there] at sent
    cases sent
    exact unsent rfl
  exact ⟨differs, sender, by rw [assign_getElem? there, if_neg differs, sent]⟩

/-- Something becomes of a task that was not sent, and nothing is posted. -/
theorem assign (hears : Hears sink state problems messages crew)
    (there : crew.tasks[place]? = some (problem, old)) (unsent : old ≠ .sent) (task : Task)
    (bench : Workbench) :
    Hears sink state problems messages { crew.assign place problem task with bench := bench } where
  heard := by simpa [Crew.assign] using hears.heard.elsewhere _ [] bench
  roster := (assign_problems there task).trans hears.roster
  distinct := hears.distinct
  sent := fun _ member => (hears.sent_assign there unsent task member).2

/-- A worker posts what it has found. -/
theorem post (hears : Hears sink state problems messages crew) {verified : Verified}
    (there : crew.tasks[place]? = some (problem, .finished verified)) :
    Hears sink state problems messages { crew.assign place problem .sent with
      mailbox := crew.mailbox ++ [(place, verified)] } where
  heard := hears.heard.elsewhere _ _ crew.bench
  roster := (assign_problems there .sent).trans hears.roster
  distinct := by
    rw [← List.append_assoc, List.map_append, List.map_singleton, List.nodup_append]
    refine ⟨hears.distinct, by simp, fun other member new single same => ?_⟩
    obtain ⟨message, among, rfl⟩ := List.mem_map.mp member
    exact (hears.sent_assign there nofun .sent among).1 (same.trans (List.mem_singleton.mp single))
  sent := by
    intro message member
    rw [← List.append_assoc] at member
    rcases List.mem_append.mp member with before | new
    · exact (hears.sent_assign there nofun .sent before).2
    · obtain rfl := List.mem_singleton.mp new
      exact ⟨problem, by simp [assign_getElem? there]⟩

/-- The clerk takes a message. -/
theorem take (hears : Hears sink state problems messages crew) {message : Nat × Verified}
    {mailbox : List (Nat × Verified)} (arrived : crew.mailbox = message :: mailbox)
    (received : crew.receive = some next) :
    Hears sink state problems (messages ++ [message]) next := by
  have heard := hears.heard.received arrived received
  obtain ⟨-, -, _, _, _, same, rfl⟩ := receive_eq_some received
  obtain ⟨rfl, rfl⟩ := List.cons.inj (arrived.symm.trans same)
  have whole := hears.distinct
  have sent := hears.sent
  rw [arrived] at whole sent
  exact ⟨heard, hears.roster, by simpa using whole, by simpa using sent⟩

/-- The clerk hands something on. -/
theorem deliver (hears : Hears sink state problems messages crew)
    (delivered : crew.deliver sink = some next) (tasks : next.tasks = crew.tasks)
    (mailbox : next.mailbox = crew.mailbox) : Hears sink state problems messages next where
  heard := hears.heard.delivered delivered
  roster := tasks ▸ hears.roster
  distinct := mailbox ▸ hears.distinct
  sent := by
    rw [tasks, mailbox]
    exact hears.sent

theorem below (hears : Hears sink state problems messages crew) (message : Nat × Verified)
    (member : message ∈ messages) : message.1 < problems.length := by
  obtain ⟨problem, sent⟩ := hears.sent message (List.mem_append_left _ member)
  obtain ⟨inside, -⟩ := List.getElem?_eq_some_iff.mp sent
  rwa [← hears.roster, List.length_map]

end Hears

/-- However a crew moves, as long as it has no answer its clerk has heard some messages. -/
theorem Reached.hears {harness : Harness} {sink : Sink σ} {jobs : Nat} {problems : List Problem}
    {state : σ} {bench : Workbench} {crew : Crew σ}
    (reached : Reached harness sink jobs (.start problems state bench) crew)
    (unanswered : crew.answer = none) : ∃ messages, Hears sink state problems messages crew := by
  induction reached with
  | first => exact ⟨[], .start sink problems state bench⟩
  | @move crew next move _ stepped ih =>
      cases change_of_step stepped with
      | taken there =>
          obtain ⟨messages, hears⟩ := ih unanswered
          exact ⟨messages, hears.assign there nofun _ crew.bench⟩
      | dropped there =>
          obtain ⟨messages, hears⟩ := ih unanswered
          exact ⟨messages, hears.assign there nofun _ crew.bench⟩
      | advanced there =>
          obtain ⟨messages, hears⟩ := ih unanswered
          exact ⟨messages, hears.assign there nofun _ _⟩
      | sent there =>
          obtain ⟨messages, hears⟩ := ih unanswered
          exact ⟨messages, hears.post there⟩
      | received silent nothing arrived received =>
          obtain ⟨messages, hears⟩ := ih silent
          exact ⟨_, hears.take arrived
            (by simp only [receive, silent, nothing, arrived, received])⟩
      | handed silent first called =>
          obtain ⟨messages, hears⟩ := ih silent
          exact ⟨messages, hears.deliver (by simp only [deliver, silent, first, called]) rfl rfl⟩
      | absorbed silent first =>
          obtain ⟨messages, hears⟩ := ih silent
          exact ⟨messages, hears.deliver (by simp only [deliver, silent, first]) rfl rfl⟩
      | refused => cases unanswered
      | failed => cases unanswered
      | closed => cases unanswered

/-! ## What is made of it -/

/-- What the clerk knows and has to do: the findings before the next place have been handed on or are
ready, and those that have arrived behind it are held back. -/
structure Balanced (found : Nat → Verified) (heard : List (Nat × Verified))
    (crew : Crew (σ × List (Outcome × Bool))) : Prop where
  unanswered : crew.answer = none
  buffer : crew.buffer.Sound found
  arrived : ∀ place, crew.buffer.Arrived place ↔ place ∈ heard.map Prod.fst
  fine : ∀ verified ∈ crew.ready, ∃ stats, verified.result = .ok stats
  calls : crew.state.2 ++ crew.ready.flatMap Verified.calls =
    ((List.range crew.buffer.next).map found).flatMap Verified.calls
  stats : crew.stats.absorbAll crew.ready =
    RunStats.zero.absorbAll ((List.range crew.buffer.next).map found)

section

variable {found : Nat → Verified} {heard : List (Nat × Verified)} {sink : Sink σ}
variable {crew next : Crew (σ × List (Outcome × Bool))}

theorem Balanced.start (found : Nat → Verified) (problems : List Problem) (state : σ)
    (bench : Workbench) : Balanced found [] (Crew.start problems (state, []) bench) where
  unanswered := rfl
  buffer := ReorderBuffer.empty_sound found
  arrived := by simp [Crew.start]
  fine := by simp [Crew.start]
  calls := rfl
  stats := rfl

/-- A message that is heard for the first time keeps the clerk's books in balance. -/
theorem Balanced.receive (balanced : Balanced found heard crew) {place : Nat}
    (new : place ∉ heard.map Prod.fst) (fine : ∀ place, ∃ stats, (found place).result = .ok stats)
    {mailbox : List (Nat × Verified)} (arrived : crew.mailbox = (place, found place) :: mailbox)
    (received : crew.receive = some next) :
    Balanced found (heard ++ [(place, found place)]) next := by
  obtain ⟨unanswered, nothing, _, _, _, same, rfl⟩ := receive_eq_some received
  rw [arrived] at same
  cases same
  obtain ⟨sound, later, ready, arrives⟩ :=
    balanced.buffer.receive ((not_congr (balanced.arrived place)).mpr new)
  generalize crew.buffer.receive place (found place) = passed at sound later ready arrives ⊢
  obtain ⟨passed, buffer⟩ := passed
  simp only at sound later ready arrives
  have all : (List.range buffer.next).map found =
      (List.range crew.buffer.next).map found ++ passed := by
    rw [later, List.range_eq_range', List.range_eq_range', ← List.range'_append_1, List.map_append,
      Nat.zero_add, ← ready]
  refine ⟨unanswered, sound, fun other => ?_, fun verified member => ?_, ?_, ?_⟩
  · rw [arrives, balanced.arrived, List.map_append, List.mem_append, List.map_singleton,
      List.mem_singleton]
  · rw [ready] at member
    obtain ⟨other, -, rfl⟩ := List.mem_map.mp member
    exact fine other
  · have before := balanced.calls
    rw [nothing, List.flatMap_nil, List.append_nil] at before
    rw [all, List.flatMap_append, before]
  · have before := balanced.stats
    rw [nothing] at before
    rw [all, RunStats.absorbAll_append, ← before]
    rfl

/-- Handing on the next outcome, or the result behind the last one, keeps the books in balance. -/
theorem Balanced.deliver (takes : sink.TakesAll) (balanced : Balanced found heard crew)
    (delivered : crew.deliver sink.logged = some next) : Balanced found heard next := by
  have unanswered := balanced.unanswered
  cases ready : crew.ready with
  | nil =>
      rw [Crew.deliver, unanswered, ready] at delivered
      cases delivered
  | cons verified rest =>
      obtain ⟨stats, result⟩ := balanced.fine verified (by simp [ready])
      have calls := balanced.calls
      have total := balanced.stats
      rw [ready] at calls total
      obtain ⟨outcomes, given⟩ := verified
      obtain rfl : given = .ok stats := result
      cases outcomes with
      | nil =>
          simp only [Crew.deliver, unanswered, ready] at delivered
          cases delivered
          exact ⟨rfl, balanced.buffer, balanced.arrived,
            fun other member => balanced.fine other (by simp [ready, member]), calls, total⟩
      | cons outcome outcomes =>
          obtain ⟨after, left, called⟩ := takes.logged_run outcome crew.state crew.bench
          simp only [Crew.deliver, unanswered, ready, called] at delivered
          cases delivered
          refine ⟨rfl, balanced.buffer, balanced.arrived, fun other member => ?_, ?_, total⟩
          · rcases List.mem_cons.mp member with rfl | later
            · exact ⟨stats, rfl⟩
            · exact balanced.fine other (by simp [ready, later])
          · rw [← calls]
            simp [Verified.calls]

/-- Whatever has been heard, the clerk's books are in balance. -/
theorem Heard.balanced {state : σ} (takes : sink.TakesAll)
    (fine : ∀ place, ∃ stats, (found place).result = .ok stats)
    (heardAll : Heard sink.logged (state, []) heard crew) (distinct : (heard.map Prod.fst).Nodup)
    (genuine : ∀ message ∈ heard, message.2 = found message.1) : Balanced found heard crew := by
  induction heardAll with
  | start problems bench => exact .start found problems state bench
  | elsewhere tasks posted bench _ ih =>
      have balanced := ih distinct genuine
      exact ⟨balanced.unanswered, balanced.buffer, balanced.arrived, balanced.fine, balanced.calls,
        balanced.stats⟩
  | @received heard mailbox message crew next _ arrived received ih =>
      obtain ⟨place, verified⟩ := message
      obtain rfl : verified = found place := genuine (place, verified) (by simp)
      rw [List.map_append, List.nodup_append] at distinct
      obtain ⟨distinct, -, new⟩ := distinct
      have balanced := ih distinct fun message member =>
        genuine message (List.mem_append_left _ member)
      exact balanced.receive (fun member => new place member place (by simp) rfl) fine arrived
        received
  | delivered _ delivered ih => exact (ih distinct genuine).deliver takes delivered

end

/-! ## What it comes to -/

/-- Everything that has been heard is dealt with: the next place is the first one that is missing, what
has been heard behind it is held back, and what has been heard before it has been handed to the
sink, in order, with the stats summed up. -/
structure UpToDate (heard : List (Nat × Verified)) (crew : Crew (σ × List (Outcome × Bool))) :
    Prop where
  missing : crew.buffer.next ∉ heard.map Prod.fst
  before : ∀ place < crew.buffer.next, place ∈ heard.map Prod.fst
  pending : ∀ message, message ∈ crew.buffer.pending ↔
    message ∈ heard ∧ crew.buffer.next < message.1
  once : (crew.buffer.pending.map Prod.fst).Nodup
  passed : ∃ (findings : List Verified) (each : List ProblemStats),
    findings.length = crew.buffer.next ∧
    (∀ place verified, findings[place]? = some verified → (place, verified) ∈ heard) ∧
    findings.map (·.result) = each.map .ok ∧
    crew.state.2 = findings.flatMap Verified.calls ∧
    crew.stats = ⟨each.countP (·.resolved), (each.map (·.skipped)).sum⟩

section

variable {found : Nat → Verified} {heard : List (Nat × Verified)} {sink : Sink σ}
variable {crew : Crew (σ × List (Outcome × Bool))}

/-- The findings before the next place are those that have been heard about it. -/
theorem Balanced.findings (balanced : Balanced found heard crew)
    (genuine : ∀ message ∈ heard, message.2 = found message.1) (place : Nat) (verified : Verified)
    (there : ((List.range crew.buffer.next).map found)[place]? = some verified) :
    (place, verified) ∈ heard := by
  obtain ⟨inside, rfl⟩ := List.getElem?_eq_some_iff.mp there
  rw [List.length_map, List.length_range] at inside
  obtain ⟨message, member, rfl⟩ := List.mem_map.mp ((balanced.arrived place).mp (.inl inside))
  rw [List.getElem_map, List.getElem_range, ← genuine message member]
  exact member

theorem Balanced.upToDate (balanced : Balanced found heard crew)
    (genuine : ∀ message ∈ heard, message.2 = found message.1)
    (fine : ∀ place, ∃ stats, (found place).result = .ok stats) (nothing : crew.ready = []) :
    UpToDate heard crew where
  missing := (not_congr (balanced.arrived _)).mp balanced.buffer.not_arrived_next
  before place below := (balanced.arrived place).mp (.inl below)
  pending := by
    intro message
    constructor
    · intro held
      obtain ⟨same, member, place⟩ := List.mem_map.mp
        ((balanced.arrived message.1).mp (.inr (List.mem_map_of_mem held)))
      have content : same.2 = message.2 := by
        rw [genuine same member, balanced.buffer.genuine message held, place]
      exact ⟨Prod.ext place content ▸ member, balanced.buffer.above message held⟩
    · rintro ⟨member, behind⟩
      rcases (balanced.arrived message.1).mpr (List.mem_map_of_mem member) with below | held
      · exact absurd below (Nat.lt_asymm behind)
      · obtain ⟨same, held, place⟩ := List.mem_map.mp held
        have content : same.2 = message.2 := by
          rw [genuine message member, balanced.buffer.genuine same held, place]
        exact Prod.ext place content ▸ held
  once := balanced.buffer.distinct
  passed := by
    have calls := balanced.calls
    have stats := balanced.stats
    rw [nothing, List.flatMap_nil, List.append_nil] at calls
    rw [nothing] at stats
    choose each results using fine
    have result : ((List.range crew.buffer.next).map found).map (·.result) =
        ((List.range crew.buffer.next).map each).map .ok := by
      rw [List.map_map, List.map_map]
      exact List.map_congr_left fun place _ => results place
    refine ⟨_, _, by simp, balanced.findings genuine, result, calls, stats.trans ?_⟩
    rw [RunStats.absorbAll_eq result]
    simp [RunStats.zero]

/-- The places up to the next one are those without a gap before them. -/
theorem UpToDate.lt_next_iff (upToDate : UpToDate heard crew) (place : Nat) :
    place < crew.buffer.next ↔ ∀ earlier ≤ place, earlier ∈ heard.map Prod.fst := by
  constructor
  · intro below earlier least
    exact upToDate.before earlier (Nat.lt_of_le_of_lt least below)
  · intro all
    refine Nat.lt_of_not_le fun behind => ?_
    exact upToDate.missing (all _ behind)

/-- Once all places have been heard of, nothing is held back. -/
theorem UpToDate.complete (upToDate : UpToDate heard crew) {count : Nat}
    (distinct : (heard.map Prod.fst).Nodup) (below : ∀ message ∈ heard, message.1 < count)
    (all : heard.length = count) : crew.buffer.pending = [] ∧ crew.buffer.next = count := by
  have inside : ∀ place ∈ heard.map Prod.fst, place < count := by
    intro place member
    obtain ⟨message, there, rfl⟩ := List.mem_map.mp member
    exact below message there
  have places : (heard.map Prod.fst).Perm (List.range count) := by
    have within : heard.map Prod.fst ⊆ List.range count :=
      fun place member => List.mem_range.mpr (inside place member)
    exact (List.subperm_of_subset distinct within).perm_of_length_le (by simp [all])
  have next : crew.buffer.next = count := by
    refine Nat.le_antisymm (Nat.le_of_not_lt fun beyond => ?_) (Nat.le_of_not_lt fun short => ?_)
    · exact Nat.lt_irrefl count (inside count (upToDate.before count beyond))
    · exact upToDate.missing (places.mem_iff.mpr (List.mem_range.mpr short))
  refine ⟨List.eq_nil_iff_forall_not_mem.mpr fun message held => ?_, next⟩
  obtain ⟨member, behind⟩ := (upToDate.pending message).mp held
  rw [next] at behind
  exact Nat.lt_asymm behind (below message member)

/-- How often the clerk has to hand something on before nothing is ready any more. -/
def load (crew : Crew σ) : Nat :=
  (crew.ready.map fun verified => verified.outcomes.length + 1).sum

/-- As long as something is ready, the clerk can go on, and then less is. -/
theorem Balanced.goesOn (takes : sink.TakesAll) (balanced : Balanced found heard crew)
    (something : crew.ready ≠ []) :
    ∃ next, crew.deliver sink.logged = some next ∧ next.load < crew.load ∧
      next.mailbox = crew.mailbox := by
  have unanswered := balanced.unanswered
  obtain ⟨⟨outcomes, result⟩, rest, ready⟩ := List.exists_cons_of_ne_nil something
  obtain ⟨stats, rfl⟩ : ∃ stats, result = .ok stats :=
    balanced.fine ⟨outcomes, result⟩ (by simp [ready])
  cases outcomes with
  | nil =>
      refine ⟨{ crew with ready := rest, stats := crew.stats.absorb stats }, ?_, ?_, rfl⟩
      · simp only [Crew.deliver, unanswered, ready]
      · simp [load, ready]
  | cons outcome outcomes =>
      obtain ⟨after, left, called⟩ := takes.logged_run outcome crew.state crew.bench
      refine ⟨{ crew with
        ready := ⟨outcomes, .ok stats⟩ :: rest
        state := (after, crew.state.2 ++ [(outcome, true)])
        bench := left }, ?_, ?_, rfl⟩
      · simp only [Crew.deliver, unanswered, ready, called]
      · simp [load, ready]

/-- The clerk can go on until nothing is ready any more. -/
theorem Heard.settles {state : σ} (takes : sink.TakesAll)
    (heardAll : Heard sink.logged (state, []) heard crew) (balanced : Balanced found heard crew) :
    ∃ next, Heard sink.logged (state, []) heard next ∧ next.ready = [] ∧
      next.mailbox = crew.mailbox := by
  generalize enough : crew.load = load
  induction load using Nat.strongRecOn generalizing crew with
  | ind load ih =>
      by_cases nothing : crew.ready = []
      · exact ⟨crew, heardAll, nothing, rfl⟩
      · obtain ⟨next, delivered, less, mailbox⟩ := balanced.goesOn takes nothing
        obtain ⟨last, heardLast, settled, same⟩ := ih next.load (enough ▸ less)
          (heardAll.delivered delivered) (balanced.deliver takes delivered) rfl
        exact ⟨last, heardLast, settled, same.trans mailbox⟩

end

/-- The finding that has been heard about a place. -/
def findingIn (heard : List (Nat × Verified)) (place : Nat) : Verified :=
  (heard.lookup place).getD .passedOver

omit [Kernel] in
theorem findingIn_of_mem {heard : List (Nat × Verified)} (distinct : (heard.map Prod.fst).Nodup)
    {message : Nat × Verified} (member : message ∈ heard) :
    message.2 = findingIn heard message.1 := by
  obtain ⟨front, back, rfl⟩ := List.append_of_mem member
  rw [List.map_append, List.nodup_append] at distinct
  obtain ⟨-, -, apart⟩ := distinct
  have found : (front ++ message :: back).lookup message.1 = some message.2 := by
    refine List.lookup_eq_some_iff.mpr ⟨front, back, rfl, fun other there => ?_⟩
    have differs := apart other.1 (List.mem_map_of_mem there) message.1 (by simp)
    simpa using differs.symm
  rw [findingIn, found, Option.getD_some]

omit [Kernel] in
theorem findingIn_fine {heard : List (Nat × Verified)}
    (fine : ∀ message ∈ heard, ∃ stats, message.2.result = .ok stats) (place : Nat) :
    ∃ stats, (findingIn heard place).result = .ok stats := by
  unfold findingIn
  cases found : heard.lookup place with
  | none => exact ⟨_, rfl⟩
  | some verified =>
      obtain ⟨front, back, rfl, -⟩ := List.lookup_eq_some_iff.mp found
      exact fine (place, verified) (by simp)

/-- Whatever messages come in can be heard, one after the other, and dealt with. -/
theorem exists_heard {sink : Sink σ} (takes : sink.TakesAll) (state : σ) (bench : Workbench)
    (heard : List (Nat × Verified)) (distinct : (heard.map Prod.fst).Nodup)
    (fine : ∀ message ∈ heard, ∃ stats, message.2.result = .ok stats) :
    ∃ crew, Heard sink.logged (state, []) heard crew ∧ crew.ready = [] ∧ crew.mailbox = [] := by
  induction heard using List.reverseRecOn with
  | nil => exact ⟨_, .start [] bench, rfl, rfl⟩
  | append_singleton heard message ih =>
      have earlier := distinct
      rw [List.map_append, List.nodup_append] at earlier
      obtain ⟨crew, before, nothing, empty⟩ := ih earlier.1 fun other member =>
        fine other (List.mem_append_left _ member)
      have unanswered : crew.answer = none :=
        (before.balanced takes (findingIn_fine fun other member =>
          fine other (List.mem_append_left _ member)) earlier.1
          fun other member => findingIn_of_mem earlier.1 member).unanswered
      have arrived := before.elsewhere crew.tasks [message] crew.bench
      rw [empty, List.nil_append] at arrived
      have heardNow := arrived.received rfl (by simp only [receive, unanswered, nothing]; rfl)
      have balanced := heardNow.balanced takes (findingIn_fine fine) distinct
        fun other member => findingIn_of_mem distinct member
      obtain ⟨last, heardLast, settled, same⟩ := heardNow.settles takes balanced
      exact ⟨last, heardLast, settled, same⟩

/-- Messages about some of the first `count` places, each of them once and in whatever order, can all be
dealt with by a clerk whose sink takes everything; and each time that is done, the clerk is up to
date: a finding has been handed on exactly when those about all places up to its own have been
heard, and the rest is held back.  At no time has the sink been called for anything else.  Once all
places have been heard of, nothing is held back.  However a crew has moved, its clerk has heard such
messages as long as there is no answer. -/
theorem passes_on_in_order {sink : Sink σ} (takes : sink.TakesAll) (state : σ) (bench : Workbench)
    (count : Nat) (heard : List (Nat × Verified)) (distinct : (heard.map Prod.fst).Nodup)
    (below : ∀ message ∈ heard, message.1 < count)
    (fine : ∀ message ∈ heard, ∃ stats, message.2.result = .ok stats) :
    (∃ crew, Heard sink.logged (state, []) heard crew ∧ crew.ready = []) ∧
    (∀ crew, Heard sink.logged (state, []) heard crew →
      (crew.ready ≠ [] → ∃ next, crew.deliver sink.logged = some next ∧ next.load < crew.load) ∧
      (∃ findings : List Verified,
        (∀ place verified, findings[place]? = some verified → (place, verified) ∈ heard) ∧
        crew.state.2 <+: findings.flatMap Verified.calls) ∧
      (crew.ready = [] →
        UpToDate heard crew ∧
        (∀ place, place < crew.buffer.next ↔
          ∀ earlier ≤ place, earlier ∈ heard.map Prod.fst) ∧
        (heard.length = count → crew.buffer.pending = [] ∧ crew.buffer.next = count))) ∧
    ∀ (harness : Harness) (jobs : Nat) (problems : List Problem)
      (crew : Crew (σ × List (Outcome × Bool))),
      Reached harness sink.logged jobs (.start problems (state, []) bench) crew →
      crew.answer = none → ∃ messages, Heard sink.logged (state, []) messages crew ∧
        (messages.map Prod.fst).Nodup ∧ ∀ message ∈ messages, message.1 < problems.length := by
  have genuine : ∀ message ∈ heard, message.2 = findingIn heard message.1 :=
    fun message member => findingIn_of_mem distinct member
  refine ⟨?_, fun crew heardAll => ?_, fun harness jobs problems crew reached unanswered => ?_⟩
  · obtain ⟨crew, heardAll, nothing, -⟩ := exists_heard takes state bench heard distinct fine
    exact ⟨crew, heardAll, nothing⟩
  · have balanced := heardAll.balanced takes (findingIn_fine fine) distinct genuine
    refine ⟨fun something => ?_, ⟨_, balanced.findings genuine, ?_⟩, fun nothing => ?_⟩
    · obtain ⟨next, delivered, less, -⟩ := balanced.goesOn takes something
      exact ⟨next, delivered, less⟩
    · rw [← balanced.calls]
      exact List.prefix_append _ _
    · have upToDate := balanced.upToDate genuine (findingIn_fine fine) nothing
      exact ⟨upToDate, upToDate.lt_next_iff, upToDate.complete distinct below⟩
  · obtain ⟨messages, hears⟩ := reached.hears unanswered
    have all := hears.distinct
    rw [List.map_append, List.nodup_append] at all
    exact ⟨messages, hears.heard, all.1, hears.below⟩

end Crew

end

attribute [local instance] Platform.small in
/-- Of three problems the last one is heard of first; once the other two have been heard of as well,
everything has been passed on. -/
theorem Crew.passes_on_in_order_sample :
    let finding (name : String) : Verified := ⟨[⟨⟨name⟩, .pass, [], []⟩], .ok ⟨true, 1⟩⟩
    let heard := [(2, finding "C/gs/a.1.gs"), (0, finding "A/gs/a.1.gs"), (1, .passedOver)]
    Sink.keeping.TakesAll ∧ (heard.map Prod.fst).Nodup ∧ (∀ message ∈ heard, message.1 < 3) ∧
      (∀ message ∈ heard, ∃ stats, message.2.result = .ok stats) ∧
      ∃ crew, Heard Sink.keeping.logged ([], []) heard crew ∧ UpToDate heard crew ∧
        crew.buffer.pending = [] ∧ crew.buffer.next = 3 := by
  intro finding heard
  have takes : Sink.keeping.TakesAll := fun _ _ _ => rfl
  have distinct : (heard.map Prod.fst).Nodup := by decide
  have below : ∀ message ∈ heard, message.1 < 3 := by simp [heard]
  have fine : ∀ message ∈ heard, ∃ stats, message.2.result = .ok stats := by
    simp [heard, finding, Verified.passedOver]
  obtain ⟨⟨crew, heardAll, nothing⟩, deals, -⟩ :=
    passes_on_in_order takes [] ⟨⟨⟨[], [], [], [], .usualMask, 0⟩, 0, [], ()⟩, []⟩ 3 heard distinct
      below fine
  obtain ⟨-, -, settled⟩ := deals crew heardAll
  obtain ⟨upToDate, -, complete⟩ := settled nothing
  exact ⟨takes, distinct, below, fine, crew, heardAll, upToDate, complete rfl⟩

end CorpusJudge
