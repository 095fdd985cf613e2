import CorpusJudge.Proofs.Execution

/-!
# Deadlines

An execution is decided by a few moments: when it was asked for, when its program had been started,
when the program ended and when its outputs closed.  One that is over by its deadline is complete.  The
other way round there are two margins: the program is given its full time from when it had been
started, and after its end the outputs are given a grace, be it beyond the deadline.
-/

namespace CorpusJudge

/-! ## Moments -/

/-- What happens at a moment, if it ever happens, has happened by a time. -/
def HasHappened (moment : Option Nat) (time : Nat) : Prop :=
  ∃ happened ∈ moment, happened ≤ time

instance (moment : Option Nat) (time : Nat) : Decidable (HasHappened moment time) :=
  inferInstanceAs (Decidable (∃ happened ∈ moment, happened ≤ time))

theorem HasHappened.mono {moment : Option Nat} {time later : Nat} (happened : HasHappened moment time)
    (after : time ≤ later) : HasHappened moment later := by
  obtain ⟨when, same, before⟩ := happened
  exact ⟨when, same, Nat.le_trans before after⟩

/-- The first moment from a time on at which something is the case, or else the one at which patience
ends. -/
def firstMoment (isOver : Nat → Bool) : Nat → Nat → Nat
  | 0, time => time
  | patience + 1, time => if isOver time then time else firstMoment isOver patience (time + 1)

section

variable {isOver : Nat → Bool} {moment : Option Nat}
variable (tells : ∀ time, isOver time = true ↔ HasHappened moment time)

include tells

/-- What happens before patience ends is waited for. -/
theorem firstMoment_of_happened {happened : Nat} (same : moment = some happened) {patience time : Nat}
    (soon : happened ≤ time + patience) :
    firstMoment isOver patience time = max time happened := by
  induction patience generalizing time with
  | zero => exact (Nat.max_eq_left soon).symm
  | succ patience ih =>
      rw [firstMoment]
      split
      next finished =>
        obtain ⟨when, there, before⟩ := (tells time).mp finished
        obtain rfl : happened = when := Option.some.inj (same.symm.trans there)
        exact (Nat.max_eq_left before).symm
      next goesOn =>
        have after : time < happened :=
          Nat.lt_of_not_le fun before => goesOn ((tells time).mpr ⟨happened, same, before⟩)
        rw [ih (by omega)]
        omega

/-- Nobody waits longer for what does not happen before patience ends. -/
theorem firstMoment_of_not {patience time : Nat} (late : ¬HasHappened moment (time + patience)) :
    firstMoment isOver patience time = time + patience := by
  induction patience generalizing time with
  | zero => rfl
  | succ patience ih =>
      have goesOn : isOver time = false := by
        rw [← Bool.not_eq_true, tells]
        exact fun happened => late (happened.mono (Nat.le_add_right ..))
      have shifted : time + 1 + patience = time + (patience + 1) := by omega
      rw [firstMoment, goesOn, if_neg Bool.false_ne_true, ih (shifted ▸ late), shifted]

end

/-! ## Timelines -/

/-- When a program ends and its outputs close, as far as they ever do, unless somebody kills it. -/
structure Timeline where
  ended : Option Nat
  closed : Output → Option Nat

/-- The program has ended and its outputs have closed by a time. -/
structure Timeline.IsOverBy (timeline : Timeline) (time : Nat) : Prop where
  ended : HasHappened timeline.ended time
  closed : ∀ output, HasHappened (timeline.closed output) time

/-- Whether the program ended and its output with it before the time limit. -/
def Execution.isComplete : Execution → Bool
  | .completed .. => true
  | .timedOut .. => false

namespace Watch

variable {World : Type}

/-- What a watch sees of a world in the course of time is what a timeline says, and whoever waits is
told of what happens within the given time, and of nothing else.  No wait fails. -/
structure Follows (watch : Watch World) (timeline : Timeline) (course : Nat → World) : Prop where
  clock : ∀ time, watch.clock (course time) = time
  hasEnded : ∀ time, watch.hasEnded (course time) = true ↔ HasHappened timeline.ended time
  fault? : ∀ time, watch.fault? (course time) = none
  ending? : ∀ time, (watch.ending? (course time)).isSome = true ↔ HasHappened timeline.ended time
  isOpen : ∀ output time,
    (!watch.isOpen output (course time)) = true ↔ HasHappened (timeline.closed output) time
  runUntil : ∀ time horizon isOver, watch.runUntil (course time) horizon isOver =
    course (firstMoment (fun moment => isOver (course moment)) (horizon - time) time)

namespace Follows

variable {watch : Watch World} {timeline : Timeline} {course : Nat → World}
variable (follows : watch.Follows timeline course)

include follows

/-- Whoever waits for something up to a point in time knows then whether it has happened by that
point, and goes on as soon as it has. -/
theorem wait (isOver : World → Bool) {moment : Option Nat}
    (tells : ∀ time, isOver (course time) = true ↔ HasHappened moment time) {time horizon : Nat}
    (ahead : time ≤ horizon) :
    ∃ later, watch.runUntil (course time) horizon isOver = course later ∧ time ≤ later ∧
      later ≤ horizon ∧ (HasHappened moment later ↔ HasHappened moment horizon) ∧
      ∀ happened ∈ moment, happened ≤ horizon → later = max time happened := by
  refine ⟨_, follows.runUntil time horizon isOver, ?_⟩
  have whole : time + (horizon - time) = horizon := Nat.add_sub_of_le ahead
  by_cases soon : HasHappened moment horizon
  · obtain ⟨happened, same, before⟩ := soon
    have arrives := firstMoment_of_happened tells same (whole.symm ▸ before)
    rw [arrives]
    refine ⟨Nat.le_max_left .., Nat.max_le.mpr ⟨ahead, before⟩,
      iff_of_true ⟨happened, same, Nat.le_max_right ..⟩ ⟨happened, same, before⟩, ?_⟩
    intro other there _
    rw [Option.some.inj (same.symm.trans there)]
  · have passes := firstMoment_of_not tells (whole.symm ▸ soon)
    rw [passes, whole]
    exact ⟨ahead, Nat.le_refl _, Iff.rfl, fun happened there before =>
      absurd ⟨happened, there, before⟩ soon⟩

/-- An output is collected until it closes or the time is up. -/
theorem collect (output : Output) {time limit : Nat} (ahead : time ≤ limit) :
    ∃ bytes isClosed later, watch.collect output limit (course time) =
        ((bytes, isClosed), course later) ∧ later ≤ limit ∧
      (isClosed = true ↔ HasHappened (timeline.closed output) limit) := by
  obtain ⟨later, waits, -, before, known, -⟩ :=
    follows.wait (fun world => !watch.isOpen output world) (follows.isOpen output) ahead
  refine ⟨_, _, later, by rw [Watch.collect, waits], before, ?_⟩
  rw [follows.isOpen, known]

/-- The outputs of a program that has ended are complete if both of them close in time. -/
theorem drain (ending : Ending) {time limit : Nat} (ahead : time ≤ limit) :
    (watch.drain limit ending (course time)).1.isComplete = true ↔
      ∀ output, HasHappened (timeline.closed output) limit := by
  obtain ⟨stdout, stdoutClosed, later, collected, ahead, first⟩ := follows.collect .stdout ahead
  obtain ⟨stderr, stderrClosed, last, collectedNext, -, second⟩ := follows.collect .stderr ahead
  have both : (stdoutClosed && stderrClosed) = true ↔
      ∀ output, HasHappened (timeline.closed output) limit := by
    rw [Bool.and_eq_true, first, second]
    constructor
    · rintro ⟨stdout, stderr⟩ (- | -)
      · exact stdout
      · exact stderr
    · exact fun closed => ⟨closed .stdout, closed .stderr⟩
  simp only [Watch.drain, collected, collectedNext, ← both]
  split
  next closed => simp [Execution.isComplete, closed]
  next opened => simp [Execution.isComplete, opened]

/-- A program can be waited for, and its execution is complete exactly if it ends within its time from the
start on, and its outputs close by the deadline or within the grace after the end was seen. -/
theorem await (asked timeout : Nat) (begun : Nat) :
    ∃ execution, (watch.await asked timeout (course begun)).1 = .ok execution ∧
      (execution.isComplete = true ↔
        ∃ ended ∈ timeline.ended, ended ≤ begun + timeout ∧ ∀ output,
          HasHappened (timeline.closed output)
            (Interpreter.drainUntil asked timeout (max begun ended))) := by
  have ahead : begun ≤ begun + timeout := Nat.le_add_right ..
  obtain ⟨later, waits, -, -, known, arrives⟩ := follows.wait watch.hasEnded follows.hasEnded ahead
  have waited : watch.waited timeout (course begun) = course later := by
    rw [Watch.waited, follows.clock, waits]
  rw [Watch.await_eq_settle (waited ▸ follows.fault? later), waited]
  refine ⟨_, rfl, ?_⟩
  simp only [Watch.settle, follows.clock]
  cases seen : watch.ending? (course later) with
  | none =>
      have running : ¬HasHappened timeline.ended (begun + timeout) := by
        rw [← known, ← follows.ending?, seen]
        exact Bool.false_ne_true
      refine iff_of_false (fun complete => ?_) ?_
      · simp [Watch.cutShort, Execution.isComplete] at complete
      · rintro ⟨ended, same, before, -⟩
        exact running ⟨ended, same, before⟩
  | some ending =>
      have finished : HasHappened timeline.ended (begun + timeout) := by
        rw [← known, ← follows.ending?, seen]
        rfl
      obtain ⟨ended, same, before⟩ := finished
      obtain rfl := arrives ended same before
      have ahead : max begun ended ≤ Interpreter.drainUntil asked timeout (max begun ended) :=
        Nat.le_trans (Nat.le_add_right ..) (Nat.le_max_right ..)
      simp only [follows.drain ending ahead]
      constructor
      · exact fun closed => ⟨ended, same, before, closed⟩
      · rintro ⟨other, there, -, closed⟩
        rwa [Option.some.inj (same.symm.trans there)]

end Follows

end Watch

/-- What comes of an execution is what comes of waiting for the program that it has started, and where no
wait fails there is an execution.  One that is over by its deadline is complete.  A complete one is over
by its deadline unless the program ended after the deadline, within the time that it took to start it, or
an output closed after the deadline, within the grace after the program's end was seen.  So a program that
is started at once, and does not end right before the deadline, is complete exactly if it is over by the
deadline. -/
theorem Watch.Follows.decided_by_deadline {World : Type} {watch : Watch World} {timeline : Timeline}
    {course : Nat → World} (follows : watch.Follows timeline course) (asked starting timeout : Nat) :
    (∀ [Platform] (interpreter : Interpreter) solution input machine child running,
      interpreter.start solution input machine = .ok (child, running) →
      (interpreter.perform solution input machine).1 =
        ((Platform.watch child).await machine.clock (interpreter.timeout * 1000) running).1.mapError
          (.wait interpreter.program)) ∧
    let deadline := asked + timeout
    let begun := asked + starting
    ∃ execution, (watch.await asked timeout (course begun)).1 = .ok execution ∧
    let isComplete := execution.isComplete
    (isComplete = true ↔ ∃ ended ∈ timeline.ended, ended ≤ deadline + starting ∧ ∀ output,
      HasHappened (timeline.closed output)
        (max deadline (max begun ended + Interpreter.drainGrace))) ∧
    (timeline.IsOverBy deadline → isComplete = true) ∧
    (isComplete = true → timeline.IsOverBy deadline ∨ ∃ ended ∈ timeline.ended,
      (deadline < ended ∧ ended ≤ deadline + starting) ∨ ∃ output, ∃ closed ∈ timeline.closed output,
        deadline < closed ∧ closed ≤ max begun ended + Interpreter.drainGrace) ∧
    (starting = 0 → (∀ ended ∈ timeline.ended,
        max begun ended + Interpreter.drainGrace ≤ deadline ∨ deadline < ended) →
      (isComplete = true ↔ timeline.IsOverBy deadline)) := by
  refine ⟨fun _ _ _ _ _ _ begun => congrArg Prod.fst (Interpreter.perform_started begun), ?_⟩
  intro deadline begun
  obtain ⟨execution, awaited, decides⟩ := follows.await asked timeout begun
  refine ⟨execution, awaited, ?_⟩
  intro isComplete
  have completes : isComplete = true ↔ ∃ ended ∈ timeline.ended, ended ≤ deadline + starting ∧
      ∀ output, HasHappened (timeline.closed output)
        (max deadline (max begun ended + Interpreter.drainGrace)) := by
    have window : begun + timeout = deadline + starting := Nat.add_right_comm ..
    rw [← window]
    exact decides
  have inTime (finished : timeline.IsOverBy deadline) : isComplete = true := by
    obtain ⟨⟨ended, same, before⟩, closed⟩ := finished
    exact completes.mpr ⟨ended, same, Nat.le_add_right_of_le before,
      fun output => (closed output).mono (Nat.le_max_left ..)⟩
  refine ⟨completes, inTime, fun complete => ?_, fun atOnce apart => ⟨fun complete => ?_, inTime⟩⟩
  · obtain ⟨ended, same, before, closed⟩ := completes.mp complete
    rcases Nat.lt_or_ge deadline ended with late | punctual
    · exact .inr ⟨ended, same, .inl ⟨late, before⟩⟩
    · by_cases inTime : ∀ output, HasHappened (timeline.closed output) deadline
      · exact .inl ⟨⟨ended, same, punctual⟩, inTime⟩
      · obtain ⟨output, opened⟩ := Classical.not_forall.mp inTime
        obtain ⟨when, there, within⟩ := closed output
        have after : deadline < when := Nat.lt_of_not_le fun soon => opened ⟨when, there, soon⟩
        exact .inr ⟨ended, same, .inr ⟨output, when, there, after, by omega⟩⟩
  · obtain ⟨ended, same, before, closed⟩ := completes.mp complete
    have limit : max deadline (max begun ended + Interpreter.drainGrace) = deadline ∧
        ended ≤ deadline := by
      rcases apart ended same with early | late
      · exact ⟨Nat.max_eq_left early, by omega⟩
      · omega
    exact ⟨⟨ended, same, limit.2⟩, fun output => limit.1 ▸ closed output⟩

namespace Timeline

/-- A world that is nothing but a clock, in which a program behaves as the timeline says. -/
def world (timeline : Timeline) : Watch Nat where
  clock := id
  hasEnded time := decide (HasHappened timeline.ended time)
  fault? _ := none
  ending? time := if HasHappened timeline.ended time then some (.code 0) else none
  isOpen output time := !decide (HasHappened (timeline.closed output) time)
  captured _ _ := []
  runUntil time horizon isOver := firstMoment isOver (horizon - time) time
  kill := id

/-- There is a world for every timeline. -/
theorem world_follows (timeline : Timeline) : timeline.world.Follows timeline id where
  clock _ := rfl
  hasEnded _ := decide_eq_true_iff
  fault? _ := rfl
  ending? time := by
    simp only [world]
    split
    next ended => exact iff_of_true rfl ended
    next running => exact iff_of_false Bool.false_ne_true running
  isOpen output time := by simp [world]
  runUntil _ _ _ := rfl

/-- A program that has ended after 0.3 seconds, but whose outputs are held open for four seconds, is not
complete within half a second. -/
theorem decided_by_deadline_sample :
    let timeline : Timeline := ⟨some 300000, fun _ => some 4000000⟩
    timeline.world.Follows timeline id ∧
      ∃ execution, (timeline.world.await 0 500000 0).1 = .ok execution ∧
        execution.isComplete = false := by
  intro timeline
  obtain ⟨-, execution, awaited, -, -, -, decides⟩ :=
    timeline.world_follows.decided_by_deadline 0 0 500000
  refine ⟨timeline.world_follows, execution, awaited, ?_⟩
  rw [← Bool.not_eq_true]
  intro complete
  have finished := (decides rfl (by simp [timeline, Interpreter.drainGrace])).mp complete
  exact absurd (finished.closed .stdout) (by decide)

/-- A program that ends shortly before its deadline is complete although its outputs are still held open
at the deadline, and so is one that took some time to start and ends after its deadline. -/
theorem completes_past_deadline :
    let lingering : Timeline := ⟨some 930000, fun _ => some 1065000⟩
    let belated : Timeline := ⟨some 1005000, fun _ => some 1005000⟩
    ((∃ execution, (lingering.world.await 0 1000000 0).1 = .ok execution ∧
        execution.isComplete = true) ∧ ¬lingering.IsOverBy 1000000) ∧
      (∃ execution, (belated.world.await 0 1000000 10000).1 = .ok execution ∧
        execution.isComplete = true) ∧ ¬belated.IsOverBy 1000000 := by
  intro lingering belated
  obtain ⟨late, lingers, completes⟩ := lingering.world_follows.await 0 1000000 0
  obtain ⟨later, starts, completesToo⟩ := belated.world_follows.await 0 1000000 10000
  refine ⟨⟨⟨late, lingers, completes.mpr ⟨930000, rfl, by decide, fun output => ?_⟩⟩,
    fun finished => absurd (finished.closed .stdout) (by decide)⟩,
    ⟨later, starts, completesToo.mpr ⟨1005000, rfl, by decide, fun output => ?_⟩⟩,
    fun finished => absurd finished.ended (by decide)⟩
  · exact ⟨1065000, rfl, by decide⟩
  · exact ⟨1005000, rfl, by decide⟩

end Timeline

end CorpusJudge
