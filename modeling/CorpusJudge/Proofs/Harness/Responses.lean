import CorpusJudge.Harness.Crew

/-!
# Responses of a sink

A sink that minds only its own state is described by its responses.  Handing it findings is then a
function of the findings and of that state, which says what every run has to amount to, whatever
else happens on the workbench in between.
-/

namespace CorpusJudge

variable [Kernel] {σ : Type}

/-- What a sink makes of an outcome in some state: whether it takes it, and its next state. -/
abbrev Response (σ : Type) := Outcome → σ → Except String Unit × σ

namespace Sink

/-- The responses and states of the sink depend on the outcome and its own state alone. -/
def Responds (sink : Sink σ) (respond : Response σ) : Prop :=
  ∀ outcome state bench, (((sink outcome).run state).run bench).1 = respond outcome state

/-- The sink leaves a workbench among those that it finds. -/
def Keeps (sink : Sink σ) (world : Workbench → Prop) : Prop :=
  ∀ outcome state bench, world bench → world (((sink outcome).run state).run bench).2

/-- The sink with a log of its calls: each outcome, and whether it was taken. -/
def logged (sink : Sink σ) : Sink (σ × List (Outcome × Bool)) := fun outcome => do
  let (state, log) ← get
  let (reply, state) ← (sink outcome).run state
  set (state, log ++ [(outcome, reply.isOk)])
  return reply

end Sink

namespace Response

/-- Hand outcomes to the sink until it refuses one. -/
def hand (respond : Response σ) : List Outcome → σ → Except HarnessError Unit × σ
  | [], state => (.ok (), state)
  | outcome :: outcomes, state =>
    match respond outcome state with
    | (.ok (), state) => hand respond outcomes state
    | (.error reason, state) => (.error (.output reason), state)

/-- Hand on what was found about a problem: its outcomes, then its result. -/
def replay (respond : Response σ) (stats : RunStats) (verified : Verified) (state : σ) :
    Except HarnessError RunStats × σ :=
  match hand respond verified.outcomes state with
  | (.ok (), state) => (verified.result.map stats.absorb, state)
  | (.error error, state) => (.error error, state)

/-- Hand on what was found about some problems, up to the first error. -/
def replayAll (respond : Response σ) (stats : RunStats) :
    List Verified → σ → Except HarnessError RunStats × σ
  | [], state => (.ok stats, state)
  | verified :: rest, state =>
    match replay respond stats verified state with
    | (.ok stats, state) => replayAll respond stats rest state
    | (.error error, state) => (.error error, state)

/-- The responses of a sink that logs its calls. -/
def logged (respond : Response σ) : Response (σ × List (Outcome × Bool)) :=
  fun outcome (state, log) =>
    ((respond outcome state).1, (respond outcome state).2,
      log ++ [(outcome, (respond outcome state).1.isOk)])

end Response

theorem Sink.logged_run (sink : Sink σ) (outcome : Outcome) (state : σ)
    (log : List (Outcome × Bool)) (bench : Workbench) :
    ((sink.logged outcome).run (state, log)).run bench =
      let ((reply, after), left) := ((sink outcome).run state).run bench
      ((reply, (after, log ++ [(outcome, reply.isOk)])), left) := rfl

theorem Sink.Responds.logged {sink : Sink σ} {respond : Response σ}
    (responds : sink.Responds respond) : sink.logged.Responds respond.logged := by
  rintro outcome ⟨state, log⟩ bench
  have same := responds outcome state bench
  rw [Sink.logged_run, Response.logged, ← same]
  rfl

theorem Sink.Keeps.logged {sink : Sink σ} {world : Workbench → Prop} (keeps : sink.Keeps world) :
    sink.logged.Keeps world := by
  rintro outcome ⟨state, log⟩ bench here
  exact keeps outcome state bench here

/-! ## Logs of calls -/

/-- Nothing is called any more after a refusal. -/
def Orderly (log : List (Outcome × Bool)) : Prop :=
  ∀ call ∈ log.dropLast, call.2 = true

namespace Response

omit [Kernel] in
/-- Handing on outcomes only adds to the log: all were taken, or the last one was refused. -/
theorem hand_logged (respond : Response σ) (outcomes : List Outcome) (state : σ)
    (log : List (Outcome × Bool)) :
    ∃ taken : List Outcome,
      match respond.logged.hand outcomes (state, log) with
      | (.ok (), after) => after.2 = log ++ taken.map (·, true)
      | (.error _, after) =>
          ∃ refused, after.2 = log ++ taken.map (·, true) ++ [(refused, false)] := by
  induction outcomes generalizing state log with
  | nil => exact ⟨[], by simp [hand]⟩
  | cons outcome outcomes ih =>
      rcases answer : respond outcome state with ⟨value, next⟩
      cases value with
      | error reason =>
          exact ⟨[], by simp [hand, logged, answer, Except.isOk, Except.toBool]⟩
      | ok _ =>
          obtain ⟨taken, outcomesTaken⟩ := ih next (log ++ [(outcome, true)])
          refine ⟨outcome :: taken, ?_⟩
          have first : respond.logged outcome (state, log) =
              (.ok (), next, log ++ [(outcome, true)]) := by
            simp [logged, answer, Except.isOk, Except.toBool]
          simp only [hand, first]
          simpa using outcomesTaken

omit [Kernel] in
/-- Handing on findings only adds to the log, and nothing is called after a refusal if nothing was
before. -/
theorem replayAll_logged (respond : Response σ) (stats : RunStats) (found : List Verified)
    (state : σ) (log : List (Outcome × Bool)) :
    log <+: (respond.logged.replayAll stats found (state, log)).2.2 ∧
      ((∀ call ∈ log, call.2 = true) →
        Orderly (respond.logged.replayAll stats found (state, log)).2.2) := by
  induction found generalizing stats state log with
  | nil =>
      exact ⟨List.prefix_rfl, fun taken call member => taken call (List.dropLast_subset _ member)⟩
  | cons verified rest ih =>
      obtain ⟨more, handed⟩ := hand_logged respond verified.outcomes state log
      have moreTaken (taken : ∀ call ∈ log, call.2 = true) :
          ∀ call ∈ log ++ more.map (·, true), call.2 = true := by
        intro call member
        rcases List.mem_append.mp member with old | new
        · exact taken call old
        · obtain ⟨outcome, -, rfl⟩ := List.mem_map.mp new
          rfl
      rcases result : respond.logged.hand verified.outcomes (state, log) with ⟨value, after, calls⟩
      rw [result] at handed
      cases value with
      | error error =>
          obtain ⟨refused, rfl⟩ := handed
          simp only [replayAll, replay, result]
          refine ⟨by simp [List.append_assoc], ?_⟩
          intro taken call member
          rw [List.dropLast_concat] at member
          exact moreTaken taken call member
      | ok _ =>
          subst handed
          cases outcome : verified.result with
          | error error =>
              simp only [replayAll, replay, result, outcome, Except.map]
              exact ⟨List.prefix_append _ _,
                fun taken call member => moreTaken taken call (List.dropLast_subset _ member)⟩
          | ok stat =>
              simp only [replayAll, replay, result, outcome, Except.map]
              obtain ⟨longer, orderly⟩ := ih (stats.absorb stat) after (log ++ more.map (·, true))
              exact ⟨(List.prefix_append _ _).trans longer, fun taken => orderly (moreTaken taken)⟩

omit [Kernel] in
theorem hand_logged_fst (respond : Response σ) (outcomes : List Outcome) (state : σ)
    (log : List (Outcome × Bool)) :
    (respond.logged.hand outcomes (state, log)).1 = (respond.hand outcomes state).1 ∧
      (respond.logged.hand outcomes (state, log)).2.1 = (respond.hand outcomes state).2 := by
  induction outcomes generalizing state log with
  | nil => exact ⟨rfl, rfl⟩
  | cons outcome outcomes ih =>
      rcases answer : respond outcome state with ⟨value, next⟩
      cases value with
      | error reason => simp [hand, logged, answer]
      | ok _ =>
          simp only [hand, logged, answer]
          exact ih next _

omit [Kernel] in
/-- The log does not change what handing on findings comes to. -/
theorem replayAll_logged_fst (respond : Response σ) (stats : RunStats) (found : List Verified)
    (state : σ) (log : List (Outcome × Bool)) :
    (respond.logged.replayAll stats found (state, log)).1 =
        (respond.replayAll stats found state).1 ∧
      (respond.logged.replayAll stats found (state, log)).2.1 =
        (respond.replayAll stats found state).2 := by
  induction found generalizing stats state log with
  | nil => exact ⟨rfl, rfl⟩
  | cons verified rest ih =>
      obtain ⟨value, next⟩ := hand_logged_fst respond verified.outcomes state log
      rcases plain : respond.hand verified.outcomes state with ⟨reply, after⟩
      rcases result : respond.logged.hand verified.outcomes (state, log) with
        ⟨reply', after', calls⟩
      rw [plain, result] at value next
      obtain rfl : reply' = reply := value
      obtain rfl : after' = after := next
      cases reply' with
      | error error => simp [replayAll, replay, plain, result]
      | ok _ =>
          simp only [replayAll, replay, plain, result]
          cases verified.result with
          | error error => exact ⟨rfl, rfl⟩
          | ok found => exact ih (stats.absorb found) after' calls

end Response

/-! ## Keeping outcomes -/

/-- A sink that keeps all outcomes. -/
def Sink.keeping : Sink (List Outcome) := fun outcome => do
  modify (· ++ [outcome])
  return .ok ()

/-- Keeping takes every outcome. -/
def Response.keeping : Response (List Outcome) := fun outcome kept => (.ok (), kept ++ [outcome])

theorem Sink.keeping_responds : Sink.keeping.Responds Response.keeping :=
  fun _ _ _ => rfl

end CorpusJudge
