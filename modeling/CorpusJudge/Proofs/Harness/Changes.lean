import CorpusJudge.Harness.Crew

/-!
# Changes of a crew

Every move of a crew that is possible changes it in one of ten ways.  Whatever is to be shown about
all moves is shown about these.
-/

namespace CorpusJudge.Crew

variable [Kernel] {σ : Type}

/-! ## Notes about tasks -/

variable {crew : Crew σ}

/-- What has become of the problem at one place, after that of another place has been noted. -/
theorem assign_getElem? {place : Nat} {problem : Problem} {old : Task}
    (there : crew.tasks[place]? = some (problem, old)) (task : Task) (other : Nat) :
    (crew.assign place problem task).tasks[other]? =
      if other = place then some (problem, task) else crew.tasks[other]? := by
  obtain ⟨inside, -⟩ := List.getElem?_eq_some_iff.mp there
  simp only [assign, List.getElem?_set]
  by_cases same : other = place
  · subst same
    simp [inside]
  · simp [same, Ne.symm same]

theorem assign_problems {place : Nat} {problem : Problem} {old : Task}
    (there : crew.tasks[place]? = some (problem, old)) (task : Task) :
    (crew.assign place problem task).tasks.map Prod.fst = crew.tasks.map Prod.fst := by
  apply List.ext_getElem?
  intro other
  rw [List.getElem?_map, List.getElem?_map, assign_getElem? there]
  split
  case isTrue same =>
    rw [same, there]
    rfl
  case isFalse => rfl

theorem mem_assign {place : Nat} {problem other : Problem} {task given : Task}
    (member : (other, given) ∈ (crew.assign place problem task).tasks) :
    other = problem ∧ given = task ∨ (other, given) ∈ crew.tasks := by
  rcases List.mem_or_eq_of_mem_set member with old | new
  · exact .inr old
  · exact .inl (Prod.mk.inj new)

theorem mem_of_place {place : Nat} {problem : Problem} {task : Task}
    (there : crew.tasks[place]? = some (problem, task)) : (problem, task) ∈ crew.tasks :=
  List.mem_of_getElem? there

theorem assign_self {place : Nat} {problem : Problem} {task : Task}
    (there : crew.tasks[place]? = some (problem, task)) :
    crew.assign place problem task = crew := by
  have same : crew.tasks.set place (problem, task) = crew.tasks := by
    apply List.ext_getElem?
    intro other
    have assigned := assign_getElem? there task other
    simp only [assign] at assigned
    rw [assigned]
    split
    case isTrue here => rw [here, there]
    case isFalse => rfl
  rw [assign, same]

@[simp] theorem assign_assign (place : Nat) (problem : Problem) (task later : Task) :
    (crew.assign place problem task).assign place problem later =
      crew.assign place problem later := by
  simp [assign]

/-! ## Changes -/

/-- What a possible move does to a crew. -/
inductive Change (harness : Harness) (sink : Sink σ) (jobs : Nat) (crew : Crew σ) :
    Crew σ → Prop where
  | taken {place : Nat} {problem : Problem} :
      crew.tasks[place]? = some (problem, .waiting) → crew.busy < jobs →
      Change harness sink jobs crew (crew.assign place problem (.underway .loading))
  | dropped {place : Nat} {problem : Problem} :
      crew.tasks[place]? = some (problem, .waiting) → crew.busy < jobs →
      crew.isAborted = true →
      Change harness sink jobs crew (crew.assign place problem .dropped)
  | advanced {place : Nat} {problem : Problem} {stage : Stage} {task : Task} {bench : Workbench} :
      crew.tasks[place]? = some (problem, .underway stage) →
      (stage.advance harness problem).run crew.bench = (task, bench) →
      Change harness sink jobs crew { crew.assign place problem task with bench := bench }
  | sent {place : Nat} {problem : Problem} {verified : Verified} :
      crew.tasks[place]? = some (problem, .finished verified) →
      Change harness sink jobs crew
        { crew.assign place problem .sent with mailbox := crew.mailbox ++ [(place, verified)] }
  | received {place : Nat} {verified : Verified} {mailbox : List (Nat × Verified)}
      {ready : List Verified} {buffer : ReorderBuffer Verified} :
      crew.answer = none → crew.ready = [] → crew.mailbox = (place, verified) :: mailbox →
      crew.buffer.receive place verified = (ready, buffer) →
      Change harness sink jobs crew
        { crew with mailbox := mailbox, buffer := buffer, ready := ready }
  | handed {outcome : Outcome} {outcomes : List Outcome} {result : Except HarnessError ProblemStats}
      {ready : List Verified} {state : σ} {bench : Workbench} :
      crew.answer = none → crew.ready = ⟨outcome :: outcomes, result⟩ :: ready →
      ((sink outcome).run crew.state).run crew.bench = ((.ok (), state), bench) →
      Change harness sink jobs crew
        { crew with ready := ⟨outcomes, result⟩ :: ready, state := state, bench := bench }
  | refused {outcome : Outcome} {outcomes : List Outcome}
      {result : Except HarnessError ProblemStats} {ready : List Verified} {reason : String}
      {state : σ} {bench : Workbench} :
      crew.answer = none → crew.ready = ⟨outcome :: outcomes, result⟩ :: ready →
      ((sink outcome).run crew.state).run crew.bench = ((.error reason, state), bench) →
      Change harness sink jobs crew
        { crew with state := state, bench := bench, answer := some (.error (.output reason)) }
  | absorbed {found : ProblemStats} {ready : List Verified} :
      crew.answer = none → crew.ready = ⟨[], .ok found⟩ :: ready →
      Change harness sink jobs crew
        { crew with ready := ready, stats := crew.stats.absorb found }
  | failed {error : HarnessError} {ready : List Verified} :
      crew.answer = none → crew.ready = ⟨[], .error error⟩ :: ready →
      Change harness sink jobs crew { crew with answer := some (.error error) }
  | closed :
      crew.answer = none → crew.ready = [] → crew.mailbox = [] → crew.isIdle = true →
      Change harness sink jobs crew { crew with answer := some (.ok crew.stats) }

variable {harness : Harness} {sink : Sink σ} {jobs : Nat} {next : Crew σ}

private theorem take_change {place : Nat} {drops : Bool}
    (stepped : crew.take jobs place drops = some next) : Change harness sink jobs crew next := by
  unfold take at stepped
  split at stepped
  case h_2 => cases stepped
  case h_1 problem waits =>
    split at stepped
    case isTrue => cases stepped
    case isFalse free =>
      have free : crew.busy < jobs := Nat.lt_of_not_le free
      split at stepped
      case isFalse => cases stepped; exact .taken waits free
      case isTrue =>
        split at stepped
        case isFalse => cases stepped
        case isTrue aborted => cases stepped; exact .dropped waits free aborted

private theorem work_change {place : Nat} (stepped : crew.work harness place = some next) :
    Change harness sink jobs crew next := by
  unfold work at stepped
  split at stepped
  case h_1 problem stage busy => cases stepped; exact .advanced busy rfl
  case h_2 problem verified busy => cases stepped; exact .sent busy
  case h_3 => cases stepped

private theorem receive_change (stepped : crew.receive = some next) :
    Change harness sink jobs crew next := by
  unfold receive at stepped
  split at stepped
  case h_1 unanswered nothing arrived =>
    cases stepped
    exact .received unanswered nothing arrived rfl
  case h_2 => cases stepped

private theorem deliver_change (stepped : crew.deliver sink = some next) :
    Change harness sink jobs crew next := by
  unfold deliver at stepped
  split at stepped
  case h_1 outcome outcomes result ready unanswered first =>
    rcases called : ((sink outcome).run crew.state).run crew.bench with ⟨⟨reply, state⟩, bench⟩
    rw [called] at stepped
    cases reply with
    | ok _ => cases stepped; exact .handed unanswered first called
    | error reason => cases stepped; exact .refused unanswered first called
  case h_2 found ready unanswered first => cases stepped; exact .absorbed unanswered first
  case h_3 error ready unanswered first => cases stepped; exact .failed unanswered first
  case h_4 => cases stepped

private theorem close_change (stepped : crew.close = some next) :
    Change harness sink jobs crew next := by
  unfold close at stepped
  split at stepped
  case h_1 unanswered nothing nobody =>
    split at stepped
    case isTrue idle => cases stepped; exact .closed unanswered nothing nobody idle
    case isFalse => cases stepped
  case h_2 => cases stepped

theorem change_of_step {move : Move} (stepped : crew.step harness sink jobs move = some next) :
    Change harness sink jobs crew next := by
  cases move with
  | take place drops => exact take_change stepped
  | work place => exact work_change stepped
  | receive => exact receive_change stepped
  | deliver => exact deliver_change stepped
  | close => exact close_change stepped

theorem Change.exists_move (changed : Change harness sink jobs crew next) :
    ∃ move, crew.step harness sink jobs move = some next := by
  cases changed with
  | @taken place _ waits free =>
      exact ⟨.take place false, by simp [step, take, waits, Nat.not_le.mpr free]⟩
  | @dropped place _ waits free aborted =>
      exact ⟨.take place true, by simp [step, take, waits, Nat.not_le.mpr free, aborted]⟩
  | @advanced place _ _ _ _ busy advanced =>
      exact ⟨.work place, by simp only [step, work, busy, advanced]⟩
  | @sent place _ _ busy => exact ⟨.work place, by simp only [step, work, busy]⟩
  | received unanswered nothing arrived received =>
      exact ⟨.receive, by simp only [step, receive, unanswered, nothing, arrived, received]⟩
  | handed unanswered first called =>
      exact ⟨.deliver, by simp only [step, deliver, unanswered, first, called]⟩
  | refused unanswered first called =>
      exact ⟨.deliver, by simp only [step, deliver, unanswered, first, called]⟩
  | absorbed unanswered first => exact ⟨.deliver, by simp only [step, deliver, unanswered, first]⟩
  | failed unanswered first => exact ⟨.deliver, by simp only [step, deliver, unanswered, first]⟩
  | closed unanswered nothing nobody idle =>
      exact ⟨.close, by simp only [step, close, unanswered, nothing, nobody, idle, if_true]⟩

/-- The runs that a change leads to are reached. -/
theorem Reached.change {first : Crew σ} (reached : Reached harness sink jobs first crew)
    (changed : Change harness sink jobs crew next) : Reached harness sink jobs first next := by
  obtain ⟨move, stepped⟩ := changed.exists_move
  exact .move move reached stepped

end CorpusJudge.Crew
