import CorpusJudge.Proofs.Cache.Corpus
import CorpusJudge.Proofs.Harness.Responses
import CorpusJudge.Proofs.Harness.Stages

/-!
# Cache files in the course of a run

Which cache files are there, and what the source has been asked for, is known from what has become
of each problem.  Every step of a verification keeps it that way, whatever other steps come in
between.
-/

namespace CorpusJudge

variable [Kernel]

/-- The name that the source is asked for, if the event is a request. -/
def Event.request? : Event → Option String
  | .fetching name => some name
  | _ => none

/-- The names that the source has been asked for. -/
def Workbench.requests (bench : Workbench) : List String :=
  bench.journal.filterMap Event.request?

theorem Workbench.requests_noting (bench : Workbench) (event : Event) :
    (bench.noting event).requests = bench.requests ++ event.request?.toList := by
  simp only [requests, noting, List.filterMap_append]
  cases asked : event.request? <;> simp [asked]

/-- The interpreter leaves some places alone. -/
def Harness.Spares (harness : Harness) (places : Location → Prop) : Prop :=
  ∀ path input machine, Untouched places machine.files (harness.executor path input machine).2.files

/-- The sink leaves some places alone, and asks the source for nothing. -/
def Sink.Spares {σ : Type} (sink : Sink σ) (places : Location → Prop) : Prop :=
  ∀ outcome state bench,
    let left := (((sink outcome).run state).run bench).2
    Untouched places bench.machine.files left.machine.files ∧ left.requests = bench.requests

theorem Sink.Spares.logged {σ : Type} {sink : Sink σ} {places : Location → Prop}
    (spares : sink.Spares places) : sink.logged.Spares places := by
  rintro outcome ⟨state, log⟩ bench
  exact spares outcome state bench

theorem Sink.keeping_spares (places : Location → Prop) : Sink.keeping.Spares places :=
  fun _ _ _ => ⟨.refl _ _, rfl⟩

namespace Task

/-- Whether the source has been asked for the problem's metadata, if it had to be. -/
def hasAsked : Task → Bool
  | waiting => false
  | underway .loading => false
  | underway .fetching => false
  | dropped => false
  | _ => true

/-- Whether the answer of the source has been stored, if there was one to be stored. -/
def hasStored : Task → Bool
  | underway (.storing _) => false
  | task => task.hasAsked

end Task

/-- Where a verification asks the source and stores its answer, the cache file was not there at the
start. -/
def Stage.Fits (source : Source) (start : FileTree) (problem : Problem) : Stage → Prop
  | fetching => problem.isAbsent start = true
  | storing document => problem.isAbsent start = true ∧ source problem.name = .ok document
  | _ => True

/-- The workbench when something has become of each problem: a cache file that was not there at the
start is there once it has been stored, nothing else has changed about the corpus, and the source
has been asked once for each problem whose cache file was not there and who has come that far. -/
structure Caching (source : Source) (start : Workbench) (problems : List Problem)
    (tasks : List (Problem × Task)) (bench : Workbench) : Prop where
  roster : tasks.map Prod.fst = problems
  wellFormed : bench.machine.files.WellFormed
  base : bench.machine.files.base = start.machine.files.base
  own : ∀ (place : Nat) problem task, tasks[place]? = some (problem, task) → ∀ location,
    start.machine.files.locate true problem.metadataPath = .ok location →
      bench.machine.files.lookup location =
        if problem.isAbsent start.machine.files && task.hasStored then problem.cached source
        else start.machine.files.lookup location
  others : ∀ location, Concerns start.machine.files problems location →
    (∀ problem ∈ problems, start.machine.files.locate true problem.metadataPath ≠ .ok location) →
      bench.machine.files.lookup location = start.machine.files.lookup location
  locked : ∀ location, Concerns start.machine.files problems location →
    bench.machine.files.locked.lookup location = start.machine.files.locked.lookup location
  requests : bench.requests.Perm (start.requests ++
    (tasks.filter fun (problem, task) =>
      problem.isAbsent start.machine.files && task.hasAsked).map (·.1.name))
  fits : ∀ problem stage, (problem, Task.underway stage) ∈ tasks →
    stage.Fits source start.machine.files problem

namespace Caching

variable {source : Source} {start bench left : Workbench} {problems : List Problem}
variable {tasks : List (Problem × Task)}

/-- Before anything has been done. -/
theorem begun (source : Source) (problems : List Problem)
    (wellFormed : start.machine.files.WellFormed) :
    Caching source start problems (problems.map (·, .waiting)) start where
  roster := by simp [Function.comp_def]
  wellFormed := wellFormed
  base := rfl
  own := by
    intro place problem task there location located
    rw [List.getElem?_map] at there
    obtain ⟨_, -, same⟩ := Option.map_eq_some_iff.mp there
    cases same
    simp [Task.hasStored, Task.hasAsked]
  others := fun _ _ _ => rfl
  locked := fun _ _ => rfl
  requests := by simp [List.filter_map, Function.comp_def, Task.hasAsked]
  fits := by
    intro problem stage member
    obtain ⟨_, -, same⟩ := List.mem_map.mp member
    cases same

theorem listed (caching : Caching source start problems tasks bench) {place : Nat}
    {problem : Problem} {task : Task} (there : tasks[place]? = some (problem, task)) :
    problems[place]? = some problem := by
  rw [← caching.roster, List.getElem?_map, there]
  rfl

theorem entry (caching : Caching source start problems tasks bench) {place : Nat}
    {problem : Problem} (listed : problems[place]? = some problem) :
    ∃ task, tasks[place]? = some (problem, task) := by
  rw [← caching.roster, List.getElem?_map] at listed
  obtain ⟨⟨_, task⟩, there, rfl⟩ := Option.map_eq_some_iff.mp listed
  exact ⟨task, there⟩

/-- In the places that concern the problems, only cache files have appeared. -/
theorem filled (caching : Caching source start problems tasks bench) :
    Filled source start.machine.files problems bench.machine.files where
  wellFormed := caching.wellFormed
  base := caching.base
  lookup := by
    intro location concerns
    by_cases named : ∃ problem ∈ problems,
        start.machine.files.locate true problem.metadataPath = .ok location
    · obtain ⟨problem, member, located⟩ := named
      obtain ⟨place, listed⟩ := List.mem_iff_getElem?.mp member
      obtain ⟨task, there⟩ := caching.entry listed
      rw [caching.own place _ task there location located]
      split
      · next stored =>
          obtain ⟨absent, -⟩ := Bool.and_eq_true_iff.mp stored
          rw [Problem.isAbsent, located] at absent
          exact .inr ⟨by simpa using absent, _, member, located, rfl⟩
      · exact .inl rfl
    · simp only [not_exists, not_and] at named
      exact .inl (caching.others location concerns named)
  locked := caching.locked

omit [Kernel] in
/-- When a task asks the source for the first time, the name of its problem joins those that were
asked for. -/
theorem asked_set (files : FileTree) {place : Nat} {problem : Problem} {old : Task}
    (there : tasks[place]? = some (problem, old)) (task : Task)
    (grows : old.hasAsked = true → task.hasAsked = true) :
    (((tasks.set place (problem, task)).filter fun (problem, task) =>
        problem.isAbsent files && task.hasAsked).map (·.1.name)).Perm
      (((tasks.filter fun (problem, task) =>
          problem.isAbsent files && task.hasAsked).map (·.1.name)) ++
        if problem.isAbsent files && task.hasAsked && !old.hasAsked then [problem.name]
          else []) := by
  -- the tasks in front of the place and those behind it stay
  obtain ⟨inside, same⟩ := List.getElem?_eq_some_iff.mp there
  have whole : tasks = tasks.take place ++ (problem, old) :: tasks.drop (place + 1) := by
    rw [← same, ← List.drop_eq_getElem_cons inside, List.take_append_drop]
  have replaced : tasks.set place (problem, task) =
      tasks.take place ++ (problem, task) :: tasks.drop (place + 1) := by
    rw [List.set_eq_take_append_cons_drop, if_pos inside]
  rw [replaced]
  conv => rhs; rw [whole]
  generalize tasks.take place = front
  generalize tasks.drop (place + 1) = back
  cases absent : problem.isAbsent files with
  | false => simp [absent]
  | true =>
      cases asked : old.hasAsked with
      | true => simp [absent, asked, grows asked]
      | false =>
          cases now : task.hasAsked with
          | false => simp [absent, asked, now]
          | true =>
              simp only [absent, asked, now, List.filter_append, List.filter_cons, Bool.and_self,
                Bool.and_false, Bool.not_false, if_true, Bool.false_eq_true, if_false,
                List.map_append, List.map_cons]
              exact List.perm_middle.trans (List.perm_append_singleton ..).symm

/-- Something has become of one problem, and nothing else has happened to the corpus. -/
theorem assign (caching : Caching source start problems tasks bench)
    (apart : Apart start.machine.files problems) {place : Nat} {problem : Problem} {old : Task}
    (there : tasks[place]? = some (problem, old)) (task : Task)
    (grows : old.hasAsked = true → task.hasAsked = true)
    (fits : ∀ stage, task = .underway stage → stage.Fits source start.machine.files problem)
    (wellFormed : left.machine.files.WellFormed)
    (base : left.machine.files.base = bench.machine.files.base)
    (locked : left.machine.files.locked = bench.machine.files.locked)
    (own : ∀ location, start.machine.files.locate true problem.metadataPath = .ok location →
      left.machine.files.lookup location =
        if problem.isAbsent start.machine.files && task.hasStored then problem.cached source
        else start.machine.files.lookup location)
    (rest : ∀ location, Concerns start.machine.files problems location →
      start.machine.files.locate true problem.metadataPath ≠ .ok location →
        left.machine.files.lookup location = bench.machine.files.lookup location)
    (requests : left.requests = bench.requests ++
      if problem.isAbsent start.machine.files && task.hasAsked && !old.hasAsked
        then [problem.name] else []) :
    Caching source start problems (tasks.set place (problem, task)) left := by
  obtain ⟨inside, -⟩ := List.getElem?_eq_some_iff.mp there
  have assigned (other : Nat) : (tasks.set place (problem, task))[other]? =
      if other = place then some (problem, task) else tasks[other]? := by
    rw [List.getElem?_set]
    by_cases same : place = other
    · subst same
      simp [inside]
    · simp [same, Ne.symm same]
  have here := caching.listed there
  refine ⟨?_, wellFormed, base.trans caching.base, ?_, ?_, locked ▸ caching.locked, ?_, ?_⟩
  · rw [← caching.roster]
    apply List.ext_getElem?
    intro other
    rw [List.getElem?_map, List.getElem?_map, assigned]
    split
    · next same => rw [same, there]; rfl
    · rfl
  · intro other otherProblem given found location located
    rw [assigned] at found
    split at found
    · obtain ⟨rfl, rfl⟩ := Prod.mk.inj (Option.some.inj found)
      exact own location located
    · next differs =>
        have listed := caching.listed found
        have apartFrom := apart.place_ne differs listed here located
        rw [rest location (.metadata (List.mem_of_getElem? listed) (FileTree.mem_placesOf located))
          apartFrom]
        exact caching.own other otherProblem given found location located
  · intro location concerns unnamed
    rw [rest location concerns (unnamed problem (List.mem_of_getElem? here))]
    exact caching.others location concerns unnamed
  · have asked := (asked_set start.machine.files there task grows).symm
    rw [requests]
    refine (caching.requests.append_right _).trans ?_
    rw [List.append_assoc]
    exact asked.append_left _
  · intro other stage member
    rcases List.mem_or_eq_of_mem_set member with before | new
    · exact caching.fits other stage before
    · obtain ⟨rfl, same⟩ := Prod.mk.inj new
      exact fits stage same.symm

/-- The workbench changes in places that have nothing to do with the problems. -/
theorem untouched (caching : Caching source start problems tasks bench)
    (same : Untouched (Concerns start.machine.files problems) bench.machine.files
      left.machine.files)
    (requests : left.requests = bench.requests) : Caching source start problems tasks left where
  roster := caching.roster
  wellFormed := same.wellFormed caching.wellFormed
  base := same.base.trans caching.base
  own := by
    intro place problem task there location located
    rw [same.lookup location (.metadata (List.mem_of_getElem? (caching.listed there))
      (FileTree.mem_placesOf located))]
    exact caching.own place problem task there location located
  others := by
    intro location concerns unnamed
    rw [same.lookup location concerns]
    exact caching.others location concerns unnamed
  locked := fun location concerns =>
    (same.locked location concerns).trans (caching.locked location concerns)
  requests := requests ▸ caching.requests
  fits := caching.fits

/-- A task is noted that has asked and stored as much as the old one. -/
theorem relabel (caching : Caching source start problems tasks bench)
    (apart : Apart start.machine.files problems) {place : Nat} {problem : Problem} {old : Task}
    (there : tasks[place]? = some (problem, old)) (task : Task)
    (asked : task.hasAsked = old.hasAsked) (stored : task.hasStored = old.hasStored)
    (fits : ∀ stage, task = .underway stage → stage.Fits source start.machine.files problem) :
    Caching source start problems (tasks.set place (problem, task)) bench := by
  refine caching.assign apart there task (fun before => asked.trans before) fits caching.wellFormed
    rfl rfl ?_ (fun _ _ _ => rfl) ?_
  · rw [stored]
    exact caching.own place problem old there
  · rw [asked]
    cases old.hasAsked <;> simp

end Caching

end CorpusJudge
