import CorpusJudge.Proofs.Cache.Run
import CorpusJudge.Proofs.Cache.Settled
import CorpusJudge.Proofs.Harness.Schedules

/-!
# Cache files in the course of a run with workers

Looking for a cache file, asking the source and storing its answer are steps of their own, and the
steps of other workers come in between.  Since the cache files of different problems are different
files, they are filled in as in a run without workers all the same.
-/

namespace CorpusJudge

theorem FileTree.Grows.antisymm {one other : Option Entry} (grows : Grows one other)
    (back : Grows other one) : one = other := by
  rcases grows with same | ⟨rfl, content, rfl⟩
  · exact same.symm
  · rcases back with same | ⟨appeared, -⟩
    · exact same
    · cases appeared

section

variable [Kernel]

namespace Caching

variable {source : Source} {start bench left : Workbench} {problems : List Problem}
variable {tasks later : List (Problem × Task)}

/-- Where more has been stored, there are more cache files. -/
theorem grows (caching : Caching source start problems tasks bench)
    (further : Caching source start problems later left)
    (stored : ∀ (place : Nat) problem task other, tasks[place]? = some (problem, task) →
      later[place]? = some (problem, other) → task.hasStored = true → other.hasStored = true)
    {location : Location} (concerns : Concerns start.machine.files problems location) :
    FileTree.Grows (bench.machine.files.lookup location) (left.machine.files.lookup location) := by
  by_cases named : ∃ problem ∈ problems,
      start.machine.files.locate true problem.metadataPath = .ok location
  · obtain ⟨problem, member, located⟩ := named
    obtain ⟨place, listed⟩ := List.mem_iff_getElem?.mp member
    obtain ⟨task, here⟩ := caching.entry listed
    obtain ⟨other, there⟩ := further.entry listed
    have more := stored place problem task other here there
    rw [caching.own place problem task here location located,
      further.own place problem other there location located]
    cases absent : problem.isAbsent start.machine.files with
    | false => exact .inl rfl
    | true =>
        have empty : start.machine.files.lookup location = none :=
          Problem.empty_of_isAbsent located absent
        cases first : task.hasStored with
        | true =>
            rw [more first]
            exact .inl rfl
        | false =>
            cases second : other.hasStored with
            | false => exact .inl rfl
            | true =>
                simp only [Bool.and_false, Bool.and_true, Bool.false_eq_true, if_false, if_true,
                  empty]
                rcases problem.cached_cases source with none | ⟨document, -, -, file⟩
                · exact .inl none
                · exact .inr ⟨rfl, document, file⟩
  · simp only [not_exists, not_and] at named
    exact .inl ((further.others location concerns named).trans
      (caching.others location concerns named).symm)

/-- Where the same has become of the problems, the cache files are the same, and so are the names
that the source has been asked for. -/
theorem alike (caching : Caching source start problems tasks bench)
    (further : Caching source start problems tasks left) :
    (∀ location, Concerns start.machine.files problems location →
      left.machine.files.lookup location = bench.machine.files.lookup location) ∧
      left.requests.Perm bench.requests := by
  have stored (place : Nat) (problem : Problem) (task other : Task)
      (here : tasks[place]? = some (problem, task)) (there : tasks[place]? = some (problem, other))
      (before : task.hasStored = true) : other.hasStored = true := by
    obtain ⟨-, rfl⟩ := Prod.mk.inj (Option.some.inj (here.symm.trans there))
    exact before
  exact ⟨fun location concerns =>
    (further.grows caching stored concerns).antisymm (caching.grows further stored concerns),
    further.requests.trans caching.requests.symm⟩

end Caching

/-- The cache in the course of a run.  The source has been asked at most once for each problem, and
only for those whose cache file was not there; a cache file is as it was, or it was not there and
holds what the source answers to the problem's name; and nothing else about the corpus has
changed. -/
structure CacheKept (source : Source) (start : Workbench) (problems : List Problem)
    (bench : Workbench) : Prop where
  asked : ∃ asked : List Problem, asked.Sublist (problems.filter (·.isAbsent start.machine.files)) ∧
    bench.requests.Perm (start.requests ++ asked.map (·.name))
  own : ∀ problem ∈ problems, ∀ place,
    start.machine.files.locate true problem.metadataPath = .ok place →
      bench.machine.files.locate true problem.metadataPath = .ok place ∧
        (bench.machine.files.lookup place = start.machine.files.lookup place ∨
          start.machine.files.lookup place = none ∧ ∃ document,
            source problem.name = .ok document ∧
              bench.machine.files.lookup place = some (.file document))
  others : ∀ place, Concerns start.machine.files problems place →
    (∀ problem ∈ problems, start.machine.files.locate true problem.metadataPath ≠ .ok place) →
      bench.machine.files.lookup place = start.machine.files.lookup place

theorem Caching.kept {source : Source} {start bench : Workbench} {problems : List Problem}
    {tasks : List (Problem × Task)} (caching : Caching source start problems tasks bench)
    (apart : Apart start.machine.files problems) : CacheKept source start problems bench where
  asked := by
    refine ⟨(tasks.filter fun entry =>
      entry.1.isAbsent start.machine.files && entry.2.hasAsked).map Prod.fst, ?_, ?_⟩
    · rw [← caching.roster, List.filter_map]
      refine List.Sublist.map Prod.fst ?_
      have fewer := (List.filter_sublist (p := fun entry : Problem × Task => entry.2.hasAsked)
        (l := tasks)).filter ((·.isAbsent start.machine.files) ∘ Prod.fst)
      rwa [List.filter_filter] at fewer
    · simpa [Function.comp_def] using caching.requests
  own := by
    intro problem member place located
    refine ⟨(caching.filled.locate_metadata member place).mpr located, ?_⟩
    rcases caching.filled.own apart member located with same | ⟨empty, -, document, answer, there⟩
    · exact .inl same
    · exact .inr ⟨empty, document, answer, there⟩
  others := caching.others

namespace Crew

variable {σ : Type} {harness : Harness} {sink : Sink σ} {jobs : Nat} {start : Workbench}
variable {problems : List Problem} {crew next : Crew σ}

/-- Every change keeps what is known about the cache files. -/
theorem Change.caching (apart : Apart start.machine.files problems)
    (spares : harness.Spares (Concerns start.machine.files problems))
    (sinkSpares : sink.Spares (Concerns start.machine.files problems))
    (caching : Caching harness.source start problems crew.tasks crew.bench)
    (changed : Change harness sink jobs crew next) :
    Caching harness.source start problems next.tasks next.bench := by
  cases changed with
  | taken waits free =>
      exact caching.relabel apart waits _ rfl rfl fun stage same => by cases same; trivial
  | dropped waits free aborted => exact caching.relabel apart waits _ rfl rfl nofun
  | advanced busy advanced => exact caching.advance apart spares busy advanced
  | sent busy => exact caching.relabel apart busy _ rfl rfl nofun
  | received => exact caching
  | handed unanswered first called => exact caching.called sinkSpares called
  | refused unanswered first called => exact caching.called sinkSpares called
  | absorbed => exact caching
  | failed => exact caching
  | closed => exact caching

theorem Reached.caching (formed : start.machine.files.WellFormed)
    (apart : Apart start.machine.files problems)
    (spares : harness.Spares (Concerns start.machine.files problems))
    (sinkSpares : sink.Spares (Concerns start.machine.files problems)) {state : σ}
    (reached : Reached harness sink jobs (Crew.start problems state start) crew) :
    Caching harness.source start problems crew.tasks crew.bench := by
  induction reached with
  | first => exact .begun harness.source problems formed
  | move move _ stepped ih => exact (change_of_step stepped).caching apart spares sinkSpares ih

/-- When a crew has come to an answer, it has sent what was found about every problem that a run
without workers takes up. -/
theorem Reached.sent {world : Workbench → Prop} {found : Problem → Verified} {respond : Response σ}
    (settled : harness.Settled world problems found) (responds : sink.Responds respond)
    (keeps : sink.Keeps world) (here : world start) {state : σ}
    (reached : Reached harness sink jobs (Crew.start problems state start) crew)
    (finished : crew.isOver = true) {taken : List Problem} (initial : taken <+: problems)
    (before : ∀ fewer, fewer <+: taken → fewer ≠ taken →
      ((harness.runFrom sink .zero fewer).complete state start).value.isOk = true)
    {place : Nat} (within : place < taken.length) :
    ∃ problem, crew.tasks[place]? = some (problem, .sent) := by
  obtain ⟨-, posted, outlook⟩ := reached.outlook settled responds keeps here
  obtain ⟨value, answer, -⟩ := outlook_of_isOver found problems respond finished
  cases value with
  | ok stats =>
      have inside : place < problems.length := Nat.lt_of_lt_of_le within initial.length_le
      exact ⟨problems[place], by simp [reached.allSent finished answer, inside]⟩
  | error error =>
      -- were it not so, the findings that have arrived would not have led to an error
      have arrived : taken.length ≤ crew.buffer.next := by
        refine Nat.le_of_not_lt fun behind => ?_
        have count : (taken.take crew.buffer.next).length = crew.buffer.next := by
          rw [List.length_take]
          omega
        have fewer := List.take_prefix crew.buffer.next taken
        have well := before _ fewer fun same => by
          rw [same] at count
          omega
        obtain ⟨-, comes⟩ := settled.runFrom responds keeps
          (fun _ member => initial.subset (fewer.subset member)) .zero state here
        have known := outlook _ (fewer.trans initial) (Nat.le_of_eq count.symm)
        rw [← comes] at known
        simp only [Crew.outlook, answer] at known
        rw [← (Prod.mk.inj known).1] at well
        cases well
      exact (posted.sent place).mp (.inl (.inl (Nat.lt_of_lt_of_le within arrived)))

/-- Whichever way the moves of a crew are ordered, the cache is kept at every time.  A crew and a run
without workers that both end well leave the same cache and ask for the same names.  Where executions
depend on the solution and its input alone, a crew that is over has the answer of a run without
workers, and every cache file which that run has.  The harness itself moves in one of these ways. -/
theorem caches_like_run (formed : start.machine.files.WellFormed)
    (apart : Apart start.machine.files problems)
    (spares : harness.Spares (Concerns start.machine.files problems))
    (sinkSpares : sink.Spares (Concerns start.machine.files problems)) (someone : 1 ≤ jobs)
    (state : σ) :
    let sequential := (harness.run sink problems).complete state start
    let parallel := (harness.runParallel sink problems).complete state start
    (∀ crew, Reached harness sink jobs (Crew.start problems state start) crew →
      CacheKept harness.source start problems crew.bench ∧
        (crew.isOver = true → sequential.value.isOk = true →
          (∃ stats, crew.answer = some (.ok stats)) →
            (∀ place, Concerns start.machine.files problems place →
              crew.bench.machine.files.lookup place =
                sequential.bench.machine.files.lookup place) ∧
            crew.bench.requests.Perm sequential.bench.requests) ∧
        ∀ reply respond, harness.Replies reply → sink.Responds respond → crew.isOver = true →
          crew.answer = some sequential.value ∧
            ∀ place, Concerns start.machine.files problems place →
              FileTree.Grows (sequential.bench.machine.files.lookup place)
                (crew.bench.machine.files.lookup place)) ∧
      ∃ crew, Reached harness sink jobs (Crew.start problems state start) crew ∧
        crew.isOver = true ∧ crew.answer = some parallel.value ∧ crew.bench = parallel.bench := by
  intro sequential parallel
  refine ⟨fun crew reached => ?_, ?_⟩
  · have caching := reached.caching formed apart spares sinkSpares
    obtain ⟨taken, left, whole, ran, all, before⟩ := Caching.runFrom apart spares sinkSpares []
      problems [] (by simpa [tasksAt] using Caching.begun harness.source problems formed) .zero
      state
    simp only [List.nil_append, List.append_nil] at ran
    refine ⟨caching.kept apart, fun finished well ended => ?_,
      fun reply respond replies responds finished => ?_⟩
    · obtain ⟨stats, answer⟩ := ended
      obtain rfl := all well
      obtain rfl : problems = taken := whole.trans (List.append_nil taken)
      rw [reached.allSent finished answer] at caching
      rw [tasksAt, List.map_nil, List.append_nil] at ran
      exact ran.alike caching
    · have settled := Harness.settled apart formed spares replies
      have keeps : sink.Keeps fun bench =>
          Filled harness.source start.machine.files problems bench.machine.files :=
        fun outcome state bench here => here.untouched (sinkSpares outcome state bench).1
      have here : Filled harness.source start.machine.files problems start.machine.files :=
        .refl harness.source problems formed
      obtain ⟨answered, -⟩ := reached.ends settled responds keeps here finished
      refine ⟨answered, fun place concerns => ran.grows caching ?_ concerns⟩
      -- whatever the run without workers has taken up, the crew has sent
      intro position problem task other taskHere there stored
      have initial : taken <+: problems := whole ▸ List.prefix_append taken left
      obtain ⟨_, sent⟩ := reached.sent settled responds keeps here finished initial before
        (tasksAt_hasStored taskHere stored)
      obtain ⟨-, rfl⟩ := Prod.mk.inj (Option.some.inj (there.symm.trans sent))
      rfl
  · obtain ⟨crew, reached, finished, answer, -, bench⟩ :=
      reached_runParallel harness sink someone problems state start
    exact ⟨crew, reached, finished, answer, bench⟩

end Crew

end

attribute [local instance] Platform.small in
/-- On the sample corpus, workers fill in the cache file that is missing, as a run without workers
does. -/
theorem Crew.caches_like_run_sample :
    let parallel :=
      (Harness.sample.runParallel Sink.keeping.logged Problem.samples).complete ([], []) .sample
    CacheKept Harness.sample.source .sample Problem.samples parallel.bench ∧
      parallel.value = .ok ⟨2, 0⟩ ∧
      FileTree.sample.lookup ["problems", "Echo", "problem.json"] = none ∧
      parallel.bench.machine.files.lookup ["problems", "Echo", "problem.json"] =
        some (.file (Bytes.ofString "[\"1\",\"1\"]")) := by
  intro parallel
  have formed : Workbench.sample.machine.files.WellFormed := FileTree.sample_wellFormed
  have two : 1 ≤ 2 := by decide
  obtain ⟨every, crew, reached, finished, answer, same⟩ := caches_like_run formed
    Problem.samples_apart (Harness.sample_spares _) (Sink.keeping_spares _).logged two ([], [])
  obtain ⟨kept, fills, alike⟩ := every crew reached
  obtain ⟨answered, -⟩ := alike _ _ Harness.sample_replies Sink.keeping_responds.logged finished
  obtain ⟨_, left, sequential, files⟩ := Harness.sample_run
  rw [sequential] at answered fills
  have echo : Problem.named .standard ⟨"problems"⟩ "Echo" ∈ Problem.samples := by simp [Problem.samples]
  have concerns : Concerns .sample Problem.samples ["problems", "Echo", "problem.json"] :=
    .metadata echo (FileTree.mem_placesOf (FileTree.sample_child (by decide) (by decide)))
  have filled := (fills finished rfl ⟨_, answered⟩).1 _ concerns
  rw [files, same] at filled
  have absent : FileTree.sample.lookup ["problems", "Echo", "problem.json"] = none := by
    decide +kernel
  refine ⟨same ▸ kept, Option.some.inj (answer.symm.trans answered), absent, filled.trans ?_⟩
  decide +kernel

end CorpusJudge
