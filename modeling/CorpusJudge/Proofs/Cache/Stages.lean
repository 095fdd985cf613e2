import CorpusJudge.Proofs.Cache.Caching

/-!
# Cache files and the stages of a verification

Every stage of a verification keeps what is known about the cache files, whatever the other tasks
are.
-/

namespace CorpusJudge.Caching

variable [Kernel]

variable {harness : Harness} {source : Source} {start bench left : Workbench}
variable {problems : List Problem} {tasks : List (Problem × Task)} {place : Nat}
variable {problem : Problem}

/-- Noting an event that is no request. -/
theorem noting (caching : Caching source start problems tasks bench) (event : Event)
    (quiet : event.request? = none) : Caching source start problems tasks (bench.noting event) :=
  caching.untouched (.refl _ _) (by rw [Workbench.requests_noting, quiet]; simp)

/-- A problem whose cache file was there may come to anything. -/
theorem present (caching : Caching source start problems tasks bench)
    (apart : Apart start.machine.files problems) {old : Task}
    (there : tasks[place]? = some (problem, old))
    (present : problem.isAbsent start.machine.files = false) (task : Task)
    (grows : old.hasAsked = true → task.hasAsked = true)
    (fits : ∀ stage, task = .underway stage → stage.Fits source start.machine.files problem) :
    Caching source start problems (tasks.set place (problem, task)) bench := by
  refine caching.assign apart there task grows fits caching.wellFormed rfl rfl ?_
    (fun _ _ _ => rfl) (by simp [present])
  intro location located
  rw [caching.own place problem old there location located, present]
  simp

/-- Where the cache file of a problem is, before something has been stored. -/
theorem unstored (caching : Caching source start problems tasks bench)
    (apart : Apart start.machine.files problems) {old : Task}
    (there : tasks[place]? = some (problem, old)) (unstored : old.hasStored = false) :
    ∃ location, start.machine.files.locate true problem.metadataPath = .ok location ∧
      bench.machine.files.locate true problem.metadataPath = .ok location ∧
      bench.machine.files.lookup location = start.machine.files.lookup location := by
  have member := List.mem_of_getElem? (caching.listed there)
  obtain ⟨location, located⟩ := apart.named problem member
  have same := caching.own place problem old there location located
  rw [unstored, Bool.and_false, if_neg Bool.false_ne_true] at same
  exact ⟨location, located, (caching.filled.locate_metadata member location).mpr located, same⟩

/-- Looking for the cache file. -/
theorem loading (caching : Caching source start problems tasks bench)
    (apart : Apart start.machine.files problems)
    (there : tasks[place]? = some (problem, .underway .loading)) {task : Task}
    (next : (Stage.loading.advance harness problem).run bench = (task, left)) :
    Caching source start problems (tasks.set place (problem, task)) left := by
  obtain ⟨location, begun, located, same⟩ := caching.unstored apart there rfl
  have alike : loadCached bench.machine.files problem.metadataPath =
      loadCached start.machine.files problem.metadataPath := by
    rw [loadCached_eq located, loadCached_eq begun, same]
  have found (task : Task)
      (some : loadCached start.machine.files problem.metadataPath ≠ .ok none)
      (fits : ∀ stage, task = .underway stage → stage.Fits source start.machine.files problem) :
      Caching source start problems (tasks.set place (problem, task)) bench :=
    caching.present apart there
      (Bool.eq_false_iff.mpr ((not_congr (Problem.isAbsent_iff begun)).mpr some)) task nofun fits
  cases Stage.step_of_advance next with
  | cached loaded =>
      rw [alike] at loaded
      exact found _ (by simp [loaded]) fun stage same => by cases same; trivial
  | missed loaded =>
      rw [alike] at loaded
      exact caching.relabel apart there _ rfl rfl fun stage same => by
        cases same
        exact (Problem.isAbsent_iff begun).mpr loaded
  | unreadable loaded =>
      rw [alike] at loaded
      exact (found (.finished .passedOver) (by simp [loaded]) nofun).noting _ rfl

/-- Asking the source. -/
theorem fetching (caching : Caching harness.source start problems tasks bench)
    (apart : Apart start.machine.files problems)
    (there : tasks[place]? = some (problem, .underway .fetching)) {task : Task}
    (next : (Stage.fetching.advance harness problem).run bench = (task, left)) :
    Caching harness.source start problems (tasks.set place (problem, task)) left := by
  have absent : problem.isAbsent start.machine.files = true :=
    caching.fits problem .fetching (List.mem_of_getElem? there)
  obtain ⟨location, located, -, same⟩ := caching.unstored apart there rfl
  have empty := Problem.empty_of_isAbsent located absent
  -- whatever the source answers, the request has been made and nothing has been stored
  have asked (task : Task) (asks : task.hasAsked = true)
      (unstored : task.hasStored = true → problem.cached harness.source = none)
      (fits : ∀ stage, task = .underway stage →
        stage.Fits harness.source start.machine.files problem) :
      Caching harness.source start problems (tasks.set place (problem, task))
        (bench.noting (.fetching problem.name)) := by
    refine caching.assign apart there task nofun fits caching.wellFormed rfl rfl ?_
      (fun _ _ _ => rfl) ?_
    · intro other found
      obtain rfl : location = other := Except.ok.inj (located.symm.trans found)
      have unchanged : (bench.noting (.fetching problem.name)).machine = bench.machine := rfl
      rw [unchanged, same, empty, absent]
      cases stored : task.hasStored with
      | false => rfl
      | true => exact (unstored stored).symm
    · rw [Workbench.requests_noting, absent, asks]
      rfl
  cases Stage.step_of_advance next with
  | answered answer =>
      exact asked _ rfl nofun fun stage same => by
        cases same
        exact ⟨absent, answer⟩
  | unanswered answer =>
      have nothing : problem.cached harness.source = none := by
        simp [Problem.cached, answer, Except.toOption]
      exact (asked (.finished .passedOver) rfl (fun _ => nothing) nofun).noting _ rfl

/-- Storing the answer. -/
theorem storing (caching : Caching harness.source start problems tasks bench)
    (apart : Apart start.machine.files problems) {document : Bytes}
    (there : tasks[place]? = some (problem, .underway (.storing document))) {task : Task}
    (next : ((Stage.storing document).advance harness problem).run bench = (task, left)) :
    Caching harness.source start problems (tasks.set place (problem, task)) left := by
  obtain ⟨absent, answer⟩ := caching.fits problem (.storing document) (List.mem_of_getElem? there)
  obtain ⟨location, located, here, same⟩ := caching.unstored apart there rfl
  have empty := Problem.empty_of_isAbsent located absent
  rw [Stage.advance_storing, Work.run_write] at next
  cases ends : FileTree.endsInSeparator problem.metadataPath with
  | true =>
      obtain ⟨error, failed⟩ := FileTree.write_endsInSeparator bench.machine.files
        problem.metadataPath document ends
      rw [failed] at next
      obtain ⟨rfl, rfl⟩ := Prod.mk.inj next
      have nothing : problem.cached harness.source = none := by simp [Problem.cached, ends]
      refine noting (caching.assign apart there (.finished .passedOver) (fun _ => rfl) nofun
        caching.wellFormed rfl rfl ?_ (fun _ _ _ => rfl) (by simp [Task.hasAsked])) _ rfl
      intro other found
      obtain rfl : location = other := Except.ok.inj (located.symm.trans found)
      rw [same, empty, absent, nothing]
      rfl
  | false =>
      have wrote := FileTree.write_empty bench.machine.files problem.metadataPath document ends here
        (same.trans empty)
      rw [wrote] at next
      obtain ⟨rfl, rfl⟩ := Prod.mk.inj next
      have files := Machine.write_files wrote
      have file : problem.cached harness.source = some (.file document) := by
        simp [Problem.cached, ends, answer, Except.toOption]
      have proper : location ≠ [] := FileTree.ne_nil_of_lookup _ empty
      refine caching.assign apart there (.underway (.listing document)) (fun _ => rfl)
        (fun stage same => by cases same; trivial) ?_ ?_ ?_ ?_ ?_ (by simp [Task.hasAsked]; rfl)
      · rw [files]
        exact caching.wellFormed.write wrote
      · rw [files, FileTree.put_base]
      · rw [files, FileTree.put_locked]
      · intro other found
        obtain rfl : location = other := Except.ok.inj (located.symm.trans found)
        rw [files, FileTree.lookup_put proper, if_pos rfl, absent, file]
        rfl
      · intro other _ elsewhere
        have differs : other ≠ location := by
          rintro rfl
          exact elsewhere located
        rw [files, FileTree.lookup_put proper, if_neg differs]

/-- Listing the solutions. -/
theorem listing (caching : Caching source start problems tasks bench)
    (apart : Apart start.machine.files problems) {document : Bytes}
    (there : tasks[place]? = some (problem, .underway (.listing document))) {task : Task}
    (next : ((Stage.listing document).advance harness problem).run bench = (task, left)) :
    Caching source start problems (tasks.set place (problem, task)) left := by
  have ended := caching.relabel apart there (.finished .passedOver) rfl rfl nofun
  cases Stage.step_of_advance next with
  | malformed => exact ended.noting _ rfl
  | unlisted => exact ended.noting _ rfl
  | listed => exact caching.relabel apart there _ rfl rfl fun stage same => by cases same; trivial

/-- Choosing a solution. -/
theorem choosing (caching : Caching source start problems tasks bench)
    (apart : Apart start.machine.files problems) {metadata : Metadata} {skipped : Nat}
    {outcomes : List Outcome} {paths : List Path}
    (there : tasks[place]? = some (problem, .underway (.choosing metadata skipped outcomes paths)))
    {task : Task}
    (next : ((Stage.choosing metadata skipped outcomes paths).advance harness problem).run bench =
      (task, left)) :
    Caching source start problems (tasks.set place (problem, task)) left := by
  cases Stage.step_of_advance next with
  | completed => exact caching.relabel apart there _ rfl rfl nofun
  | eligible chosen =>
      obtain ⟨rfl, -⟩ := Harness.eligible?_eq_true chosen
      exact caching.relabel apart there _ rfl rfl fun stage same => by cases same; trivial
  | @ineligible _ _ _ _ rest _ chosen =>
      have passed := caching.relabel apart there
        (.underway (.choosing metadata (skipped + 1) outcomes rest)) rfl rfl
        fun stage same => by cases same; trivial
      rcases Harness.eligible?_eq_false chosen with ⟨error, -, rfl⟩ | ⟨source, reason, -, -, rfl⟩
      · exact passed.noting _ rfl
      · exact passed.noting _ rfl

omit [Kernel] in
private theorem request?_of_eventOf? {path : Path} {execution : Execution} {expected : Bytes}
    {event : Event} (noted : Harness.eventOf? path execution expected = some event) :
    event.request? = none := by
  unfold Harness.eventOf? at noted
  split at noted
  · cases noted
    rfl
  · cases noted
  · split at noted
    · cases noted
    · cases noted
      rfl

private theorem requests_of_noted {path : Path} {execution : Execution} {expected : Bytes}
    (noted : left.journal =
      bench.journal ++ (Harness.eventOf? path execution expected).toList) :
    left.requests = bench.requests := by
  rw [Workbench.requests, noted, List.filterMap_append]
  cases told : Harness.eventOf? path execution expected with
  | none => simp [Workbench.requests]
  | some event => simp [Workbench.requests, request?_of_eventOf? told]

/-- Executing a solution. -/
theorem executing (caching : Caching source start problems tasks bench)
    (apart : Apart start.machine.files problems)
    (spares : harness.Spares (Concerns start.machine.files problems)) {metadata : Metadata}
    {skipped : Nat} {outcomes : List Outcome} {path : Path} {rest : List Path}
    (there : tasks[place]? =
      some (problem, .underway (.executing metadata skipped outcomes path rest)))
    {task : Task}
    (next : ((Stage.executing metadata skipped outcomes path rest).advance harness problem).run
      bench = (task, left)) :
    Caching source start problems (tasks.set place (problem, task)) left := by
  cases Stage.step_of_advance next with
  | failed judged =>
      obtain ⟨reason, machine, executed, -, rfl⟩ := Harness.judge_eq_error judged
      have spared := spares path metadata.inputBytes bench.machine
      rw [executed] at spared
      have kept : Caching source start problems tasks { bench with machine := machine } :=
        caching.untouched spared rfl
      exact kept.relabel apart there _ rfl rfl nofun
  | judged judged =>
      obtain ⟨execution, machine, executed, -, rfl, noted⟩ := Harness.judge_eq_ok judged
      have spared := spares path metadata.inputBytes bench.machine
      rw [executed] at spared
      have kept := caching.untouched spared (requests_of_noted noted)
      exact kept.relabel apart there _ rfl rfl fun stage same => by cases same; trivial

/-- Any stage. -/
theorem advance (caching : Caching harness.source start problems tasks bench)
    (apart : Apart start.machine.files problems)
    (spares : harness.Spares (Concerns start.machine.files problems)) {stage : Stage}
    (there : tasks[place]? = some (problem, .underway stage)) {task : Task}
    (next : (stage.advance harness problem).run bench = (task, left)) :
    Caching harness.source start problems (tasks.set place (problem, task)) left := by
  cases stage with
  | loading => exact caching.loading apart there next
  | fetching => exact caching.fetching apart there next
  | storing document => exact caching.storing apart there next
  | listing document => exact caching.listing apart there next
  | choosing metadata skipped outcomes paths => exact caching.choosing apart there next
  | executing metadata skipped outcomes path rest => exact caching.executing apart spares there next

end CorpusJudge.Caching
