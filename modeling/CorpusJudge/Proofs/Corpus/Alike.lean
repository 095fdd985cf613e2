import CorpusJudge.Proofs.Cache.Settled

/-!
# Runs over the same corpus

Two workbenches with the same corpus may differ in everything else: other files, the clock, the
programs that run.  Where executions depend on the solution and its input alone, runs on both come
to the same, and leave the corpus the same.
-/

namespace CorpusJudge

/-- Two trees are alike in some places, where nothing has happened since the start but that files
have appeared. -/
structure Alike (start : FileTree) (places : Location → Prop) (left right : FileTree) : Prop where
  formed : left.WellFormed
  base : left.base = start.base
  grows : ∀ place, places place → FileTree.Grows (start.lookup place) (left.lookup place)
  locked : ∀ place, places place → left.locked.lookup place = start.locked.lookup place
  same : Untouched places left right

/-- What concerns problems once files have appeared concerned them before. -/
theorem Concerns.of_grows {before after : FileTree} {problems : List Problem}
    (base : after.base = before.base)
    (grows : ∀ place, Concerns before problems place →
      FileTree.Grows (before.lookup place) (after.lookup place)) {place : Location}
    (concerns : Concerns after problems place) : Concerns before problems place := by
  cases concerns with
  | metadata member way =>
      rw [(FileTree.locate_grows base fun _ way => grows _ (.metadata member way)).1] at way
      exact .metadata member way
  | solutions member way =>
      rw [(FileTree.locate_grows base fun _ way => grows _ (.solutions member way)).1] at way
      exact .solutions member way
  | inside name member located =>
      have before := (FileTree.locate_grows base fun _ way => grows _ (.solutions member way)).2
      exact .inside name member ((before _).mp located)

namespace Alike

variable {start left right : FileTree} {places : Location → Prop} {problems : List Problem}
variable {problem : Problem}

/-- Both trees change in other places. -/
theorem untouched (alike : Alike start places left right) {one other : FileTree}
    (leftSame : Untouched places left one) (rightSame : Untouched places right other) :
    Alike start places one other where
  formed := leftSame.wellFormed alike.formed
  base := leftSame.base.trans alike.base
  grows := fun place inside => by
    rw [leftSame.lookup place inside]
    exact alike.grows place inside
  locked := fun place inside => (leftSame.locked place inside).trans (alike.locked place inside)
  same :=
    { wellFormed := fun _ => rightSame.wellFormed (alike.same.wellFormed alike.formed)
      base := rightSame.base.trans (alike.same.base.trans leftSame.base.symm)
      lookup := fun place inside => by
        rw [rightSame.lookup place inside, alike.same.lookup place inside,
          leftSame.lookup place inside]
      locked := fun place inside => by
        rw [rightSame.locked place inside, alike.same.locked place inside,
          leftSame.locked place inside] }

/-- The same file is put into the same empty place. -/
theorem put (alike : Alike start places left right) {place : Location} (inside : places place)
    (empty : left.lookup place = none) (plain : ∀ name ∈ place, IsPlain name) (content : Bytes) :
    Alike start places (left.put place (.file content)) (right.put place (.file content)) := by
  have proper : place ≠ [] := FileTree.ne_nil_of_lookup _ empty
  refine ⟨alike.formed.put proper plain _, (FileTree.put_base ..).trans alike.base, ?_, ?_, ?_⟩
  · intro other within
    rw [FileTree.lookup_put proper]
    split
    · next same =>
        subst same
        rcases alike.grows other within with same | ⟨begun, -⟩
        · exact .inr ⟨same.symm.trans empty, content, rfl⟩
        · exact .inr ⟨begun, content, rfl⟩
    · exact alike.grows other within
  · rw [FileTree.put_locked]
    exact alike.locked
  · refine ⟨⟨?_, ?_⟩, fun _ => (alike.same.wellFormed alike.formed).put proper plain _, ?_⟩
    · rw [FileTree.put_base, FileTree.put_base, alike.same.base]
    · intro other within
      rw [FileTree.lookup_put proper, FileTree.lookup_put proper, alike.same.lookup other within]
    · rw [FileTree.put_locked, FileTree.put_locked]
      exact alike.same.locked

variable (covers : ∀ place, Concerns start problems place → places place)

include covers

theorem covered (alike : Alike start places left right) {place : Location}
    (concerns : Concerns left problems place) : places place :=
  covers place (concerns.of_grows alike.base fun _ inside => alike.grows _ (covers _ inside))

/-- Looking for a cache file finds the same. -/
theorem loadCached (alike : Alike start places left right) (member : problem ∈ problems) :
    loadCached right problem.metadataPath = loadCached left problem.metadataPath := by
  rw [CorpusJudge.loadCached, CorpusJudge.loadCached,
    FileTree.read_congr alike.same.base fun place way =>
      alike.same.lookup place (alike.covered covers (.metadata member way))]

/-- Where there is no cache file, writing it fails in both trees or leaves them alike. -/
theorem write (alike : Alike start places left right) (member : problem ∈ problems)
    (missing : CorpusJudge.loadCached left problem.metadataPath = .ok none) (content : Bytes) :
    (∃ one other, left.write problem.metadataPath content = .error one ∧
      right.write problem.metadataPath content = .error other) ∨
    ∃ one other, left.write problem.metadataPath content = .ok one ∧
      right.write problem.metadataPath content = .ok other ∧ Alike start places one other := by
  have way (place : Location) (there : place ∈ left.placesOf true problem.metadataPath) :
      places place := alike.covered covers (.metadata member there)
  have resolved := FileTree.locate_congr alike.same.base fun place there =>
    alike.same.lookup place (way place there)
  cases ends : FileTree.endsInSeparator problem.metadataPath with
  | true =>
      obtain ⟨one, failed⟩ := left.write_endsInSeparator _ content ends
      obtain ⟨other, failedToo⟩ := right.write_endsInSeparator _ content ends
      exact .inl ⟨one, other, failed, failedToo⟩
  | false =>
      cases located : left.locate true problem.metadataPath with
      | error error =>
          rw [located] at resolved
          exact .inl ⟨error, error, by simp [FileTree.write_eq, ends, located],
            by simp [FileTree.write_eq, ends, resolved]⟩
      | ok place =>
          rw [located] at resolved
          have inside := way place (FileTree.mem_placesOf located)
          have empty : left.lookup place = none := by
            rw [loadCached_eq located] at missing
            cases there : left.lookup place with
            | none => rfl
            | some entry => cases entry <;> simp [there] at missing
          exact .inr ⟨_, _, left.write_empty _ content ends located empty,
            right.write_empty _ content ends resolved
              ((alike.same.lookup place inside).trans empty),
            alike.put inside empty (alike.formed.located located) content⟩

/-- Looking for the document of a problem finds the same, and leaves the trees alike. -/
theorem documented (alike : Alike start places left right) (source : Source)
    (member : problem ∈ problems) :
    (problem.documented source right).1 = (problem.documented source left).1 ∧
      Alike start places (problem.documented source left).2
        (problem.documented source right).2 := by
  have cached := alike.loadCached covers member
  rw [Problem.documented, Problem.documented, cached]
  cases found : CorpusJudge.loadCached left problem.metadataPath with
  | error error => exact ⟨rfl, alike⟩
  | ok content? =>
      cases content? with
      | some document => exact ⟨rfl, alike⟩
      | none =>
          simp only
          cases source problem.name with
          | error error => exact ⟨rfl, alike⟩
          | ok document =>
              simp only
              rcases alike.write covers member found document with
                ⟨one, other, failed, failedToo⟩ | ⟨one, other, wrote, wroteToo, still⟩
              · rw [failed, failedToo]
                exact ⟨rfl, alike⟩
              · rw [wrote, wroteToo]
                exact ⟨rfl, still⟩

/-- The solutions that are listed are the same. -/
theorem listSolutions (alike : Alike start places left right) (member : problem ∈ problems) :
    problem.listSolutions right = problem.listSolutions left := by
  have way {place : Location} (there : place ∈ left.placesOf true problem.solutionsDir) :=
    alike.same.lookup place (alike.covered covers (.solutions member there))
  rw [Problem.listSolutions_eq, Problem.listSolutions_eq,
    FileTree.locate_congr alike.same.base fun place there => way there]
  cases located : left.locate true problem.solutionsDir with
  | error error => rfl
  | ok folder =>
      have locked := alike.same.locked folder
        (alike.covered covers (.solutions member (FileTree.mem_placesOf located)))
      simp only [way (FileTree.mem_placesOf located), locked]
      cases left.lookup folder with
      | none => rfl
      | some entry =>
          cases entry with
          | folder =>
              have inside (name : String) :=
                alike.same.lookup _ (alike.covered covers (.inside name member located))
              rw [FileTree.sorted_files (alike.same.wellFormed alike.formed) alike.formed inside]
          | _ => rfl

end Alike

/-! ## Parts of a run -/

section

variable [Kernel] {σ : Type} {harness : Harness} {sink : Sink σ} {respond : Response σ}
variable {reply : Path → Bytes → Except ExecutionError Execution} {start : FileTree}
variable {places : Location → Prop} {left right : Workbench}

/-- Everything that some paths look at is among the places. -/
def Within (places : Location → Prop) (files : FileTree) (paths : List Path) : Prop :=
  ∀ path ∈ paths, ∀ place ∈ files.placesOf true path, places place

omit [Kernel] in
theorem Within.untouched {before after : FileTree} {paths : List Path}
    (within : Within places before paths) (same : Untouched places before after) :
    Within places after paths := by
  intro path member place way
  have grows : ∀ other ∈ before.placesOf true path,
      FileTree.Grows (before.lookup other) (after.lookup other) :=
    fun other there => .inl (same.lookup other (within path member other there))
  rw [(FileTree.locate_grows same.base grows).1] at way
  exact within path member place way

/-- Two ends of part of a run have the same value and the same state of the sink, and leave the
places alike. -/
structure Completed.EndAlike {α : Type} (start : FileTree) (places : Location → Prop)
    (one other : Completed σ α) : Prop where
  value : other.value = one.value
  state : other.state = one.state
  files : Alike start places one.bench.machine.files other.bench.machine.files

/-- A solution is eligible on both workbenches or on none. -/
theorem Alike.eligible (alike : Alike start places left.machine.files right.machine.files)
    (harness : Harness) (metadata : Metadata) {path : Path}
    (within : Within places left.machine.files [path]) :
    ∃ eligible one other, (harness.eligible? metadata path).run left = (eligible, one) ∧
      (harness.eligible? metadata path).run right = (eligible, other) ∧
      one.machine = left.machine ∧ other.machine = right.machine := by
  rw [Harness.eligible?_run, Harness.eligible?_run,
    FileTree.read_congr alike.same.base fun place way =>
      alike.same.lookup place (within path (List.mem_singleton_self path) place way)]
  cases left.machine.files.read path with
  | error error => exact ⟨false, _, _, rfl, rfl, rfl, rfl⟩
  | ok source =>
      simp only
      cases harness.settings.rules.check metadata (.ofFile path source) with
      | error reason => exact ⟨false, _, _, rfl, rfl, rfl, rfl⟩
      | ok _ => exact ⟨true, _, _, rfl, rfl, rfl, rfl⟩

/-- Executing a solution comes to the same on both workbenches. -/
theorem Alike.judged (alike : Alike start places left.machine.files right.machine.files)
    (replies : harness.Replies reply) (spares : harness.Spares places) (path : Path)
    (input expected : Bytes) :
    ∃ answer one other, (harness.judge path input expected).run left = (answer, one) ∧
      (harness.judge path input expected).run right = (answer, other) ∧
      Alike start places one.machine.files other.machine.files ∧
      Untouched places left.machine.files one.machine.files := by
  have same : (harness.executor path input right.machine).1 =
      (harness.executor path input left.machine).1 := by
    rw [replies, replies]
  have spared := spares path input left.machine
  have sparedToo := spares path input right.machine
  rw [Harness.judge_run, Harness.judge_run]
  rcases executed : harness.executor path input left.machine with ⟨result, machine⟩
  rcases executedToo : harness.executor path input right.machine with ⟨resultToo, machineToo⟩
  rw [executed] at same spared
  rw [executedToo] at same sparedToo
  obtain rfl : resultToo = result := same
  cases resultToo with
  | error error => exact ⟨_, _, _, rfl, rfl, alike.untouched spared sparedToo, spared⟩
  | ok execution =>
      simp only
      cases Harness.eventOf? path execution expected with
      | none => exact ⟨_, _, _, rfl, rfl, alike.untouched spared sparedToo, spared⟩
      | some event => exact ⟨_, _, _, rfl, rfl, alike.untouched spared sparedToo, spared⟩

/-- The sink responds alike on both workbenches. -/
theorem Alike.called (alike : Alike start places left.machine.files right.machine.files)
    (responds : sink.Responds respond) (spares : sink.Spares places) (outcome : Outcome)
    (state : σ) :
    ∃ answer after one other, ((sink outcome).run state).run left = ((answer, after), one) ∧
      ((sink outcome).run state).run right = ((answer, after), other) ∧
      Alike start places one.machine.files other.machine.files ∧
      Untouched places left.machine.files one.machine.files := by
  have first := responds outcome state left
  have second := responds outcome state right
  have spared := (spares outcome state left).1
  have sparedToo := (spares outcome state right).1
  exact ⟨(respond outcome state).1, (respond outcome state).2, _, _, Prod.ext first rfl,
    Prod.ext second rfl, alike.untouched spared sparedToo, spared⟩

theorem Alike.verifySolutions (replies : harness.Replies reply) (responds : sink.Responds respond)
    (spares : harness.Spares places) (sinkSpares : sink.Spares places) (metadata : Metadata)
    (skipped : Nat) {paths : List Path} (state : σ)
    (alike : Alike start places left.machine.files right.machine.files)
    (within : Within places left.machine.files paths) :
    Completed.EndAlike start places
      ((harness.verifySolutions sink metadata skipped paths).complete state left)
      ((harness.verifySolutions sink metadata skipped paths).complete state right) := by
  induction paths generalizing skipped state left right with
  | nil => exact ⟨rfl, rfl, alike⟩
  | cons path rest ih =>
      have further : Within places left.machine.files rest :=
        fun other member => within other (List.mem_cons_of_mem _ member)
      obtain ⟨eligible, one, other, chosen, chosenToo, same, sameToo⟩ :=
        alike.eligible harness metadata fun _ member =>
          within _ (List.mem_singleton.mp member ▸ List.mem_cons_self)
      rw [Harness.complete_verifySolutions_cons, Harness.complete_verifySolutions_cons, chosen,
        chosenToo]
      rw [← same, ← sameToo] at alike
      rw [← same] at further
      cases eligible with
      | false => exact ih (skipped + 1) state alike further
      | true =>
          obtain ⟨answer, one, other, judged, judgedToo, alike, spared⟩ :=
            alike.judged replies spares path metadata.inputBytes metadata.expectedBytes
          simp only [judged, judgedToo]
          cases answer with
          | error error => exact ⟨rfl, rfl, alike⟩
          | ok outcome =>
              obtain ⟨answer, after, one, other, called, calledToo, alike, sparedToo⟩ :=
                alike.called responds sinkSpares outcome state
              simp only [called, calledToo]
              cases answer with
              | error reason => exact ⟨rfl, rfl, alike⟩
              | ok _ =>
                  exact ih skipped after alike ((further.untouched spared).untouched sparedToo)

variable {problems : List Problem}

theorem Alike.verifyProblem (replies : harness.Replies reply) (responds : sink.Responds respond)
    (spares : harness.Spares places) (sinkSpares : sink.Spares places)
    (covers : ∀ place, Concerns start problems place → places place) {problem : Problem}
    (member : problem ∈ problems) (state : σ)
    (alike : Alike start places left.machine.files right.machine.files) :
    ((harness.verifyProblem sink problem).complete state left).EndAlike start places
      ((harness.verifyProblem sink problem).complete state right) := by
  obtain ⟨one, resolved, files⟩ := problem.resolve_documented harness.source left
  obtain ⟨other, resolvedToo, filesToo⟩ := problem.resolve_documented harness.source right
  obtain ⟨same, alike⟩ := alike.documented covers harness.source member
  rw [← files, ← filesToo] at alike
  rw [same] at resolvedToo
  rw [Harness.complete_verifyProblem, Harness.complete_verifyProblem, resolved, resolvedToo]
  cases (problem.documented harness.source left.machine.files).1.bind Metadata.ofDocument? with
  | none => exact ⟨rfl, rfl, alike⟩
  | some metadata =>
      simp only [alike.listSolutions covers member]
      cases listed : problem.listSolutions one.machine.files with
      | error error => exact ⟨rfl, rfl, alike⟩
      | ok paths =>
          have within : Within places one.machine.files paths := fun path among place way =>
            alike.covered covers (Problem.placesOf_listed alike.formed member listed among way)
          have ended :=
            alike.verifySolutions replies responds spares sinkSpares metadata 0 state within
          exact ⟨congrArg (Except.map (ProblemStats.mk true)) ended.value, ended.state, ended.files⟩

/-- Runs over the same corpus come to the same. -/
theorem Alike.runFrom (replies : harness.Replies reply) (responds : sink.Responds respond)
    (spares : harness.Spares places) (sinkSpares : sink.Spares places)
    (covers : ∀ place, Concerns start problems place → places place) {some : List Problem}
    (among : some ⊆ problems) (stats : RunStats) (state : σ)
    (alike : Alike start places left.machine.files right.machine.files) :
    ((harness.runFrom sink stats some).complete state left).EndAlike start places
      ((harness.runFrom sink stats some).complete state right) := by
  induction some generalizing stats state left right with
  | nil => exact ⟨rfl, rfl, alike⟩
  | cons problem rest ih =>
      have ended := alike.verifyProblem replies responds spares sinkSpares covers
        (among List.mem_cons_self) state
      rw [Harness.complete_runFrom_cons, Harness.complete_runFrom_cons]
      rcases verified : (harness.verifyProblem sink problem).complete state left with
        ⟨value, after, one⟩
      rcases verifiedToo : (harness.verifyProblem sink problem).complete state right with
        ⟨valueToo, afterToo, other⟩
      rw [verified, verifiedToo] at ended
      obtain ⟨rfl, rfl, alike⟩ := ended
      cases valueToo with
      | error error => exact ⟨rfl, rfl, alike⟩
      | ok found =>
          exact ih (fun _ member => among (List.mem_cons_of_mem _ member)) (stats.absorb found)
            afterToo alike

end

end CorpusJudge
