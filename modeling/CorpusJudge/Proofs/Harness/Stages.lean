import CorpusJudge.Harness.Crew
import CorpusJudge.Proofs.Harness.Completion

/-!
# Verifications stage by stage

A verification that nobody interrupts goes through its stages exactly as the harness verifies a
problem: it hands on the same outcomes, and leaves the same result and the same workbench.
-/

namespace CorpusJudge

variable [Kernel]

namespace Stage

variable (harness : Harness) (problem : Problem) (bench : Workbench)

theorem advance_loading :
    (loading.advance harness problem).run bench =
      match loadCached bench.machine.files problem.metadataPath with
      | .ok (some document) => (.underway (.listing document), bench)
      | .ok none => (.underway .fetching, bench)
      | .error error =>
          (.finished .passedOver, bench.noting (.cacheUnreadable problem.metadataPath error)) := by
  simp only [advance, Work.run_bind, Work.run_files]
  cases loadCached bench.machine.files problem.metadataPath with
  | error error => rfl
  | ok content? => cases content? <;> rfl

theorem advance_fetching :
    (fetching.advance harness problem).run bench =
      match harness.source problem.name with
      | .ok document => (.underway (.storing document), bench.noting (.fetching problem.name))
      | .error error =>
          (.finished .passedOver, (bench.noting (.fetching problem.name)).noting
            (.fetchFailed problem.name (.request error))) := by
  simp only [advance, Work.run_bind, Work.run_note]
  cases harness.source problem.name <;> rfl

theorem advance_storing (document : Bytes) :
    ((storing document).advance harness problem).run bench =
      match (Work.write problem.metadataPath document).run bench with
      | (.ok (), left) => (.underway (.listing document), left)
      | (.error error, left) =>
          (.finished .passedOver, left.noting
            (.fetchFailed problem.name (.store problem.metadataPath error))) := by
  simp only [advance, Work.run_bind]
  rcases (Work.write problem.metadataPath document).run bench with ⟨reply, left⟩
  cases reply <;> rfl

theorem advance_listing (document : Bytes) :
    ((listing document).advance harness problem).run bench =
      match Metadata.ofDocument? document with
      | none => (.finished .passedOver, bench.noting (.cacheMalformed problem.name))
      | some metadata =>
          match problem.listSolutions bench.machine.files with
          | .error error =>
              (.finished .passedOver, bench.noting (.problemSkipped problem.name error))
          | .ok paths => (.underway (.choosing metadata 0 [] paths), bench) := by
  simp only [advance, list]
  cases Metadata.ofDocument? document with
  | none => rfl
  | some metadata =>
      simp only [Work.run_bind, Work.run_files]
      cases problem.listSolutions bench.machine.files <;> rfl

variable (metadata : Metadata) (skipped : Nat) (outcomes : List Outcome) (path : Path)
variable (rest : List Path)

theorem advance_choosing_nil :
    ((choosing metadata skipped outcomes []).advance harness problem).run bench =
      (.finished ⟨outcomes, .ok ⟨true, skipped⟩⟩, bench) := rfl

theorem advance_choosing_cons :
    ((choosing metadata skipped outcomes (path :: rest)).advance harness problem).run bench =
      match (harness.eligible? metadata path).run bench with
      | (true, left) => (.underway (.executing metadata skipped outcomes path rest), left)
      | (false, left) => (.underway (.choosing metadata (skipped + 1) outcomes rest), left) := by
  simp only [advance, Work.run_bind]
  rcases (harness.eligible? metadata path).run bench with ⟨eligible, left⟩
  cases eligible <;> rfl

theorem advance_executing :
    ((executing metadata skipped outcomes path rest).advance harness problem).run bench =
      match (harness.judge path metadata.inputBytes metadata.expectedBytes).run bench with
      | (.error error, left) => (.finished ⟨outcomes, .error error⟩, left)
      | (.ok outcome, left) =>
          (.underway (.choosing metadata skipped (outcomes ++ [outcome]) rest), left) := by
  simp only [advance, Work.run_bind]
  rcases (harness.judge path metadata.inputBytes metadata.expectedBytes).run bench with
    ⟨reply, left⟩
  cases reply <;> rfl

/-- The ways that a step of a verification can go: what it meets on the workbench, the task that it
leads to, and how it leaves the workbench. -/
inductive Step : Stage → Task → Workbench → Prop where
  | cached {document : Bytes} :
      loadCached bench.machine.files problem.metadataPath = .ok (some document) →
      Step loading (.underway (.listing document)) bench
  | missed :
      loadCached bench.machine.files problem.metadataPath = .ok none →
      Step loading (.underway .fetching) bench
  | unreadable {error : FileError} :
      loadCached bench.machine.files problem.metadataPath = .error error →
      Step loading (.finished .passedOver)
        (bench.noting (.cacheUnreadable problem.metadataPath error))
  | answered {document : Bytes} :
      harness.source problem.name = .ok document →
      Step fetching (.underway (.storing document)) (bench.noting (.fetching problem.name))
  | unanswered {error : RequestError} :
      harness.source problem.name = .error error →
      Step fetching (.finished .passedOver)
        ((bench.noting (.fetching problem.name)).noting (.fetchFailed problem.name (.request error)))
  | stored {document : Bytes} {files : FileTree} :
      bench.machine.files.write problem.metadataPath document = .ok files →
      Step (storing document) (.underway (.listing document))
        { bench with machine := bench.machine.withFiles files }
  | unstored {document : Bytes} {error : FileError} :
      bench.machine.files.write problem.metadataPath document = .error error →
      Step (storing document) (.finished .passedOver)
        (bench.noting (.fetchFailed problem.name (.store problem.metadataPath error)))
  | malformed {document : Bytes} :
      Metadata.ofDocument? document = none →
      Step (listing document) (.finished .passedOver) (bench.noting (.cacheMalformed problem.name))
  | unlisted {document : Bytes} {metadata : Metadata} {error : CorpusError} :
      Metadata.ofDocument? document = some metadata →
      problem.listSolutions bench.machine.files = .error error →
      Step (listing document) (.finished .passedOver)
        (bench.noting (.problemSkipped problem.name error))
  | listed {document : Bytes} {metadata : Metadata} {paths : List Path} :
      Metadata.ofDocument? document = some metadata →
      problem.listSolutions bench.machine.files = .ok paths →
      Step (listing document) (.underway (.choosing metadata 0 [] paths)) bench
  | completed {metadata : Metadata} {skipped : Nat} {outcomes : List Outcome} :
      Step (choosing metadata skipped outcomes []) (.finished ⟨outcomes, .ok ⟨true, skipped⟩⟩) bench
  | eligible {metadata : Metadata} {skipped : Nat} {outcomes : List Outcome} {path : Path}
      {rest : List Path} {left : Workbench} :
      (harness.eligible? metadata path).run bench = (true, left) →
      Step (choosing metadata skipped outcomes (path :: rest))
        (.underway (.executing metadata skipped outcomes path rest)) left
  | ineligible {metadata : Metadata} {skipped : Nat} {outcomes : List Outcome} {path : Path}
      {rest : List Path} {left : Workbench} :
      (harness.eligible? metadata path).run bench = (false, left) →
      Step (choosing metadata skipped outcomes (path :: rest))
        (.underway (.choosing metadata (skipped + 1) outcomes rest)) left
  | judged {metadata : Metadata} {skipped : Nat} {outcomes : List Outcome} {path : Path}
      {rest : List Path} {outcome : Outcome} {left : Workbench} :
      (harness.judge path metadata.inputBytes metadata.expectedBytes).run bench =
        (.ok outcome, left) →
      Step (executing metadata skipped outcomes path rest)
        (.underway (.choosing metadata skipped (outcomes ++ [outcome]) rest)) left
  | failed {metadata : Metadata} {skipped : Nat} {outcomes : List Outcome} {path : Path}
      {rest : List Path} {error : HarnessError} {left : Workbench} :
      (harness.judge path metadata.inputBytes metadata.expectedBytes).run bench =
        (.error error, left) →
      Step (executing metadata skipped outcomes path rest) (.finished ⟨outcomes, .error error⟩) left

variable {harness problem bench} in
/-- A step goes one of these ways. -/
theorem step_of_advance {stage : Stage} {task : Task} {left : Workbench}
    (next : (stage.advance harness problem).run bench = (task, left)) :
    Step harness problem bench stage task left := by
  cases stage with
  | loading =>
      rw [advance_loading] at next
      split at next <;> cases next
      · next document loaded => exact .cached loaded
      · next loaded => exact .missed loaded
      · next error loaded => exact .unreadable loaded
  | fetching =>
      rw [advance_fetching] at next
      split at next <;> cases next
      · next document answer => exact .answered answer
      · next error answer => exact .unanswered answer
  | storing document =>
      rw [advance_storing, Work.run_write] at next
      cases wrote : bench.machine.files.write problem.metadataPath document with
      | ok files =>
          rw [wrote] at next
          cases next
          exact .stored wrote
      | error error =>
          rw [wrote] at next
          cases next
          exact .unstored wrote
  | listing document =>
      rw [advance_listing] at next
      split at next
      · next senseless =>
          cases next
          exact .malformed senseless
      · next metadata sense =>
          split at next <;> cases next
          · next error listed => exact .unlisted sense listed
          · next paths listed => exact .listed sense listed
  | choosing metadata skipped outcomes paths =>
      cases paths with
      | nil =>
          cases next
          exact .completed
      | cons path rest =>
          rw [advance_choosing_cons] at next
          split at next <;> cases next
          · next chosen => exact .eligible chosen
          · next chosen => exact .ineligible chosen
  | executing metadata skipped outcomes path rest =>
      rw [advance_executing] at next
      split at next <;> cases next
      · next judged => exact .failed judged
      · next judged => exact .judged judged

/-- No step of a verification drops the problem or says that the findings have been sent. -/
theorem advance_isBusy (stage : Stage) :
    ((stage.advance harness problem).run bench).1.isBusy = true := by
  rcases next : (stage.advance harness problem).run bench with ⟨task, left⟩
  cases step_of_advance next <;> rfl

end Stage

/-- The outcomes that a task has come to so far. -/
def Task.outcomes : Task → List Outcome
  | underway (.choosing _ _ outcomes _) => outcomes
  | underway (.executing _ _ outcomes _ _) => outcomes
  | finished verified => verified.outcomes
  | _ => []

/-- A worker who is alone hands on every outcome at once: what a task comes to when it is carried on
with the sink in some state, on a workbench. -/
inductive Task.Alone {σ : Type} (harness : Harness) (sink : Sink σ) (problem : Problem) :
    Task → σ → Workbench → Completed σ ProblemStats → Prop where
  | finished (verified : Verified) (state : σ) (bench : Workbench) :
      Alone harness sink problem (.finished verified) state bench ⟨verified.result, state, bench⟩
  | step {stage : Stage} {state : σ} {bench left : Workbench} {task : Task}
      {ended : Completed σ ProblemStats} :
      (stage.advance harness problem).run bench = (task, left) →
      task.outcomes = (Task.underway stage).outcomes →
      Alone harness sink problem task state left ended →
      Alone harness sink problem (.underway stage) state bench ended
  | taken {stage : Stage} {state after : σ} {bench left given : Workbench} {task : Task}
      {outcome : Outcome} {ended : Completed σ ProblemStats} :
      (stage.advance harness problem).run bench = (task, left) →
      task.outcomes = (Task.underway stage).outcomes ++ [outcome] →
      ((sink outcome).run state).run left = ((.ok (), after), given) →
      Alone harness sink problem task after given ended →
      Alone harness sink problem (.underway stage) state bench ended
  | refused {stage : Stage} {state after : σ} {bench left given : Workbench} {task : Task}
      {outcome : Outcome} {reason : String} :
      (stage.advance harness problem).run bench = (task, left) →
      task.outcomes = (Task.underway stage).outcomes ++ [outcome] →
      ((sink outcome).run state).run left = ((.error reason, after), given) →
      Alone harness sink problem (.underway stage) state bench
        ⟨.error (.output reason), after, given⟩

namespace Task.Alone

variable {σ : Type} (harness : Harness) (sink : Sink σ) (problem : Problem)

/-- Verifying the solutions at some paths is what choosing among them comes to. -/
theorem verifySolutions (metadata : Metadata) (skipped : Nat) (outcomes : List Outcome)
    (paths : List Path) (state : σ) (bench : Workbench) :
    let ended := (harness.verifySolutions sink metadata skipped paths).complete state bench
    Alone harness sink problem (.underway (.choosing metadata skipped outcomes paths)) state bench
      ⟨ended.value.map (⟨true, ·⟩), ended.state, ended.bench⟩ := by
  induction paths generalizing skipped outcomes state bench with
  | nil => exact .step (Stage.advance_choosing_nil ..) rfl (.finished ..)
  | cons path rest ih =>
      have choice := Stage.advance_choosing_cons harness problem bench metadata skipped outcomes
        path rest
      rw [Harness.complete_verifySolutions_cons]
      rcases chosen : (harness.eligible? metadata path).run bench with ⟨eligible, left⟩
      rw [chosen] at choice
      cases eligible with
      | false => exact .step choice rfl (ih (skipped + 1) outcomes state left)
      | true =>
          refine .step choice rfl ?_
          have execution := Stage.advance_executing harness problem left metadata skipped outcomes
            path rest
          simp only
          rcases judged : (harness.judge path metadata.inputBytes metadata.expectedBytes).run left
            with ⟨reply, left⟩
          rw [judged] at execution
          cases reply with
          | error error => exact .step execution rfl (.finished ..)
          | ok outcome =>
              simp only
              rcases called : ((sink outcome).run state).run left with ⟨⟨reply, after⟩, given⟩
              cases reply with
              | error reason => exact .refused execution rfl called
              | ok _ =>
                  have later := ih skipped (outcomes ++ [outcome]) after given
                  exact .taken execution rfl called later

/-- From its document on, a problem comes to this, wherever the document comes from. -/
theorem listing (document : Bytes) (state : σ) (left : Workbench) :
    Alone harness sink problem (.underway (.listing document)) state left
      (match (match Metadata.ofDocument? document with
        | some metadata => (some metadata, left)
        | none => (none, left.noting (.cacheMalformed problem.name)) :
          Option Metadata × Workbench) with
      | (none, left) => ⟨.ok ⟨false, 0⟩, state, left⟩
      | (some metadata, left) =>
          match problem.listSolutions left.machine.files with
          | .error error =>
              ⟨.ok ⟨false, 0⟩, state, left.noting (.problemSkipped problem.name error)⟩
          | .ok paths =>
              let ended := (harness.verifySolutions sink metadata 0 paths).complete state left
              ⟨ended.value.map (⟨true, ·⟩), ended.state, ended.bench⟩) := by
  have listing := Stage.advance_listing harness problem left document
  cases sense : Metadata.ofDocument? document with
  | none =>
      rw [sense] at listing
      exact .step listing rfl (.finished ..)
  | some metadata =>
      rw [sense] at listing
      simp only at listing ⊢
      cases listed : problem.listSolutions left.machine.files with
      | error error =>
          rw [listed] at listing
          exact .step listing rfl (.finished ..)
      | ok paths =>
          rw [listed] at listing
          have solutions := verifySolutions harness sink problem metadata 0 [] paths state left
          exact .step listing rfl solutions

/-- Verifying a problem is what a task comes to from its first stage on. -/
theorem verifyProblem (state : σ) (bench : Workbench) :
    Alone harness sink problem (.underway .loading) state bench
      ((harness.verifyProblem sink problem).complete state bench) := by
  rw [Harness.complete_verifyProblem, Problem.resolve_run, Problem.document?_run]
  have loading := Stage.advance_loading harness problem bench
  cases loaded : loadCached bench.machine.files problem.metadataPath with
  | error error =>
      rw [loaded] at loading
      exact .step loading rfl (.finished ..)
  | ok content? =>
      rw [loaded] at loading
      cases content? with
      | some document => exact .step loading rfl (listing harness sink problem document state bench)
      | none =>
          refine .step loading rfl ?_
          have fetching := Stage.advance_fetching harness problem bench
          simp only [Problem.fetchAndStore_run]
          cases fetched : harness.source problem.name with
          | error error =>
              rw [fetched] at fetching
              exact .step fetching rfl (.finished ..)
          | ok document =>
              rw [fetched] at fetching
              refine .step fetching rfl ?_
              have storing := Stage.advance_storing harness problem
                (bench.noting (.fetching problem.name)) document
              simp only
              rcases written : (Work.write problem.metadataPath document).run
                (bench.noting (.fetching problem.name)) with ⟨reply, left⟩
              rw [written] at storing
              cases reply with
              | error error => exact .step storing rfl (.finished ..)
              | ok _ => exact .step storing rfl (listing harness sink problem document state left)

end Task.Alone

end CorpusJudge
