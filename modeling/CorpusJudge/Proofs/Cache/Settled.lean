import CorpusJudge.Proofs.Cache.Caching
import CorpusJudge.Proofs.Harness.Dockets
import CorpusJudge.Proofs.Harness.Settled

/-!
# Problems of a corpus are settled

Where executions depend on the solution and its input alone, what comes of a problem is known from
the files at the start and from the source, whichever cache files have appeared by the time that
somebody looks.
-/

namespace CorpusJudge

/-- Executions depend on the solution and its input alone. -/
def Harness.Replies [Kernel] (harness : Harness)
    (reply : Path → Bytes → Except ExecutionError Execution) : Prop :=
  ∀ path input machine, (harness.executor path input machine).1 = reply path input

/-- The document with a problem's metadata, as far as the files and the source have one. -/
def Problem.known? (source : Source) (files : FileTree) (problem : Problem) : Option Bytes :=
  match loadCached files problem.metadataPath with
  | .ok (some document) => some document
  | .ok none =>
    if FileTree.endsInSeparator problem.metadataPath then none else (source problem.name).toOption
  | .error _ => none

/-- What comes of the solutions at some paths, behind what has come of others: the outcomes up to
the first solution that cannot be executed. -/
def Docket.verified (rules : Rules) (reply : Path → Bytes → Except ExecutionError Execution)
    (docket : Docket) (skipped : Nat) (outcomes : List Outcome) : List Path → Verified
  | [] => ⟨outcomes, .ok ⟨true, skipped⟩⟩
  | path :: rest =>
    if docket.admits rules path then
      match reply path docket.metadata.inputBytes with
      | .error error => ⟨outcomes, .error (.execution error)⟩
      | .ok execution =>
        docket.verified rules reply skipped
          (outcomes ++ [docket.outcome (fun _ _ => execution) path]) rest
    else docket.verified rules reply (skipped + 1) outcomes rest

/-- What comes of a problem. -/
def Problem.comesTo (rules : Rules) (reply : Path → Bytes → Except ExecutionError Execution)
    (source : Source) (files : FileTree) (problem : Problem) : Verified :=
  match (problem.known? source files).bind Metadata.ofDocument? with
  | none => .passedOver
  | some metadata =>
    match problem.listSolutions files with
    | .error _ => .passedOver
    | .ok paths => (⟨problem, metadata, files, paths⟩ : Docket).verified rules reply 0 [] paths

/-- Whether a verification is on the way to something: it goes on from a document or from solutions
that will come to that. -/
def Stage.LeadsTo (rules : Rules) (reply : Path → Bytes → Except ExecutionError Execution)
    (source : Source) (start : FileTree) (problem : Problem) : Stage → Prop
  | loading => True
  | fetching => problem.isAbsent start = true
  | storing document => problem.isAbsent start = true ∧ source problem.name = .ok document
  | listing document => problem.known? source start = some document
  | choosing metadata skipped outcomes paths =>
    ∃ all, problem.listSolutions start = .ok all ∧ paths ⊆ all ∧
      problem.comesTo rules reply source start =
        (⟨problem, metadata, start, all⟩ : Docket).verified rules reply skipped outcomes paths
  | executing metadata skipped outcomes path rest =>
    ∃ all, problem.listSolutions start = .ok all ∧ rest ⊆ all ∧
      (⟨problem, metadata, start, all⟩ : Docket).admits rules path = true ∧
      problem.comesTo rules reply source start =
        (⟨problem, metadata, start, all⟩ : Docket).verified rules reply skipped outcomes
          (path :: rest)

/-- Whether a task is on the way to what comes of its problem. -/
def Task.LeadsTo (rules : Rules) (reply : Path → Bytes → Except ExecutionError Execution)
    (source : Source) (start : FileTree) (problem : Problem) : Task → Prop
  | underway stage => stage.LeadsTo rules reply source start problem
  | finished verified => verified = problem.comesTo rules reply source start
  | _ => True

section

variable [Kernel] {harness : Harness} {reply : Path → Bytes → Except ExecutionError Execution}
variable {start : FileTree} {problems : List Problem} {problem : Problem} {bench left : Workbench}
variable {task : Task}

namespace Filled

/-- Looking for the cache file. -/
theorem loading (filled : Filled harness.source start problems bench.machine.files)
    (apart : Apart start problems) (member : problem ∈ problems)
    (next : (Stage.loading.advance harness problem).run bench = (task, left)) :
    task.LeadsTo harness.settings.rules reply harness.source start problem ∧
      left.machine = bench.machine := by
  obtain ⟨place, located⟩ := apart.named problem member
  have here := (filled.locate_metadata member place).mpr located
  rcases filled.own apart member located with same | ⟨empty, ends, document, answer, there⟩
  · have alike : loadCached bench.machine.files problem.metadataPath =
        loadCached start problem.metadataPath := by
      rw [loadCached_eq here, loadCached_eq located, same]
    cases Stage.step_of_advance next with
    | cached loaded =>
        refine ⟨?_, rfl⟩
        simp [Task.LeadsTo, Stage.LeadsTo, Problem.known?, ← alike, loaded]
    | missed loaded => exact ⟨(Problem.isAbsent_iff located).mpr (alike.symm.trans loaded), rfl⟩
    | unreadable loaded =>
        refine ⟨?_, rfl⟩
        simp [Task.LeadsTo, Problem.comesTo, Problem.known?, ← alike, loaded]
  · have begun : loadCached start problem.metadataPath = .ok none := by
      rw [loadCached_eq located, empty]
    rw [Stage.advance_loading, loadCached_eq here, there] at next
    obtain ⟨rfl, rfl⟩ := Prod.mk.inj next
    refine ⟨?_, rfl⟩
    simp [Task.LeadsTo, Stage.LeadsTo, Problem.known?, begun, ends, answer, Except.toOption]

/-- Asking the source. -/
theorem fetching (apart : Apart start problems) (member : problem ∈ problems)
    (leads : Stage.fetching.LeadsTo harness.settings.rules reply harness.source start problem)
    (next : (Stage.fetching.advance harness problem).run bench = (task, left)) :
    task.LeadsTo harness.settings.rules reply harness.source start problem ∧
      left.machine = bench.machine := by
  obtain ⟨place, located⟩ := apart.named problem member
  have begun := (Problem.isAbsent_iff located).mp leads
  cases Stage.step_of_advance next with
  | answered answer => exact ⟨⟨leads, answer⟩, rfl⟩
  | unanswered answer =>
      refine ⟨?_, rfl⟩
      simp [Task.LeadsTo, Problem.comesTo, Problem.known?, begun, answer, Except.toOption]

/-- Storing the answer. -/
theorem storing (filled : Filled harness.source start problems bench.machine.files)
    (apart : Apart start problems) (member : problem ∈ problems) {document : Bytes}
    (leads : (Stage.storing document).LeadsTo harness.settings.rules reply harness.source start
      problem)
    (next : ((Stage.storing document).advance harness problem).run bench = (task, left)) :
    task.LeadsTo harness.settings.rules reply harness.source start problem ∧
      Filled harness.source start problems left.machine.files := by
  obtain ⟨absent, answer⟩ := leads
  obtain ⟨place, located⟩ := apart.named problem member
  have begun := (Problem.isAbsent_iff located).mp absent
  rw [Stage.advance_storing, Work.run_write] at next
  cases ends : FileTree.endsInSeparator problem.metadataPath with
  | true =>
      obtain ⟨error, failed⟩ := FileTree.write_endsInSeparator bench.machine.files
        problem.metadataPath document ends
      rw [failed] at next
      obtain ⟨rfl, rfl⟩ := Prod.mk.inj next
      refine ⟨?_, filled⟩
      simp [Task.LeadsTo, Problem.comesTo, Problem.known?, begun, ends]
  | false =>
      have here := (filled.locate_metadata member place).mpr located
      have empty : start.lookup place = none := Problem.empty_of_isAbsent located absent
      have file : problem.cached harness.source = some (.file document) := by
        simp [Problem.cached, ends, answer, Except.toOption]
      have wrote : bench.machine.files.write problem.metadataPath document =
          .ok (bench.machine.files.put place (.file document)) := by
        rcases filled.own apart member located with same | ⟨-, -, other, -, there⟩
        · exact FileTree.write_empty _ _ document ends here (same.trans empty)
        · simp [FileTree.write_eq, ends, here, there]
      rw [wrote] at next
      obtain ⟨rfl, rfl⟩ := Prod.mk.inj next
      refine ⟨?_, ?_⟩
      · simp [Task.LeadsTo, Stage.LeadsTo, Problem.known?, begun, ends, answer, Except.toOption]
      · have proper : place ≠ [] := FileTree.ne_nil_of_lookup _ empty
        rw [Machine.write_files wrote]
        refine ⟨filled.wellFormed.write wrote, (FileTree.put_base ..).trans filled.base, ?_, ?_⟩
        case refine_2 =>
          rw [FileTree.put_locked]
          exact filled.locked
        intro other concerns
        rw [FileTree.lookup_put proper]
        split
        · next same =>
            subst same
            exact .inr ⟨empty, problem, member, located, file.symm⟩
        · exact filled.lookup other concerns

/-- Listing the solutions. -/
theorem listing (filled : Filled harness.source start problems bench.machine.files)
    (apart : Apart start problems) (formed : start.WellFormed) (member : problem ∈ problems)
    {document : Bytes}
    (leads : (Stage.listing document).LeadsTo harness.settings.rules reply harness.source start
      problem)
    (next : ((Stage.listing document).advance harness problem).run bench = (task, left)) :
    task.LeadsTo harness.settings.rules reply harness.source start problem ∧
      left.machine = bench.machine := by
  have known : problem.known? harness.source start = some document := leads
  have same := filled.listSolutions apart formed member
  cases Stage.step_of_advance next with
  | malformed senseless =>
      refine ⟨?_, rfl⟩
      simp [Task.LeadsTo, Problem.comesTo, known, senseless]
  | unlisted sense listed =>
      refine ⟨?_, rfl⟩
      cases begun : problem.listSolutions start with
      | error error => simp [Task.LeadsTo, Problem.comesTo, known, sense, begun]
      | ok paths => simp [(same paths).mpr begun] at listed
  | @listed _ _ paths sense listed =>
      have begun := (same paths).mp listed
      refine ⟨⟨paths, begun, fun _ among => among, ?_⟩, rfl⟩
      simp [Problem.comesTo, known, sense, begun]

/-- Choosing a solution. -/
theorem choosing (filled : Filled harness.source start problems bench.machine.files)
    (apart : Apart start problems) (formed : start.WellFormed) (member : problem ∈ problems)
    {metadata : Metadata} {skipped : Nat} {outcomes : List Outcome} {paths : List Path}
    (leads : (Stage.choosing metadata skipped outcomes paths).LeadsTo harness.settings.rules reply
      harness.source start problem)
    (next : ((Stage.choosing metadata skipped outcomes paths).advance harness problem).run bench =
      (task, left)) :
    task.LeadsTo harness.settings.rules reply harness.source start problem ∧
      left.machine = bench.machine := by
  obtain ⟨all, listed, within, comes⟩ := leads
  cases paths with
  | nil =>
      rw [Stage.advance_choosing_nil] at next
      obtain ⟨rfl, rfl⟩ := Prod.mk.inj next
      exact ⟨comes.symm, rfl⟩
  | cons path rest =>
      have among := within List.mem_cons_self
      have further : rest ⊆ all := fun _ other => within (List.mem_cons_of_mem _ other)
      rw [Stage.advance_choosing_cons] at next
      obtain ⟨read, eligible, same⟩ := harness.eligible?_docket
        ⟨problem, metadata, start, all⟩ path (filled.read apart formed member listed among)
      simp only at eligible
      rw [eligible] at next
      cases admitted : (⟨problem, metadata, start, all⟩ : Docket).admits harness.settings.rules
        path with
      | true =>
          rw [admitted] at next
          obtain ⟨rfl, rfl⟩ := Prod.mk.inj next
          exact ⟨⟨all, listed, further, admitted, comes⟩, same⟩
      | false =>
          rw [admitted] at next
          obtain ⟨rfl, rfl⟩ := Prod.mk.inj next
          refine ⟨⟨all, listed, further, ?_⟩, same⟩
          rw [comes, Docket.verified, if_neg (by simp [admitted])]

/-- Executing a solution. -/
theorem executing (filled : Filled harness.source start problems bench.machine.files)
    (spares : harness.Spares (Concerns start problems)) (replies : harness.Replies reply)
    {metadata : Metadata} {skipped : Nat} {outcomes : List Outcome} {path : Path} {rest : List Path}
    (leads : (Stage.executing metadata skipped outcomes path rest).LeadsTo harness.settings.rules
      reply harness.source start problem)
    (next : ((Stage.executing metadata skipped outcomes path rest).advance harness problem).run
      bench = (task, left)) :
    task.LeadsTo harness.settings.rules reply harness.source start problem ∧
      Filled harness.source start problems left.machine.files := by
  obtain ⟨all, listed, further, admitted, comes⟩ := leads
  have answer := replies path metadata.inputBytes bench.machine
  have spared := spares path metadata.inputBytes bench.machine
  rw [Docket.verified, if_pos admitted, ← answer] at comes
  cases Stage.step_of_advance next with
  | failed judged =>
      obtain ⟨reason, machine, executed, rfl, rfl⟩ := Harness.judge_eq_error judged
      rw [executed] at comes spared
      exact ⟨comes.symm, filled.untouched spared⟩
  | judged judged =>
      obtain ⟨execution, machine, executed, rfl, rfl, -⟩ := Harness.judge_eq_ok judged
      rw [executed] at comes spared
      exact ⟨⟨all, listed, further, comes⟩, filled.untouched spared⟩

/-- Any stage. -/
theorem advance (filled : Filled harness.source start problems bench.machine.files)
    (apart : Apart start problems) (formed : start.WellFormed)
    (spares : harness.Spares (Concerns start problems)) (replies : harness.Replies reply)
    (member : problem ∈ problems) {stage : Stage}
    (leads : stage.LeadsTo harness.settings.rules reply harness.source start problem)
    (next : (stage.advance harness problem).run bench = (task, left)) :
    task.LeadsTo harness.settings.rules reply harness.source start problem ∧
      Filled harness.source start problems left.machine.files := by
  have still {machine : Machine} (same : machine = bench.machine) :
      Filled harness.source start problems machine.files := same ▸ filled
  cases stage with
  | loading => exact (filled.loading apart member next).imp_right still
  | fetching => exact (fetching apart member leads next).imp_right still
  | storing document => exact filled.storing apart member leads next
  | listing document => exact (filled.listing apart formed member leads next).imp_right still
  | choosing metadata skipped outcomes paths =>
      exact (filled.choosing apart formed member leads next).imp_right still
  | executing metadata skipped outcomes path rest =>
      exact filled.executing spares replies leads next

end Filled

/-- Whatever the files look like by then, a verification stays on the way to what comes of its
problem. -/
theorem Task.Reached.leadsTo (apart : Apart start problems) (formed : start.WellFormed)
    (spares : harness.Spares (Concerns start problems)) (replies : harness.Replies reply)
    (member : problem ∈ problems)
    (reached : Task.Reached harness
      (fun bench => Filled harness.source start problems bench.machine.files) problem task) :
    task.LeadsTo harness.settings.rules reply harness.source start problem := by
  induction reached with
  | begun => trivial
  | advanced _ filled ih => exact (filled.advance apart formed spares replies member ih rfl).1

/-- The problems of a corpus are settled as long as only their cache files are filled in. -/
theorem Harness.settled (apart : Apart start problems) (formed : start.WellFormed)
    (spares : harness.Spares (Concerns start problems)) (replies : harness.Replies reply) :
    harness.Settled (fun bench => Filled harness.source start problems bench.machine.files) problems
      (Problem.comesTo harness.settings.rules reply harness.source start) where
  keeps := fun _ member _ _ reached filled =>
    (filled.advance apart formed spares replies member
      (reached.leadsTo apart formed spares replies member) rfl).2
  yields := fun _ member _ reached => reached.leadsTo apart formed spares replies member

end

/-! ## The sample corpus -/

attribute [local instance] Platform.small

/-- The cache files of the sample problems are different files, outside the folders of solutions. -/
theorem Problem.samples_apart : Apart .sample Problem.samples := by
  have metadata (name : String) (listed : name ∈ ["Double", "Echo"]) :
      FileTree.sample.locate true (Problem.named .standard ⟨"problems"⟩ name).metadataPath =
        .ok ["problems", name, "problem.json"] :=
    FileTree.sample_child listed (.tail _ (.head _))
  have solutions (name : String) (listed : name ∈ ["Double", "Echo"]) :
      FileTree.sample.locate true (Problem.named .standard ⟨"problems"⟩ name).solutionsDir =
        .ok ["problems", name, "gs"] :=
    FileTree.sample_child listed (.head _)
  refine ⟨?_, ?_, ?_⟩
  · intro problem member
    obtain ⟨name, listed, rfl⟩ := List.mem_map.mp member
    exact ⟨_, metadata name listed⟩
  · refine List.pairwise_pair.mpr fun place first second => ?_
    rw [metadata "Double" (by simp)] at first
    rw [metadata "Echo" (by simp), ← first] at second
    simp at second
  · intro problem member other otherMember place folder located leads inside
    obtain ⟨name, listed, rfl⟩ := List.mem_map.mp member
    obtain ⟨otherName, otherListed, rfl⟩ := List.mem_map.mp otherMember
    rw [metadata name listed] at located
    rw [solutions otherName otherListed] at leads
    obtain rfl := Except.ok.inj located
    obtain rfl := Except.ok.inj leads
    simp at inside

theorem Harness.sample_spares (places : Location → Prop) : Harness.sample.Spares places :=
  fun _ _ _ => .refl _ _

theorem Harness.sample_replies :
    Harness.sample.Replies fun _ input => .ok (.completed (some 0) input []) :=
  fun _ _ _ => rfl

end CorpusJudge
