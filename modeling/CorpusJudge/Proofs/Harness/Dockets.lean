import CorpusJudge.Proofs.Cache.Corpus
import CorpusJudge.Proofs.Execution
import CorpusJudge.Proofs.Files.WellFormed
import CorpusJudge.Proofs.Harness.Completion
import CorpusJudge.Proofs.Harness.Responses
import CorpusJudge.Proofs.Text.Order
import Mathlib.Algebra.Ring.Nat

/-!
# What a whole run does

Where executing a solution changes nothing about the files and always comes about, the run of a list
of problems is known beforehand.  Every problem that has metadata, and solutions that can be listed,
has a docket; the run executes the eligible solutions of the dockets in order, and skips the others.
-/

namespace CorpusJudge

/-- The document with a problem's metadata, if there is one in the end, and the files after it was
looked for. -/
def Problem.documented (source : Source) (files : FileTree) (problem : Problem) :
    Option Bytes × FileTree :=
  match loadCached files problem.metadataPath with
  | .ok (some document) => (some document, files)
  | .error _ => (none, files)
  | .ok none =>
    match source problem.name with
    | .error _ => (none, files)
    | .ok document =>
      match files.write problem.metadataPath document with
      | .error _ => (none, files)
      | .ok written => (some document, written)

/-- A problem whose metadata is there and whose solutions can be listed: the metadata, the files at
that time, and the paths of the solutions. -/
structure Docket where
  problem : Problem
  metadata : Metadata
  files : FileTree
  paths : List Path

/-- The docket of a problem, if it has one. -/
def Problem.docket? (source : Source) (files : FileTree) (problem : Problem) : Option Docket :=
  match (problem.documented source files).1.bind Metadata.ofDocument? with
  | none => none
  | some metadata =>
    match problem.listSolutions (problem.documented source files).2 with
    | .error _ => none
    | .ok paths => some ⟨problem, metadata, (problem.documented source files).2, paths⟩

/-- The dockets of problems, in order, and the files after all of them were looked at. -/
def dockets (source : Source) (files : FileTree) : List Problem → List Docket × FileTree
  | [] => ([], files)
  | problem :: rest =>
    let (later, last) := dockets source (problem.documented source files).2 rest
    ((problem.docket? source files).toList ++ later, last)

theorem dockets_cons (source : Source) (files : FileTree) (problem : Problem)
    (rest : List Problem) :
    dockets source files (problem :: rest) =
      ((problem.docket? source files).toList ++
          (dockets source (problem.documented source files).2 rest).1,
        (dockets source (problem.documented source files).2 rest).2) := rfl

namespace Docket

/-- Whether the solution at a path can be read and may be run. -/
def admits (rules : Rules) (docket : Docket) (path : Path) : Bool :=
  match docket.files.read path with
  | .error _ => false
  | .ok source => rules.admits docket.metadata (.ofFile path source)

/-- The paths of the solutions that are run. -/
def eligible (rules : Rules) (docket : Docket) : List Path :=
  docket.paths.filter (docket.admits rules)

/-- The outcome of a solution, given how its execution goes. -/
def outcome (answer : Path → Bytes → Execution) (docket : Docket) (path : Path) : Outcome :=
  let execution := answer path docket.metadata.inputBytes
  ⟨path, Harness.verdictOn execution docket.metadata.expectedBytes, execution.stdout,
    docket.metadata.expectedBytes⟩

/-- How many solutions are not run. -/
def skipped (rules : Rules) (docket : Docket) : Nat :=
  docket.paths.countP fun path => !docket.admits rules path

/-- Every solution is run or skipped. -/
theorem eligible_add_skipped (rules : Rules) (docket : Docket) :
    (docket.eligible rules).length + docket.skipped rules = docket.paths.length := by
  have split := docket.paths.length_eq_countP_add_countP (docket.admits rules)
  rw [eligible, ← List.countP_eq_length_filter, skipped, split]
  simp

/-- The outcomes of all the solutions that are run. -/
def outcomes (rules : Rules) (answer : Path → Bytes → Execution) (docket : Docket) : List Outcome :=
  (docket.eligible rules).map (docket.outcome answer)

end Docket

/-- Every solution of the dockets is run or skipped. -/
theorem outcomes_add_skipped (rules : Rules) (answer : Path → Bytes → Execution)
    (found : List Docket) :
    (found.flatMap (Docket.outcomes rules answer)).length + (found.map (Docket.skipped rules)).sum =
      (found.map (·.paths.length)).sum := by
  induction found with
  | nil => rfl
  | cons docket rest ih =>
      have first := docket.eligible_add_skipped rules
      simp only [List.flatMap_cons, List.length_append, List.map_cons, List.sum_cons,
        Docket.outcomes, List.length_map]
      omega

/-- The solutions of a docket are the regular files in the folder of its problem, by name. -/
def Docket.ListsFiles (docket : Docket) : Prop :=
  ∃ (children : List (String × Entry)) (names : List String),
    docket.files.list docket.problem.solutionsDir = .ok children ∧
    names.Pairwise (· ≤ ·) ∧
    names.Perm ((children.filter fun (_, entry) => entry.isFile).map Prod.fst) ∧
    docket.paths = names.map docket.problem.solutionsDir.join

/-- The outcome is that of a solution with some execution and some expected answer: it is slow if
time ran out, passes if the program ended and its output agrees with what is expected, whatever its
exit code and its other output, and fails otherwise. -/
structure Outcome.Judges (outcome : Outcome) (path : Path) (execution : Execution)
    (expected : Bytes) : Prop where
  executed : outcome.solution = path
  compared : outcome.expected = expected
  printed : outcome.actual = execution.stdout
  slow : outcome.verdict = .slow ↔ ∃ overtime stdout, execution = .timedOut overtime stdout
  pass : outcome.verdict = .pass ↔ ∃ exitCode stdout stderr,
    execution = .completed exitCode stdout stderr ∧
      Answer.normalForm stdout = Answer.normalForm expected
  fail : outcome.verdict = .fail ↔ ∃ exitCode stdout stderr,
    execution = .completed exitCode stdout stderr ∧
      Answer.normalForm stdout ≠ Answer.normalForm expected

theorem Docket.outcome_judges (answer : Path → Bytes → Execution) (docket : Docket) (path : Path) :
    (docket.outcome answer path).Judges path (answer path docket.metadata.inputBytes)
      docket.metadata.expectedBytes := by
  simp only [outcome]
  generalize answer path docket.metadata.inputBytes = execution
  cases execution with
  | timedOut overtime stdout => constructor <;> simp [Harness.verdictOn]
  | completed exitCode stdout stderr =>
      by_cases agree : Answer.agrees stdout docket.metadata.expectedBytes = true
      · have same : Answer.normalForm stdout = Answer.normalForm docket.metadata.expectedBytes := by
          simpa [Answer.agrees] using agree
        refine ⟨rfl, rfl, rfl, by simp [Harness.verdictOn, agree], ?_, ?_⟩
        · exact ⟨fun _ => ⟨exitCode, stdout, stderr, rfl, same⟩,
            fun _ => by simp [Harness.verdictOn, agree]⟩
        · refine ⟨fun fails => by simp [Harness.verdictOn, agree] at fails, ?_⟩
          rintro ⟨_, _, _, ⟨⟩, differ⟩
          exact absurd same differ
      · have differ :
            Answer.normalForm stdout ≠ Answer.normalForm docket.metadata.expectedBytes := by
          simpa [Answer.agrees] using agree
        refine ⟨rfl, rfl, rfl, by simp [Harness.verdictOn, agree], ?_, ?_⟩
        · refine ⟨fun passes => by simp [Harness.verdictOn, agree] at passes, ?_⟩
          rintro ⟨_, _, _, ⟨⟩, same⟩
          exact absurd same differ
        · exact ⟨fun _ => ⟨exitCode, stdout, stderr, rfl, differ⟩,
            fun _ => by simp [Harness.verdictOn, agree]⟩

theorem Problem.docket?_eq_some {source : Source} {files : FileTree} {problem : Problem}
    {docket : Docket} (found : problem.docket? source files = some docket) :
    docket.problem = problem ∧ problem.listSolutions docket.files = .ok docket.paths := by
  unfold docket? at found
  split at found
  · cases found
  · split at found
    · cases found
    · next listed =>
        cases found
        exact ⟨rfl, listed⟩

theorem Problem.docket?_listsFiles {source : Source} {files : FileTree} {problem : Problem}
    {docket : Docket} (found : problem.docket? source files = some docket) :
    docket.ListsFiles := by
  obtain ⟨rfl, listed⟩ := docket?_eq_some found
  unfold listSolutions at listed
  split at listed
  · cases listed
  · next children same =>
      exact ⟨children, _, same, Text.sorted_pairwise _, List.mergeSort_perm ..,
        (Except.ok.inj listed).symm⟩

theorem dockets_sublist (source : Source) (files : FileTree) (problems : List Problem) :
    ((dockets source files problems).1.map (·.problem)).Sublist problems := by
  induction problems generalizing files with
  | nil => exact .slnil
  | cons problem rest ih =>
      rw [dockets_cons]
      simp only [List.map_append]
      cases found : problem.docket? source files with
      | none => exact (ih _).cons _
      | some docket =>
          have same := (Problem.docket?_eq_some found).1
          rw [Option.toList_some, List.map_singleton, same]
          exact (ih _).cons_cons _

theorem dockets_listsFiles {source : Source} {files : FileTree} {problems : List Problem}
    {docket : Docket} (member : docket ∈ (dockets source files problems).1) :
    docket.ListsFiles := by
  induction problems generalizing files with
  | nil => cases member
  | cons problem rest ih =>
      rw [dockets_cons] at member
      rcases List.mem_append.mp member with first | later
      · exact Problem.docket?_listsFiles (Option.mem_toList.mp first)
      · exact ih later

section

variable [Kernel]

/-- Executions always come about, depend on the solution and its input alone, and change nothing
about the files. -/
def Harness.Answers (harness : Harness) (answer : Path → Bytes → Execution) : Prop :=
  ∀ path input machine, ∃ left,
    harness.executor path input machine = (.ok (answer path input), left) ∧ left.files = machine.files

/-- The sink takes every outcome, and changes nothing about the files. -/
def Sink.Accepts {σ : Type} (sink : Sink σ) : Prop :=
  ∀ outcome state bench, ∃ after left,
    ((sink outcome).run state).run bench = ((.ok (), after), left) ∧
      left.machine.files = bench.machine.files

/-! ## Steps of the run -/

theorem Problem.document?_documented (problem : Problem) (source : Source) (bench : Workbench) :
    ∃ left, (problem.document? source).run bench =
        ((problem.documented source bench.machine.files).1, left) ∧
      left.machine.files = (problem.documented source bench.machine.files).2 := by
  rw [document?_run, documented]
  cases loadCached bench.machine.files problem.metadataPath with
  | error error => exact ⟨_, rfl, rfl⟩
  | ok content? =>
      cases content? with
      | some document => exact ⟨_, rfl, rfl⟩
      | none =>
          simp only [fetchAndStore_run]
          cases source problem.name with
          | error error => exact ⟨_, rfl, rfl⟩
          | ok document =>
              simp only [Work.run_write]
              have noted : (bench.noting (.fetching problem.name)).machine = bench.machine := rfl
              rw [noted]
              cases wrote : bench.machine.files.write problem.metadataPath document with
              | error error => exact ⟨_, rfl, rfl⟩
              | ok written => exact ⟨_, rfl, Machine.write_files wrote⟩

theorem Problem.resolve_documented (problem : Problem) (source : Source) (bench : Workbench) :
    ∃ left, (problem.resolve source).run bench =
        ((problem.documented source bench.machine.files).1.bind Metadata.ofDocument?, left) ∧
      left.machine.files = (problem.documented source bench.machine.files).2 := by
  obtain ⟨left, document, files⟩ := problem.document?_documented source bench
  rw [resolve_run, document]
  cases (problem.documented source bench.machine.files).1 with
  | none => exact ⟨left, rfl, files⟩
  | some document =>
      simp only [Option.bind_some]
      cases Metadata.ofDocument? document with
      | none => exact ⟨_, rfl, files⟩
      | some metadata => exact ⟨left, rfl, files⟩

variable {σ : Type} {harness : Harness} {sink : Sink σ} {answer : Path → Bytes → Execution}

theorem Sink.Accepts.logged_run (accepts : sink.Accepts) (outcome : Outcome) (state : σ)
    (log : List (Outcome × Bool)) (bench : Workbench) :
    ∃ after left, ((sink.logged outcome).run (state, log)).run bench =
        ((.ok (), (after, log ++ [(outcome, true)])), left) ∧
      left.machine.files = bench.machine.files := by
  obtain ⟨after, left, called, same⟩ := accepts outcome state bench
  refine ⟨after, left, ?_, same⟩
  rw [Sink.logged_run, called]
  rfl

theorem Sink.Accepts.logged (accepts : sink.Accepts) : sink.logged.Accepts := by
  rintro outcome ⟨state, log⟩ bench
  obtain ⟨after, left, called, same⟩ := accepts.logged_run outcome state log bench
  exact ⟨_, left, called, same⟩

namespace Harness

/-- A solution is executed when its docket admits it, if it reads as the docket knows it. -/
theorem eligible?_docket (harness : Harness) (docket : Docket) (path : Path) {bench : Workbench}
    (reads : ∀ content,
      bench.machine.files.read path = .ok content ↔ docket.files.read path = .ok content) :
    ∃ left, (harness.eligible? docket.metadata path).run bench =
        (docket.admits harness.settings.rules path, left) ∧ left.machine = bench.machine := by
  rw [eligible?_run, Docket.admits]
  cases now : bench.machine.files.read path with
  | error error =>
      cases known : docket.files.read path with
      | error _ => exact ⟨_, rfl, rfl⟩
      | ok content =>
          rw [(reads content).mpr known] at now
          cases now
  | ok source =>
      rw [(reads source).mp now]
      simp only [Rules.admits]
      cases harness.settings.rules.check docket.metadata (.ofFile path source) with
      | error reason => exact ⟨_, rfl, rfl⟩
      | ok _ => exact ⟨_, rfl, rfl⟩

/-- Judging a solution comes to the outcome that its docket expects. -/
theorem judge_docket (answers : harness.Answers answer) (docket : Docket) (path : Path)
    (bench : Workbench) :
    ∃ left,
      (harness.judge path docket.metadata.inputBytes docket.metadata.expectedBytes).run bench =
        (.ok (docket.outcome answer path), left) ∧
      left.machine.files = bench.machine.files := by
  obtain ⟨machine, executed, same⟩ := answers path docket.metadata.inputBytes bench.machine
  rw [judge_run, executed]
  simp only
  cases eventOf? path (answer path docket.metadata.inputBytes) docket.metadata.expectedBytes with
  | none => exact ⟨_, rfl, same⟩
  | some event => exact ⟨_, rfl, same⟩

/-- The solutions of a docket are executed in order, those that it admits. -/
theorem complete_verifySolutions (answers : harness.Answers answer) (accepts : sink.Accepts)
    (docket : Docket) (paths : List Path) (skipped : Nat) (state : σ)
    (log : List (Outcome × Bool)) {bench : Workbench}
    (here : bench.machine.files = docket.files) :
    let admits := docket.admits harness.settings.rules
    ∃ after left,
      (harness.verifySolutions sink.logged docket.metadata skipped paths).complete (state, log)
          bench =
        ⟨.ok (skipped + paths.countP fun path => !admits path),
          (after, log ++ ((paths.filter admits).map (docket.outcome answer)).map (·, true)), left⟩ ∧
      left.machine.files = docket.files := by
  induction paths generalizing skipped state log bench with
  | nil => exact ⟨state, bench, by simp [complete_verifySolutions_nil], here⟩
  | cons path rest ih =>
      rw [complete_verifySolutions_cons]
      obtain ⟨read, eligible, same⟩ := harness.eligible?_docket docket path fun _ => by rw [here]
      rw [eligible]
      have there : read.machine.files = docket.files := by rw [same, here]
      cases admitted : docket.admits harness.settings.rules path with
      | false =>
          obtain ⟨after, left, ended, files⟩ := ih (skipped + 1) state log there
          refine ⟨after, left, ?_, files⟩
          simp only [ended, admitted, Bool.not_false, List.countP_cons_of_pos, List.filter_cons,
            Bool.false_eq_true, if_false]
          congr 2
          omega
      | true =>
          obtain ⟨judged, outcome, unchanged⟩ := judge_docket answers docket path read
          obtain ⟨next, given, called, kept⟩ :=
            accepts.logged_run (docket.outcome answer path) state log judged
          obtain ⟨after, left, ended, files⟩ := ih skipped next
            (log ++ [(docket.outcome answer path, true)]) (kept.trans (unchanged.trans there))
          refine ⟨after, left, ?_, files⟩
          simp only [outcome, called, ended, admitted, Bool.not_true, List.countP_cons,
            List.filter_cons, Bool.false_eq_true, if_false, if_true, List.map_cons,
            List.append_assoc, List.singleton_append, Nat.add_zero]

/-- Verifying a problem executes what is on its docket, if it has one. -/
theorem complete_verifyProblem_docket (answers : harness.Answers answer) (accepts : sink.Accepts)
    (problem : Problem) (state : σ) (log : List (Outcome × Bool)) (bench : Workbench) :
    let rules := harness.settings.rules
    let docket? := problem.docket? harness.source bench.machine.files
    ∃ after left, (harness.verifyProblem sink.logged problem).complete (state, log) bench =
        ⟨.ok (match docket? with
            | none => ⟨false, 0⟩
            | some docket => ⟨true, docket.skipped rules⟩),
          (after, log ++ (docket?.toList.flatMap (Docket.outcomes rules answer)).map (·, true)),
          left⟩ ∧
      left.machine.files = (problem.documented harness.source bench.machine.files).2 := by
  intro rules docket?
  obtain ⟨left, resolved, files⟩ := problem.resolve_documented harness.source bench
  rw [complete_verifyProblem, resolved]
  simp only [docket?, Problem.docket?, ← files]
  cases (problem.documented harness.source bench.machine.files).1.bind Metadata.ofDocument? with
  | none => exact ⟨state, left, by simp, rfl⟩
  | some metadata =>
      simp only
      cases problem.listSolutions left.machine.files with
      | error error =>
          exact ⟨state, left.noting (.problemSkipped problem.name error), by simp, rfl⟩
      | ok paths =>
          obtain ⟨after, last, ended, same⟩ := complete_verifySolutions answers accepts
            ⟨problem, metadata, left.machine.files, paths⟩ paths 0 state log rfl
          refine ⟨after, last, ?_, same⟩
          simp only at ended ⊢
          rw [ended]
          simp [Docket.outcomes, Docket.eligible, Docket.skipped, Except.map, rules]

/-- A run executes what is on the dockets, one after the other. -/
theorem complete_runFrom_dockets (answers : harness.Answers answer) (accepts : sink.Accepts)
    (problems : List Problem) (stats : RunStats) (state : σ) (log : List (Outcome × Bool))
    (bench : Workbench) :
    let rules := harness.settings.rules
    let found := (dockets harness.source bench.machine.files problems).1
    ∃ after left, (harness.runFrom sink.logged stats problems).complete (state, log) bench =
        ⟨.ok ⟨stats.problems + found.length,
            stats.skipped + (found.map (Docket.skipped rules)).sum⟩,
          (after, log ++ (found.flatMap (Docket.outcomes rules answer)).map (·, true)), left⟩ ∧
      left.machine.files = (dockets harness.source bench.machine.files problems).2 := by
  induction problems generalizing stats state log bench with
  | nil => exact ⟨state, bench, by simp [dockets], rfl⟩
  | cons problem rest ih =>
      obtain ⟨next, given, verified, files⟩ :=
        complete_verifyProblem_docket answers accepts problem state log bench
      obtain ⟨after, left, ended, last⟩ := ih _ next _ given
      rw [complete_runFrom_cons, verified]
      refine ⟨after, left, ended.trans ?_, ?_⟩
      · simp only [dockets, ← files]
        cases problem.docket? harness.source bench.machine.files with
        | none => simp [RunStats.absorb]
        | some docket => simp [RunStats.absorb]; omega
      · rw [last, files]
        rfl

/-! ## What the interpreter is asked for -/

/-- The harness with another executor. -/
def withExecutor (harness : Harness) (other : Executor) : Harness :=
  { harness with executor := other }

/-- Another executor serves a docket as well if it does the same on the solutions that are run, with
the input of the docket's problem. -/
def Serves (harness : Harness) (other : Executor) (docket : Docket) : Prop :=
  ∀ path ∈ docket.eligible harness.settings.rules, ∀ machine,
    other path docket.metadata.inputBytes machine =
      harness.executor path docket.metadata.inputBytes machine

theorem complete_verifySolutions_executor (answers : harness.Answers answer)
    (accepts : sink.Accepts) (other : Executor) (docket : Docket) (paths : List Path)
    (serves : harness.Serves other { docket with paths := paths }) (skipped : Nat) (state : σ)
    {bench : Workbench} (here : bench.machine.files = docket.files) :
    ((harness.withExecutor other).verifySolutions sink docket.metadata skipped paths).complete
        state bench =
      (harness.verifySolutions sink docket.metadata skipped paths).complete state bench := by
  induction paths generalizing skipped state bench with
  | nil => rfl
  | cons path rest ih =>
      have later : harness.Serves other { docket with paths := rest } := by
        intro other member machine
        obtain ⟨listed, admitted⟩ := List.mem_filter.mp member
        exact serves other (List.mem_filter.mpr ⟨List.mem_cons_of_mem _ listed, admitted⟩) machine
      rw [complete_verifySolutions_cons, complete_verifySolutions_cons]
      have reads : (harness.withExecutor other).eligible? docket.metadata path =
          harness.eligible? docket.metadata path := rfl
      obtain ⟨read, eligible, same⟩ := harness.eligible?_docket docket path fun _ => by rw [here]
      rw [reads, eligible]
      have there : read.machine.files = docket.files := by rw [same, here]
      cases admitted : docket.admits harness.settings.rules path with
      | false => exact ih later (skipped + 1) state there
      | true =>
          have first : other path docket.metadata.inputBytes read.machine =
              harness.executor path docket.metadata.inputBytes read.machine :=
            serves path (List.mem_filter.mpr ⟨List.mem_cons_self, admitted⟩) read.machine
          obtain ⟨judged, outcome, unchanged⟩ := judge_docket answers docket path read
          have alike : ((harness.withExecutor other).judge path docket.metadata.inputBytes
                docket.metadata.expectedBytes).run read =
              (harness.judge path docket.metadata.inputBytes docket.metadata.expectedBytes).run
                read := by
            simp only [judge_run, withExecutor, first]
          obtain ⟨next, given, called, kept⟩ := accepts (docket.outcome answer path) state judged
          simp only [alike, outcome, called]
          exact ih later skipped next (kept.trans (unchanged.trans there))

theorem complete_verifyProblem_executor (answers : harness.Answers answer) (accepts : sink.Accepts)
    (other : Executor) (problem : Problem) (state : σ) (bench : Workbench)
    (serves : ∀ docket ∈ problem.docket? harness.source bench.machine.files,
      harness.Serves other docket) :
    ((harness.withExecutor other).verifyProblem sink problem).complete state bench =
      (harness.verifyProblem sink problem).complete state bench := by
  obtain ⟨left, resolved, files⟩ := problem.resolve_documented harness.source bench
  have same : (harness.withExecutor other).source = harness.source := rfl
  rw [complete_verifyProblem, complete_verifyProblem, same, resolved]
  simp only [Problem.docket?, ← files] at serves
  cases known : (problem.documented harness.source bench.machine.files).1.bind
    Metadata.ofDocument? with
  | none => rfl
  | some metadata =>
      rw [known] at serves
      simp only at serves ⊢
      cases listed : problem.listSolutions left.machine.files with
      | error error => rfl
      | ok paths =>
          rw [listed] at serves
          have same := complete_verifySolutions_executor answers accepts other
            ⟨problem, metadata, left.machine.files, paths⟩ paths (serves _ rfl) 0 state rfl
          simp only at same ⊢
          rw [same]

theorem complete_runFrom_executor (answers : harness.Answers answer) (accepts : sink.Accepts)
    (other : Executor) (problems : List Problem) (stats : RunStats) (state : σ)
    (log : List (Outcome × Bool)) (bench : Workbench)
    (serves : ∀ docket ∈ (dockets harness.source bench.machine.files problems).1,
      harness.Serves other docket) :
    ((harness.withExecutor other).runFrom sink.logged stats problems).complete (state, log) bench =
      (harness.runFrom sink.logged stats problems).complete (state, log) bench := by
  induction problems generalizing stats state log bench with
  | nil => rw [complete_runFrom_nil, complete_runFrom_nil]
  | cons problem rest ih =>
      simp only [dockets_cons, List.mem_append, Option.mem_toList] at serves
      have first := complete_verifyProblem_executor answers accepts.logged other problem
        (state, log) bench (fun docket member => serves docket (.inl member))
      obtain ⟨next, given, verified, files⟩ :=
        complete_verifyProblem_docket answers accepts problem state log bench
      rw [complete_runFrom_cons, complete_runFrom_cons, first, verified]
      simp only
      exact ih _ _ _ given fun docket member => serves docket (.inr (files ▸ member))

/-- A run executes exactly the eligible solutions of the dockets, in order, and hands on an outcome
for each; all others are skipped.  It asks the interpreter for nothing else, since any executor that
does the same there leads to the same run. -/
theorem run_dockets (answers : harness.Answers answer) (accepts : sink.Accepts)
    (problems : List Problem) (state : σ) (bench : Workbench) :
    let found := (dockets harness.source bench.machine.files problems).1
    let ended := (harness.run sink.logged problems).complete (state, []) bench
    let delivered := ended.state.2
    delivered = (found.flatMap (Docket.outcomes harness.settings.rules answer)).map (·, true) ∧
      (∃ stats, ended.value = .ok stats ∧ stats.problems = found.length ∧
        delivered.length + stats.skipped = (found.map (·.paths.length)).sum) ∧
      ended.bench.machine.files = (dockets harness.source bench.machine.files problems).2 ∧
      (found.map (·.problem)).Sublist problems ∧
      (∀ docket ∈ found, docket.ListsFiles) ∧
      (∀ docket path, (Docket.outcome answer docket path).Judges path
        (answer path docket.metadata.inputBytes) docket.metadata.expectedBytes) ∧
      ∀ other, (∀ docket ∈ found, harness.Serves other docket) →
        ((harness.withExecutor other).run sink.logged problems).complete (state, []) bench =
          ended := by
  intro found ended delivered
  obtain ⟨after, left, complete, files⟩ :=
    complete_runFrom_dockets answers accepts problems .zero state [] bench
  have whole : ended = _ := complete
  have all : delivered = (found.flatMap (Docket.outcomes harness.settings.rules answer)).map
      (·, true) := congrArg (·.state.2) whole
  refine ⟨all, ⟨_, congrArg (·.value) whole, Nat.zero_add _, ?_⟩, ?_,
    dockets_sublist .., fun docket member => dockets_listsFiles member,
    fun docket path => Docket.outcome_judges answer docket path, fun other serves =>
      complete_runFrom_executor answers accepts other problems .zero state [] bench serves⟩
  · rw [all]
    simp only [RunStats.zero, Nat.zero_add, List.length_map]
    exact outcomes_add_skipped ..
  · rw [whole]
    exact files

end Harness

end

/-! ## A small corpus -/

/-- The problems of the sample tree. -/
def Problem.samples : List Problem :=
  ["Double", "Echo"].map (Problem.named .standard ⟨"problems"⟩)

/-- The sample tree with the cache file that was missing. -/
def FileTree.sampleFilled : FileTree :=
  FileTree.sample.put ["problems", "Echo", "problem.json"] (.file (Bytes.ofString "[\"1\",\"1\"]"))

/-- Paths in the sample tree, and where they lead. -/
def FileTree.sampleWays : List (String × Location) :=
  [("problems/Double/problem.json", ["problems", "Double", "problem.json"]),
    ("problems/Double/gs", ["problems", "Double", "gs"]),
    ("problems/Double/gs/ada.1300000000.gs", ["problems", "Double", "gs", "ada.1300000000.gs"]),
    ("problems/Echo/problem.json", ["problems", "Echo", "problem.json"]),
    ("problems/Echo/gs", ["problems", "Echo", "gs"]),
    ("problems/Echo/gs/eve.1300000000.gs", ["problems", "Echo", "gs", "eve.1300000000.gs"])]

/-- The paths of the sample tree lead to the same places with the cache file as without it. -/
theorem FileTree.sample_leads : ∀ tree ∈ [sample, sampleFilled], ∀ way ∈ sampleWays,
    tree.locate true ⟨way.1⟩ = .ok way.2 := by
  have noLinks : ∀ tree ∈ [sample, sampleFilled], ∀ entry ∈ tree.entries,
      entry.2.isLink = false := by
    decide +kernel
  have formed : ∀ tree ∈ [sample, sampleFilled], tree.WellFormed := by
    intro tree listed
    rcases List.mem_pair.mp listed with rfl | rfl
    · exact sample_wellFormed
    · exact sample_wellFormed.put (by decide) (by decide +kernel) _
  intro tree listed way among
  rw [locate_descend ((formed tree listed).noLink (noLinks tree listed))]
  revert tree way
  decide +kernel

section

attribute [local instance] Platform.small

/-- A workbench with the sample tree. -/
def Workbench.sample : Workbench := ⟨⟨.sample, 0, [], ()⟩, []⟩

/-- A harness whose solutions print their input, with a source that knows everything. -/
def Harness.sample : Harness where
  settings := .standard
  source := fun _ => .ok (Bytes.ofString "[\"1\",\"1\"]")
  executor := fun _ input machine => (.ok (.completed (some 0) input []), machine)

/-- What is known of the sample problems beforehand: the metadata of one is there, and that of the other
one is fetched. -/
def Docket.samples : List Docket :=
  [⟨.named .standard ⟨"problems"⟩ "Double", ⟨"1", "2"⟩, .sample,
      [⟨"problems/Double/gs/ada.1300000000.gs"⟩]⟩,
    ⟨.named .standard ⟨"problems"⟩ "Echo", ⟨"1", "1"⟩, .sampleFilled,
      [⟨"problems/Echo/gs/eve.1300000000.gs"⟩]⟩]

/-- What is found about the sample problems: one solution fails, and one passes. -/
def Outcome.samples : List Outcome :=
  [⟨⟨"problems/Double/gs/ada.1300000000.gs"⟩, .fail, [49], [50]⟩,
    ⟨⟨"problems/Echo/gs/eve.1300000000.gs"⟩, .pass, [49], [49]⟩]

/-- Where the files of the sample problems are, what they hold, and that the solutions among them are
eligible. -/
theorem Problem.samples_hold :
    let double := Problem.named .standard ⟨"problems"⟩ "Double"
    let echo := Problem.named .standard ⟨"problems"⟩ "Echo"
    ((double.metadataPath = ⟨"problems/Double/problem.json"⟩ ∧
        double.solutionsDir = ⟨"problems/Double/gs"⟩) ∧
      echo.metadataPath = ⟨"problems/Echo/problem.json"⟩ ∧
        echo.solutionsDir = ⟨"problems/Echo/gs"⟩) ∧
    (FileTree.sample.lookup ["problems", "Double", "problem.json"] =
        some (.file (Bytes.ofString "[\"1\",\"2\"]")) ∧
      FileTree.sample.lookup ["problems", "Echo", "problem.json"] = none) ∧
    (FileTree.sample.lookup ["problems", "Double", "gs"] = some .folder ∧
      FileTree.sampleFilled.lookup ["problems", "Echo", "gs"] = some .folder) ∧
    (((FileTree.sample.children ["problems", "Double", "gs"]).filter
        fun (_, entry) => entry.isFile).map Prod.fst = ["ada.1300000000.gs"] ∧
      ((FileTree.sampleFilled.children ["problems", "Echo", "gs"]).filter
        fun (_, entry) => entry.isFile).map Prod.fst = ["eve.1300000000.gs"]) ∧
    (FileTree.sample.lookup ["problems", "Double", "gs", "ada.1300000000.gs"] =
        some (.file (Bytes.ofString "2*")) ∧
      FileTree.sampleFilled.lookup ["problems", "Echo", "gs", "eve.1300000000.gs"] =
        some (.file (Bytes.ofString "~"))) ∧
    (Metadata.ofDocument? (Bytes.ofString "[\"1\",\"2\"]") = some ⟨"1", "2"⟩ ∧
      Metadata.ofDocument? (Bytes.ofString "[\"1\",\"1\"]") = some ⟨"1", "1"⟩) ∧
    Rules.standard.admits ⟨"1", "2"⟩
        (.ofFile ⟨"problems/Double/gs/ada.1300000000.gs"⟩ (Bytes.ofString "2*")) = true ∧
      Rules.standard.admits ⟨"1", "1"⟩
        (.ofFile ⟨"problems/Echo/gs/eve.1300000000.gs"⟩ (Bytes.ofString "~")) = true := by
  decide +kernel

theorem Problem.samples_documented :
    (Problem.named .standard ⟨"problems"⟩ "Double").documented Harness.sample.source .sample =
        (some (Bytes.ofString "[\"1\",\"2\"]"), .sample) ∧
      (Problem.named .standard ⟨"problems"⟩ "Echo").documented Harness.sample.source .sample =
        (some (Bytes.ofString "[\"1\",\"1\"]"), .sampleFilled) := by
  obtain ⟨⟨⟨doublePath, -⟩, echoPath, -⟩, ⟨there, absent⟩, -⟩ := samples_hold
  have double := FileTree.sample_leads .sample (by simp)
    ("problems/Double/problem.json", ["problems", "Double", "problem.json"]) (by decide)
  have echo := FileTree.sample_leads .sample (by simp)
    ("problems/Echo/problem.json", ["problems", "Echo", "problem.json"]) (by decide)
  have wrote := FileTree.write_empty .sample _ (Bytes.ofString "[\"1\",\"1\"]") rfl echo absent
  constructor
  · rw [documented, doublePath, loadCached_eq double, there]
  · rw [documented, echoPath, loadCached_eq echo, absent]
    simp only [Harness.sample, wrote, FileTree.sampleFilled]

theorem Problem.samples_listed :
    (Problem.named .standard ⟨"problems"⟩ "Double").listSolutions .sample =
        .ok [⟨"problems/Double/gs/ada.1300000000.gs"⟩] ∧
      (Problem.named .standard ⟨"problems"⟩ "Echo").listSolutions .sampleFilled =
        .ok [⟨"problems/Echo/gs/eve.1300000000.gs"⟩] := by
  obtain ⟨⟨⟨-, doublePath⟩, -, echoPath⟩, -, ⟨folder, otherFolder⟩, ⟨files, otherFiles⟩, -⟩ :=
    samples_hold
  have double := FileTree.sample_leads .sample (by simp)
    ("problems/Double/gs", ["problems", "Double", "gs"]) (by decide)
  have echo := FileTree.sample_leads .sampleFilled (by simp)
    ("problems/Echo/gs", ["problems", "Echo", "gs"]) (by decide)
  constructor
  · rw [listSolutions_eq, doublePath, double]
    simp only [folder, files, List.mergeSort_singleton]
    rfl
  · rw [listSolutions_eq, echoPath, echo]
    simp only [otherFolder, otherFiles, List.mergeSort_singleton]
    rfl

theorem Problem.samples_dockets :
    dockets Harness.sample.source .sample Problem.samples = (Docket.samples, .sampleFilled) := by
  obtain ⟨double, echo⟩ := samples_documented
  obtain ⟨listed, listedToo⟩ := samples_listed
  obtain ⟨-, -, -, -, -, meant, -⟩ := samples_hold
  simp only [samples, List.map_cons, List.map_nil, dockets, docket?, double, echo, listed, listedToo,
    Option.bind_some, meant]
  rfl

/-- The solutions of the sample problems are eligible, and print their input. -/
theorem Docket.samples_outcomes :
    Docket.samples.flatMap (Docket.outcomes Harness.sample.settings.rules
      fun _ input => .completed (some 0) input []) = Outcome.samples := by
  have double := FileTree.sample_leads .sample (by simp) ("problems/Double/gs/ada.1300000000.gs",
    ["problems", "Double", "gs", "ada.1300000000.gs"]) (by decide)
  have echo := FileTree.sample_leads .sampleFilled (by simp) ("problems/Echo/gs/eve.1300000000.gs",
    ["problems", "Echo", "gs", "eve.1300000000.gs"]) (by decide)
  obtain ⟨-, -, -, -, files, -, kept⟩ := Problem.samples_hold
  have rules : Harness.sample.settings.rules = .standard := rfl
  simp only [samples, rules, List.flatMap_cons, List.flatMap_nil, outcomes, eligible,
    List.filter_cons, List.filter_nil, admits, FileTree.read_eq, double, echo, files, kept, if_true]
  rfl

theorem Harness.sample_answers :
    Harness.sample.Answers fun _ input => .completed (some 0) input [] :=
  fun _ _ machine => ⟨machine, rfl, rfl⟩

theorem Sink.keeping_accepts : Sink.keeping.Accepts :=
  fun outcome kept bench => ⟨kept ++ [outcome], bench, rfl, rfl⟩

/-- One solution of the sample corpus fails and the other one passes, and the cache file that was
missing is there. -/
theorem Harness.run_dockets_sample :
    let ended := (Harness.sample.run Sink.keeping.logged Problem.samples).complete ([], []) .sample
    ended.state.2 = Outcome.samples.map (·, true) ∧ ended.value = .ok ⟨2, 0⟩ ∧
      ended.bench.machine.files = .sampleFilled := by
  intro ended
  have found : dockets Harness.sample.source Workbench.sample.machine.files Problem.samples =
      (Docket.samples, .sampleFilled) := Problem.samples_dockets
  obtain ⟨delivered, ⟨stats, value, problems, skipped⟩, files, -⟩ :=
    run_dockets sample_answers Sink.keeping_accepts Problem.samples [] .sample
  simp only [found, Docket.samples_outcomes] at delivered problems skipped files
  rw [delivered] at skipped
  have none : stats.skipped = 0 := by simpa [Outcome.samples, Docket.samples] using skipped
  refine ⟨delivered, value.trans ?_, files⟩
  rw [← none]
  exact congrArg _ (congrArg (RunStats.mk · stats.skipped) problems)

/-- What a run of the sample problems comes to. -/
theorem Harness.sample_run :
    ∃ kept left, (Harness.sample.run Sink.keeping.logged Problem.samples).complete ([], [])
        .sample = ⟨.ok ⟨2, 0⟩, (kept, Outcome.samples.map (·, true)), left⟩ ∧
      left.machine.files = .sampleFilled := by
  obtain ⟨kept, left, ended, files⟩ := complete_runFrom_dockets sample_answers Sink.keeping_accepts
    Problem.samples .zero [] [] .sample
  have found : dockets Harness.sample.source Workbench.sample.machine.files Problem.samples =
      (Docket.samples, .sampleFilled) := Problem.samples_dockets
  simp only [found, Docket.samples_outcomes] at ended files
  have none : (Docket.samples.map (Docket.skipped Harness.sample.settings.rules)).sum = 0 := by
    have whole := outcomes_add_skipped Harness.sample.settings.rules
      (fun _ input => .completed (some 0) input []) Docket.samples
    rw [Docket.samples_outcomes] at whole
    simpa [Outcome.samples, Docket.samples] using whole
  rw [none] at ended
  exact ⟨kept, left, ended, files⟩

end

end CorpusJudge
