import CorpusJudge.Proofs.Application.Conclusions
import CorpusJudge.Proofs.Execution
import CorpusJudge.Proofs.Files.Replacing

/-!
# What a run tells

A run that leaves a summary tells the same in two ways: by what it writes to standard output, and by
the document.  Both follow from the outcomes that were delivered.
-/

namespace CorpusJudge

namespace Application

/-! ## A small run -/

/-- A corpus of one problem with one solution. -/
def sampleFiles : FileTree where
  entries := [(["problems"], .folder), (["problems", "Echo"], .folder),
    (["problems", "Echo", "gs"], .folder),
    (["problems", "Echo", "gs", "eve.1300000000.gs"], .file (Bytes.ofString "~")),
    (["problems", "Echo", "problem.json"], .file (Bytes.ofString "[\"1\",\"2\"]"))]
  base := []

section

attribute [local instance] Platform.small

def sampleBench : Workbench := ⟨⟨sampleFiles, 0, [], ()⟩, []⟩

def sampleSurroundings : Surroundings := ⟨false, ⟨1700000000, 0⟩, Source.unreachable⟩

def sampleInvocation : Invocation :=
  ⟨none, none, none, none, false, 1, false, some ⟨"summary.json"⟩⟩

def sampleHarness : Harness := harnessOf sampleSurroundings .standard

def sampleProblem : Problem := .named .standard ⟨"problems"⟩ "Echo"

def sampleSolution : Path := ⟨"problems/Echo/gs/eve.1300000000.gs"⟩

def sampleOutcome : Outcome := ⟨sampleSolution, .fail, [], [50]⟩

/-- Paths of the sample tree, and where they lead. -/
def sampleWays : List (String × Location) :=
  [("problems", ["problems"]), ("problems/Echo", ["problems", "Echo"]),
    ("problems/Echo/gs", ["problems", "Echo", "gs"]),
    ("problems/Echo/gs/eve.1300000000.gs", ["problems", "Echo", "gs", "eve.1300000000.gs"]),
    ("problems/Echo/problem.json", ["problems", "Echo", "problem.json"])]

/-- The command line of the sample run. -/
def sampleWords : List String := ["--summary-json", "summary.json"]

/-- The text of the sample run. -/
def sampleOutput : String :=
  "FAIL problems/Echo/gs/eve.1300000000.gs\n  actual=\"\" expected=\"2\"\n" ++ "0 passes, 1 fails\n"

/-- What the command line asks for, what its report will be, and when the run takes place. -/
theorem sample_words :
    CommandLine.read sampleWords = .ok (.run sampleInvocation) ∧
      settingsFor sampleInvocation sampleFiles = .ok .standard ∧
      isColored sampleSurroundings sampleBench = false ∧
      Reporter.report false false [sampleOutcome] = sampleOutput ∧
      (momentAfter sampleSurroundings.epoch 0).IsCivil := by
  decide +kernel

/-- What the names that the run works with and the document of its problem are read as, and what
becomes of its solution. -/
theorem sample_reads :
    (((Harness.interpreterOf .standard).program :: ((Harness.interpreterOf .standard).arguments ++
        [sampleSolution.text])).any (fun text => text.toList.contains '\x00') = false ∧
      Corpus.selects .standard none "Echo" = true) ∧
    Metadata.ofDocument? (Bytes.ofString "[\"1\",\"2\"]") = some ⟨"1", "2"⟩ ∧
      (Metadata.mk "1" "2").inputBytes = [49] ∧ (Metadata.mk "1" "2").expectedBytes = [50] ∧
      Rules.standard.check ⟨"1", "2"⟩ (.ofFile sampleSolution (Bytes.ofString "~")) = .ok () ∧
      Answer.agrees [] [50] = false := by
  decide +kernel

theorem sample_noLink (place : Location) (target : String) :
    sampleFiles.lookup place ≠ some (.link target) :=
  FileTree.WellFormed.noLink ⟨by decide, by decide, by decide +kernel, by decide⟩ (by decide) place
    target

section

variable {files : FileTree} (entries : files.entries = sampleFiles.entries) (base : files.base = [])

include entries

theorem sample_lookup (place : Location) : files.lookup place = sampleFiles.lookup place := by
  rw [FileTree.lookup, entries]
  rfl

include base

theorem sample_leads : ∀ way ∈ sampleWays, ∀ follow, files.locate follow ⟨way.1⟩ = .ok way.2 := by
  have leads : ∀ way ∈ sampleWays, ∀ follow,
      sampleFiles.locate follow ⟨way.1⟩ = .ok way.2 := by
    simp only [FileTree.locate_descend sample_noLink]
    decide +kernel
  intro way listed follow
  exact (FileTree.locate_congr base fun place _ => sample_lookup entries place).trans
    (leads way listed follow)

/-- A summary can be left in the sample tree. -/
theorem sample_replaces (content : Bytes) :
    (files.replace ⟨"summary.json"⟩ content).1 = .ok () := by
  refine FileTree.summary_replaced base (fun name listed => ?_) content
  rw [sample_lookup entries]
  revert name
  decide

end

/-- The solution ends at once, and has only complained. -/
theorem sample_executes :
    sampleHarness.executor sampleSolution [49] sampleBench.machine =
      (.ok (.completed (some 1) [] (Bytes.ofString "ruby: No such file or directory\n")),
        sampleBench.machine) := by
  obtain ⟨⟨sound, -⟩, -⟩ := sample_reads
  have started : (Harness.interpreterOf .standard).start sampleSolution [49] sampleBench.machine =
      .ok ((), sampleBench.machine) := by
    simp only [Interpreter.start, Interpreter.command, sound]
    rfl
  exact Interpreter.perform_started started

theorem sample_scanned : sampleHarness.problems none sampleFiles = .ok [sampleProblem] := by
  have leads := @sample_leads sampleFiles rfl rfl
  have children : (sampleFiles.children ["problems"]).map Prod.fst = ["Echo"] := by decide
  obtain ⟨⟨-, selected⟩, -⟩ := sample_reads
  have dir : sampleFiles.locate true sampleProblem.dir = .ok ["problems", "Echo"] :=
    leads ("problems/Echo", _) (by simp [sampleWays]) true
  have solutions : sampleFiles.locate true sampleProblem.solutionsDir =
      .ok ["problems", "Echo", "gs"] := leads ("problems/Echo/gs", _) (by simp [sampleWays]) true
  have there : Corpus.isThere sampleFiles sampleProblem = true := by
    simp only [Corpus.isThere, FileTree.isFolder_eq, dir, solutions]
    rfl
  have found : (["Echo"].filter fun name => Corpus.selects .standard none name &&
      Corpus.isThere sampleFiles (.named .standard ⟨"problems"⟩ name)) = ["Echo"] :=
    List.filter_eq_self.mpr fun name member => by
      rw [List.mem_singleton.mp member]
      exact Bool.and_eq_true_iff.mpr ⟨selected, there⟩
  refine (Corpus.scan_folder
    (leads ("problems", ["problems"]) (by simp [sampleWays]) true) rfl rfl).trans ?_
  rw [children, Corpus.namesAmong, List.mergeSort_singleton]
  exact congrArg (fun names => Except.ok (names.map (Problem.named .standard ⟨"problems"⟩))) found

theorem sample_resolves (source : Source) {bench : Workbench}
    (files : bench.machine.files = sampleFiles) :
    (sampleProblem.resolve source).run bench = (some ⟨"1", "2"⟩, bench) := by
  have metadata : sampleFiles.locate true sampleProblem.metadataPath =
      .ok ["problems", "Echo", "problem.json"] :=
    sample_leads rfl rfl ("problems/Echo/problem.json", _) (by simp [sampleWays]) true
  obtain ⟨-, document, -⟩ := sample_reads
  have there : sampleFiles.lookup ["problems", "Echo", "problem.json"] =
      some (.file (Bytes.ofString "[\"1\",\"2\"]")) := rfl
  have cached := loadCached_eq metadata
  rw [there] at cached
  rw [Problem.resolve_run, Problem.document?_run]
  simp only [files, cached, document]

private theorem sample_solutions :
    ((sampleFiles.children ["problems", "Echo", "gs"]).filter
      fun (_, entry) => entry.isFile).map Prod.fst = ["eve.1300000000.gs"] := by
  decide

theorem sample_listed : sampleProblem.listSolutions sampleFiles = .ok [sampleSolution] := by
  have solutions : sampleFiles.locate true sampleProblem.solutionsDir =
      .ok ["problems", "Echo", "gs"] :=
    sample_leads rfl rfl ("problems/Echo/gs", _) (by simp [sampleWays]) true
  have there : sampleFiles.lookup ["problems", "Echo", "gs"] = some .folder := rfl
  rw [Problem.listSolutions_eq, solutions]
  simp only [there, sample_solutions, List.mergeSort_singleton]
  rfl

theorem sample_eligible {bench : Workbench} (files : bench.machine.files = sampleFiles) :
    (sampleHarness.eligible? ⟨"1", "2"⟩ sampleSolution).run bench = (true, bench) := by
  have located : sampleFiles.locate true sampleSolution =
      .ok ["problems", "Echo", "gs", "eve.1300000000.gs"] :=
    sample_leads rfl rfl (sampleSolution.text, _) (by simp [sampleWays, sampleSolution]) true
  have read : bench.machine.files.read sampleSolution = .ok (Bytes.ofString "~") := by
    rw [files, FileTree.read_eq]
    simp only [located]
    rfl
  obtain ⟨-, -, -, -, accepted, -⟩ := sample_reads
  have rules : sampleHarness.settings.rules = .standard := rfl
  rw [Harness.eligible?_run, read]
  simp only [rules, accepted]

/-- What the sample run delivers. -/
def sampleDeliveries : List Delivery := [⟨sampleOutcome, sampleFiles⟩]

/-- The workbench once the solution has been judged. -/
def sampleJudged : Workbench :=
  sampleBench.noting (.mismatch sampleSolution (some 1)
    (Bytes.ofString "ruby: No such file or directory\n"))

/-- The solution fails, and a sink is told of that. -/
theorem sample_run {σ : Type} {sink : Sink σ} {state after : σ} {left : Workbench}
    (takes : ((sink sampleOutcome).run state).run sampleJudged = ((.ok (), after), left)) :
    (sampleHarness.run sink [sampleProblem]).complete state sampleBench =
      ⟨.ok ⟨1, 0⟩, after, left⟩ := by
  obtain ⟨-, -, input, expected, -, disagrees⟩ := sample_reads
  have judges : (sampleHarness.judge sampleSolution [49] [50]).run sampleBench =
      (.ok sampleOutcome, sampleJudged) := by
    simp only [Harness.judge_run, sample_executes, Harness.verdictOn, Harness.eventOf?, disagrees]
    rfl
  have files : sampleBench.machine.files = sampleFiles := rfl
  have listed : sampleProblem.listSolutions sampleBench.machine.files = _ := sample_listed
  simp only [Harness.run_eq_runFrom, Harness.complete_runFrom_cons,
    Harness.complete_verifyProblem, sample_resolves _ files, listed,
    Harness.complete_verifySolutions_cons, sample_eligible files, input, expected, judges, takes,
    Harness.complete_verifySolutions_nil]
  rfl

/-- That the solution fails is kept, and nothing else happens. -/
theorem sample_verified : ∃ left : Workbench, left.machine = sampleBench.machine ∧
    (sampleHarness.run keep [sampleProblem]).complete (.new false false) sampleBench =
      ⟨.ok ⟨1, 0⟩, .of false false sampleDeliveries, left⟩ ∧
    (sampleHarness.run keep.watched [sampleProblem]).complete (.new false false, []) sampleBench =
      ⟨.ok ⟨1, 0⟩, (.of false false sampleDeliveries, sampleDeliveries), left⟩ := by
  obtain ⟨left, same, -, kept⟩ := keep_run (.new false false) sampleOutcome sampleJudged
  have watched := keep.watched_run sampleOutcome (.new false false) [] sampleJudged
  rw [kept] at watched
  exact ⟨left, same, sample_run kept, sample_run watched⟩

theorem sample_concludes : ∃ left : Workbench, left.machine.clock = 0 ∧
    (run sampleSurroundings sampleInvocation).run sampleBench = (.done sampleOutput, left) := by
  obtain ⟨left, same, verified, -⟩ := sample_verified
  obtain ⟨-, loaded, plain, reported, -⟩ := sample_words
  have ends : (run sampleSurroundings sampleInvocation).run sampleBench =
      conclude sampleSurroundings sampleInvocation .standard 0
        ((sampleHarness.run keep [sampleProblem]).complete (.new false false) sampleBench) :=
    plain ▸ @run_judged _ sampleSurroundings sampleInvocation sampleBench .standard [sampleProblem]
      (by decide) loaded sample_scanned rfl
  have files : left.machine.files = sampleFiles := congrArg Machine.files same
  obtain ⟨files, done⟩ := @conclude_done _ sampleSurroundings sampleInvocation .standard 0
    ⟨.ok ⟨1, 0⟩, .of false false sampleDeliveries, left⟩ _ _ rfl rfl
    fun content => sample_replaces (congrArg FileTree.entries files) (congrArg FileTree.base files)
      content
  have output : (Record.of false false sampleDeliveries).text ++
      (Record.of false false sampleDeliveries).reporter.finish = sampleOutput := reported
  rw [ends, verified, done, output]
  exact ⟨{ left with machine := left.machine.withFiles files }, congrArg Machine.clock same, rfl⟩

end

/-! ## Agreement -/

section

variable [Platform]

/-- A document has been left at a path.  Unless its content was written aside by way of something else
that stood there, or the path leads through its own end, it is what is read at the path. -/
structure Leaves (before : Workbench) (path : Path) (document : Bytes) (left : Workbench) : Prop where
  replaced : (Work.replace path document).run before = (.ok (), left)
  holds : before.machine.files.Rooted → ∀ scratch, before.machine.files.WritesAside path scratch →
    before.machine.files.EndsOnce path → left.machine.files.read path = .ok document

theorem leaves_of_replace {before left : Workbench} {path : Path} {document : Bytes}
    (replaced : (Work.replace path document).run before = (.ok (), left)) :
    Leaves before path document left := by
  refine ⟨replaced, fun rooted scratch aside once => ?_⟩
  obtain ⟨done, rfl⟩ := Prod.mk.inj ((Work.run_replace ..).symm.trans replaced)
  obtain ⟨there, replacement⟩ := aside.replaced rooted (Prod.ext done rfl)
  have same : (before.machine.withFiles (before.machine.files.replace path document).2).files.read path =
      (before.machine.files.replace path document).2.read path :=
    FileTree.read_congr replacement.base.symm fun _ _ => rfl
  rw [same, FileTree.read, replacement.found once]
  rfl

/-- Whatever way its workers move, a run that leaves a summary and ends well has delivered outcomes that
its report shows, and of which its summary says what is to be said.  The summary can be read at its
path, and satisfies its schema.  Solutions that execution leaves alone have been read as they were at
the start. -/
theorem summary_agrees {surroundings : Surroundings} {words : List String}
    {invocation : Invocation} {path : Path} {bench left : Workbench} {conclusion : Conclusion}
    (asked : CommandLine.read words = .ok (.run invocation))
    (verifies : invocation.listOnly = false) (leaves : invocation.summary = some path)
    (concludes : Concludes surroundings words bench (conclusion, left))
    (well : conclusion.exitCode = 0)
    (started : (momentAfter surroundings.epoch bench.machine.clock).IsCivil)
    (finished : (momentAfter surroundings.epoch left.machine.clock).IsCivil) :
    let colored := isColored surroundings bench
    ∃ settings problems stats deliveries verified document value,
      let harness := harnessOf surroundings settings
      settingsFor invocation bench.machine.files = .ok settings ∧
      harness.problems (invocation.resumeFrom.map Resume.mk) bench.machine.files = .ok problems ∧
      harness.Ends keep.watched invocation.jobs problems (.new invocation.compact colored, []) bench
        ⟨.ok stats, (.of invocation.compact colored deliveries, deliveries), verified⟩ ∧
      Reporter.Shows invocation.compact colored deliveries conclusion.output ∧
      Leaves verified path document left ∧ Json.read? document = some value ∧
      Summary.told invocation settings stats deliveries value ∧ Summary.schema value ∧
      (bench.machine.files.WellFormed → Apart bench.machine.files problems →
        harness.Spares (Concerns bench.machine.files problems) →
        ∀ delivery ∈ deliveries, ∃ content,
          bench.machine.files.read delivery.outcome.solution = .ok content ∧
          delivery.files.read delivery.outcome.solution = .ok content ∧
          verified.machine.files.read delivery.outcome.solution = .ok content) := by
  intro colored
  obtain ⟨someone, settings, problems, ended, loaded, scanned, ends, concluded⟩ :=
    concludes.judged_of_well asked verifies well
  obtain rfl : conclusion = _ := congrArg Prod.fst concluded
  obtain rfl : left = _ := congrArg Prod.snd concluded
  obtain ⟨stats, value, output, replaced⟩ := conclude_well leaves well
  obtain ⟨⟨kept, deliveries⟩, ⟨same, follows⟩, watched⟩ := ends.inStep
    (keep_inStep invocation.compact colored) (.new invocation.compact colored, []) ⟨rfl, rfl⟩
  obtain ⟨_, record, verified⟩ := ended
  obtain rfl : kept = record := same
  obtain rfl : kept = .of invocation.compact colored deliveries := follows
  obtain rfl : _ = Except.ok stats := value
  have clock : (conclude surroundings invocation settings bench.machine.clock
      ⟨.ok stats, .of invocation.compact colored deliveries, verified⟩).2.machine.clock =
        verified.machine.clock := by
    rw [← congrArg Prod.snd replaced]
    rfl
  rw [clock] at finished
  have acceptable := Record.acceptable invocation.compact colored deliveries
  refine ⟨settings, problems, stats, deliveries, verified, _, _, loaded, scanned, watched, ?_,
    leaves_of_replace replaced, Summary.read?_document _, Record.told rfl rfl rfl, ?_, ?_⟩
  · rw [output]
    exact Record.shows invocation.compact colored deliveries
  · exact Summary.schema_toJson (settingsFor_timed loaded) someone started finished
      (fun failure member => (acceptable failure member).1)
      (fun failure member => (acceptable failure member).2)
  · intro formed apart spares
    exact watched.keepsSolutions formed apart spares (keep_spares _)

end

attribute [local instance] Platform.small in
/-- The sample run says of its only solution that it failed, on its output and in the file that it
leaves. -/
theorem summary_agrees_sample :
    ∃ left, (answer sampleSurroundings sampleWords).run sampleBench = (.done sampleOutput, left) ∧
      Reporter.Shows false false sampleDeliveries sampleOutput ∧
      ∃ document value, left.machine.files.read ⟨"summary.json"⟩ = .ok document ∧
        Json.read? document = some value ∧ Summary.schema value ∧
        Summary.told sampleInvocation .standard ⟨1, 0⟩ sampleDeliveries value := by
  obtain ⟨left, clock, concluded⟩ := sample_concludes
  obtain ⟨asked, loaded, plain, -, civil⟩ := sample_words
  have answered : (answer sampleSurroundings sampleWords).run sampleBench =
      (.done sampleOutput, left) := by
    rw [answer, asked]
    exact concluded
  have concludes : Concludes sampleSurroundings sampleWords sampleBench
      (.done sampleOutput, left) := answered ▸ .answered
  obtain ⟨settings, problems, stats, deliveries, verified, document, value, sameSettings,
    sameProblems, ends, shows, leaves, read, told, valid, -⟩ :=
      summary_agrees asked rfl rfl concludes rfl civil (clock ▸ civil)
  rw [plain] at ends shows
  obtain rfl := Except.ok.inj (sameSettings.symm.trans loaded)
  obtain rfl := Except.ok.inj (sameProblems.symm.trans sample_scanned)
  obtain ⟨after, same, -, watched⟩ := sample_verified
  have ended := ends.alone_eq.trans watched
  simp only [Completed.mk.injEq, Except.ok.injEq, Prod.mk.injEq] at ended
  obtain ⟨rfl, ⟨-, rfl⟩, rfl⟩ := ended
  have files : verified.machine.files = sampleFiles := congrArg Machine.files same
  have free : ∀ name ∈ ["summary.json", "summary.tmp"], sampleFiles.lookup [name] = none := by decide
  obtain ⟨aside, -, once, -⟩ := FileTree.summary_writesAside rfl free
  have rooted : sampleFiles.Rooted := .of_entries rfl (by decide)
  have held := leaves.holds (files ▸ rooted) _ (files ▸ aside) (files ▸ once)
  exact ⟨left, answered, shows, document, value, held, read, valid, told⟩

end Application

end CorpusJudge
