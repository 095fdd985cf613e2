import CorpusJudge.Proofs.Application.Agreement
import CorpusJudge.Proofs.CommandLine
import CorpusJudge.Proofs.Harness.Interruptions

/-!
# Exit codes

The exit code tells which of several things failed first: the number of jobs and the settings come
before the corpus, and the corpus comes before everything that is done with it.  What a run leaves
behind depends on how far it came.
-/

namespace CorpusJudge.Application

section

variable [Platform]
variable {surroundings : Surroundings} {words : List String} {invocation : Invocation}
variable {settings : Settings} {problems : List Problem} {bench left : Workbench}
variable {conclusion : Conclusion} {start : Nat}

/-! ## What a run leaves behind -/

/-- A run has verified everything, and its summary can be left if one is asked for. -/
def Succeeds (surroundings : Surroundings) (invocation : Invocation) (settings : Settings)
    (start : Nat) (ended : Completed Record RunStats) : Prop :=
  ∃ stats, ended.value = .ok stats ∧ ∀ path, invocation.summary = some path →
    (ended.bench.machine.files.replace path (summaryOf surroundings invocation settings start
      ended.bench.machine.clock stats ended.state).document).1 = .ok ()

/-- The exit code of a run that verifies problems tells whether it succeeds. -/
theorem conclude_exitCode (surroundings : Surroundings) (invocation : Invocation)
    (settings : Settings) (start : Nat) (ended : Completed Record RunStats) :
    let conclusion := (conclude surroundings invocation settings start ended).1
    (conclusion.exitCode = 0 ↔ Succeeds surroundings invocation settings start ended) ∧
      (conclusion.exitCode = 0 ∨ conclusion.exitCode = 2) := by
  have closes := conclude_closes surroundings invocation settings start ended
  generalize conclude surroundings invocation settings start ended = concluded at closes ⊢
  cases closes with
  | stopped value =>
      refine ⟨⟨nofun, ?_⟩, .inr rfl⟩
      rintro ⟨stats, fine, -⟩
      cases value.symm.trans fine
  | told value silent =>
      refine ⟨⟨fun _ => ⟨_, value, fun path asked => ?_⟩, fun _ => rfl⟩, .inl rfl⟩
      cases silent.symm.trans asked
  | summarised value asked replaced =>
      refine ⟨⟨fun _ => ⟨_, value, fun path alike => ?_⟩, fun _ => rfl⟩, .inl rfl⟩
      obtain rfl := Option.some.inj (asked.symm.trans alike)
      rw [Work.run_replace] at replaced
      exact (Prod.mk.inj replaced).1
  | unsummarised value asked replaced =>
      refine ⟨⟨nofun, ?_⟩, .inr rfl⟩
      rintro ⟨stats, fine, leaves⟩
      obtain rfl := Except.ok.inj (value.symm.trans fine)
      rw [Work.run_replace] at replaced
      cases (Prod.mk.inj replaced).1.symm.trans (leaves _ asked)

/-- A run stops where verifying stops; its report ends with the last outcome. -/
theorem conclude_stopped {ended : Completed Record RunStats} {error : HarnessError}
    (stopped : (conclude surroundings invocation settings start ended).1.trouble =
      some (.tool (.verify error))) :
    ended.value = .error error ∧ conclude surroundings invocation settings start ended =
      (.failed ended.state.text (.verify error), ended.bench) := by
  have closes := conclude_closes surroundings invocation settings start ended
  generalize conclude surroundings invocation settings start ended = concluded at closes stopped ⊢
  cases closes with
  | stopped value =>
      cases stopped
      exact ⟨value, rfl⟩
  | told => cases stopped
  | summarised => cases stopped
  | unsummarised => cases stopped

theorem keep_isQuiet : keep.IsQuiet := by
  intro outcome record bench
  obtain ⟨left, same, -, kept⟩ := keep_run record outcome bench
  rw [kept]
  exact same

/-- What a run without the word for a list does with the problems that a list names: nothing happens
where they are listed, and they are verified where they are not. -/
structure Lists (surroundings : Surroundings) (words : List String) (invocation : Invocation)
    (settings : Settings) (problems : List Problem) (bench : Workbench) (conclusion : Conclusion)
    (left : Workbench) : Prop where
  conclusion : conclusion = .done (String.join (problems.map fun problem => problem.name ++ "\n"))
  untouched : left = bench
  unlisted : CommandLine.read (words.erase "--list") =
    .ok (.run { invocation with listOnly := false })
  handed : Staffs invocation.jobs bench → ∀ result,
    Concludes surroundings (words.erase "--list") bench result → ∃ ended,
      Verifies surroundings invocation settings problems bench ended ∧
        result = conclude surroundings invocation settings bench.machine.clock ended

/-- What a run comes to that stops where a solution cannot be executed.  The report consists of what is
written about the outcomes in front, and nothing else is written behind; a file reads as it did at the
start, if executions leave it alone and no cache file gets in its way. -/
structure Breaks (harness : Harness) (problems : List Problem) (reporter : Reporter)
    (bench : Workbench) (error : ExecutionError) (moments : List Workbench) (outcomes : List Outcome)
    (conclusion : Conclusion) (left : Workbench) : Prop where
  course : harness.Course problems bench moments left
  interrupted : harness.Interrupted (· ∈ moments) error problems outcomes
  exitCode : conclusion.exitCode = 2
  output : conclusion.output = (reporter.recordAll outcomes).1
  spared : ∀ path,
    (∀ before ∈ moments, ∀ solution input,
      Standing (· ∈ bench.machine.files.placesOf true path) before.machine.files
        (harness.executor solution input before.machine).2.files) →
    (∀ before ∈ moments, ∀ problem ∈ problems, ∀ place,
      before.machine.files.locate true problem.metadataPath = .ok place →
        place ∉ bench.machine.files.placesOf true path) →
    left.machine.files.read path = bench.machine.files.read path

theorem Verifies.breaks {ended : Completed Record RunStats} {error : ExecutionError}
    (verifies : Verifies surroundings invocation settings problems bench ended)
    (stopped : (conclude surroundings invocation settings start ended).1.trouble =
      some (.tool (.verify (.execution error)))) :
    ∃ moments outcomes, Breaks (harnessOf surroundings settings) problems
      (.new invocation.compact (isColored surroundings bench)) bench error moments outcomes
      (conclude surroundings invocation settings start ended).1
      (conclude surroundings invocation settings start ended).2 := by
  obtain ⟨value, concluded⟩ := conclude_stopped stopped
  obtain ⟨⟨kept, deliveries⟩, ⟨same, follows⟩, watched⟩ := Harness.Ends.inStep
    (keep_inStep invocation.compact (isColored surroundings bench)) verifies
    (.new invocation.compact (isColored surroundings bench), []) ⟨rfl, rfl⟩
  obtain ⟨moments, course, interrupted⟩ := watched.interrupted keep_isQuiet value
  rw [concluded]
  refine ⟨moments, _, course, interrupted, rfl, ?_, fun path spared uncached => ?_⟩
  · rw [follows]
    rfl
  · have standing := course.standing spared uncached
    exact FileTree.read_congr standing.base standing.lookup

theorem lists_of_listed (asked : CommandLine.read words = .ok (.run invocation))
    (someone : 1 ≤ invocation.jobs)
    (configures : Configures invocation bench.machine.files settings)
    (scans : Scans surroundings invocation settings bench.machine.files problems)
    (lists : invocation.listOnly = true) :
    Lists surroundings words invocation settings problems bench (.done (listing problems)) bench where
  conclusion := rfl
  untouched := rfl
  unlisted := CommandLine.read_erase asked lists
  handed := by
    intro staffed result concludes
    have reaches := concludes.reaches (CommandLine.read_erase asked lists)
    -- the problems are found again, and now nothing but verifying them is left
    cases reaches.allowed someone configures with
    | missing noFolder => cases noFolder.symm.trans scans.isFolder
    | hidden hides => cases hides.2.symm.trans scans
    | listed _ listed => cases listed
    | unstaffed _ _ unstaffed => exact absurd staffed unstaffed
    | @judged others ended found _ _ verifies =>
        obtain rfl : problems = others := Except.ok.inj (scans.symm.trans found)
        exact ⟨ended, verifies, rfl⟩

end

/-! ## A run without an interpreter -/

section

attribute [local instance] Platform.small

/-- The small run where a search path leads elsewhere. -/
def sampleBare : Workbench :=
  ⟨{ sampleBench.machine with environment := [("PATH", ['/', 'x'])] }, []⟩

def sampleError : ExecutionError := .spawn ⟨"ruby", .file .notFound⟩

/-- The interpreter cannot be started. -/
theorem sample_unstarted :
    sampleHarness.executor sampleSolution [49] sampleBare.machine =
      (.error sampleError, sampleBare.machine) := by
  obtain ⟨⟨sound, -⟩, -⟩ := sample_reads
  have started : (Harness.interpreterOf .standard).start sampleSolution [49] sampleBare.machine =
      .error ⟨"ruby", .file .notFound⟩ := by
    simp only [Interpreter.start, Interpreter.command, sound]
    rfl
  exact Interpreter.perform_unstarted started

theorem sample_stops : (run sampleSurroundings sampleInvocation).run sampleBare =
    (.failed "" (.verify (.execution sampleError)), sampleBare) := by
  obtain ⟨-, loaded, -⟩ := sample_words
  obtain ⟨-, -, input, -⟩ := sample_reads
  have files : sampleBare.machine.files = sampleFiles := rfl
  have listed : sampleProblem.listSolutions sampleBare.machine.files = _ := sample_listed
  have judges : (sampleHarness.judge sampleSolution [49] (Metadata.mk "1" "2").expectedBytes).run
      sampleBare = (.error (.execution sampleError), sampleBare) := by
    simp only [Harness.judge_run, sample_unstarted]
  have verified (record : Record) :
      (sampleHarness.run keep [sampleProblem]).complete record sampleBare =
        ⟨.error (.execution sampleError), record, sampleBare⟩ := by
    simp only [Harness.run_eq_runFrom, Harness.complete_runFrom_cons,
      Harness.complete_verifyProblem, sample_resolves _ files, listed,
      Harness.complete_verifySolutions_cons, sample_eligible files, input, judges]
    rfl
  rw [@run_judged _ sampleSurroundings sampleInvocation sampleBare .standard [sampleProblem]
    (by decide) loaded sample_scanned rfl]
  exact congrArg (conclude sampleSurroundings sampleInvocation .standard 0) (verified _)

end

/-! ## Exit codes -/

section

variable [Platform]
variable {surroundings : Surroundings} {words : List String} {invocation : Invocation}
variable {bench left : Workbench} {conclusion : Conclusion}

/-- Whatever way its workers move, a run comes to exit code 2 if it has no jobs or no settings that
can be used, whether there is a corpus or not; otherwise to 1 exactly if the corpus is no folder;
otherwise to 2 if the corpus cannot be listed, to 0 if it only lists problems or succeeds, and to 2 if
it fails.  As long as nothing is verified, nothing happens; where a solution cannot be executed, the
run stops with the outcomes in front of that solution. -/
theorem exit_codes (asked : CommandLine.read words = .ok (.run invocation))
    (concludes : Concludes surroundings words bench (conclusion, left)) :
    let files := bench.machine.files
    ((invocation.jobs = 0 ∨ ¬ ∃ settings, Configures invocation files settings) →
      conclusion.exitCode = 2 ∧ left = bench) ∧
    (1 ≤ invocation.jobs → ∀ settings, Configures invocation files settings →
      (conclusion.exitCode = 1 ↔ files.isFolder settings.corpusDir = false) ∧
      (conclusion.exitCode = 1 → left = bench) ∧
      (∀ error, Hides surroundings invocation settings files error →
        conclusion.exitCode = 2 ∧ left = bench) ∧
      (∀ problems, Scans surroundings invocation settings files problems →
        (invocation.listOnly = true →
          Lists surroundings words invocation settings problems bench conclusion left) ∧
        (invocation.listOnly = false → ¬ Staffs invocation.jobs bench →
          conclusion.exitCode = 2 ∧ left = bench) ∧
        (invocation.listOnly = false → Staffs invocation.jobs bench → ∃ ended,
          Verifies surroundings invocation settings problems bench ended ∧
          (conclusion.exitCode = 0 ↔
            Succeeds surroundings invocation settings bench.machine.clock ended) ∧
          (conclusion.exitCode = 0 ∨ conclusion.exitCode = 2) ∧
          ∀ error, conclusion.trouble = some (.tool (.verify (.execution error))) →
            ∃ moments outcomes, Breaks (harnessOf surroundings settings) problems
              (.new invocation.compact (isColored surroundings bench)) bench error moments
              outcomes conclusion left))) := by
  have reaches := concludes.reaches asked
  refine ⟨reaches.refused, fun someone settings configures => ?_⟩
  have allows := reaches.allowed someone configures
  generalize same : (conclusion, left) = result at allows
  cases allows with
  | missing noFolder =>
      cases same
      refine ⟨⟨fun _ => noFolder, fun _ => rfl⟩, fun _ => rfl, fun error hides => ?_,
        fun problems scans => ?_⟩
      · cases noFolder.symm.trans hides.1
      · cases noFolder.symm.trans scans.isFolder
  | hidden hides =>
      cases same
      refine ⟨⟨nofun, fun noFolder => ?_⟩, nofun, fun _ _ => ⟨rfl, rfl⟩, fun problems scans => ?_⟩
      · cases noFolder.symm.trans hides.1
      · cases hides.2.symm.trans scans
  | listed found listed =>
      cases same
      refine ⟨⟨nofun, fun noFolder => ?_⟩, nofun, fun error hides => ?_, fun problems scans => ?_⟩
      · cases noFolder.symm.trans found.isFolder
      · cases hides.2.symm.trans found
      · obtain rfl := Except.ok.inj (found.symm.trans scans)
        refine ⟨fun _ => lists_of_listed asked someone configures scans listed,
          fun judged => ?_, fun judged => ?_⟩
        · cases judged.symm.trans listed
        · cases judged.symm.trans listed
  | unstaffed found judged unstaffed =>
      cases same
      refine ⟨⟨nofun, fun noFolder => ?_⟩, nofun, fun error hides => ?_, fun problems scans =>
        ⟨fun listed => ?_, fun _ _ => ⟨rfl, rfl⟩, fun _ staffed => absurd staffed unstaffed⟩⟩
      · cases noFolder.symm.trans found.isFolder
      · cases hides.2.symm.trans found
      · cases judged.symm.trans listed
  | @judged _ ended found judged staffed verifies =>
      obtain rfl : conclusion = _ := congrArg Prod.fst same
      obtain rfl : left = _ := congrArg Prod.snd same
      obtain ⟨done, code⟩ :=
        conclude_exitCode surroundings invocation settings bench.machine.clock ended
      have notOne : (conclude surroundings invocation settings bench.machine.clock
          ended).1.exitCode ≠ 1 := by
        rcases code with zero | two <;> omega
      refine ⟨⟨fun one => absurd one notOne, fun noFolder => ?_⟩, fun one => absurd one notOne,
        fun error hides => ?_, fun problems scans => ?_⟩
      · cases noFolder.symm.trans found.isFolder
      · cases hides.2.symm.trans found
      · obtain rfl := Except.ok.inj (found.symm.trans scans)
        refine ⟨fun listed => ?_, fun _ unstaffed => absurd staffed unstaffed,
          fun _ _ => ⟨ended, verifies, done, code, fun error stopped => verifies.breaks stopped⟩⟩
        cases judged.symm.trans listed

end

attribute [local instance] Platform.small in
/-- The small run breaks off where a search path leads elsewhere. -/
theorem exit_codes_sample :
    let concluded := (answer sampleSurroundings sampleWords).run sampleBare
    concluded.1.trouble = some (.tool (.verify (.execution sampleError))) ∧
      ∃ moments outcomes, Breaks sampleHarness [sampleProblem] (.new false false) sampleBare
        sampleError moments outcomes concluded.1 concluded.2 := by
  intro concluded
  obtain ⟨asked, loaded, plain, -⟩ := sample_words
  have stopped : concluded = (.failed "" (.verify (.execution sampleError)), sampleBare) := by
    have answered : concluded = (run sampleSurroundings sampleInvocation).run sampleBare := by
      simp only [concluded, answer, asked]
    exact answered.trans sample_stops
  have scans : Scans sampleSurroundings sampleInvocation .standard sampleFiles [sampleProblem] :=
    sample_scanned
  have concludes : Concludes sampleSurroundings sampleWords sampleBare
      (concluded.1, concluded.2) := .answered
  have staffed : Staffs sampleInvocation.jobs sampleBare := fun several => absurd rfl several
  have trouble := congrArg (·.1.trouble) stopped
  obtain ⟨-, allowed⟩ := exit_codes asked concludes
  obtain ⟨-, -, -, found⟩ := allowed (by decide) .standard (settingsFor_eq_ok.1 loaded)
  obtain ⟨-, -, judged⟩ := found _ scans
  obtain ⟨_, -, -, -, breaks⟩ := judged rfl staffed
  exact ⟨trouble, breaks sampleError trouble⟩

/-! ## Settings that a run would have set itself, and a list that cannot be had -/

/-- A file that asks for no time limit at all. -/
def strictStatement : String := "timeout_ms: 0\n"

def strictFiles : FileTree where
  entries := [(["c.yaml"], .file (Bytes.ofString strictStatement))]
  base := []

attribute [local instance] Platform.small in
def strictBench : Workbench := ⟨⟨strictFiles, 0, [], ()⟩, []⟩

def strictWords : List String := ["--config", "c.yaml", "--timeout-ms", "5"]

def strictInvocation : Invocation :=
  ⟨none, some ⟨"c.yaml"⟩, none, some 5, false, 1, false, none⟩

def strictSettings : Settings := { Settings.standard with timeoutMs := 0 }

theorem strict_stated :
    CommandLine.read strictWords = .ok (.run strictInvocation) ∧
      Utf8.decode? (Bytes.ofString strictStatement) = some strictStatement ∧
      (Yaml.readDocument? strictStatement).bind Settings.ofDocument? = some strictSettings ∧
      strictSettings.fault? = some .noTimeout ∧
      (overridden strictInvocation strictSettings).fault? = none := by
  decide +kernel

theorem strict_files :
    strictFiles.read ⟨"c.yaml"⟩ = .ok (Bytes.ofString strictStatement) ∧
      strictFiles.isFolder (overridden strictInvocation strictSettings).corpusDir = false := by
  have noLink := @FileTree.WellFormed.noLink strictFiles
    ⟨by decide, by decide, by decide +kernel, by decide⟩ (by decide)
  rw [FileTree.read_eq, FileTree.isFolder_eq, FileTree.locate_descend noLink,
    FileTree.locate_descend noLink]
  decide +kernel

/-- A corpus that may not be listed. -/
def hiddenFiles : FileTree where
  entries := [(["problems"], .folder)]
  base := []
  locked := [(["problems"], .permission)]

attribute [local instance] Platform.small in
def hiddenBench : Workbench := ⟨⟨hiddenFiles, 0, [], ()⟩, []⟩

def hiddenInvocation : Invocation := ⟨none, none, none, none, false, 1, true, none⟩

theorem hidden_words :
    CommandLine.read ["--list"] = .ok (.run hiddenInvocation) ∧
      settingsFor hiddenInvocation hiddenFiles = .ok .standard := by
  decide +kernel

attribute [local instance] Platform.small in
theorem hidden_hides : Hides sampleSurroundings hiddenInvocation .standard hiddenFiles
    (.unreadable ⟨"problems"⟩ .permissionDenied) := by
  have noLink := @FileTree.WellFormed.noLink hiddenFiles
    ⟨by decide, by decide, by decide +kernel, by decide⟩ (by decide)
  have located : hiddenFiles.locate true ⟨"problems"⟩ = .ok ["problems"] := by
    rw [FileTree.locate_descend noLink]
    decide +kernel
  have isFolder : hiddenFiles.isFolder ⟨"problems"⟩ = true := by
    rw [FileTree.isFolder_eq, located]
    rfl
  exact ⟨isFolder, Corpus.scan_locked located rfl rfl⟩

attribute [local instance] Platform.small in
/-- A run that would have set a time limit is refused all the same where its file asks for none: the
exit code is 2, although the settings can be used as the run sets them, and the corpus is missing.  And
a run that only lists problems comes to exit code 2 where the corpus may not be listed. -/
theorem refused_as_stated :
    (CommandLine.read strictWords = .ok (.run strictInvocation) ∧ 1 ≤ strictInvocation.jobs ∧
      (∃ content given, strictFiles.read ⟨"c.yaml"⟩ = .ok content ∧
        (∃ text, Utf8.decode? content = some text ∧
          (Yaml.readDocument? text).bind Settings.ofDocument? = some given) ∧
        (overridden strictInvocation given).fault? = none ∧
        strictFiles.isFolder (overridden strictInvocation given).corpusDir = false) ∧
      ((answer sampleSurroundings strictWords).run strictBench).1.exitCode = 2) ∧
    CommandLine.read ["--list"] = .ok (.run hiddenInvocation) ∧ 1 ≤ hiddenInvocation.jobs ∧
      settingsFor hiddenInvocation hiddenFiles = .ok .standard ∧
      hiddenFiles.isFolder Settings.standard.corpusDir = true ∧
      ((answer sampleSurroundings ["--list"]).run hiddenBench).1.exitCode = 2 := by
  constructor
  · obtain ⟨asked, decoded, stated, fault, fine⟩ := strict_stated
    obtain ⟨read, noFolder⟩ := strict_files
    refine ⟨asked, by decide, ⟨_, strictSettings, read, ⟨_, decoded, stated⟩, fine, noFolder⟩, ?_⟩
    have unconfigured : ¬ ∃ settings, Configures strictInvocation strictFiles settings := by
      rintro ⟨settings, -, given, loads, -⟩
      cases loads with
      | file readable text parsed usable =>
          obtain rfl := Except.ok.inj (read.symm.trans readable)
          obtain rfl := Option.some.inj (decoded.symm.trans text)
          obtain rfl := Option.some.inj (stated.symm.trans parsed)
          cases fault.symm.trans usable
    have answered : (answer sampleSurroundings strictWords).run strictBench =
        (run sampleSurroundings strictInvocation).run strictBench := by
      rw [answer, asked]
    rw [answered]
    exact ((run_reaches sampleSurroundings strictInvocation strictBench).refused
      (.inr unconfigured)).1
  · obtain ⟨asked, loaded⟩ := hidden_words
    have hides := hidden_hides
    refine ⟨asked, by decide, loaded, hides.1, ?_⟩
    have answered : (answer sampleSurroundings ["--list"]).run hiddenBench =
        (run sampleSurroundings hiddenInvocation).run hiddenBench := by
      rw [answer, asked]
    have allows := @run_allowed _ sampleSurroundings hiddenInvocation hiddenBench .standard
      (by decide) loaded
    rw [answered]
    generalize (run sampleSurroundings hiddenInvocation).run hiddenBench = result at allows
    cases allows with
    | missing noFolder => cases noFolder.symm.trans hides.1
    | hidden => rfl
    | listed scans => cases hides.2.symm.trans scans
    | unstaffed => rfl
    | judged scans => cases hides.2.symm.trans scans

end CorpusJudge.Application
