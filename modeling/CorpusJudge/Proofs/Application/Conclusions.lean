import CorpusJudge.Proofs.Application.Configuring
import CorpusJudge.Proofs.Application.Record
import CorpusJudge.Proofs.Corpus.Scan

/-!
# What a run comes to

A run stops at the first thing that it cannot do without: workers, settings, a corpus.  If it has
them all, what becomes of it follows from how the verification of its problems ends.
-/

namespace CorpusJudge

namespace Application

variable [Platform]

/-! ## Conclusions -/

/-- The harness under settings. -/
def harnessOf (surroundings : Surroundings) (settings : Settings) : Harness :=
  .ofSettings settings (surroundings.service settings.metadataUrl)

/-- Whether the report of a run is colored. -/
def isColored (surroundings : Surroundings) (bench : Workbench) : Bool :=
  wantsColor surroundings.isTerminal bench.machine.environment

/-- Whether a run can have as many workers as it asks for. One that asks for a single worker needs no
others beside itself. -/
def Staffs (jobs : Nat) (bench : Workbench) : Prop :=
  jobs ≠ 1 → Platform.poolFault? jobs bench.machine = none

/-- The summary of a run that has begun and stopped at some times. -/
def summaryOf (surroundings : Surroundings) (invocation : Invocation) (settings : Settings)
    (start stop : Nat) (stats : RunStats) (record : Record) : Summary where
  terms := .of invocation settings
  started := momentAfter surroundings.epoch start
  finished := momentAfter surroundings.epoch stop
  durationMs := (stop - start) / 1000
  stats := stats
  totals := record.reporter.totals
  failures := record.failures

/-- What becomes of a run that has begun at some time, once its problems have been verified. -/
def conclude (surroundings : Surroundings) (invocation : Invocation) (settings : Settings)
    (start : Nat) (ended : Completed Record RunStats) : Conclusion × Workbench :=
  match ended.value with
  | .error error => (.failed ended.state.text (.verify error), ended.bench)
  | .ok stats =>
    let output := ended.state.text ++ ended.state.reporter.finish
    match invocation.summary with
    | none => (.done output, ended.bench)
    | some path =>
      let summary := summaryOf surroundings invocation settings start ended.bench.machine.clock
        stats ended.state
      match (Work.replace path summary.document).run ended.bench with
      | (.ok (), left) => (.done output, left)
      | (.error error, left) => (.failed output (.summary error), left)

private theorem judge_eq (surroundings : Surroundings) (invocation : Invocation)
    (harness : Harness) (problems : List Problem) (bench : Workbench) :
    (judge surroundings invocation harness problems).run bench =
      let ended := (verify harness invocation.jobs problems).complete
          (.new invocation.compact (isColored surroundings bench)) bench
      StateT.run (match ended.value with
        | .error error => return .failed ended.state.text (.verify error)
        | .ok stats =>
          let output := ended.state.text ++ ended.state.reporter.finish
          match invocation.summary with
          | none => return .done output
          | some path => do
            let stop ← Work.clock
            let summary := summaryOf surroundings invocation harness.settings bench.machine.clock
              stop stats ended.state
            match ← Work.replace path summary.document with
            | .ok () => return .done output
            | .error error => return .failed output (.summary error) : Work Conclusion)
        ended.bench := rfl

theorem judge_run (surroundings : Surroundings) (invocation : Invocation) (harness : Harness)
    (problems : List Problem) (bench : Workbench) :
    (judge surroundings invocation harness problems).run bench =
      conclude surroundings invocation harness.settings bench.machine.clock
        ((verify harness invocation.jobs problems).complete
          (.new invocation.compact (isColored surroundings bench)) bench) := by
  rw [judge_eq, conclude]
  rcases (verify harness invocation.jobs problems).complete
    (.new invocation.compact (isColored surroundings bench)) bench with ⟨value, record, left⟩
  cases value with
  | error error => rfl
  | ok stats =>
      simp only
      cases invocation.summary with
      | none => rfl
      | some path =>
          simp only [Work.run_bind, Work.run_clock]
          rcases replaced : (Work.replace path (summaryOf surroundings invocation harness.settings
            bench.machine.clock left.machine.clock stats record).document).run left with
            ⟨reply, given⟩
          cases reply <;> rfl

/-- What becomes of a run whose problems have been verified: the verification has stopped, no summary
is asked for, or one is, and can be left or not. -/
inductive Closes (surroundings : Surroundings) (invocation : Invocation) (settings : Settings)
    (start : Nat) (ended : Completed Record RunStats) : Conclusion × Workbench → Prop where
  | stopped {error : HarnessError} :
      ended.value = .error error →
      Closes surroundings invocation settings start ended
        (.failed ended.state.text (.verify error), ended.bench)
  | told {stats : RunStats} :
      ended.value = .ok stats → invocation.summary = none →
      Closes surroundings invocation settings start ended
        (.done (ended.state.text ++ ended.state.reporter.finish), ended.bench)
  | summarised {stats : RunStats} {path : Path} {left : Workbench} :
      ended.value = .ok stats → invocation.summary = some path →
      (Work.replace path (summaryOf surroundings invocation settings start
        ended.bench.machine.clock stats ended.state).document).run ended.bench = (.ok (), left) →
      Closes surroundings invocation settings start ended
        (.done (ended.state.text ++ ended.state.reporter.finish), left)
  | unsummarised {stats : RunStats} {path : Path} {left : Workbench} {error : ReplaceError} :
      ended.value = .ok stats → invocation.summary = some path →
      (Work.replace path (summaryOf surroundings invocation settings start
        ended.bench.machine.clock stats ended.state).document).run ended.bench =
          (.error error, left) →
      Closes surroundings invocation settings start ended
        (.failed (ended.state.text ++ ended.state.reporter.finish) (.summary error), left)

theorem conclude_closes (surroundings : Surroundings) (invocation : Invocation)
    (settings : Settings) (start : Nat) (ended : Completed Record RunStats) :
    Closes surroundings invocation settings start ended
      (conclude surroundings invocation settings start ended) := by
  unfold conclude
  split
  · next value => exact .stopped value
  · next value =>
      simp only
      split
      · next silent => exact .told value silent
      · next asked =>
          split
          · next replaced => exact .summarised value asked replaced
          · next replaced => exact .unsummarised value asked replaced

/-- A run that leaves a summary where files can be replaced ends well. -/
theorem conclude_done {surroundings : Surroundings} {invocation : Invocation} {settings : Settings}
    {start : Nat} {ended : Completed Record RunStats} {path : Path} {stats : RunStats}
    (leaves : invocation.summary = some path) (value : ended.value = .ok stats)
    (replaces : ∀ content, (ended.bench.machine.files.replace path content).1 = .ok ()) :
    ∃ files, conclude surroundings invocation settings start ended =
      (.done (ended.state.text ++ ended.state.reporter.finish),
        { ended.bench with machine := ended.bench.machine.withFiles files }) := by
  simp only [conclude, value, leaves, Work.run_replace, replaces]
  exact ⟨_, rfl⟩

/-- A run that ends well and leaves a summary. -/
theorem conclude_well {surroundings : Surroundings} {invocation : Invocation} {settings : Settings}
    {start : Nat} {ended : Completed Record RunStats} {path : Path}
    (leaves : invocation.summary = some path)
    (well : (conclude surroundings invocation settings start ended).1.exitCode = 0) :
    ∃ stats, ended.value = .ok stats ∧
      (conclude surroundings invocation settings start ended).1 =
        .done (ended.state.text ++ ended.state.reporter.finish) ∧
      (Work.replace path (summaryOf surroundings invocation settings start
        ended.bench.machine.clock stats ended.state).document).run ended.bench =
          (.ok (), (conclude surroundings invocation settings start ended).2) := by
  have closes := conclude_closes surroundings invocation settings start ended
  generalize conclude surroundings invocation settings start ended = concluded at closes well ⊢
  cases closes with
  | stopped => cases well
  | told _ silent => cases silent.symm.trans leaves
  | summarised value asked replaced =>
      obtain rfl := Option.some.inj (asked.symm.trans leaves)
      exact ⟨_, value, rfl, replaced⟩
  | unsummarised => cases well

section

variable {surroundings : Surroundings} {words : List String} {invocation : Invocation}
variable {bench : Workbench} {settings : Settings} {problems : List Problem}
variable {result : Conclusion × Workbench}

/-- What carrying out a command line can come to: what the program comes to, and what it would come
to if the workers of its run moved in any other way. -/
inductive Concludes (surroundings : Surroundings) (words : List String) (bench : Workbench) :
    Conclusion × Workbench → Prop where
  | answered : Concludes surroundings words bench ((answer surroundings words).run bench)
  | judged {invocation : Invocation} {settings : Settings} {problems : List Problem}
      {ended : Completed Record RunStats} :
      CommandLine.read words = .ok (.run invocation) → 1 ≤ invocation.jobs →
      settingsFor invocation bench.machine.files = .ok settings →
      (harnessOf surroundings settings).problems (invocation.resumeFrom.map Resume.mk)
        bench.machine.files = .ok problems →
      invocation.listOnly = false → Staffs invocation.jobs bench →
      (harnessOf surroundings settings).Ends keep invocation.jobs problems
        (.new invocation.compact (isColored surroundings bench)) bench ended →
      Concludes surroundings words bench
        (conclude surroundings invocation settings bench.machine.clock ended)

theorem run_run (surroundings : Surroundings) (invocation : Invocation) (bench : Workbench) :
    (run surroundings invocation).run bench =
      if invocation.jobs = 0 then (.failed "" .noJobs, bench)
      else
        match settingsFor invocation bench.machine.files with
        | .error error => (.failed "" error, bench)
        | .ok settings =>
            match (harnessOf surroundings settings).problems (invocation.resumeFrom.map Resume.mk)
              bench.machine.files with
            | .error (.missing root) => (⟨1, downloadAdvice root, none⟩, bench)
            | .error error => (.failed "" (.scan error), bench)
            | .ok problems =>
                if invocation.listOnly then (.done (listing problems), bench)
                else (judge surroundings invocation (harnessOf surroundings settings) problems).run
                  bench := by
  unfold run harnessOf
  by_cases nobody : invocation.jobs = 0
  · rw [if_pos nobody, if_pos nobody]
    rfl
  · rw [if_neg nobody, if_neg nobody]
    simp only [Work.run_bind, Work.run_files]
    cases settingsFor invocation bench.machine.files with
    | error error => rfl
    | ok settings =>
        simp only [Work.run_bind, Work.run_files]
        cases (Harness.ofSettings settings (surroundings.service settings.metadataUrl)).problems
          (invocation.resumeFrom.map Resume.mk) bench.machine.files with
        | error error => cases error <;> rfl
        | ok problems => cases invocation.listOnly <;> rfl

/-- A run with settings and problems comes to what the end of its verification leads to. -/
theorem run_judged (someone : 1 ≤ invocation.jobs)
    (loaded : settingsFor invocation bench.machine.files = .ok settings)
    (scanned : (harnessOf surroundings settings).problems (invocation.resumeFrom.map Resume.mk)
      bench.machine.files = .ok problems)
    (verifies : invocation.listOnly = false) :
    (run surroundings invocation).run bench =
      conclude surroundings invocation settings bench.machine.clock
        ((verify (harnessOf surroundings settings) invocation.jobs problems).complete
          (.new invocation.compact (isColored surroundings bench)) bench) := by
  rw [run_run, if_neg (Nat.one_le_iff_ne_zero.mp someone), loaded]
  simp only [scanned, verifies, Bool.false_eq_true, if_false, judge_run]
  rfl

/-- What verification comes to by itself is among what it can come to, if there are workers for it. -/
theorem ends_verify {harness : Harness} {jobs : Nat} {record : Record} (someone : 1 ≤ jobs)
    (staffed : Staffs jobs bench) :
    harness.Ends keep jobs problems record bench
      ((verify harness jobs problems).complete record bench) := by
  have ends : harness.Ends keep jobs problems record bench _ := Harness.ends_verify someone
  unfold verify
  split at ends
  · next single => rwa [if_pos single]
  · next several =>
      rw [if_neg several, Harness.runPooled, Verification.complete_onBench_bind]
      have machine : (Work.machine.run bench).1 = bench.machine := rfl
      simp only [machine, staffed several]
      exact ends

/-- Without workers for it, verification stops before it begins. -/
theorem verify_unstaffed {harness : Harness} {jobs : Nat} {record : Record}
    (unstaffed : ¬ Staffs jobs bench) :
    ∃ reason, (verify harness jobs problems).complete record bench =
      ⟨.error (.execution (.pool reason)), record, bench⟩ := by
  obtain ⟨several, crowded⟩ := Classical.not_imp.mp unstaffed
  obtain ⟨reason, crowded⟩ := Option.ne_none_iff_exists'.mp crowded
  refine ⟨reason, ?_⟩
  have machine : (Work.machine.run bench).1 = bench.machine := rfl
  rw [verify, if_neg several, Harness.runPooled, Verification.complete_onBench_bind]
  simp only [machine, crowded]
  rfl

/-! ## How far a run comes -/

/-- The problems that a run finds under some settings. -/
def Scans (surroundings : Surroundings) (invocation : Invocation) (settings : Settings)
    (files : FileTree) (problems : List Problem) : Prop :=
  (harnessOf surroundings settings).problems (invocation.resumeFrom.map Resume.mk) files =
    .ok problems

/-- What verifying the problems of a run can come to. -/
def Verifies (surroundings : Surroundings) (invocation : Invocation) (settings : Settings)
    (problems : List Problem) (bench : Workbench) (ended : Completed Record RunStats) : Prop :=
  (harnessOf surroundings settings).Ends keep invocation.jobs problems
    (.new invocation.compact (isColored surroundings bench)) bench ended

/-- The corpus of a run is a folder, and yet its problems cannot be found for some reason. -/
def Hides (surroundings : Surroundings) (invocation : Invocation) (settings : Settings)
    (files : FileTree) (error : CorpusError) : Prop :=
  files.isFolder settings.corpusDir = true ∧
    (harnessOf surroundings settings).problems (invocation.resumeFrom.map Resume.mk) files =
      .error error

/-- How far a run comes with its settings, and what it comes to there. -/
inductive Allows (surroundings : Surroundings) (invocation : Invocation) (settings : Settings)
    (bench : Workbench) : Conclusion × Workbench → Prop where
  | missing :
      bench.machine.files.isFolder settings.corpusDir = false →
      Allows surroundings invocation settings bench
        (⟨1, downloadAdvice settings.corpusDir, none⟩, bench)
  | hidden {error : CorpusError} :
      Hides surroundings invocation settings bench.machine.files error →
      Allows surroundings invocation settings bench (.failed "" (.scan error), bench)
  | listed {problems : List Problem} :
      Scans surroundings invocation settings bench.machine.files problems →
      invocation.listOnly = true →
      Allows surroundings invocation settings bench (.done (listing problems), bench)
  | unstaffed {problems : List Problem} {reason : String} :
      Scans surroundings invocation settings bench.machine.files problems →
      invocation.listOnly = false → ¬ Staffs invocation.jobs bench →
      Allows surroundings invocation settings bench
        (.failed "" (.verify (.execution (.pool reason))), bench)
  | judged {problems : List Problem} {ended : Completed Record RunStats} :
      Scans surroundings invocation settings bench.machine.files problems →
      invocation.listOnly = false → Staffs invocation.jobs bench →
      Verifies surroundings invocation settings problems bench ended →
      Allows surroundings invocation settings bench
        (conclude surroundings invocation settings bench.machine.clock ended)

/-- How far a run comes, and what it comes to there. -/
inductive Reaches (surroundings : Surroundings) (invocation : Invocation) (bench : Workbench) :
    Conclusion × Workbench → Prop where
  | noJobs :
      invocation.jobs = 0 → Reaches surroundings invocation bench (.failed "" .noJobs, bench)
  | unconfigured {error : ToolError} :
      (∀ settings, ¬ Configures invocation bench.machine.files settings) →
      Reaches surroundings invocation bench (.failed "" error, bench)
  | configured {settings : Settings} {result : Conclusion × Workbench} :
      1 ≤ invocation.jobs → Configures invocation bench.machine.files settings →
      Allows surroundings invocation settings bench result →
      Reaches surroundings invocation bench result

theorem problems_missing {files : FileTree}
    (noFolder : files.isFolder settings.corpusDir = false) :
    (harnessOf surroundings settings).problems (invocation.resumeFrom.map Resume.mk) files =
      .error (.missing settings.corpusDir) :=
  Corpus.scan_missing noFolder

/-- A corpus that is a folder is never missing. -/
theorem problems_unreadable {files : FileTree} {error : CorpusError}
    (isFolder : files.isFolder settings.corpusDir = true)
    (failed : (harnessOf surroundings settings).problems (invocation.resumeFrom.map Resume.mk) files =
      .error error) : ∃ path reason, error = .unreadable path reason := by
  have scanned : Corpus.scan settings settings.corpusDir (invocation.resumeFrom.map Resume.mk) files =
    .error error := failed
  rw [Corpus.scan_eq, isFolder] at scanned
  cases listed : files.list settings.corpusDir with
  | ok children =>
      rw [listed] at scanned
      cases scanned
  | error reason =>
      rw [listed] at scanned
      cases scanned
      exact ⟨_, _, rfl⟩

theorem Scans.isFolder {files : FileTree}
    (scans : Scans surroundings invocation settings files problems) :
    files.isFolder settings.corpusDir = true := by
  cases isFolder : files.isFolder settings.corpusDir with
  | true => rfl
  | false => cases scans.symm.trans (problems_missing isFolder)

theorem run_allowed (someone : 1 ≤ invocation.jobs)
    (loaded : settingsFor invocation bench.machine.files = .ok settings) :
    Allows surroundings invocation settings bench ((run surroundings invocation).run bench) := by
  cases scanned : (harnessOf surroundings settings).problems (invocation.resumeFrom.map Resume.mk)
    bench.machine.files with
  | error error =>
      rw [run_run, if_neg (Nat.one_le_iff_ne_zero.mp someone), loaded]
      cases isFolder : bench.machine.files.isFolder settings.corpusDir with
      | false =>
          simp only [problems_missing isFolder]
          exact .missing isFolder
      | true =>
          -- a corpus that is a folder is not reported as missing
          obtain ⟨path, reason, rfl⟩ := problems_unreadable isFolder scanned
          simp only [scanned]
          exact .hidden ⟨isFolder, scanned⟩
  | ok problems =>
      cases lists : invocation.listOnly with
      | true =>
          rw [run_run, if_neg (Nat.one_le_iff_ne_zero.mp someone), loaded]
          simp only [scanned, lists]
          exact .listed scanned lists
      | false =>
          rw [run_judged someone loaded scanned lists]
          by_cases staffed : Staffs invocation.jobs bench
          · exact .judged scanned lists staffed (ends_verify someone staffed)
          · obtain ⟨reason, stopped⟩ := verify_unstaffed staffed
            rw [stopped]
            exact .unstaffed scanned lists staffed

theorem run_reaches (surroundings : Surroundings) (invocation : Invocation) (bench : Workbench) :
    Reaches surroundings invocation bench ((run surroundings invocation).run bench) := by
  by_cases nobody : invocation.jobs = 0
  · rw [run_run, if_pos nobody]
    exact .noJobs nobody
  · cases loaded : settingsFor invocation bench.machine.files with
    | error error =>
        rw [run_run, if_neg nobody, loaded]
        refine .unconfigured fun settings configures => ?_
        cases loaded.symm.trans (settingsFor_eq_ok.2 configures)
    | ok settings =>
        have someone := Nat.one_le_iff_ne_zero.mpr nobody
        exact .configured someone (settingsFor_eq_ok.1 loaded) (run_allowed someone loaded)

/-- A command line that asks for a run comes to one of these. -/
theorem Concludes.reaches (concludes : Concludes surroundings words bench result)
    (asked : CommandLine.read words = .ok (.run invocation)) :
    Reaches surroundings invocation bench result := by
  cases concludes with
  | answered =>
      rw [answer, asked]
      exact run_reaches surroundings invocation bench
  | judged read someone loaded scanned lists staffed ends =>
      obtain ⟨⟩ := Except.ok.inj (read.symm.trans asked)
      exact .configured someone (settingsFor_eq_ok.1 loaded) (.judged scanned lists staffed ends)

/-- Without jobs, or without settings that can be used, nothing happens. -/
theorem Reaches.refused (reaches : Reaches surroundings invocation bench result)
    (fault : invocation.jobs = 0 ∨ ¬ ∃ settings, Configures invocation bench.machine.files settings) :
    result.1.exitCode = 2 ∧ result.2 = bench := by
  cases reaches with
  | noJobs => exact ⟨rfl, rfl⟩
  | unconfigured => exact ⟨rfl, rfl⟩
  | configured someone configures =>
      rcases fault with nobody | none
      · omega
      · exact absurd ⟨_, configures⟩ none

/-- With jobs and settings, a run comes as far as its corpus and its workers allow. -/
theorem Reaches.allowed (reaches : Reaches surroundings invocation bench result)
    (someone : 1 ≤ invocation.jobs)
    (configures : Configures invocation bench.machine.files settings) :
    Allows surroundings invocation settings bench result := by
  cases reaches with
  | noJobs nobody => omega
  | unconfigured none => exact absurd configures (none settings)
  | configured _ alike allows =>
      obtain rfl := configures.unique alike
      exact allows

/-- A command line whose run ends well without only listing problems comes to the conclusion that
the ends of its verification lead to. -/
theorem Concludes.judged_of_well (concludes : Concludes surroundings words bench result)
    (asked : CommandLine.read words = .ok (.run invocation))
    (verifies : invocation.listOnly = false) (well : result.1.exitCode = 0) :
    1 ≤ invocation.jobs ∧ ∃ settings problems ended,
      settingsFor invocation bench.machine.files = .ok settings ∧
      (harnessOf surroundings settings).problems (invocation.resumeFrom.map Resume.mk)
        bench.machine.files = .ok problems ∧
      (harnessOf surroundings settings).Ends keep invocation.jobs problems
        (.new invocation.compact (isColored surroundings bench)) bench ended ∧
      result = conclude surroundings invocation settings bench.machine.clock ended := by
  cases concludes.reaches asked with
  | noJobs => cases well
  | unconfigured => cases well
  | configured someone configures allows =>
      cases allows with
      | missing => cases well
      | hidden => cases well
      | listed _ lists => cases verifies.symm.trans lists
      | unstaffed => cases well
      | judged scans _ _ ends =>
          exact ⟨someone, _, _, _, settingsFor_eq_ok.2 configures, scans, ends, rfl⟩

end

end Application

end CorpusJudge
