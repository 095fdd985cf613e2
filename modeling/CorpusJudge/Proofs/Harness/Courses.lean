import CorpusJudge.Proofs.Cache.Corpus
import CorpusJudge.Proofs.Harness.Settled

/-!
# The course of a run

Problems need not be settled: executions may change what the next ones find, and what is found then
depends on how the steps of workers interleave.  Still every finding can be told from the workbenches
that the run went through, and the workbench itself changes in three ways only.
-/

namespace CorpusJudge

variable [Kernel]

namespace Harness

/-! ## What happens to the workbench -/

/-- What one step of a run can do to the workbench: nothing but notes are added; the answer of the
source becomes the cache file of a problem; or a solution is executed. -/
inductive Happens (harness : Harness) (problems : List Problem) (before after : Workbench) :
    Prop where
  | noted : after.machine = before.machine → Happens harness problems before after
  | stored {problem : Problem} {document : Bytes} {files : FileTree} :
      problem ∈ problems → harness.source problem.name = .ok document →
      before.machine.files.write problem.metadataPath document = .ok files →
      after.machine = before.machine.withFiles files → Happens harness problems before after
  | executed {path : Path} {input : Bytes} :
      after.machine = (harness.executor path input before.machine).2 →
      Happens harness problems before after

/-- The workbenches that a run has gone through, the present one in front. -/
inductive Course (harness : Harness) (problems : List Problem) (start : Workbench) :
    List Workbench → Workbench → Prop where
  | begun : Course harness problems start [start] start
  | goesOn {moments : List Workbench} {bench left : Workbench} :
      Course harness problems start moments bench → Happens harness problems bench left →
      Course harness problems start (left :: moments) left

variable {harness : Harness} {problems : List Problem} {start bench : Workbench}
variable {moments : List Workbench}

theorem Course.here (course : Course harness problems start moments bench) : bench ∈ moments := by
  cases course with
  | begun => exact List.mem_cons_self
  | goesOn => exact List.mem_cons_self

/-- Places that executions leave alone, and to which the path of no cache file leads, are left alone
by the whole run. -/
theorem Course.standing (course : Course harness problems start moments bench)
    {places : Location → Prop}
    (spared : ∀ before ∈ moments, ∀ path input,
      Standing places before.machine.files (harness.executor path input before.machine).2.files)
    (uncached : ∀ before ∈ moments, ∀ problem ∈ problems, ∀ place,
      before.machine.files.locate true problem.metadataPath = .ok place → ¬ places place) :
    Standing places start.machine.files bench.machine.files := by
  induction course with
  | begun => exact .refl places _
  | @goesOn moments bench left course happens ih =>
      have before := List.mem_cons_of_mem left course.here
      have whole := ih (fun other member => spared other (List.mem_cons_of_mem _ member))
        (fun other member => uncached other (List.mem_cons_of_mem _ member))
      have step : Standing places bench.machine.files left.machine.files := by
        cases happens with
        | noted same =>
            rw [same]
            exact .refl places _
        | executed same =>
            rw [same]
            exact spared bench before _ _
        | @stored problem document files member answer wrote same =>
            rw [same, Machine.write_files wrote]
            exact .write wrote (uncached bench before problem member)
      exact whole.trans step

/-! ## What is found about a problem -/

variable (harness : Harness) (world : Workbench → Prop) (problem : Problem)

/-- At some moment the problem had no cache file. -/
def Misses : Prop :=
  ∃ bench, world bench ∧ loadCached bench.machine.files problem.metadataPath = .ok none

/-- The document of the problem: its cache file held it, or there was none and the answer of the
source could be stored. -/
inductive Knows : Bytes → Prop where
  | cached {bench : Workbench} {document : Bytes} :
      world bench → loadCached bench.machine.files problem.metadataPath = .ok (some document) →
      Knows document
  | fetched {bench : Workbench} {document : Bytes} {files : FileTree} :
      Misses world problem → harness.source problem.name = .ok document → world bench →
      bench.machine.files.write problem.metadataPath document = .ok files → Knows document

/-- The metadata of the problem, and the paths at which its solutions were found. -/
inductive Lists : Metadata → List Path → Prop where
  | intro {document : Bytes} {bench : Workbench} {metadata : Metadata} {paths : List Path} :
      Knows harness world problem document → Metadata.ofDocument? document = some metadata →
      world bench → problem.listSolutions bench.machine.files = .ok paths → Lists metadata paths

/-- Why a problem is passed over. -/
inductive PassesOver : Prop where
  | unreadable {bench : Workbench} {error : FileError} :
      world bench → loadCached bench.machine.files problem.metadataPath = .error error → PassesOver
  | unanswered {error : RequestError} :
      Misses world problem → harness.source problem.name = .error error → PassesOver
  | unstored {bench : Workbench} {document : Bytes} {error : FileError} :
      Misses world problem → harness.source problem.name = .ok document → world bench →
      bench.machine.files.write problem.metadataPath document = .error error → PassesOver
  | malformed {document : Bytes} :
      Knows harness world problem document → Metadata.ofDocument? document = none → PassesOver
  | unlisted {document : Bytes} {metadata : Metadata} {bench : Workbench} {error : CorpusError} :
      Knows harness world problem document → Metadata.ofDocument? document = some metadata →
      world bench → problem.listSolutions bench.machine.files = .error error → PassesOver

/-- At some moment the solution at a path was eligible, or it was not. -/
def Chooses (metadata : Metadata) (path : Path) (eligible : Bool) : Prop :=
  ∃ bench, world bench ∧ ((harness.eligible? metadata path).run bench).1 = eligible

/-- What judging the solution at a path came to at some moment. -/
def Judges (metadata : Metadata) (path : Path) (reply : Except HarnessError Outcome) : Prop :=
  ∃ bench, world bench ∧
    ((harness.judge path metadata.inputBytes metadata.expectedBytes).run bench).1 = reply

/-- The outcomes of the solutions at some paths, one for each that was eligible, in order; the others
were skipped. -/
inductive Yields (metadata : Metadata) : List Path → Nat → List Outcome → Prop where
  | none : Yields metadata [] 0 []
  | skipped {paths : List Path} {path : Path} {skipped : Nat} {outcomes : List Outcome} :
      Yields metadata paths skipped outcomes → Chooses harness world metadata path false →
      Yields metadata (paths ++ [path]) (skipped + 1) outcomes
  | judged {paths : List Path} {path : Path} {skipped : Nat} {outcomes : List Outcome}
      {outcome : Outcome} :
      Yields metadata paths skipped outcomes → Chooses harness world metadata path true →
      Judges harness world metadata path (.ok outcome) →
      Yields metadata (paths ++ [path]) skipped (outcomes ++ [outcome])

/-- What can be found about a problem: it is passed over; or all its solutions have been verified; or
those in front of one that was eligible and could not be judged. -/
inductive Finds : Verified → Prop where
  | passedOver : PassesOver harness world problem → Finds .passedOver
  | completed {metadata : Metadata} {paths : List Path} {skipped : Nat} {outcomes : List Outcome} :
      Lists harness world problem metadata paths →
      Yields harness world metadata paths skipped outcomes →
      Finds ⟨outcomes, .ok ⟨true, skipped⟩⟩
  | stopped {metadata : Metadata} {front back : List Path} {path : Path} {skipped : Nat}
      {outcomes : List Outcome} {error : HarnessError} :
      Lists harness world problem metadata (front ++ path :: back) →
      Yields harness world metadata front skipped outcomes →
      Chooses harness world metadata path true → Judges harness world metadata path (.error error) →
      Finds ⟨outcomes, .error error⟩

end Harness

/-! ## Stage by stage -/

/-- What is known when a verification has come to a stage. -/
def Stage.Known (harness : Harness) (world : Workbench → Prop) (problem : Problem) :
    Stage → Prop
  | loading => True
  | fetching => Harness.Misses world problem
  | storing document =>
    Harness.Misses world problem ∧ harness.source problem.name = .ok document
  | listing document => harness.Knows world problem document
  | choosing metadata skipped outcomes paths => ∃ front,
    harness.Lists world problem metadata (front ++ paths) ∧
      harness.Yields world metadata front skipped outcomes
  | executing metadata skipped outcomes path rest => ∃ front,
    harness.Lists world problem metadata (front ++ path :: rest) ∧
      harness.Yields world metadata front skipped outcomes ∧
      harness.Chooses world metadata path true

/-- What is known when a verification has come to a task. -/
def Task.Known (harness : Harness) (world : Workbench → Prop) (problem : Problem) : Task → Prop
  | underway stage => stage.Known harness world problem
  | finished verified => harness.Finds world problem verified
  | _ => True

section

variable {harness : Harness} {world wider : Workbench → Prop} {problem : Problem}
variable {problems : List Problem} {bench left : Workbench} {stage : Stage} {task : Task}

/-- A step of a verification adds to what is known. -/
theorem Stage.Known.advance (known : stage.Known harness world problem) (here : world bench)
    (next : (stage.advance harness problem).run bench = (task, left)) :
    task.Known harness world problem := by
  cases Stage.step_of_advance next with
  | cached loaded => exact .cached here loaded
  | missed loaded => exact ⟨bench, here, loaded⟩
  | unreadable loaded => exact .passedOver (.unreadable here loaded)
  | answered answer => exact ⟨known, answer⟩
  | unanswered answer => exact .passedOver (.unanswered known answer)
  | stored wrote =>
      obtain ⟨misses, answer⟩ := known
      exact .fetched misses answer here wrote
  | unstored wrote =>
      obtain ⟨misses, answer⟩ := known
      exact .passedOver (.unstored misses answer here wrote)
  | malformed senseless => exact .passedOver (.malformed known senseless)
  | unlisted sense listed => exact .passedOver (.unlisted known sense here listed)
  | listed sense listed => exact ⟨[], .intro known sense here listed, .none⟩
  | completed =>
      obtain ⟨front, lists, yields⟩ := known
      rw [List.append_nil] at lists
      exact .completed lists yields
  | eligible chosen =>
      obtain ⟨front, lists, yields⟩ := known
      exact ⟨front, lists, yields, bench, here, congrArg Prod.fst chosen⟩
  | @ineligible _ _ _ path _ _ chosen =>
      obtain ⟨front, lists, yields⟩ := known
      refine ⟨front ++ [path], ?_, .skipped yields ⟨bench, here, congrArg Prod.fst chosen⟩⟩
      rwa [List.append_assoc]
  | @judged _ _ _ path _ _ _ judged =>
      obtain ⟨front, lists, yields, chosen⟩ := known
      refine ⟨front ++ [path], ?_, .judged yields chosen ⟨bench, here, congrArg Prod.fst judged⟩⟩
      rwa [List.append_assoc]
  | failed judged =>
      obtain ⟨front, lists, yields, chosen⟩ := known
      exact .stopped lists yields chosen ⟨bench, here, congrArg Prod.fst judged⟩

/-- What a step of a verification does to the workbench. -/
theorem Stage.Known.happens (known : stage.Known harness world problem)
    (member : problem ∈ problems)
    (next : (stage.advance harness problem).run bench = (task, left)) :
    harness.Happens problems bench left := by
  cases Stage.step_of_advance next with
  | stored wrote => exact .stored member known.2 wrote rfl
  | eligible chosen =>
      obtain ⟨rfl, -⟩ := Harness.eligible?_eq_true chosen
      exact .noted rfl
  | ineligible chosen =>
      rcases Harness.eligible?_eq_false chosen with ⟨error, -, rfl⟩ | ⟨source, reason, -, -, rfl⟩
      · exact .noted rfl
      · exact .noted rfl
  | judged judged =>
      obtain ⟨execution, machine, executed, -, rfl, -⟩ := Harness.judge_eq_ok judged
      exact .executed (congrArg Prod.snd executed).symm
  | failed judged =>
      obtain ⟨reason, machine, executed, -, rfl⟩ := Harness.judge_eq_error judged
      exact .executed (congrArg Prod.snd executed).symm
  | _ => exact .noted rfl

namespace Task.Reached

/-- Whatever a verification comes to, the moments tell how. -/
theorem known (reached : Reached harness world problem task) :
    task.Known harness world problem := by
  induction reached with
  | begun => trivial
  | advanced _ here ih => exact Stage.Known.advance ih here rfl

/-- More moments let a verification come to more. -/
theorem mono (grows : ∀ bench, world bench → wider bench)
    (reached : Reached harness world problem task) : Reached harness wider problem task := by
  induction reached with
  | begun => exact .begun
  | advanced _ here ih => exact .advanced ih (grows _ here)

end Task.Reached

end

end CorpusJudge
