import CorpusJudge.Proofs.Harness.Responses
import CorpusJudge.Proofs.Harness.Stages

/-!
# Settled problems

Problems are settled when what their verification comes to depends on nothing but the problem, no
matter what else happens on the workbench between its steps.  A run over settled problems hands the
sink what each of them comes to, one after the other.
-/

namespace CorpusJudge

variable [Kernel]

/-- The tasks that the verification of a problem can come to when each of its steps meets some
workbench of a world, whichever that is. -/
inductive Task.Reached (harness : Harness) (world : Workbench → Prop) (problem : Problem) :
    Task → Prop where
  | begun : Reached harness world problem (.underway .loading)
  | advanced {stage : Stage} {bench : Workbench} :
      Reached harness world problem (.underway stage) → world bench →
      Reached harness world problem ((stage.advance harness problem).run bench).1

/-- The problems are settled in a world of workbenches: verifying one stays inside that world and
can only end with what was found about it. -/
structure Harness.Settled (harness : Harness) (world : Workbench → Prop) (problems : List Problem)
    (found : Problem → Verified) : Prop where
  keeps : ∀ problem ∈ problems, ∀ stage bench,
    Task.Reached harness world problem (.underway stage) → world bench →
      world ((stage.advance harness problem).run bench).2
  yields : ∀ problem ∈ problems, ∀ verified,
    Task.Reached harness world problem (.finished verified) → verified = found problem

namespace Task.Reached

variable {harness : Harness} {world : Workbench → Prop} {problem : Problem}

theorem of_advance {stage : Stage} {bench left : Workbench} {task : Task}
    (reached : Reached harness world problem (.underway stage)) (here : world bench)
    (next : (stage.advance harness problem).run bench = (task, left)) :
    Reached harness world problem task := by
  have advanced := Reached.advanced reached here
  rwa [next] at advanced

variable {bench : Workbench}

/-- Choosing among solutions comes to an end, with the outcomes so far in front. -/
theorem choosing_finishes (here : world bench) {metadata : Metadata} {skipped : Nat}
    {outcomes : List Outcome} {paths : List Path}
    (reached : Reached harness world problem
      (.underway (.choosing metadata skipped outcomes paths))) :
    ∃ verified, Reached harness world problem (.finished verified) ∧
      outcomes <+: verified.outcomes := by
  induction paths generalizing skipped outcomes with
  | nil =>
      exact ⟨_, reached.of_advance here (Stage.advance_choosing_nil ..), List.prefix_rfl⟩
  | cons path rest ih =>
      have choice := Stage.advance_choosing_cons harness problem bench metadata skipped outcomes
        path rest
      rcases chosen : (harness.eligible? metadata path).run bench with ⟨eligible, left⟩
      rw [chosen] at choice
      cases eligible with
      | false => exact ih (reached.of_advance here choice)
      | true =>
          have executing := reached.of_advance here choice
          have execution := Stage.advance_executing harness problem bench metadata skipped outcomes
            path rest
          rcases judged : (harness.judge path metadata.inputBytes metadata.expectedBytes).run bench
            with ⟨reply, left⟩
          rw [judged] at execution
          cases reply with
          | error error => exact ⟨_, executing.of_advance here execution, List.prefix_rfl⟩
          | ok outcome =>
              obtain ⟨verified, finished, longer⟩ := ih (executing.of_advance here execution)
              exact ⟨verified, finished, (List.prefix_append outcomes [outcome]).trans longer⟩

theorem listing_finishes (here : world bench) {document : Bytes}
    (reached : Reached harness world problem (.underway (.listing document))) :
    ∃ verified, Reached harness world problem (.finished verified) := by
  have listing := Stage.advance_listing harness problem bench document
  cases sense : Metadata.ofDocument? document with
  | none =>
      rw [sense] at listing
      exact ⟨_, reached.of_advance here listing⟩
  | some metadata =>
      rw [sense] at listing
      cases listed : problem.listSolutions bench.machine.files with
      | error error =>
          rw [listed] at listing
          exact ⟨_, reached.of_advance here listing⟩
      | ok paths =>
          rw [listed] at listing
          obtain ⟨verified, finished, -⟩ :=
            choosing_finishes here (reached.of_advance here listing)
          exact ⟨verified, finished⟩

theorem storing_finishes (here : world bench) {document : Bytes}
    (reached : Reached harness world problem (.underway (.storing document))) :
    ∃ verified, Reached harness world problem (.finished verified) := by
  have storing := Stage.advance_storing harness problem bench document
  rcases written : (Work.write problem.metadataPath document).run bench with ⟨reply, left⟩
  rw [written] at storing
  cases reply with
  | error error => exact ⟨_, reached.of_advance here storing⟩
  | ok _ => exact listing_finishes here (reached.of_advance here storing)

theorem fetching_finishes (here : world bench)
    (reached : Reached harness world problem (.underway .fetching)) :
    ∃ verified, Reached harness world problem (.finished verified) := by
  have fetching := Stage.advance_fetching harness problem bench
  cases fetched : harness.source problem.name with
  | error error =>
      rw [fetched] at fetching
      exact ⟨_, reached.of_advance here fetching⟩
  | ok document =>
      rw [fetched] at fetching
      exact storing_finishes here (reached.of_advance here fetching)

theorem loading_finishes (here : world bench)
    (reached : Reached harness world problem (.underway .loading)) :
    ∃ verified, Reached harness world problem (.finished verified) := by
  have loading := Stage.advance_loading harness problem bench
  cases loaded : loadCached bench.machine.files problem.metadataPath with
  | error error =>
      rw [loaded] at loading
      exact ⟨_, reached.of_advance here loading⟩
  | ok content? =>
      rw [loaded] at loading
      cases content? with
      | none => exact fetching_finishes here (reached.of_advance here loading)
      | some document => exact listing_finishes here (reached.of_advance here loading)

/-- Every verification underway can be carried to its end, and keeps the outcomes it has. -/
theorem finishes (here : world bench) {stage : Stage}
    (reached : Reached harness world problem (.underway stage)) :
    ∃ verified, Reached harness world problem (.finished verified) ∧
      (Task.underway stage).outcomes <+: verified.outcomes := by
  have fromNothing (ended : ∃ verified, Reached harness world problem (.finished verified)) :
      ∃ verified, Reached harness world problem (.finished verified) ∧
        [] <+: verified.outcomes := by
    obtain ⟨verified, finished⟩ := ended
    exact ⟨verified, finished, List.nil_prefix⟩
  cases stage with
  | loading => exact fromNothing (loading_finishes here reached)
  | fetching => exact fromNothing (fetching_finishes here reached)
  | storing document => exact fromNothing (storing_finishes here reached)
  | listing document => exact fromNothing (listing_finishes here reached)
  | choosing metadata skipped outcomes paths => exact choosing_finishes here reached
  | executing metadata skipped outcomes path rest =>
      have execution := Stage.advance_executing harness problem bench metadata skipped outcomes
        path rest
      rcases judged : (harness.judge path metadata.inputBytes metadata.expectedBytes).run bench
        with ⟨reply, left⟩
      rw [judged] at execution
      cases reply with
      | error error => exact ⟨_, reached.of_advance here execution, List.prefix_rfl⟩
      | ok outcome =>
          obtain ⟨verified, finished, longer⟩ :=
            choosing_finishes here (reached.of_advance here execution)
          exact ⟨verified, finished, (List.prefix_append outcomes [outcome]).trans longer⟩

/-- A verification that has just added an outcome still has to choose among solutions. -/
theorem exists_choosing {stage : Stage} {bench left : Workbench} {task : Task} {outcome : Outcome}
    (next : (stage.advance harness problem).run bench = (task, left))
    (added : task.outcomes = (Task.underway stage).outcomes ++ [outcome]) :
    ∃ later : Stage, task = .underway later := by
  cases Stage.step_of_advance next with
  | judged => exact ⟨_, rfl⟩
  | _ => simp [outcomes, Verified.passedOver] at added

end Task.Reached

namespace Harness.Settled

variable {σ : Type} {harness : Harness} {world : Workbench → Prop} {problems : List Problem}
variable {found : Problem → Verified} {sink : Sink σ} {respond : Response σ}

/-- A worker who is alone hands on what was found about the problem, beyond the outcomes that the
task had already come to. -/
theorem alone (settled : harness.Settled world problems found) (responds : sink.Responds respond)
    (keeps : sink.Keeps world) {problem : Problem} (member : problem ∈ problems) {task : Task}
    {state : σ} {bench : Workbench} {ended : Completed σ ProblemStats}
    (led : Task.Alone harness sink problem task state bench ended)
    (reached : Task.Reached harness world problem task) (here : world bench) :
    world ended.bench ∧ ∃ rest, (found problem).outcomes = task.outcomes ++ rest ∧
      (ended.value, ended.state) =
        match respond.hand rest state with
        | (.ok (), after) => ((found problem).result, after)
        | (.error error, after) => (.error error, after) := by
  induction led with
  | finished verified state bench =>
      have same := settled.yields problem member verified reached
      subst same
      exact ⟨here, [], by simp [Task.outcomes], rfl⟩
  | @step stage state bench left task ended next same led ih =>
      have there := settled.keeps problem member stage bench reached here
      rw [next] at there
      obtain ⟨inside, rest, all, handed⟩ := ih (reached.of_advance here next) there
      exact ⟨inside, rest, by rw [all, same], handed⟩
  | @taken stage state after bench left given task outcome ended next added called led ih =>
      have there := settled.keeps problem member stage bench reached here
      rw [next] at there
      have kept := keeps outcome state left there
      rw [called] at kept
      obtain ⟨inside, rest, all, handed⟩ := ih (reached.of_advance here next) kept
      refine ⟨inside, outcome :: rest, by rw [all, added, List.append_assoc]; rfl, ?_⟩
      have response := responds outcome state left
      rw [called] at response
      simp only [Response.hand, ← response]
      exact handed
  | @refused stage state after bench left given task outcome reason next added called =>
      have there := settled.keeps problem member stage bench reached here
      rw [next] at there
      have kept := keeps outcome state left there
      rw [called] at kept
      -- carried on, the verification would end with what was found: so this outcome is part of it
      obtain ⟨stage, rfl⟩ := Task.Reached.exists_choosing next added
      obtain ⟨verified, finished, more, all⟩ := (reached.of_advance here next).finishes there
      have same := settled.yields problem member verified finished
      subst same
      refine ⟨kept, outcome :: more, by rw [← all, added, List.append_assoc]; rfl, ?_⟩
      have response := responds outcome state left
      rw [called] at response
      simp only [Response.hand, ← response]

/-- Verifying a settled problem hands on what was found about it. -/
theorem verifyProblem (settled : harness.Settled world problems found)
    (responds : sink.Responds respond) (keeps : sink.Keeps world) {problem : Problem}
    (member : problem ∈ problems) (state : σ) {bench : Workbench} (here : world bench) :
    let ended := (harness.verifyProblem sink problem).complete state bench
    world ended.bench ∧ (ended.value, ended.state) =
      match respond.hand (found problem).outcomes state with
      | (.ok (), after) => ((found problem).result, after)
      | (.error error, after) => (.error error, after) := by
  obtain ⟨inside, rest, all, handed⟩ := settled.alone responds keeps member
    (Task.Alone.verifyProblem harness sink problem state bench) .begun here
  have all : (found problem).outcomes = rest := all
  exact ⟨inside, by rw [handed, all]⟩

/-- A run over settled problems hands on what was found about them, in order, on top of the stats of
problems before them. -/
theorem runFrom (settled : harness.Settled world problems found)
    (responds : sink.Responds respond) (keeps : sink.Keeps world) {rest : List Problem}
    (within : rest ⊆ problems) (stats : RunStats) (state : σ) {bench : Workbench}
    (here : world bench) :
    let ended := (harness.runFrom sink stats rest).complete state bench
    world ended.bench ∧
      (ended.value, ended.state) = respond.replayAll stats (rest.map found) state := by
  induction rest generalizing stats state bench with
  | nil => exact ⟨here, rfl⟩
  | cons problem rest ih =>
      obtain ⟨inside, handed⟩ := settled.verifyProblem responds keeps
        (within List.mem_cons_self) state here
      simp only [Harness.complete_runFrom_cons, List.map_cons, Response.replayAll, Response.replay]
      rcases verified : (harness.verifyProblem sink problem).complete state bench with
        ⟨value, after, left⟩
      rw [verified] at inside handed
      rcases offered : respond.hand (found problem).outcomes state with ⟨reply, next⟩
      rw [offered] at handed
      cases reply with
      | error error =>
          obtain ⟨rfl, rfl⟩ := Prod.mk.inj handed
          exact ⟨inside, rfl⟩
      | ok _ =>
          obtain ⟨rfl, rfl⟩ := Prod.mk.inj handed
          cases (found problem).result with
          | error error => exact ⟨inside, rfl⟩
          | ok found =>
              exact ih (fun _ other => within (List.mem_cons_of_mem _ other))
                (stats.absorb found) after inside

end Harness.Settled

end CorpusJudge
