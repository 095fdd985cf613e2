import CorpusJudge.Application.Run
import CorpusJudge.Proofs.Cache.Deliveries
import CorpusJudge.Proofs.Report.Compact
import CorpusJudge.Proofs.Summary

/-!
# What is kept of a run

While a run goes on, failures, totals and the text of the report are kept, each in its own way.  All
of them are functions of the outcomes that were delivered, and so a summary that is made of them
agrees with the report.
-/

namespace CorpusJudge

/-! ## What is kept of deliveries -/

/-- The failure that was delivered, unless it was a pass. -/
def Delivery.failure? (delivery : Delivery) : Option Failure :=
  if delivery.outcome.verdict.isPass then none
  else some {
    solution := delivery.outcome.solution
    verdict := delivery.outcome.verdict
    digest := (delivery.files.read delivery.outcome.solution).toOption.map Sha256.hexDigest }

namespace Application

/-- What is kept before the first delivery. -/
def Record.new (compact colored : Bool) : Record := ⟨[], .new compact colored, ""⟩

/-- What is kept of some deliveries. -/
def Record.of (compact colored : Bool) (deliveries : List Delivery) : Record :=
  let (text, reporter) :=
    (Reporter.new compact colored).recordAll (deliveries.map Delivery.outcome)
  ⟨deliveries.filterMap Delivery.failure?, reporter, text⟩

/-- What is kept of one more delivery. -/
def Record.keeping (record : Record) (delivery : Delivery) : Record where
  failures := record.failures ++ delivery.failure?.toList
  reporter := (record.reporter.record delivery.outcome).2
  text := record.text ++ (record.reporter.record delivery.outcome).1

theorem Record.of_concat (compact colored : Bool) (deliveries : List Delivery)
    (delivery : Delivery) :
    Record.of compact colored (deliveries ++ [delivery]) =
      (Record.of compact colored deliveries).keeping delivery := by
  have failures : [delivery].filterMap Delivery.failure? = delivery.failure?.toList := by
    rw [List.filterMap_cons, List.filterMap_nil]
    cases delivery.failure? <;> rfl
  simp [Record.of, Record.keeping, Reporter.recordAll_concat, List.filterMap_append, failures]

section

variable [Kernel]

theorem digest?_run (solution : Path) (bench : Workbench) :
    (digest? solution).run bench =
      match bench.machine.files.read solution with
      | .ok content => (some (Sha256.hexDigest content), bench)
      | .error error => (none, bench.noting (.digestMissing solution error)) := by
  simp only [digest?, Work.read, Work.run_bind, Work.run_files, Work.run_pure]
  cases bench.machine.files.read solution <;> rfl

theorem failure?_run (outcome : Outcome) (bench : Workbench) :
    ∃ left, left.machine = bench.machine ∧ left.requests = bench.requests ∧
      (failure? outcome).run bench = (Delivery.failure? ⟨outcome, bench.machine.files⟩, left) := by
  unfold failure? Delivery.failure?
  cases outcome.verdict.isPass with
  | true => exact ⟨bench, rfl, rfl, rfl⟩
  | false =>
      have digest := digest?_run outcome.solution bench
      simp only [Bool.false_eq_true, if_false, Work.run_bind, Work.run_pure]
      cases content : bench.machine.files.read outcome.solution with
      | ok bytes =>
          rw [content] at digest
          rw [digest]
          exact ⟨bench, rfl, rfl, rfl⟩
      | error error =>
          rw [content] at digest
          rw [digest]
          refine ⟨bench.noting (.digestMissing outcome.solution error), rfl, ?_, rfl⟩
          simp [Workbench.requests_noting, Event.request?]

/-- Keeping an outcome does nothing else than to note what cannot be read. -/
theorem keep_run (record : Record) (outcome : Outcome) (bench : Workbench) :
    ∃ left, left.machine = bench.machine ∧ left.requests = bench.requests ∧
      ((keep outcome).run record).run bench =
        ((.ok (), record.keeping ⟨outcome, bench.machine.files⟩), left) := by
  obtain ⟨left, same, requests, failure⟩ := failure?_run outcome bench
  refine ⟨left, same, requests, ?_⟩
  have unfolded : ((keep outcome).run record).run bench =
      let (failure, left) := (failure? outcome).run bench
      ((.ok (), {
        failures := record.failures ++ failure.toList
        reporter := (record.reporter.record outcome).2
        text := record.text ++ (record.reporter.record outcome).1 }), left) := rfl
  rw [unfolded, failure]
  rfl

theorem keep_spares (places : Location → Prop) : keep.Spares places := by
  intro outcome record bench
  obtain ⟨left, same, requests, kept⟩ := keep_run record outcome bench
  simp only [kept, same]
  exact ⟨.refl _ _, requests⟩

/-- Keeping outcomes is in step with keeping and watching them: what is kept is what is kept of the
deliveries. -/
theorem keep_inStep (compact colored : Bool) :
    keep.InStep keep.watched fun record mate =>
      mate.1 = record ∧ record = .of compact colored mate.2 := by
  rintro outcome record ⟨same, deliveries⟩ bench ⟨kept, follows⟩
  obtain rfl : same = record := kept
  obtain rfl : same = .of compact colored deliveries := follows
  obtain ⟨left, -, -, kept⟩ := keep_run (.of compact colored deliveries) outcome bench
  have watched := keep.watched_run outcome (.of compact colored deliveries) deliveries bench
  rw [kept] at watched
  exact ⟨_, _, _, left, kept, watched, rfl, (Record.of_concat ..).symm⟩

end

end Application

/-! ## What deliveries amount to -/

/-- The text for an outcome: a row may be taken back, the status line follows, and then the excerpt
unless the outcome was a pass. -/
def Reporter.Prints (reporter : Reporter) (outcome : Outcome) (text : String) : Prop :=
  ∃ lead, (lead = "" ∨ lead = overwritePrevious) ∧
    text = lead ++ reporter.statusLine outcome ++
      if outcome.verdict.isPass then "" else excerptLine outcome

namespace Delivery

/-- How many deliveries had a verdict. -/
def count (deliveries : List Delivery) (verdict : Verdict) : Nat :=
  deliveries.countP (·.outcome.verdict = verdict)

/-- How many deliveries had another verdict than a pass. -/
def countFailed (deliveries : List Delivery) : Nat :=
  deliveries.countP (·.outcome.verdict ≠ .pass)

section

open Json.Schema

/-- What is to be said of a delivery that was no pass: which solution it was, whether it was slow, and
the digest of its file as long as that could be read. -/
def told (delivery : Delivery) : Json.Schema :=
  object [
    ("solution", constant delivery.outcome.solution.text),
    ("verdict", constant (if delivery.outcome.verdict = .slow then "SLOW" else "FAIL")),
    ("sha256", constant (match delivery.files.read delivery.outcome.solution with
      | .ok content => Sha256.hexDigest content
      | .error _ => "UNKNOWN"))]

end

end Delivery

section

open Json.Schema

/-- What is to be said of how a run was asked for. -/
def RunTerms.told (invocation : Invocation) (settings : Settings) : Json.Schema :=
  object [
    ("resume_from", constantOrNull invocation.resumeFrom),
    ("corpus", constant settings.corpusDir.text),
    ("interpreter", constant settings.interpreter.program),
    ("timeout_ms", number settings.timeoutMs),
    ("jobs", number invocation.jobs),
    ("compact", truth invocation.compact)]

/-- What is to be said of a run by the deliveries that it made and by its own count of problems and of
solutions that it skipped. -/
def Summary.told (invocation : Invocation) (settings : Settings) (stats : RunStats)
    (deliveries : List Delivery) : Json.Schema :=
  object [
    ("schema_version", anything),
    ("tool", anything),
    ("invocation", RunTerms.told invocation settings),
    ("started_at", anything),
    ("finished_at", anything),
    ("duration_ms", anything),
    ("problems", number stats.problems),
    ("passes", number (Delivery.count deliveries .pass)),
    ("fails", number (Delivery.countFailed deliveries)),
    ("slow", number (Delivery.count deliveries .slow)),
    ("skipped", number stats.skipped),
    ("failures", items ((deliveries.filter (·.outcome.verdict ≠ .pass)).map Delivery.told))]

end

/-- A report shows some deliveries: something for each of them, and a last line with the numbers of
passes and of the others. -/
structure Reporter.Shows (compact colored : Bool) (deliveries : List Delivery) (output : String) :
    Prop where
  report : output = Reporter.report compact colored (deliveries.map Delivery.outcome)
  printed : ∃ texts, output = String.join texts ++
      s!"{Delivery.count deliveries .pass} passes, {Delivery.countFailed deliveries} fails" ++ "\n" ∧
    List.Forall₂ (fun delivery => (Reporter.new compact colored).Prints delivery.outcome)
      deliveries texts

theorem Reporter.recordAll_prints (reporter : Reporter) (outcomes : List Outcome) :
    ∃ texts, (reporter.recordAll outcomes).1 = String.join texts ∧
      List.Forall₂ reporter.Prints outcomes texts := by
  induction outcomes generalizing reporter with
  | nil => exact ⟨[], rfl, .nil⟩
  | cons outcome rest ih =>
      obtain ⟨texts, joined, prints⟩ := ih (reporter.record outcome).2
      refine ⟨(reporter.record outcome).1 :: texts, ?_, .cons ⟨_, ?_, rfl⟩ prints⟩
      · rw [String.join_cons, ← joined]
        rfl
      · split
        · exact .inr rfl
        · exact .inl rfl

/-- What is kept of a delivery says what is to be said of it. -/
theorem Delivery.told_failure? {delivery : Delivery} {failure : Failure}
    (failed : delivery.failure? = some failure) : delivery.told failure.toJson := by
  unfold failure? at failed
  split at failed
  · cases failed
  · next failing =>
      cases failed
      have verdict : delivery.outcome.verdict.label =
          if delivery.outcome.verdict = .slow then "SLOW" else "FAIL" := by
        cases same : delivery.outcome.verdict <;> simp_all [Verdict.isPass, Verdict.label]
      have digest : ((delivery.files.read delivery.outcome.solution).toOption.map
            Sha256.hexDigest).getD Failure.unknownDigest =
          match delivery.files.read delivery.outcome.solution with
          | .ok content => Sha256.hexDigest content
          | .error _ => "UNKNOWN" := by
        cases delivery.files.read delivery.outcome.solution <;> rfl
      exact Json.Schema.object_ofMembers (by simp) <|
        .cons ⟨rfl, Json.Schema.constant_ofText _⟩ <|
        .cons ⟨rfl, verdict ▸ Json.Schema.constant_ofText _⟩ <|
        .cons ⟨rfl, digest ▸ Json.Schema.constant_ofText _⟩ .nil

/-- What is kept of deliveries says what is to be said of those that were no passes. -/
theorem Delivery.told_failures (deliveries : List Delivery) :
    List.Forall₂ (fun delivery failure => delivery.told (Failure.toJson failure))
      (deliveries.filter (·.outcome.verdict ≠ .pass)) (deliveries.filterMap failure?) := by
  induction deliveries with
  | nil => exact .nil
  | cons delivery rest ih =>
      by_cases passed : delivery.outcome.verdict = .pass
      · simpa [failure?, Verdict.isPass, passed] using ih
      · have failed : delivery.failure?.isSome = true := by
          simp [failure?, Verdict.isPass, passed]
        obtain ⟨failure, same⟩ := Option.isSome_iff_exists.mp failed
        rw [List.filter_cons_of_pos (by simpa using passed), List.filterMap_cons_some same]
        exact .cons (Delivery.told_failure? same) ih

theorem Delivery.totals_of (deliveries : List Delivery) :
    Totals.of (deliveries.map outcome) =
      ⟨count deliveries .pass, countFailed deliveries, count deliveries .slow⟩ := by
  simp [Totals.of, count, countFailed, Verdict.isPass, Function.comp_def]

theorem RunTerms.told_toJson (invocation : Invocation) (settings : Settings) :
    RunTerms.told invocation settings (RunTerms.of invocation settings).toJson := by
  have resume : Json.Schema.constantOrNull invocation.resumeFrom
      ((invocation.resumeFrom.map Json.Value.ofText).getD .null) := by
    cases invocation.resumeFrom with
    | none => exact rfl
    | some name => exact Json.Schema.constant_ofText name
  exact Json.Schema.object_ofMembers (by simp) <|
    .cons ⟨rfl, resume⟩ <| .cons ⟨rfl, Json.Schema.constant_ofText _⟩ <|
    .cons ⟨rfl, Json.Schema.constant_ofText _⟩ <| .cons ⟨rfl, rfl⟩ <| .cons ⟨rfl, rfl⟩ <|
    .cons ⟨rfl, rfl⟩ .nil

namespace Application

theorem Record.totals_of (compact colored : Bool) (deliveries : List Delivery) :
    (Record.of compact colored deliveries).reporter.totals =
      ⟨Delivery.count deliveries .pass, Delivery.countFailed deliveries,
        Delivery.count deliveries .slow⟩ := by
  simp only [Record.of, Reporter.new_recordAll, Delivery.totals_of]

/-- A summary of what is kept of deliveries says what is to be said of them. -/
theorem Record.told {compact colored : Bool} {deliveries : List Delivery} {summary : Summary}
    {invocation : Invocation} {settings : Settings} (terms : summary.terms = .of invocation settings)
    (totals : summary.totals = (Record.of compact colored deliveries).reporter.totals)
    (failures : summary.failures = (Record.of compact colored deliveries).failures) :
    Summary.told invocation settings summary.stats deliveries summary.toJson := by
  rw [Record.totals_of] at totals
  have failed := Json.Schema.items_map (Delivery.told_failures deliveries)
  refine Json.Schema.object_ofMembers (by simp) <|
    .cons ⟨rfl, trivial⟩ <| .cons ⟨rfl, trivial⟩ <|
    .cons ⟨rfl, terms ▸ RunTerms.told_toJson invocation settings⟩ <|
    .cons ⟨rfl, trivial⟩ <| .cons ⟨rfl, trivial⟩ <| .cons ⟨rfl, trivial⟩ <|
    .cons ⟨rfl, rfl⟩ <| .cons ⟨rfl, ?_⟩ <| .cons ⟨rfl, ?_⟩ <| .cons ⟨rfl, ?_⟩ <|
    .cons ⟨rfl, rfl⟩ <| .cons ⟨rfl, ?_⟩ .nil
  · exact congrArg (fun totals => Json.Value.ofNat totals.passes) totals
  · exact congrArg (fun totals => Json.Value.ofNat totals.fails) totals
  · exact congrArg (fun totals => Json.Value.ofNat totals.slow) totals
  · rw [failures]
    exact failed

/-- The text that is kept of deliveries ends up as a report that shows them. -/
theorem Record.shows (compact colored : Bool) (deliveries : List Delivery) :
    Reporter.Shows compact colored deliveries
      ((Record.of compact colored deliveries).text ++
        (Record.of compact colored deliveries).reporter.finish) := by
  obtain ⟨texts, joined, prints⟩ := (Reporter.new compact colored).recordAll_prints
    (deliveries.map Delivery.outcome)
  refine ⟨rfl, texts, ?_, List.forall₂_map_left_iff.mp prints⟩
  rw [Reporter.finish, Record.totals_of, ← joined, String.append_assoc]
  rfl

/-- The failures that are kept of deliveries are acceptable to the schema. -/
theorem Record.acceptable (compact colored : Bool) (deliveries : List Delivery) (failure : Failure)
    (member : failure ∈ (Record.of compact colored deliveries).failures) :
    failure.verdict.isPass = false ∧ IsDigest (failure.digest.getD Failure.unknownDigest) := by
  obtain ⟨delivery, -, failed⟩ := List.mem_filterMap.mp member
  unfold Delivery.failure? at failed
  split at failed
  · cases failed
  · next failing =>
      cases failed
      refine ⟨by simpa using failing, ?_⟩
      cases delivery.files.read delivery.outcome.solution with
      | ok content => exact .inr (isHexDigest_hexDigest content)
      | error error => exact .inl rfl

end Application

end CorpusJudge
