import CorpusJudge.CommandLine
import CorpusJudge.Harness
import CorpusJudge.Instant
import CorpusJudge.Json.Writer
import CorpusJudge.Sha256

/-!
# Summaries

A run can leave a summary of itself: how it was asked for, when it took place, what it came to, and
which solutions did not pass.
-/

namespace CorpusJudge

/-- A solution that did not pass, and the digest of its file as long as that could be read. -/
structure Failure where
  solution : Path
  verdict : Verdict
  digest : Option String
  deriving DecidableEq, Repr

/-- How a run was asked for, with the settings that it had in the end. -/
structure RunTerms where
  resumeFrom : Option String
  corpus : Path
  program : String
  timeoutMs : Nat
  jobs : Nat
  compact : Bool
  deriving DecidableEq, Repr

/-- The summary of a run. -/
structure Summary where
  terms : RunTerms
  started : Instant
  finished : Instant
  durationMs : Nat
  stats : RunStats
  totals : Totals
  failures : List Failure
  deriving DecidableEq, Repr

/-- How a run was asked for, under settings. -/
def RunTerms.of (invocation : Invocation) (settings : Settings) : RunTerms where
  resumeFrom := invocation.resumeFrom
  corpus := settings.corpusDir
  program := settings.interpreter.program
  timeoutMs := settings.timeoutMs
  jobs := invocation.jobs
  compact := invocation.compact

/-- The terms as a JSON object. -/
def RunTerms.toJson (terms : RunTerms) : Json.Value :=
  .ofMembers [
    ("resume_from", (terms.resumeFrom.map Json.Value.ofText).getD .null),
    ("corpus", .ofText terms.corpus.text),
    ("interpreter", .ofText terms.program),
    ("timeout_ms", .ofNat terms.timeoutMs),
    ("jobs", .ofNat terms.jobs),
    ("compact", .boolean terms.compact)]

namespace Failure

/-- What stands in place of a digest that is missing. -/
def unknownDigest : String := "UNKNOWN"

/-- The failure as a JSON object. -/
def toJson (failure : Failure) : Json.Value :=
  .ofMembers [
    ("solution", .ofText failure.solution.text),
    ("verdict", .ofText failure.verdict.label),
    ("sha256", .ofText (failure.digest.getD unknownDigest))]

end Failure

namespace Summary

/-- The version of the format. -/
def schemaVersion : String := "0.1"

/-- The program as a JSON object. -/
def toolJson : Json.Value :=
  .ofMembers [
    ("name", .ofText CommandLine.programName),
    ("version", .ofText CommandLine.programVersion)]

/-- The summary as a JSON object. -/
def toJson (summary : Summary) : Json.Value :=
  .ofMembers [
    ("schema_version", .ofText schemaVersion),
    ("tool", toolJson),
    ("invocation", summary.terms.toJson),
    ("started_at", .ofText summary.started.toUtcString),
    ("finished_at", .ofText summary.finished.toUtcString),
    ("duration_ms", .ofNat summary.durationMs),
    ("problems", .ofNat summary.stats.problems),
    ("passes", .ofNat summary.totals.passes),
    ("fails", .ofNat summary.totals.fails),
    ("slow", .ofNat summary.totals.slow),
    ("skipped", .ofNat summary.stats.skipped),
    ("failures", .array (summary.failures.map Failure.toJson))]

/-- The document that holds the summary. -/
def document (summary : Summary) : Bytes :=
  Json.document summary.toJson

end Summary

end CorpusJudge
