import CorpusJudge.Proofs.Json.Schema
import CorpusJudge.Summary
import Mathlib.Algebra.Ring.Nat

/-!
# Summaries

The document of a summary is read back as the summary, and keeps the schema of its format.
-/

namespace CorpusJudge

/-! ## Texts in a summary -/

/-- The text has a digit wherever the mask has a zero, and otherwise the same characters. -/
def FitsMask (mask text : String) : Prop :=
  List.Forall₂ (fun sign character => if sign = '0' then character.isDigit = true else character = sign)
    mask.toList text.toList

/-- A text of 64 lower-case hexadecimal digits. -/
def IsHexDigest (text : String) : Prop :=
  text.toList.length = 64 ∧ ∀ digit ∈ text.toList, IsHexDigit digit

/-- A text that stands for a digest, or for one that is not known. -/
def IsDigest (text : String) : Prop :=
  text = "UNKNOWN" ∨ IsHexDigest text

section

open Json.Schema

/-- What is acceptable as the terms of a run. -/
def RunTerms.schema : Json.Schema :=
  object [
    ("resume_from", nullable anyText),
    ("corpus", anyText),
    ("interpreter", anyText),
    ("timeout_ms", integer 1),
    ("jobs", integer 1),
    ("compact", boolean)]

/-- What is acceptable as a failure. -/
def Failure.schema : Json.Schema :=
  object [
    ("solution", anyText),
    ("verdict", oneOf ["FAIL", "SLOW"]),
    ("sha256", text IsDigest)]

namespace Summary

/-- What is acceptable as the program that left the summary. -/
def toolSchema : Json.Schema :=
  object [("name", constant "gsverify"), ("version", anyText)]

/-- The schema of the format. -/
def schema : Json.Schema :=
  object [
    ("schema_version", constant "0.1"),
    ("tool", toolSchema),
    ("invocation", RunTerms.schema),
    ("started_at", text (FitsMask "0000-00-00T00:00:00Z")),
    ("finished_at", text (FitsMask "0000-00-00T00:00:00Z")),
    ("duration_ms", integer 0),
    ("problems", integer 0),
    ("passes", integer 0),
    ("fails", integer 0),
    ("slow", integer 0),
    ("skipped", integer 0),
    ("failures", array Failure.schema)]

end Summary

end

namespace FitsMask

theorem append {mask otherMask text other : String} (front : FitsMask mask text)
    (back : FitsMask otherMask other) : FitsMask (mask ++ otherMask) (text ++ other) := by
  unfold FitsMask
  rw [String.toList_append, String.toList_append]
  exact List.rel_append front back

theorem same {mask : String} (marks : '0' ∉ mask.toList) : FitsMask mask mask :=
  List.forall₂_same.mpr fun sign member => by
    rw [if_neg fun zero : sign = '0' => marks (zero ▸ member)]

theorem digits {mask text : String}
    (zeros : mask.toList = List.replicate text.toList.length '0')
    (row : ∀ digit ∈ text.toList, digit.isDigit = true) : FitsMask mask text := by
  unfold FitsMask
  rw [zeros]
  clear zeros
  revert row
  generalize text.toList = characters
  intro row
  induction characters with
  | nil => exact .nil
  | cons digit rest ih =>
      obtain ⟨first, others⟩ := List.forall_mem_cons.mp row
      exact .cons (by rw [if_pos rfl]; exact first) (ih others)

end FitsMask

/-! ## Points in time -/

namespace Instant

/-- The year of the date. -/
def year (instant : Instant) : Int :=
  (dateOfDay (instant.seconds / 86400)).1

/-- The date is of a year that is written with four digits. -/
def IsCivil (instant : Instant) : Prop :=
  0 ≤ instant.year ∧ instant.year ≤ 9999

instance (instant : Instant) : Decidable instant.IsCivil :=
  inferInstanceAs (Decidable (_ ∧ _))

theorem dateOfDay_bounds (days : Int) :
    (dateOfDay days).2.1 < 100 ∧ (dateOfDay days).2.2 < 100 := by
  simp only [dateOfDay]
  split
  all_goals constructor <;> omega

/-- A number that is not too long is written with as many digits as are asked for. -/
theorem padded_digits {width value : Nat} (positive : 0 < width) (short : value < 10 ^ width) :
    (padded width value).toList.length = width ∧
      ∀ digit ∈ (padded width value).toList, digit.isDigit = true := by
  have most := (Nat.length_toDigits_le_iff (by decide) positive).mpr short
  simp only [padded, String.toList_ofList, List.length_append, List.length_replicate]
  refine ⟨Nat.sub_add_cancel most, fun digit member => ?_⟩
  rcases List.mem_append.mp member with zero | member
  · rw [List.eq_of_mem_replicate zero]
    rfl
  · exact Json.toDigits_isDigit member

theorem padded_fits {width value : Nat} (positive : 0 < width) (short : value < 10 ^ width)
    {mask : String} (zeros : mask.toList = List.replicate width '0') :
    FitsMask mask (padded width value) := by
  obtain ⟨length, row⟩ := padded_digits positive short
  exact .digits (by rw [zeros, length]) row

theorem toUtcString_eq (instant : Instant) :
    instant.toUtcString =
      padded 4 (dateOfDay (instant.seconds / 86400)).1.toNat ++ "-" ++
        padded 2 (dateOfDay (instant.seconds / 86400)).2.1 ++ "-" ++
        padded 2 (dateOfDay (instant.seconds / 86400)).2.2 ++ "T" ++
      (padded 2 ((instant.seconds % 86400).toNat / 3600) ++ ":" ++
        padded 2 ((instant.seconds % 86400).toNat / 60 % 60) ++ ":" ++
        padded 2 ((instant.seconds % 86400).toNat % 60)) ++ "Z" := rfl

/-- Date and time of a civil year fit their mask. -/
theorem IsCivil.toUtcString_fits {instant : Instant} (civil : instant.IsCivil) :
    FitsMask "0000-00-00T00:00:00Z" instant.toUtcString := by
  obtain ⟨lower, upper⟩ := civil
  obtain ⟨month, day⟩ := dateOfDay_bounds (instant.seconds / 86400)
  have second : (instant.seconds % 86400).toNat < 86400 := by omega
  have year : (dateOfDay (instant.seconds / 86400)).1.toNat < 10 ^ 4 := by
    unfold Instant.year at upper
    omega
  rw [toUtcString_eq]
  generalize (dateOfDay (instant.seconds / 86400)).1.toNat = years at year
  generalize (dateOfDay (instant.seconds / 86400)).2.1 = months at month
  generalize (dateOfDay (instant.seconds / 86400)).2.2 = days at day
  generalize (instant.seconds % 86400).toNat = seconds at second
  have two {value : Nat} (short : value < 10 ^ 2) : FitsMask "00" (padded 2 value) :=
    padded_fits (by decide) short rfl
  have hyphen : FitsMask "-" "-" := .same (by decide)
  have colon : FitsMask ":" ":" := .same (by decide)
  have date : FitsMask ("0000" ++ "-" ++ "00" ++ "-" ++ "00")
      (padded 4 years ++ "-" ++ padded 2 months ++ "-" ++ padded 2 days) :=
    ((((padded_fits (by decide) year rfl).append hyphen).append (two month)).append hyphen).append
      (two day)
  have time : FitsMask ("00" ++ ":" ++ "00" ++ ":" ++ "00") (padded 2 (seconds / 3600) ++ ":" ++
      padded 2 (seconds / 60 % 60) ++ ":" ++ padded 2 (seconds % 60)) :=
    ((((two (by omega)).append colon).append (two (by omega))).append colon).append (two (by omega))
  have whole := ((date.append (show FitsMask "T" "T" from .same (by decide))).append time).append
    (show FitsMask "Z" "Z" from .same (by decide))
  exact whole

end Instant

/-! ## Digests -/

theorem Sha256.length_digest (message : Bytes) : (digest message).length = 32 := by
  simp [digest, digestFrom, Registers.words, bigEndian]

theorem isHexDigest_hexDigest (content : Bytes) : IsHexDigest (Sha256.hexDigest content) :=
  ⟨by rw [Sha256.hexDigest, Bytes.length_toHex, Sha256.length_digest],
    fun _ member => Bytes.toHex_isHexDigit member⟩

/-! ## Documents -/

theorem RunTerms.isWritable_toJson (terms : RunTerms) : Json.IsWritable terms.toJson := by
  refine .ofMembers (List.forall_mem_cons.mpr ⟨?_, ?_⟩)
  · cases terms.resumeFrom with
    | none => exact .null
    | some name => exact .ofText name
  · simp [Json.IsWritable.ofText, Json.IsWritable.ofNat, Json.IsWritable.boolean]

theorem Failure.isWritable_toJson (failure : Failure) : Json.IsWritable failure.toJson :=
  .ofMembers (by simp [Json.IsWritable.ofText])

namespace Summary

theorem isWritable_toolJson : Json.IsWritable toolJson :=
  .ofMembers (by simp [Json.IsWritable.ofText])

theorem isWritable_toJson (summary : Summary) : Json.IsWritable summary.toJson := by
  have failures : Json.IsWritable (.array (summary.failures.map Failure.toJson)) := by
    refine .array fun value mapped => ?_
    obtain ⟨failure, -, rfl⟩ := List.mem_map.mp mapped
    exact failure.isWritable_toJson
  exact .ofMembers (by
    simp [Json.IsWritable.ofText, Json.IsWritable.ofNat, isWritable_toolJson,
      summary.terms.isWritable_toJson, failures])

/-- The document is read back as the summary. -/
theorem read?_document (summary : Summary) :
    Json.read? summary.document = some summary.toJson :=
  Json.read?_document summary.isWritable_toJson

end Summary

/-! ## What is acceptable -/

section

open Json.Schema

/-- The terms of a run with time and workers are acceptable. -/
theorem RunTerms.schema_toJson {terms : RunTerms} (timed : 1 ≤ terms.timeoutMs)
    (someone : 1 ≤ terms.jobs) : RunTerms.schema terms.toJson := by
  have resume : nullable anyText ((terms.resumeFrom.map Json.Value.ofText).getD .null) := by
    cases terms.resumeFrom with
    | none => exact .inl rfl
    | some name => exact .inr (anyText_ofText name)
  exact object_ofMembers (by decide) <|
    .cons ⟨rfl, resume⟩ <| .cons ⟨rfl, anyText_ofText _⟩ <| .cons ⟨rfl, anyText_ofText _⟩ <|
    .cons ⟨rfl, integer_ofNat timed⟩ <| .cons ⟨rfl, integer_ofNat someone⟩ <|
    .cons ⟨rfl, boolean_boolean _⟩ .nil

/-- A failure is acceptable if it is one, and if a digest stands where one is asked for. -/
theorem Failure.schema_toJson {failure : Failure}
    (failed : failure.verdict.isPass = false)
    (digest : IsDigest (failure.digest.getD Failure.unknownDigest)) :
    Failure.schema failure.toJson := by
  have verdict : failure.verdict.label ∈ ["FAIL", "SLOW"] := by
    cases same : failure.verdict <;> simp_all [Verdict.isPass, Verdict.label]
  exact object_ofMembers (by decide) <|
    .cons ⟨rfl, anyText_ofText _⟩ <| .cons ⟨rfl, text_ofText verdict⟩ <|
    .cons ⟨rfl, text_ofText digest⟩ .nil

namespace Summary

theorem toolSchema_toolJson : toolSchema toolJson :=
  object_ofMembers (by decide) <|
    .cons ⟨rfl, constant_ofText _⟩ <| .cons ⟨rfl, anyText_ofText _⟩ .nil

/-- A summary keeps the schema if its run had time and workers, took place in years of four digits,
and lists failures with their digests. -/
theorem schema_toJson {summary : Summary} (timed : 1 ≤ summary.terms.timeoutMs)
    (someone : 1 ≤ summary.terms.jobs) (started : summary.started.IsCivil)
    (finished : summary.finished.IsCivil)
    (failed : ∀ failure ∈ summary.failures, failure.verdict.isPass = false)
    (digests : ∀ failure ∈ summary.failures,
      IsDigest (failure.digest.getD Failure.unknownDigest)) :
    schema summary.toJson := by
  have terms := RunTerms.schema_toJson timed someone
  have failures : array Failure.schema (.array (summary.failures.map Failure.toJson)) :=
    array_map fun failure member => Failure.schema_toJson (failed failure member)
      (digests failure member)
  have number (value : Nat) : integer 0 (.ofNat value) := integer_ofNat (Nat.zero_le value)
  exact object_ofMembers (by decide) <|
    .cons ⟨rfl, constant_ofText _⟩ <| .cons ⟨rfl, toolSchema_toolJson⟩ <| .cons ⟨rfl, terms⟩ <|
    .cons ⟨rfl, text_ofText started.toUtcString_fits⟩ <|
    .cons ⟨rfl, text_ofText finished.toUtcString_fits⟩ <|
    .cons ⟨rfl, number _⟩ <| .cons ⟨rfl, number _⟩ <| .cons ⟨rfl, number _⟩ <|
    .cons ⟨rfl, number _⟩ <| .cons ⟨rfl, number _⟩ <| .cons ⟨rfl, number _⟩ <|
    .cons ⟨rfl, failures⟩ .nil

end Summary

end

end CorpusJudge
