import CorpusJudge.Instant.Reading
import CorpusJudge.Proofs.Application.Configuring
import CorpusJudge.Proofs.Eligibility

/-!
# Times at which solutions count

A solution counts from a first admissible date on, and outside the windows of time of its author.  Both
are compared with a submission time, which is a number of whole seconds in the range of time stamps.

The date is known to the nanosecond.  Submission times are compared with the whole second in which it
lies: whoever submits before that second is too early, but whoever submits at its start passes,
although the date itself is later if it does not fall on a whole second.

The bounds of a window are computed in the range of time stamps, where a bound beyond the range counts
as the end of it.  That loses nothing but the two ends of the range themselves, and nothing at all for
a window whose bounds are time stamps, which is what settings have to keep.
-/

namespace CorpusJudge

/-! ## The first admissible date -/

namespace Instant

/-- The instant some whole seconds after the start of 1970. -/
def atSecond (seconds : Int) : Instant := ⟨seconds, 0⟩

/-- The order of time.  A leap second lies behind the second that it prolongs and before the next. -/
def Before (earlier later : Instant) : Prop :=
  earlier.seconds < later.seconds ∨
    earlier.seconds = later.seconds ∧ earlier.nanos < later.nanos

instance (earlier later : Instant) : Decidable (earlier.Before later) :=
  inferInstanceAs (Decidable (_ ∨ _))

/-- A second begins before an instant if it is an earlier one than that of the instant, or if the
instant lies behind the start of that very second. -/
theorem atSecond_before {seconds : Int} {later : Instant} :
    (atSecond seconds).Before later ↔
      seconds < later.seconds ∨ seconds = later.seconds ∧ 0 < later.nanos :=
  Iff.rfl

end Instant

namespace Rules

variable {rules : Rules} {metadata : Metadata} {solution : Solution} {time : Int}

/-- A check that passes is of a solution that keeps every rule at the time in its name. -/
theorem check_eq_ok_iff_keeps (dated : CarriesTime solution.fileName time) :
    rules.check metadata solution = .ok () ↔ rules.Keeps metadata solution time := by
  rw [check_eq_ok, ← exists_keeps_iff]
  constructor
  · rintro ⟨other, keeps⟩
    rwa [dated.unique keeps.dated]
  · exact fun keeps => ⟨time, keeps⟩

/-- A check that fails because of the date is of a solution from before the second of the date. -/
theorem early_of_check {early : Int}
    (failed : rules.check metadata solution = .error (.beforeMinDate early)) :
    CarriesTime solution.fileName early ∧ early < rules.minDate.seconds :=
  (check_eq_error.1 failed).1

/-- A solution that is checked fails because of the date only if it was submitted before the date.
If it was and passes all the same, then it was submitted at the start of the second in which the date
lies.  So whenever the date falls on the start of a second, and for all other seconds in any case,
nothing that was submitted before the date passes, whatever the problem and the source are. -/
theorem check_minDate (rules : Rules) (metadata : Metadata) (solution : Solution) (time : Int)
    (dated : CarriesTime solution.fileName time) :
    (∀ early, rules.check metadata solution = .error (.beforeMinDate early) →
      early = time ∧ (Instant.atSecond time).Before rules.minDate) ∧
    (rules.check metadata solution = .ok () ∧ (Instant.atSecond time).Before rules.minDate ↔
      time = rules.minDate.seconds ∧ 0 < rules.minDate.nanos ∧
        rules.Keeps metadata solution time) ∧
    (rules.minDate.nanos = 0 ∨ time ≠ rules.minDate.seconds →
      (Instant.atSecond time).Before rules.minDate →
        rules.check metadata solution ≠ .ok ()) := by
  have passes : rules.check metadata solution = .ok () ∧
      (Instant.atSecond time).Before rules.minDate ↔
        time = rules.minDate.seconds ∧ 0 < rules.minDate.nanos ∧
          rules.Keeps metadata solution time := by
    rw [check_eq_ok_iff_keeps dated, Instant.atSecond_before]
    constructor
    · rintro ⟨keeps, earlier | ⟨same, behind⟩⟩
      · exact absurd keeps.recent (Int.not_le.mpr earlier)
      · exact ⟨same, behind, keeps⟩
    · rintro ⟨same, behind, keeps⟩
      exact ⟨keeps, .inr ⟨same, behind⟩⟩
  refine ⟨fun early failed => ?_, passes, fun apart before passed => ?_⟩
  · obtain ⟨carried, earlier⟩ := early_of_check failed
    obtain rfl := carried.unique dated
    exact ⟨rfl, .inl earlier⟩
  · obtain ⟨same, behind, -⟩ := passes.1 ⟨passed, before⟩
    rcases apart with whole | differs
    · exact absurd behind (by simp [whole])
    · exact differs same

/-- The last second of 2007 is too early for the built-in rules. -/
theorem check_minDate_sample :
    let solution : Solution := ⟨⟨"gs/a.1199145599.gs"⟩, "a.1199145599.gs", Bytes.ofString "1"⟩
    CarriesTime solution.fileName 1199145599 ∧
      Rules.standard.check ⟨"", "1"⟩ solution ≠ .ok () := by
  intro solution
  have dated : CarriesTime solution.fileName 1199145599 := timestampOf_eq_ok.1 (by decide +kernel)
  obtain ⟨-, -, rejects⟩ := check_minDate .standard ⟨"", "1"⟩ solution 1199145599 dated
  exact ⟨dated, rejects (.inl rfl) (by decide)⟩

/-- With a date half a second into 2008, a solution from the first second of that year passes, although
it was submitted before the date. -/
theorem check_passes_before_minDate :
    let rules : Rules := { Rules.standard with minDate := ⟨1199145600, 500000000⟩ }
    let solution : Solution := ⟨⟨"gs/a.1199145600.gs"⟩, "a.1199145600.gs", Bytes.ofString "1"⟩
    Instant.ofText? "2008-01-01T00:00:00.5Z" = some rules.minDate ∧
      CarriesTime solution.fileName 1199145600 ∧
      (Instant.atSecond 1199145600).Before rules.minDate ∧
      rules.check ⟨"", "1"⟩ solution = .ok () := by
  intro rules solution
  exact ⟨by decide +kernel, timestampOf_eq_ok.1 (by decide +kernel), by decide, by decide +kernel⟩

end Rules

/-! ## Windows of time -/

namespace Integer

variable {value time : Int}

/-- Clamping only moves a lower bound up to the start of the range. -/
theorem clamp_lt_iff (high : time ≤ greatest) : clamp value < time ↔ value < time ∧ least < time := by
  unfold clamp
  omega

/-- Clamping only moves an upper bound down to the end of the range. -/
theorem lt_clamp_iff (low : least ≤ time) : time < clamp value ↔ time < value ∧ time < greatest := by
  unfold clamp
  omega

end Integer

namespace Window

variable {window : Window} {fileName : String} {time : Int}

/-- The file is one of the author's, and its time lies strictly between the bounds of the window, which
are any numbers. -/
structure Encloses (window : Window) (fileName : String) (time : Int) : Prop where
  authored : window.author.toList <+: fileName.toList
  later : window.center - window.radius < time
  earlier : time < window.center + window.radius

/-- The window does not end before it begins, and both of its bounds are time stamps. -/
structure IsBounded (window : Window) : Prop where
  radius : 0 ≤ window.radius
  start : Integer.fits (window.center - window.radius) = true
  stop : Integer.fits (window.center + window.radius) = true

/-- What a window covers is what it encloses but for the two ends of the range of time stamps. -/
theorem covers_iff (low : Integer.least ≤ time) (high : time ≤ Integer.greatest) :
    window.covers fileName time = true ↔
      window.Encloses fileName time ∧ Integer.least < time ∧ time < Integer.greatest := by
  simp only [covers, Bool.and_eq_true, decide_eq_true_eq, List.isPrefixOf_iff_prefix,
    Integer.clamp_lt_iff high, Integer.lt_clamp_iff low]
  constructor
  · rintro ⟨⟨authored, later, behindLeast⟩, earlier, beforeGreatest⟩
    exact ⟨⟨authored, later, earlier⟩, behindLeast, beforeGreatest⟩
  · rintro ⟨⟨authored, later, earlier⟩, behindLeast, beforeGreatest⟩
    exact ⟨⟨authored, later, behindLeast⟩, earlier, beforeGreatest⟩

/-- Between two time stamps lies neither end of their range. -/
theorem IsBounded.covers_iff (bounded : window.IsBounded) (low : Integer.least ≤ time)
    (high : time ≤ Integer.greatest) :
    window.covers fileName time = true ↔ window.Encloses fileName time := by
  rw [Window.covers_iff low high, and_iff_left_iff_imp]
  obtain ⟨-, start, stop⟩ := bounded
  simp only [Integer.fits, Bool.and_eq_true, decide_eq_true_eq] at start stop
  rintro ⟨-, later, earlier⟩
  omega

/-- A window is in order exactly if it is bounded. -/
theorem windowFault?_eq_none : Settings.windowFault? window = none ↔ window.IsBounded := by
  unfold Settings.windowFault?
  split
  · next negative => exact ⟨nofun, fun bounded => absurd bounded.radius (Int.not_le.mpr negative)⟩
  · next proper =>
      split
      · next fits =>
          obtain ⟨start, stop⟩ := Bool.and_eq_true_iff.mp fits
          exact ⟨fun _ => ⟨Int.not_lt.mp proper, start, stop⟩, fun _ => rfl⟩
      · next misfit =>
          exact ⟨nofun, fun bounded =>
            absurd (Bool.and_eq_true_iff.mpr ⟨bounded.start, bounded.stop⟩) misfit⟩

/-- Settings without a fault have bounded windows only. -/
theorem isBounded_of_fault?_eq_none {settings : Settings} (valid : settings.fault? = none)
    (listed : window ∈ settings.rules.windows) : window.IsBounded := by
  unfold Settings.fault? at valid
  split_ifs at valid
  split at valid
  · cases valid
  · exact windowFault?_eq_none.1 (List.findSome?_eq_none_iff.mp valid window listed)

/-- A window of valid settings covers exactly what it encloses, and settings ask of their windows that
they are bounded.  Any other window, too, covers only what it encloses, and fails to cover some of it
only where a bound lies beyond the range of time stamps and the time is the end of the range on that
side.  A window without a positive radius covers nothing. -/
theorem covers_exactly (window : Window) (fileName : String) (time : Int)
    (low : Integer.least ≤ time) (high : time ≤ Integer.greatest) :
    (Settings.windowFault? window = none ↔ window.IsBounded) ∧
    (window.IsBounded → (window.covers fileName time = true ↔ window.Encloses fileName time)) ∧
    (∀ settings : Settings, settings.validate = .ok settings → window ∈ settings.rules.windows →
      (window.covers fileName time = true ↔ window.Encloses fileName time)) ∧
    (window.covers fileName time = true → window.Encloses fileName time) ∧
    (window.Encloses fileName time ∧ window.covers fileName time = false ↔
      window.Encloses fileName time ∧
        (time = Integer.greatest ∧ Integer.greatest < window.center + window.radius ∨
          time = Integer.least ∧ window.center - window.radius < Integer.least)) ∧
    (window.radius ≤ 0 → window.covers fileName time = false) := by
  have covers := @covers_iff window fileName time low high
  refine ⟨windowFault?_eq_none, fun bounded => bounded.covers_iff low high,
    fun settings valid listed => ?_, fun covered => (covers.mp covered).1, ?_, fun none => ?_⟩
  · obtain ⟨fine, -⟩ := Settings.validate_eq_ok.1 valid
    exact (isBounded_of_fault?_eq_none fine listed).covers_iff low high
  · refine and_congr_right fun enclosed => ?_
    rw [← Bool.not_eq_true, covers]
    constructor
    · intro misses
      -- the time is not strictly inside the range, and so it is one of its ends
      rcases Int.lt_or_eq_of_le low with behind | least
      · rcases Int.lt_or_eq_of_le high with before | greatest
        · exact absurd ⟨enclosed, behind, before⟩ misses
        · exact .inl ⟨greatest, greatest ▸ enclosed.earlier⟩
      · exact .inr ⟨least.symm, least ▸ enclosed.later⟩
    · rintro (⟨atEnd, -⟩ | ⟨atStart, -⟩) ⟨-, behind, before⟩
      · exact absurd atEnd (Int.ne_of_lt before)
      · exact absurd atStart.symm (Int.ne_of_lt behind)
  · rw [← Bool.not_eq_true, covers]
    rintro ⟨⟨-, later, earlier⟩, -⟩
    omega

/-- A window around the last time stamp that reaches beyond it encloses that time stamp without
covering it. -/
theorem covers_exactly_sample :
    let window : Window := ⟨"lynn", Integer.greatest, 10000⟩
    Integer.least ≤ Integer.greatest ∧ Integer.greatest ≤ Integer.greatest ∧
      window.Encloses "lynn.9223372036854775807.gs" Integer.greatest ∧
      window.covers "lynn.9223372036854775807.gs" Integer.greatest = false := by
  intro window
  have inRange : Integer.least ≤ Integer.greatest ∧ Integer.greatest ≤ Integer.greatest := by decide
  have encloses : window.Encloses "lynn.9223372036854775807.gs" Integer.greatest :=
    ⟨by decide, by decide, by decide⟩
  obtain ⟨-, -, -, -, misses, -⟩ := covers_exactly window "lynn.9223372036854775807.gs"
    Integer.greatest inRange.1 inRange.2
  exact ⟨inRange.1, inRange.2, misses.mpr ⟨encloses, .inl ⟨rfl, by decide⟩⟩⟩

end Window

end CorpusJudge
