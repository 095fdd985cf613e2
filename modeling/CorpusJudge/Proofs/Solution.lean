import CorpusJudge.Proofs.Text.Integer
import CorpusJudge.Proofs.Text.Segments
import CorpusJudge.Solution

/-!
# Submission times

A file name carries a submission time exactly if its second-to-last segment writes a number of a signed
64-bit word, and otherwise the error says what is missing.  So a time that is written out in decimal
digits between two dots is read back from there.
-/

namespace CorpusJudge

/-! ## Second-to-last segments -/

/-- The name ends in a segment, a dot, and a last segment without one. -/
def EndsInSegment (name : String) (segment : List Char) : Prop :=
  '.' ∉ segment ∧ ∃ front extension, '.' ∉ extension ∧
    name.toList = front ++ segment ++ '.' :: extension ∧
      (front = [] ∨ ∃ before, front = before ++ ['.'])

/-- The name carries a submission time: its second-to-last segment writes a number of a signed
64-bit word. -/
def CarriesTime (name : String) (time : Int) : Prop :=
  ∃ segment, EndsInSegment name segment ∧ Integer.Writes segment time ∧
    Integer.least ≤ time ∧ time ≤ Integer.greatest

/-- The error says why the name carries no submission time. -/
def TimestampError.Explains (name : String) : TimestampError → Prop
  | .missingSegment named => named = name ∧ ∀ segment, ¬EndsInSegment name segment
  | .notAnInteger named segment => named = name ∧ EndsInSegment name segment.toList ∧
    ∀ time, ¬CarriesTime name time

theorem timestampSegment?_eq_some {name : String} {segment : List Char} :
    timestampSegment? name = some segment ↔ EndsInSegment name segment := by
  have shape : timestampSegment? name = some segment ↔
      ∃ extension front, Text.segments '.' name.toList = front ++ [segment, extension] := by
    unfold timestampSegment?
    split
    · next extension second rest pieces =>
        have order := List.reverse_eq_iff.mp pieces
        simp only [List.reverse_cons, List.append_assoc, List.cons_append, List.nil_append] at order
        rw [order]
        constructor
        · rintro ⟨⟩
          exact ⟨extension, rest.reverse, rfl⟩
        · rintro ⟨other, front, same⟩
          have last := (List.append_inj' same rfl).2
          simp_all
    · next none =>
        simp only [reduceCtorEq, false_iff, not_exists]
        intro extension front pieces
        exact none extension segment front.reverse (by simp [pieces])
  rw [shape]
  simp only [Text.segments_eq_concat_two, EndsInSegment]
  constructor
  · rintro ⟨extension, inSegment, inExtension, front, same⟩
    exact ⟨inSegment, front, extension, inExtension, same⟩
  · rintro ⟨inSegment, front, extension, inExtension, same⟩
    exact ⟨extension, inSegment, inExtension, front, same⟩

/-- A name has at most one second-to-last segment. -/
theorem EndsInSegment.unique {name : String} {first second : List Char}
    (left : EndsInSegment name first) (right : EndsInSegment name second) : first = second :=
  Option.some.inj
    ((timestampSegment?_eq_some.2 left).symm.trans (timestampSegment?_eq_some.2 right))

/-- A submission time is read exactly where the name carries it. -/
theorem timestampOf_eq_ok {name : String} {time : Int} :
    timestampOf name = .ok time ↔ CarriesTime name time := by
  unfold timestampOf CarriesTime
  split
  · next missing =>
      simp only [reduceCtorEq, false_iff]
      rintro ⟨segment, ends, -⟩
      simp [timestampSegment?_eq_some.2 ends] at missing
  · next segment found =>
      have ends := timestampSegment?_eq_some.1 found
      have read (time : Int) : Integer.read? segment = some time ↔
          ∃ segment, EndsInSegment name segment ∧ Integer.Writes segment time ∧
            Integer.least ≤ time ∧ time ≤ Integer.greatest := by
        rw [Integer.read?_eq_some]
        constructor
        · exact fun written => ⟨segment, ends, written⟩
        · rintro ⟨other, same, written⟩
          rwa [ends.unique same]
      rw [← read]
      cases Integer.read? segment <;> simp

/-- The error of a name without a submission time says why there is none. -/
theorem timestampOf_eq_error {name : String} {error : TimestampError} :
    timestampOf name = .error error ↔ error.Explains name := by
  unfold timestampOf
  split
  · next missing =>
      have absent : ∀ segment, ¬EndsInSegment name segment := by
        intro segment ends
        simp [timestampSegment?_eq_some.2 ends] at missing
      cases error with
      | missingSegment named => simp [TimestampError.Explains, absent, eq_comm]
      | notAnInteger named segment => simp [TimestampError.Explains, absent]
  · next segment found =>
      have ends := timestampSegment?_eq_some.1 found
      cases read : Integer.read? segment with
      | none =>
          have unread : ∀ time, ¬CarriesTime name time := by
            intro time carried
            have := timestampOf_eq_ok.2 carried
            simp [timestampOf, found, read] at this
          cases error with
          | missingSegment named =>
              simpa [TimestampError.Explains] using fun _ => ⟨segment, ends⟩
          | notAnInteger named written =>
              have only : EndsInSegment name written.toList ↔ String.ofList segment = written := by
                constructor
                · exact fun other => by rw [ends.unique other, String.ofList_toList]
                · rintro rfl
                  rwa [String.toList_ofList]
              simp [TimestampError.Explains, unread, only, eq_comm]
      | some time =>
          have carried : CarriesTime name time := by
            rw [← timestampOf_eq_ok, timestampOf, found]
            simp [read]
          cases error with
          | missingSegment named =>
              simpa [TimestampError.Explains] using fun _ => ⟨segment, ends⟩
          | notAnInteger named written =>
              simpa [TimestampError.Explains] using fun _ _ => ⟨time, carried⟩

/-- A name carries at most one submission time. -/
theorem CarriesTime.unique {name : String} {first second : Int} (left : CarriesTime name first)
    (right : CarriesTime name second) : first = second :=
  Except.ok.inj ((timestampOf_eq_ok.2 left).symm.trans (timestampOf_eq_ok.2 right))

/-! ## Names put together -/

/-- The name of a file with a segment in front of its extension, and with something in front of that
or not. -/
def nameWith (front : Option String) (segment extension : String) : String :=
  match front with
  | none => segment ++ "." ++ extension
  | some front => front ++ "." ++ segment ++ "." ++ extension

theorem endsInSegment_iff {name segment : String} :
    EndsInSegment name segment.toList ↔ '.' ∉ segment.toList ∧
      ∃ front extension, '.' ∉ extension.toList ∧ name = nameWith front segment extension := by
  refine and_congr_right fun _ => ?_
  constructor
  · rintro ⟨front, extension, bare, whole, rfl | ⟨before, rfl⟩⟩
    · refine ⟨none, String.ofList extension, by simpa using bare, ?_⟩
      rw [← String.toList_inj, whole]
      simp [nameWith]
    · refine ⟨some (String.ofList before), String.ofList extension, by simpa using bare, ?_⟩
      rw [← String.toList_inj, whole]
      simp [nameWith]
  · rintro ⟨_ | before, extension, bare, rfl⟩
    · exact ⟨[], extension.toList, bare, by simp [nameWith], .inl rfl⟩
    · exact ⟨before.toList ++ ['.'], extension.toList, bare, by simp [nameWith], .inr ⟨_, rfl⟩⟩

/-- A name has a second-to-last segment as soon as it has a dot. -/
theorem exists_endsInSegment_iff {name : String} :
    (∃ segment, EndsInSegment name segment) ↔ '.' ∈ name.toList := by
  constructor
  · rintro ⟨segment, -, front, extension, -, whole, -⟩
    simp [whole]
  · intro dotted
    obtain ⟨before, after, whole⟩ := List.append_of_mem dotted
    obtain ⟨extension, pieces, back⟩ :
        ∃ extension pieces, (Text.segments '.' after).reverse = extension :: pieces :=
      List.exists_cons_of_ne_nil (by simpa using Text.segments_ne_nil '.' after)
    obtain ⟨segment, others, front⟩ :
        ∃ segment others, pieces ++ (Text.segments '.' before).reverse = segment :: others :=
      List.exists_cons_of_ne_nil (by simpa using fun _ => Text.segments_ne_nil '.' before)
    refine ⟨segment, timestampSegment?_eq_some.1 ?_⟩
    simp only [timestampSegment?, whole, Text.segments_append, List.reverse_append, back,
      List.cons_append, front]

/-! ## Reading names -/

/-- A name carries what its second-to-last segment writes. -/
theorem EndsInSegment.carriesTime_iff {name : String} {segment : List Char}
    (ends : EndsInSegment name segment) (time : Int) :
    CarriesTime name time ↔ Integer.Writes segment time ∧
      Integer.least ≤ time ∧ time ≤ Integer.greatest := by
  constructor
  · rintro ⟨other, same, written⟩
    rwa [ends.unique same]
  · exact fun written => ⟨segment, ends, written⟩

/-- A segment that writes a number has no dot, and so it is told by the dots around it. -/
theorem carriesTime_iff_nameWith {name : String} {time : Int} :
    CarriesTime name time ↔ ∃ front segment extension, name = nameWith front segment extension ∧
      '.' ∉ extension.toList ∧ Integer.Writes segment.toList time ∧
      Integer.least ≤ time ∧ time ≤ Integer.greatest := by
  constructor
  · rintro ⟨segment, ends, writes, fits⟩
    rw [← String.toList_ofList (l := segment)] at ends writes
    obtain ⟨-, front, extension, bare, whole⟩ := endsInSegment_iff.1 ends
    exact ⟨front, _, extension, whole, bare, writes, fits⟩
  · rintro ⟨front, segment, extension, whole, bare, writes, fits⟩
    exact ⟨segment.toList, endsInSegment_iff.2 ⟨writes.dotless, front, extension, bare, whole⟩,
      writes, fits⟩

/-- The submission time of a name is the number that is written between the dot in front of its
extension and the dot before that one, if there is one, with a sign or without.  A name without a dot
has no such segment, and any other that is no number of a signed 64-bit word is told.  So the digits
of every such number are read as that number, and those of no other number are. -/
theorem timestampOf_decides (name : String) :
    (∀ time, timestampOf name = .ok time ↔
      ∃ front segment extension, name = nameWith front segment extension ∧
        '.' ∉ extension.toList ∧ Integer.Writes segment.toList time ∧
        Integer.least ≤ time ∧ time ≤ Integer.greatest) ∧
    (∀ other, timestampOf name = .error (.missingSegment other) ↔
      other = name ∧ '.' ∉ name.toList) ∧
    (∀ other segment, timestampOf name = .error (.notAnInteger other segment) ↔
      other = name ∧ '.' ∉ segment.toList ∧
        (∃ front extension, '.' ∉ extension.toList ∧ name = nameWith front segment extension) ∧
        ¬∃ time, Integer.Writes segment.toList time ∧
          Integer.least ≤ time ∧ time ≤ Integer.greatest) ∧
    ∀ front extension, '.' ∉ extension.toList →
      (∀ time, Integer.least ≤ time → time ≤ Integer.greatest →
        timestampOf (nameWith front (toString time) extension) = .ok time) ∧
      ∀ segment value, Integer.Writes segment.toList value →
        value < Integer.least ∨ Integer.greatest < value →
        timestampOf (nameWith front segment extension) =
          .error (.notAnInteger (nameWith front segment extension) segment) := by
  constructor
  · intro time
    exact timestampOf_eq_ok.trans carriesTime_iff_nameWith
  constructor
  · intro other
    rw [timestampOf_eq_error, TimestampError.Explains, ← not_exists, exists_endsInSegment_iff]
  constructor
  · intro other segment
    rw [timestampOf_eq_error, TimestampError.Explains]
    apply and_congr_right
    intro _
    rw [← and_assoc, ← endsInSegment_iff]
    apply and_congr_right
    intro ends
    simp only [ends.carriesTime_iff, not_exists]
  · intro front extension bare
    constructor
    · intro time least greatest
      apply timestampOf_eq_ok.2
      apply carriesTime_iff_nameWith.2
      exact ⟨front, _, extension, rfl, bare, Integer.writes_toString time, least, greatest⟩
    · intro segment value writes outside
      have ends := endsInSegment_iff.2 ⟨writes.dotless, front, extension, bare, rfl⟩
      apply timestampOf_eq_error.2
      refine ⟨rfl, ends, fun time carried => ?_⟩
      obtain ⟨also, least, greatest⟩ := (ends.carriesTime_iff time).mp carried
      rw [also.unique writes] at least greatest
      omega

/-- The time of a submission is read where it stands in the name, however early the dots begin, and the
digits of the number that comes next to the greatest one are no time. -/
theorem timestampOf_decides_sample :
    timestampOf (nameWith (some "a..b") (toString (-9223372036854775808)) "gs") =
        .ok (-9223372036854775808) ∧
      timestampOf (nameWith none "+0009223372036854775808" "gs") =
        .error (.notAnInteger (nameWith none "+0009223372036854775808" "gs")
          "+0009223372036854775808") := by
  obtain ⟨-, -, -, reads⟩ := timestampOf_decides "a..b.-9223372036854775808.gs"
  have outside : Integer.Writes "+0009223372036854775808".toList 9223372036854775808 := by
    have row : Integer.IsNumeral "0009223372036854775808".toList :=
      ⟨by decide, List.all_eq_true.mp (by decide)⟩
    exact .plus row
  constructor
  · exact (reads (some "a..b") "gs" (by decide)).1 _ (by decide) (by decide)
  · exact (reads none "gs" (by decide)).2 _ _ outside (by decide)

end CorpusJudge
