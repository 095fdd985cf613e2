import CorpusJudge.Instant.Reading
import CorpusJudge.Proofs.Text.Integer
import Mathlib.Algebra.Ring.Nat
import Mathlib.Data.List.TakeWhile
import Mathlib.Data.Option.Basic

/-!
# Written instants

What a text has to look like to write an instant, and which instant it writes.  The days are counted
as the calendar has them, and a text is read exactly if it looks like that.
-/

namespace CorpusJudge

/-! ## Rows of digits -/

namespace Integer

variable {digits rest : List Char}

theorem ofDigitChars_lt (row : ∀ digit ∈ digits, digit.isDigit = true) {start bound : Nat}
    (less : start < bound) : Nat.ofDigitChars 10 digits start < bound * 10 ^ digits.length := by
  induction digits generalizing start bound with
  | nil => simpa using less
  | cons digit rest ih =>
      obtain ⟨first, others⟩ := List.forall_mem_cons.mp row
      have small : digit.toNat - 48 < 10 := by
        simp only [Char.isDigit, Bool.and_eq_true, decide_eq_true_eq, UInt32.le_iff_toNat_le] at first
        have most : digit.toNat ≤ 57 := first.2
        omega
      rw [Nat.ofDigitChars_cons, List.length_cons, Nat.pow_succ']
      rw [← Nat.mul_assoc]
      refine ih others ?_
      have same : '0'.toNat = 48 := rfl
      omega

/-- A row of digits writes a number of so many digits. -/
theorem IsNumeral.numeral_lt (row : IsNumeral digits) : numeral digits < 10 ^ digits.length := by
  simpa [numeral] using ofDigitChars_lt row.digit Nat.zero_lt_one

theorem fits_of_lt {number : Nat} (small : number < 10 ^ 9) : fits number = true := by
  have low : least ≤ number := by
    unfold least
    omega
  have high : (number : Int) ≤ greatest := by
    unfold greatest
    omega
  simp [fits, low, high]

/-- A short row of digits writes a number that fits. -/
theorem IsNumeral.fits (row : IsNumeral digits) (short : digits.length ≤ 9) :
    Integer.fits (numeral digits) = true :=
  fits_of_lt (Nat.lt_of_lt_of_le row.numeral_lt (Nat.pow_le_pow_right (by decide) short))

end Integer

namespace Instant

open Integer (IsNumeral numeral)

/-! ## The calendar -/

/-- The days are counted from the start of 1970, each day of a month after the one before, the first
day of a month after the last of the month before, and the first day of a year after the last of the
year before. -/
theorem dayNumber_calendar (year : Int) :
    dayNumber 1970 1 1 = 0 ∧
      (∀ month day, 1 ≤ day → dayNumber year month (day + 1) = dayNumber year month day + 1) ∧
      (∀ month, 1 ≤ month → month < 12 →
        dayNumber year (month + 1) 1 = dayNumber year month (daysInMonth year month) + 1) ∧
      dayNumber (year + 1) 1 1 = dayNumber year 12 (daysInMonth year 12) + 1 := by
  refine ⟨by decide, fun month day proper => ?_, fun month proper early => ?_, ?_⟩
  · simp only [dayNumber]
    omega
  · have cases : month = 1 ∨ month = 2 ∨ month = 3 ∨ month = 4 ∨ month = 5 ∨ month = 6 ∨
        month = 7 ∨ month = 8 ∨ month = 9 ∨ month = 10 ∨ month = 11 := by
      omega
    rcases cases with rfl | rfl | rfl | rfl | rfl | rfl | rfl | rfl | rfl | rfl | rfl
    case inr.inl =>
      -- the year of the count begins in March, behind the leap day
      simp only [dayNumber, daysInMonth, isLeapYear, Bool.and_eq_true, Bool.or_eq_true,
        decide_eq_true_eq]
      split_ifs <;> omega
    all_goals
      simp only [dayNumber, daysInMonth]
      omega
  · simp only [dayNumber, daysInMonth]
    omega

/-! ## What writes an instant -/

/-- White space, or nothing. -/
def IsBlank (text : List Char) : Prop :=
  ∀ character ∈ text, Text.isBlank character = true

/-- A separator, behind white space. -/
inductive IsMark (mark : Char) : List Char → Prop where
  | written {blanks : List Char} : IsBlank blanks → IsMark mark (blanks ++ [mark])

/-- One or two digits behind white space, for a number between two bounds. -/
inductive IsField (lowest highest : Nat) : List Char → Nat → Prop where
  | written {blanks digits : List Char} : IsBlank blanks → IsNumeral digits → digits.length ≤ 2 →
      lowest ≤ numeral digits → numeral digits ≤ highest →
      IsField lowest highest (blanks ++ digits) (numeral digits)

/-- Up to four digits behind white space, or a sign and any number of digits, for a year. -/
inductive IsYear : List Char → Int → Prop where
  | bare {blanks digits : List Char} : IsBlank blanks → IsNumeral digits → digits.length ≤ 4 →
      IsYear (blanks ++ digits) (numeral digits)
  | after {blanks digits : List Char} : IsBlank blanks → IsNumeral digits →
      IsYear (blanks ++ '+' :: digits) (numeral digits)
  | before {blanks digits : List Char} : IsBlank blanks → IsNumeral digits →
      IsYear (blanks ++ '-' :: digits) (-numeral digits)

/-- Year, month and day of a date that there is, for the number of the day. -/
inductive IsDate : List Char → Int → Prop where
  | written {yearText dash monthText bar dayText : List Char} {year : Int} {month day : Nat} :
      IsYear yearText year → IsMark '-' dash → IsField 1 12 monthText month → IsMark '-' bar →
      IsField 1 31 dayText day → -262143 ≤ year → year ≤ 262142 → day ≤ daysInMonth year month →
      IsDate (yearText ++ (dash ++ (monthText ++ (bar ++ dayText)))) (dayNumber year month day)

/-- Nothing, or a dot and digits, for a number of nanoseconds. -/
inductive IsFraction : List Char → Nat → Prop where
  | none : IsFraction [] 0
  | written {digits : List Char} : IsNumeral digits →
      IsFraction ('.' :: digits) (numeral (digits.take 9) * 10 ^ (9 - digits.length))

/-- Hours, minutes and seconds, for the second of the day and the nanoseconds of the second.  A leap
second counts as a part of the second before. -/
inductive IsTime : List Char → Nat → Nat → Prop where
  | usual {hourText colon minuteText semi secondText fraction : List Char}
      {hour minute second nanos : Nat} :
      IsField 0 23 hourText hour → IsMark ':' colon → IsField 0 59 minuteText minute →
      IsMark ':' semi → IsField 0 59 secondText second → IsFraction fraction nanos →
      IsTime (hourText ++ (colon ++ (minuteText ++ (semi ++ (secondText ++ fraction)))))
        (hour * 3600 + minute * 60 + second) nanos
  | leap {hourText colon minuteText semi secondText fraction : List Char} {hour minute nanos : Nat} :
      IsField 0 23 hourText hour → IsMark ':' colon → IsField 0 59 minuteText minute →
      IsMark ':' semi → IsField 60 60 secondText 60 → IsFraction fraction nanos →
      IsTime (hourText ++ (colon ++ (minuteText ++ (semi ++ (secondText ++ fraction)))))
        (hour * 3600 + minute * 60 + 59) (nanos + 1000000000)

/-- A sign, for the direction in which an offset leads. -/
inductive IsSign : Char → Int → Prop where
  | plus : IsSign '+' 1
  | hyphen : IsSign '-' (-1)
  | minus : IsSign '−' (-1)

/-- Universal time by name, or a sign, two digits for hours and two for minutes, for the seconds that
a clock is ahead. -/
inductive IsOffset : List Char → Int → Prop where
  | named {letters : List Char} : letters.map Char.toUpper = ['U', 'T', 'C'] → IsOffset letters 0
  | zulu {letter : Char} : letter = 'Z' ∨ letter = 'z' → IsOffset [letter] 0
  | written {sign : Char} {direction : Int} {hours separators minutes : List Char} :
      IsSign sign direction → IsNumeral hours → hours.length = 2 → numeral hours ≤ 23 →
      (∀ character ∈ separators, character = ':' ∨ Text.isBlank character = true) →
      IsNumeral minutes → minutes.length = 2 → numeral minutes ≤ 59 →
      IsOffset (sign :: (hours ++ (separators ++ minutes)))
        (direction * (numeral hours * 3600 + numeral minutes * 60 : Nat))

/-- A date, a separator, a time of day and an offset, for an instant whose year in universal time there
is as well. -/
inductive Writes : List Char → Instant → Prop where
  | written {date time gap offset blanks : List Char} {mark : Char} {day ahead : Int}
      {second nanos : Nat} {instant : Instant} :
      IsDate date day → mark = 'T' ∨ mark = 't' ∨ mark = ' ' → IsTime time second nanos →
      IsBlank gap → IsOffset offset ahead → IsBlank blanks →
      instant = ⟨day * 86400 + second - ahead, nanos⟩ →
      -262143 ≤ (dateOfDay (instant.seconds / 86400)).1 →
      (dateOfDay (instant.seconds / 86400)).1 ≤ 262142 →
      Writes (date ++ mark :: (time ++ (gap ++ (offset ++ blanks)))) instant

/-! ## White space and digits -/

/-- The text does not begin with a character of some kind. -/
def Avoids (kind : Char → Bool) (text : List Char) : Prop :=
  ∀ character ∈ text.head?, kind character = false

variable {text rest blanks digits : List Char} {kind : Char → Bool}

theorem Avoids.cons {first : Char} (other : kind first = false) : Avoids kind (first :: rest) := by
  intro character head
  exact Option.some.inj head ▸ other

theorem takeWhile_append (all : ∀ character ∈ digits, kind character = true)
    (behind : Avoids kind rest) : (digits ++ rest).takeWhile kind = digits := by
  rw [List.takeWhile_append_of_pos all]
  cases rest with
  | nil => simp
  | cons first others => simp [behind first rfl]

theorem dropWhile_append (all : ∀ character ∈ digits, kind character = true)
    (behind : Avoids kind rest) : (digits ++ rest).dropWhile kind = rest := by
  rw [List.dropWhile_append_of_pos all]
  cases rest with
  | nil => rfl
  | cons first others => simp [behind first rfl]

theorem avoids_dropWhile (text : List Char) : Avoids kind (text.dropWhile kind) := by
  induction text with
  | nil => exact nofun
  | cons first others ih =>
      cases other : kind first with
      | true => rwa [List.dropWhile_cons_of_pos other]
      | false =>
          rw [List.dropWhile_cons_of_neg (by simp [other])]
          exact .cons other

/-- No white space is a digit. -/
theorem isDigit_eq_false {character : Char} (blank : Text.isBlank character = true) :
    character.isDigit = false := by
  by_contra digit
  simp only [Char.isDigit, Bool.not_eq_false, Bool.and_eq_true, decide_eq_true_eq,
    UInt32.le_iff_toNat_le] at digit
  have low : 48 ≤ character.toNat := digit.1
  have high : character.toNat ≤ 57 := digit.2
  simp only [Text.isBlank, Bool.or_eq_true, Bool.and_eq_true, decide_eq_true_eq] at blank
  omega

theorem IsBlank.avoids (blank : IsBlank blanks)
    (others : ∀ character, Text.isBlank character = true → kind character = false)
    (behind : Avoids kind rest) : Avoids kind (blanks ++ rest) := by
  cases blanks with
  | nil => exact behind
  | cons first _ => exact .cons (others first (blank first List.mem_cons_self))

/-- Digits begin with no white space, nor with any other character that is no digit. -/
theorem avoids_of_isNumeral (row : IsNumeral digits)
    (others : ∀ digit, digit.isDigit = true → kind digit = false) : Avoids kind (digits ++ rest) := by
  cases digits with
  | nil => exact absurd rfl row.nonempty
  | cons first _ => exact .cons (others first (row.digit first List.mem_cons_self))

theorem isBlank_eq_false {digit : Char} (isDigit : digit.isDigit = true) :
    Text.isBlank digit = false := by
  by_contra blank
  rw [isDigit_eq_false (by simpa using blank)] at isDigit
  cases isDigit

/-- White space is passed over, and nothing behind it. -/
theorem skipBlanks_append (blank : IsBlank blanks) (behind : Avoids Text.isBlank rest) :
    Text.skipBlanks (blanks ++ rest) = rest :=
  dropWhile_append blank behind

/-- A text is white space and what is left when it is passed over. -/
theorem exists_blanks (text : List Char) :
    ∃ blanks, IsBlank blanks ∧ text = blanks ++ Text.skipBlanks text :=
  ⟨text.takeWhile Text.isBlank, fun _ listed => List.mem_takeWhile_imp listed,
    List.takeWhile_append_dropWhile.symm⟩

/-- Digits are read as far as they go, but not more of them than asked for. -/
theorem readDigits?_eq_some {most value : Nat} :
    readDigits? most text = some (value, rest) ↔
      ∃ digits after, (∀ digit ∈ digits, digit.isDigit = true) ∧ Avoids Char.isDigit after ∧
        text = digits ++ after ∧ IsNumeral (digits.take most) ∧
        Integer.fits (numeral (digits.take most)) = true ∧ value = numeral (digits.take most) ∧
        rest = digits.drop most ++ after := by
  have known (digits after : List Char) : (digits ++ after).drop (digits.take most).length =
      digits.drop most ++ after := by
    rw [List.length_take, List.drop_append]
    rcases Nat.le_total most digits.length with less | more
    · simp [Nat.min_eq_left less, Nat.sub_eq_zero_of_le less]
    · simp [more]
  simp only [readDigits?, Option.bind_eq_bind, Option.bind_eq_some_iff, Option.guard_eq_some',
    exists_const, Option.pure_def, Option.some.injEq, Prod.mk.injEq, Integer.natural?_ten]
  constructor
  · rintro ⟨number, ⟨row, rfl⟩, small, rfl, rfl⟩
    refine ⟨text.takeWhile Char.isDigit, text.dropWhile Char.isDigit,
      fun _ listed => List.mem_takeWhile_imp listed, avoids_dropWhile text,
      List.takeWhile_append_dropWhile.symm, row, small, rfl, ?_⟩
    rw [← known, List.takeWhile_append_dropWhile]
  · rintro ⟨digits, after, all, behind, rfl, row, small, rfl, rfl⟩
    rw [takeWhile_append all behind]
    exact ⟨_, ⟨row, rfl⟩, small, rfl, known digits after⟩

/-- A row of digits is read as far as it is not too long. -/
theorem readDigits?_append {most : Nat} (row : IsNumeral digits) (short : digits.length ≤ most)
    (small : Integer.fits (numeral digits) = true) (behind : Avoids Char.isDigit rest) :
    readDigits? most (digits ++ rest) = some (numeral digits, rest) := by
  have all := List.take_of_length_le short
  have none := List.drop_of_length_le short
  exact readDigits?_eq_some.2 ⟨digits, rest, row.digit, behind, rfl, by rwa [all], by rwa [all],
    by rw [all], by rw [none]; rfl⟩

theorem exists_digits {most value : Nat} (read : readDigits? most text = some (value, rest)) :
    ∃ digits, IsNumeral digits ∧ digits.length ≤ most ∧ value = numeral digits ∧
      text = digits ++ rest := by
  obtain ⟨digits, after, -, -, rfl, row, -, rfl, rfl⟩ := readDigits?_eq_some.1 read
  exact ⟨digits.take most, row, List.length_take_le .., rfl,
    by rw [← List.append_assoc, List.take_append_drop]⟩

/-! ## Parts of a date and of a time of day -/

theorem IsMark.avoids {mark : Char} (marks : IsMark mark text) (noDigit : mark.isDigit = false) :
    Avoids Char.isDigit (text ++ rest) := by
  obtain ⟨blank⟩ := marks
  rw [List.append_assoc]
  exact blank.avoids (fun _ => isDigit_eq_false) (.cons noDigit)

theorem readMark?_append {mark : Char} (marks : IsMark mark text)
    (visible : Text.isBlank mark = false) : readMark? mark (text ++ rest) = some rest := by
  obtain ⟨blank⟩ := marks
  rw [List.append_assoc, readMark?, List.singleton_append, skipBlanks_append blank (.cons visible)]
  exact if_pos rfl

theorem exists_mark {mark : Char} (read : readMark? mark text = some rest) :
    ∃ used, IsMark mark used ∧ text = used ++ rest := by
  obtain ⟨blanks, blank, split⟩ := exists_blanks text
  rw [readMark?] at read
  cases left : Text.skipBlanks text with
  | nil =>
      rw [left] at read
      cases read
  | cons first others =>
      simp only [left] at read
      split_ifs at read with same
      obtain rfl := Option.some.inj read
      refine ⟨blanks ++ [mark], .written blank, ?_⟩
      rw [split, left, same, List.append_assoc]
      rfl

section

variable {lowest highest value : Nat}

theorem IsField.bounds (field : IsField lowest highest text value) :
    lowest ≤ value ∧ value ≤ highest := by
  obtain ⟨-, -, -, low, high⟩ := field
  exact ⟨low, high⟩

/-- The bounds of a number may be others that it lies between. -/
theorem IsField.within (field : IsField lowest highest text value) {lower higher : Nat}
    (low : lower ≤ value) (high : value ≤ higher) : IsField lower higher text value := by
  obtain ⟨blank, row, short, -, -⟩ := field
  exact .written blank row short low high

theorem readField?_append (field : IsField lowest highest text value)
    (behind : Avoids Char.isDigit rest) :
    readField? lowest highest (text ++ rest) = some (value, rest) := by
  obtain ⟨blank, row, short, low, high⟩ := field
  rw [List.append_assoc, readField?,
    skipBlanks_append blank (avoids_of_isNumeral row fun _ => isBlank_eq_false)]
  simp only [readDigits?_append row short (row.fits (by omega)) behind, low, high, decide_true,
    Bool.and_self, Option.bind_eq_bind, Option.bind_some]
  rfl

theorem exists_field (read : readField? lowest highest text = some (value, rest)) :
    ∃ used, IsField lowest highest used value ∧ text = used ++ rest := by
  obtain ⟨blanks, blank, split⟩ := exists_blanks text
  simp only [readField?, Option.bind_eq_bind, Option.bind_eq_some_iff, Option.guard_eq_some',
    exists_const, Option.pure_def, Option.some.injEq, Bool.and_eq_true, decide_eq_true_eq] at read
  obtain ⟨⟨value, rest⟩, readDigits, ⟨low, high⟩, ⟨rfl, rfl⟩⟩ := read
  obtain ⟨digits, row, short, rfl, left⟩ := exists_digits readDigits
  refine ⟨blanks ++ digits, .written blank row short low high, ?_⟩
  rw [split, left, List.append_assoc]

end

theorem readYear?_append {year : Int} (writes : IsYear text year) (early : -262143 ≤ year)
    (late : year ≤ 262142) (behind : Avoids Char.isDigit rest) :
    readYear? (text ++ rest) = some (year, rest) := by
  have signed {digits : List Char} (row : IsNumeral digits) (small : numeral digits ≤ 262143) :
      readDigits? (digits ++ rest).length (digits ++ rest) = some (numeral digits, rest) :=
    readDigits?_append row (by simp) (Integer.fits_of_lt (by omega)) behind
  cases writes with
  | @bare blanks digits blank row short =>
      have visible : Avoids Text.isBlank (digits ++ rest) :=
        avoids_of_isNumeral row fun _ => isBlank_eq_false
      rw [List.append_assoc, readYear?, skipBlanks_append blank visible]
      have read := readDigits?_append row short (row.fits (by omega)) behind
      have unsigned (sign : Char) (noDigit : sign.isDigit = false) (more : List Char) :
          digits ++ rest ≠ sign :: more := by
        intro same
        cases digits with
        | nil => exact row.nonempty rfl
        | cons first others =>
            obtain rfl := (List.cons.inj same).1
            cases noDigit.symm.trans (row.digit first List.mem_cons_self)
      split
      · next same => exact absurd same (unsigned '-' rfl _)
      · next same => exact absurd same (unsigned '+' rfl _)
      · rw [read]
        rfl
  | @after blanks digits blank row =>
      rw [List.append_assoc, List.cons_append, readYear?, skipBlanks_append blank (.cons rfl)]
      simp only [signed row (by omega)]
      rfl
  | @before blanks digits blank row =>
      rw [List.append_assoc, List.cons_append, readYear?, skipBlanks_append blank (.cons rfl)]
      simp only [signed row (by omega)]
      rfl

theorem exists_year {year : Int} (read : readYear? text = some (year, rest)) :
    ∃ used, IsYear used year ∧ text = used ++ rest := by
  obtain ⟨blanks, blank, split⟩ := exists_blanks text
  rw [readYear?] at read
  split at read
  all_goals
    obtain ⟨⟨number, after⟩, readDigits, same⟩ := Option.map_eq_some_iff.mp read
    obtain ⟨rfl, rfl⟩ := Prod.mk.inj same
    obtain ⟨digits, row, short, rfl, left⟩ := exists_digits readDigits
  · next signed =>
      refine ⟨blanks ++ '-' :: digits, .before blank row, ?_⟩
      rw [split, signed, left, List.append_assoc, List.cons_append]
  · next signed =>
      refine ⟨blanks ++ '+' :: digits, .after blank row, ?_⟩
      rw [split, signed, left, List.append_assoc, List.cons_append]
  · refine ⟨blanks ++ digits, .bare blank row short, ?_⟩
    rw [split, left, List.append_assoc]

theorem readDate?_append {day : Int} (date : IsDate text day) (behind : Avoids Char.isDigit rest) :
    readDate? (text ++ rest) = some (day, rest) := by
  obtain ⟨writesYear, dash, month, bar, dayOfMonth, early, late, there⟩ := date
  simp only [List.append_assoc, readDate?,
    readYear?_append writesYear early late (dash.avoids rfl), readMark?_append dash rfl,
    readField?_append month (bar.avoids rfl), readMark?_append bar rfl,
    readField?_append dayOfMonth behind, isYear, early, late, there, Option.bind_eq_bind,
    Option.bind_some]
  rfl

theorem exists_date {day : Int} (read : readDate? text = some (day, rest)) :
    ∃ used, IsDate used day ∧ text = used ++ rest := by
  simp only [readDate?, Option.bind_eq_bind, Option.bind_eq_some_iff, Option.guard_eq_some',
    exists_const, Option.pure_def, Option.some.injEq, Prod.mk.injEq, isYear, Bool.and_eq_true,
    decide_eq_true_eq] at read
  obtain ⟨⟨year, _⟩, readYear, _, readDash, ⟨month, _⟩, readMonth, _, readBar, ⟨dayOfMonth, _⟩,
    readDay, ⟨⟨early, late⟩, there⟩, rfl, rfl⟩ := read
  obtain ⟨yearText, isYear, rfl⟩ := exists_year readYear
  obtain ⟨dash, isDash, rfl⟩ := exists_mark readDash
  obtain ⟨monthText, isMonth, rfl⟩ := exists_field readMonth
  obtain ⟨bar, isBar, rfl⟩ := exists_mark readBar
  obtain ⟨dayText, isDay, rfl⟩ := exists_field readDay
  refine ⟨_, .written isYear isDash isMonth isBar isDay early late there, ?_⟩
  simp only [List.append_assoc]

/-! ## Fractions and times of day -/

theorem IsFraction.avoids {nanos : Nat} (fraction : IsFraction text nanos)
    (behind : Avoids Char.isDigit rest) : Avoids Char.isDigit (text ++ rest) := by
  cases fraction with
  | none => exact behind
  | written => exact .cons rfl

/-- Only the first nine digits count, and the others are passed over with them. -/
theorem digits_passed (all : ∀ digit ∈ digits, digit.isDigit = true)
    (behind : Avoids Char.isDigit rest) :
    9 - ((digits ++ rest).length - (digits.drop 9 ++ rest).length) = 9 - digits.length ∧
      (digits.drop 9 ++ rest).dropWhile Char.isDigit = rest := by
  refine ⟨?_, dropWhile_append (fun digit listed => all digit (List.mem_of_mem_drop listed)) behind⟩
  simp only [List.length_append, List.length_drop]
  omega

theorem readFraction?_append {nanos : Nat} (fraction : IsFraction text nanos)
    (behind : Avoids Char.isDigit rest) (dotless : Avoids (· = '.') rest) :
    readFraction? (text ++ rest) = some (nanos, rest) := by
  cases fraction with
  | none =>
      rw [List.nil_append]
      unfold readFraction?
      split
      · cases dotless '.' rfl
      · rfl
  | @written digits row =>
      have taken : IsNumeral (digits.take 9) :=
        ⟨by simpa using row.nonempty, fun digit listed => row.digit digit (List.mem_of_mem_take listed)⟩
      have read : readDigits? 9 (digits ++ rest) =
          some (numeral (digits.take 9), digits.drop 9 ++ rest) :=
        readDigits?_eq_some.2 ⟨digits, rest, row.digit, behind, rfl, taken,
          taken.fits (List.length_take_le ..), rfl, rfl⟩
      obtain ⟨lengths, others⟩ := digits_passed row.digit behind
      simp only [List.cons_append, readFraction?, read, Option.bind_eq_bind, Option.bind_some, others,
        lengths]
      rfl

theorem exists_fraction {nanos : Nat} (read : readFraction? text = some (nanos, rest)) :
    ∃ used, IsFraction used nanos ∧ text = used ++ rest := by
  unfold readFraction? at read
  split at read
  · next text =>
      simp only [Option.bind_eq_bind, Option.bind_eq_some_iff, Option.pure_def, Option.some.injEq,
        Prod.mk.injEq] at read
      obtain ⟨⟨value, left⟩, readDigits, rfl, rfl⟩ := read
      obtain ⟨digits, after, all, behind, rfl, row, -, rfl, rfl⟩ := readDigits?_eq_some.1 readDigits
      have whole : IsNumeral digits :=
        ⟨fun none => row.nonempty (by simp [none]), all⟩
      obtain ⟨lengths, others⟩ := digits_passed all behind
      rw [lengths, others]
      exact ⟨_, .written whole, rfl⟩
  · obtain ⟨rfl, rfl⟩ := Prod.mk.inj (Option.some.inj read)
    exact ⟨[], .none, rfl⟩

theorem readTime?_append {second nanos : Nat} (time : IsTime text second nanos)
    (behind : Avoids Char.isDigit rest) (dotless : Avoids (· = '.') rest) :
    readTime? (text ++ rest) = some (second, nanos, rest) := by
  cases time with
  | usual hour colon minute semi second fraction =>
      have early := second.bounds.2
      have usual := Nat.ne_of_lt (Nat.lt_succ_of_le early)
      simp only [List.append_assoc, readTime?, readField?_append hour (colon.avoids rfl),
        readMark?_append colon rfl, readField?_append minute (semi.avoids rfl),
        readMark?_append semi rfl,
        readField?_append (second.within (Nat.zero_le _) (Nat.le_succ_of_le early))
          (fraction.avoids behind),
        readFraction?_append fraction behind dotless, Option.bind_eq_bind, Option.bind_some,
        if_neg usual]
      rfl
  | leap hour colon minute semi second fraction =>
      simp only [List.append_assoc, readTime?, readField?_append hour (colon.avoids rfl),
        readMark?_append colon rfl, readField?_append minute (semi.avoids rfl),
        readMark?_append semi rfl,
        readField?_append (second.within (Nat.zero_le _) (Nat.le_refl 60)) (fraction.avoids behind),
        readFraction?_append fraction behind dotless, Option.bind_eq_bind, Option.bind_some, if_true]
      rfl

theorem exists_time {second nanos : Nat} (read : readTime? text = some (second, nanos, rest)) :
    ∃ used, IsTime used second nanos ∧ text = used ++ rest := by
  simp only [readTime?, Option.bind_eq_bind, Option.bind_eq_some_iff] at read
  obtain ⟨⟨hour, _⟩, readHour, _, readColon, ⟨minute, _⟩, readMinute, _, readSemi, ⟨count, _⟩,
    readSecond, ⟨part, _⟩, readPart, read⟩ := read
  obtain ⟨hourText, isHour, rfl⟩ := exists_field readHour
  obtain ⟨colon, isColon, rfl⟩ := exists_mark readColon
  obtain ⟨minuteText, isMinute, rfl⟩ := exists_field readMinute
  obtain ⟨semi, isSemi, rfl⟩ := exists_mark readSemi
  obtain ⟨secondText, isSecond, rfl⟩ := exists_field readSecond
  obtain ⟨fraction, isFraction, rfl⟩ := exists_fraction readPart
  split_ifs at read with leap
  · subst leap
    obtain ⟨rfl, rfl, rfl⟩ := by simpa using read
    have isLeap := isSecond.within (Nat.le_refl 60) (Nat.le_refl 60)
    refine ⟨_, .leap isHour isColon isMinute isSemi isLeap isFraction, ?_⟩
    simp only [List.append_assoc]
  · have highest := isSecond.bounds.2
    obtain ⟨rfl, rfl, rfl⟩ := by simpa using read
    have isUsual : IsField 0 59 secondText _ := isSecond.within (Nat.zero_le _) (by omega)
    refine ⟨_, .usual isHour isColon isMinute isSemi isUsual isFraction, ?_⟩
    simp only [List.append_assoc]

/-! ## Offsets -/

theorem of_toUpper {letter : Char} (upper : letter.toUpper = 'U') : letter = 'U' ∨ letter = 'u' := by
  unfold Char.toUpper at upper
  split at upper
  · next small =>
      have value := congrArg (fun character => character.val.toNat) upper
      simp only [UInt32.le_iff_toNat_le, UInt32.toNat_add] at small value
      refine .inr (Char.toNat_inj.mp ?_)
      have low : 97 ≤ letter.toNat := small.1
      have high : letter.toNat ≤ 122 := small.2
      have sum : (letter.toNat + 4294967264) % 4294967296 = 85 := value
      have code : 'u'.toNat = 117 := rfl
      omega
  · exact .inl upper

/-- An offset begins with a letter or with a sign. -/
theorem IsOffset.avoids {ahead : Int} (offset : IsOffset text ahead)
    (noneOfKind : ['U', 'u', 'Z', 'z', '+', '-', '−'].any kind = false) :
    Avoids kind (text ++ rest) := by
  have others first (mem : first ∈ ['U', 'u', 'Z', 'z', '+', '-', '−']) : kind first = false :=
    Bool.eq_false_iff.mpr (List.any_eq_false.mp noneOfKind first mem)
  cases offset with
  | named universal =>
      cases text with
      | nil => cases universal
      | cons first more =>
          refine .cons (others first ?_)
          rcases of_toUpper (List.cons.inj universal).1 with rfl | rfl <;> simp
  | zulu letter =>
      refine .cons (others _ ?_)
      rcases letter with rfl | rfl <;> simp
  | written sign =>
      refine .cons (others _ ?_)
      cases sign <;> simp

theorem readPair?_append (row : IsNumeral digits) (two : digits.length = 2) :
    readPair? (digits ++ rest) = some (numeral digits, rest) := by
  match digits, two with
  | [first, second], _ => simp [readPair?, Integer.natural?_ten.2 ⟨row, rfl⟩]

theorem exists_pair {value : Nat} (read : readPair? text = some (value, rest)) :
    ∃ digits, IsNumeral digits ∧ digits.length = 2 ∧ value = numeral digits ∧
      text = digits ++ rest := by
  unfold readPair? at read
  split at read
  · next first second others =>
      obtain ⟨number, written, same⟩ := Option.map_eq_some_iff.mp read
      obtain ⟨rfl, rfl⟩ := Prod.mk.inj same
      obtain ⟨row, rfl⟩ := Integer.natural?_ten.1 written
      exact ⟨[first, second], row, rfl, rfl, rfl⟩
  · cases read

theorem exists_sign {direction : Int} (read : readSign? text = some (direction, rest)) :
    ∃ sign, IsSign sign direction ∧ text = sign :: rest := by
  unfold readSign? at read
  split at read
  · obtain ⟨rfl, rfl⟩ := Prod.mk.inj (Option.some.inj read)
    exact ⟨_, .plus, rfl⟩
  · obtain ⟨rfl, rfl⟩ := Prod.mk.inj (Option.some.inj read)
    exact ⟨_, .hyphen, rfl⟩
  · obtain ⟨rfl, rfl⟩ := Prod.mk.inj (Option.some.inj read)
    exact ⟨_, .minus, rfl⟩
  · cases read

/-- Whether a character may part the hours of an offset from its minutes. -/
def isParting (character : Char) : Bool :=
  character = ':' || Text.isBlank character

theorem readOffset?_signed {sign : Char} {direction : Int} (means : IsSign sign direction) :
    readOffset? (sign :: text) = (do
      let (hours, text) ← readPair? text
      let (minutes, text) ← readPair? (text.dropWhile isParting)
      guard (minutes < 60 && hours < 24)
      return (direction * (hours * 3600 + minutes * 60 : Nat), text)) := by
  cases means <;> simp [readOffset?, isUniversal, readSign?] <;> rfl

theorem readOffset?_append {ahead : Int} (offset : IsOffset text ahead) :
    readOffset? (text ++ rest) = some (ahead, rest) := by
  cases offset with
  | named universal =>
      have three : text.length = 3 := by simpa using congrArg List.length universal
      have letters : (text ++ rest).take 3 = text := by rw [← three, List.take_left]
      have others : (text ++ rest).drop 3 = rest := by rw [← three, List.drop_left]
      simp only [readOffset?, letters, others, isUniversal, universal, decide_true, if_true]
  | zulu letter =>
      rcases letter with rfl | rfl <;> simp [readOffset?, isUniversal]
  | @written sign direction hours separators minutes means row two most parting rest' two' most' =>
      have digit (digit : Char) (isDigit : digit.isDigit = true) : isParting digit = false := by
        have noColon : digit ≠ ':' := by
          rintro rfl
          cases isDigit
        simp [isParting, noColon, isBlank_eq_false isDigit]
      have passed : (separators ++ (minutes ++ rest)).dropWhile isParting = minutes ++ rest :=
        dropWhile_append (by simpa [isParting] using parting) (avoids_of_isNumeral rest' digit)
      rw [List.cons_append, readOffset?_signed means]
      simp only [List.append_assoc, readPair?_append row two, readPair?_append rest' two', passed,
        Option.bind_eq_bind, Option.bind_some, Nat.lt_succ_of_le most, Nat.lt_succ_of_le most']
      rfl

theorem exists_offset {ahead : Int} (read : readOffset? text = some (ahead, rest)) :
    ∃ used, IsOffset used ahead ∧ text = used ++ rest := by
  unfold readOffset? at read
  split_ifs at read with universal
  · obtain ⟨rfl, rfl⟩ := Prod.mk.inj (Option.some.inj read)
    exact ⟨text.take 3, .named (of_decide_eq_true universal), (List.take_append_drop 3 text).symm⟩
  · split at read
    · obtain ⟨rfl, rfl⟩ := Prod.mk.inj (Option.some.inj read)
      exact ⟨['Z'], .zulu (.inl rfl), rfl⟩
    · obtain ⟨rfl, rfl⟩ := Prod.mk.inj (Option.some.inj read)
      exact ⟨['z'], .zulu (.inr rfl), rfl⟩
    · simp only [Option.bind_eq_bind, Option.bind_eq_some_iff, Option.guard_eq_some', exists_const,
        Option.pure_def, Option.some.injEq, Prod.mk.injEq, Bool.and_eq_true,
        decide_eq_true_eq] at read
      obtain ⟨⟨direction, _⟩, readSign, ⟨_, behind⟩, readHours, ⟨_, after⟩, readMinutes,
        ⟨late, early⟩, rfl, rfl⟩ := read
      obtain ⟨sign, means, rfl⟩ := exists_sign readSign
      obtain ⟨hours, row, two, rfl, rfl⟩ := exists_pair readHours
      obtain ⟨minutes, others, pair, rfl, left⟩ := exists_pair readMinutes
      have parted : behind = behind.takeWhile isParting ++ (minutes ++ after) := by
        rw [← left]
        exact List.takeWhile_append_dropWhile.symm
      have parting : ∀ character ∈ behind.takeWhile isParting,
          character = ':' ∨ Text.isBlank character = true := by
        intro character listed
        simpa [isParting] using List.mem_takeWhile_imp listed
      refine ⟨_, .written means row two (Nat.le_of_lt_succ early) parting others pair
        (Nat.le_of_lt_succ late), ?_⟩
      rw [List.cons_append, List.append_assoc, List.append_assoc, ← parted]

/-! ## Whole texts -/

/-- A text is read as an instant exactly if it writes that instant. -/
theorem ofText?_eq_some {text : String} {instant : Instant} :
    ofText? text = some instant ↔ Writes text.toList instant := by
  unfold ofText?
  constructor
  · intro read
    simp only [Option.bind_eq_bind, Option.bind_eq_some_iff] at read
    obtain ⟨⟨day, behind⟩, readDate, read⟩ := read
    obtain ⟨date, isDate, whole⟩ := exists_date readDate
    simp only at read
    split at read
    · next mark behind =>
        simp only [Option.bind_eq_some_iff, Option.guard_eq_some', exists_const, Option.pure_def,
          Option.some.injEq, isYear, Bool.and_eq_true, decide_eq_true_eq] at read
        obtain ⟨isMark, ⟨second, nanos, left⟩, readTime, ⟨ahead, last⟩, readOffset, atEnd,
          ⟨early, late⟩, same⟩ := read
        obtain ⟨time, isTime, rfl⟩ := exists_time readTime
        obtain ⟨gap, isGap, parted⟩ := exists_blanks left
        obtain ⟨offset, isOffset, behindGap⟩ := exists_offset readOffset
        obtain ⟨blanks, isBlanks, remainder⟩ := exists_blanks last
        have parts : mark = 'T' ∨ mark = 't' ∨ mark = ' ' := by
          simp only [isDateMark, Bool.or_eq_true, decide_eq_true_eq] at isMark
          rcases isMark with (lower | upper) | space
          · exact .inr (.inl lower)
          · exact .inl upper
          · exact .inr (.inr space)
        rw [List.isEmpty_iff.mp atEnd, List.append_nil] at remainder
        rw [whole, parted, behindGap, remainder]
        obtain rfl := same
        exact .written isDate parts isTime isGap isOffset isBlanks rfl early late
    · cases read
  · intro writes
    generalize text.toList = characters at writes
    cases writes with
    | @written date time gap offset blanks mark day ahead second nanos _ isDate isMark isTime isGap
        isOffset isBlanks same early late =>
        have noDigit : mark.isDigit = false := by
          rcases isMark with rfl | rfl | rfl <;> rfl
        have parts : isDateMark mark = true := by
          rcases isMark with rfl | rfl | rfl <;> rfl
        have begins {kind : Char → Bool}
            (noneOfKind : ['U', 'u', 'Z', 'z', '+', '-', '−'].any kind = false) :
            Avoids kind (offset ++ blanks) := isOffset.avoids noneOfKind
        have passedGap := skipBlanks_append isGap (begins rfl)
        have passed : Text.skipBlanks blanks = [] := by
          have alone : Text.skipBlanks (blanks ++ []) = [] := skipBlanks_append isBlanks nofun
          simpa using alone
        have gapless := isGap.avoids (fun _ => isDigit_eq_false) (begins rfl)
        have dotless : Avoids (· = '.') (gap ++ (offset ++ blanks)) := by
          refine isGap.avoids (fun character blank => ?_) (begins rfl)
          refine decide_eq_false fun dot => ?_
          rw [dot] at blank
          cases blank
        simp only [readDate?_append isDate (.cons noDigit),
          readTime?_append isTime gapless dotless, passedGap,
          readOffset?_append isOffset, passed, parts, Option.bind_eq_bind, Option.bind_some]
        obtain rfl := same
        simp only [isYear, early, late, decide_true, Bool.and_self, List.isEmpty_nil]
        rfl

end Instant

end CorpusJudge
