import CorpusJudge.Text.Integer
import Mathlib.Data.List.Induction
import Mathlib.Tactic.SplitIfs

/-!
# Decimal integers

A number is read from digits with or without a sign, and from nothing else, and the digits that a
number is written with are read back as that number.
-/

namespace CorpusJudge.Integer

variable {digits characters : List Char} {value : Int}

/-! ## Rows of digits -/

/-- A row of at least one decimal digit. -/
structure IsNumeral (digits : List Char) : Prop where
  nonempty : digits ≠ []
  digit : ∀ digit ∈ digits, digit.isDigit = true

/-- The number that a row of decimal digits writes. -/
def numeral (digits : List Char) : Nat :=
  Nat.ofDigitChars 10 digits 0

theorem digitValue?_ten (character : Char) :
    digitValue? 10 character = if character.isDigit then some (character.toNat - 48) else none := by
  have decimal : character.isDigit = true ↔ '0' ≤ character ∧ character ≤ '9' := by
    simp [Char.isDigit, Char.le_def, UInt32.le_iff_toNat_le]
  have number (bound : Char) : bound ≤ character ↔ bound.toNat ≤ character.toNat := Iff.rfl
  have number' (bound : Char) : character ≤ bound ↔ character.toNat ≤ bound.toNat := Iff.rfl
  unfold digitValue?
  simp only [decimal, number, number', Char.reduceToNat]
  split_ifs
  all_goals first | omega | rfl

theorem foldlM_digits (digits : List Char) (value : Nat) :
    digits.foldlM (fun value digit => (digitValue? 10 digit).map (10 * value + ·)) value =
      if digits.all Char.isDigit then some (Nat.ofDigitChars 10 digits value) else none := by
  induction digits generalizing value with
  | nil => rfl
  | cons digit rest ih =>
      rw [List.foldlM_cons, digitValue?_ten, List.all_cons, Nat.ofDigitChars_cons]
      cases digit.isDigit
      · rfl
      · exact ih _

/-- A natural number is read exactly from a row of decimal digits. -/
theorem natural?_ten {number : Nat} :
    natural? 10 digits = some number ↔ IsNumeral digits ∧ number = numeral digits := by
  unfold natural?
  rw [foldlM_digits]
  split_ifs with empty all
  · simp only [false_iff]
    exact fun read => read.1.nonempty (List.isEmpty_iff.mp empty)
  · have row : IsNumeral digits := ⟨by simpa using empty, by simpa using all⟩
    simp [row, numeral, eq_comm]
  · simp only [false_iff]
    exact fun read => all (List.all_eq_true.mpr read.1.digit)

/-- The digits of a number are a row of digits that writes it. -/
theorem isNumeral_toDigits (number : Nat) : IsNumeral (Nat.toDigits 10 number) :=
  ⟨Nat.toDigits_ne_nil, fun _ member => Nat.isDigit_of_mem_toDigits (by decide) (by decide) member⟩

theorem numeral_toDigits (number : Nat) : numeral (Nat.toDigits 10 number) = number :=
  Nat.ofDigitChars_ten_toDigits

/-! ## Other bases -/

/-- The character is a digit of a base, with a value: figures come before letters, and letters of either
case are alike. -/
inductive IsDigit (base : Nat) : Char → Nat → Prop where
  | figure {character : Char} {value : Nat} : value < base → value < 10 →
      character.toNat = '0'.toNat + value → IsDigit base character value
  | small {character : Char} {value : Nat} : value < base → 10 ≤ value → value < 16 →
      character.toNat + 10 = 'a'.toNat + value → IsDigit base character value
  | capital {character : Char} {value : Nat} : value < base → 10 ≤ value → value < 16 →
      character.toNat + 10 = 'A'.toNat + value → IsDigit base character value

/-- A row of at least one digit, for the number that it writes in a base. -/
inductive Spells (base : Nat) : List Char → Nat → Prop where
  | first {digit : Char} {value : Nat} : IsDigit base digit value → Spells base [digit] value
  | next {digits : List Char} {digit : Char} {number value : Nat} : Spells base digits number →
      IsDigit base digit value → Spells base (digits ++ [digit]) (base * number + value)

theorem digitValue?_eq_some {base value : Nat} {character : Char} :
    digitValue? base character = some value ↔ IsDigit base character value := by
  have zero : '0'.toNat = 48 := rfl
  have small : 'a'.toNat = 97 := rfl
  have capital : 'A'.toNat = 65 := rfl
  have least (bound : Char) : bound ≤ character ↔ bound.toNat ≤ character.toNat := Iff.rfl
  have most (bound : Char) : character ≤ bound ↔ character.toNat ≤ bound.toNat := Iff.rfl
  simp only [digitValue?, least, most, Char.reduceToNat]
  constructor
  · intro read
    split_ifs at read with figure below lower below upper below below
    · obtain rfl := Option.some.inj read
      exact .figure below (by omega) (by omega)
    · obtain rfl := Option.some.inj read
      exact .small below (by omega) (by omega) (by omega)
    · obtain rfl := Option.some.inj read
      exact .capital below (by omega) (by omega) (by omega)
    · omega
  · rintro (⟨below, low, code⟩ | ⟨below, low, high, code⟩ | ⟨below, low, high, code⟩)
    all_goals
      split_ifs
      all_goals first | omega | (rw [Option.some.injEq]; omega)

theorem Spells.ne_nil {base number : Nat} (spells : Spells base digits number) : digits ≠ [] := by
  cases spells with
  | first => exact List.cons_ne_nil _ _
  | next => exact List.append_ne_nil_of_right_ne_nil _ (List.cons_ne_nil _ _)

theorem natural?_singleton (base : Nat) (digit : Char) :
    natural? base [digit] = digitValue? base digit := by
  simp [natural?]

theorem natural?_concat (base : Nat) (some : digits ≠ []) (digit : Char) :
    natural? base (digits ++ [digit]) =
      (natural? base digits).bind fun number => (digitValue? base digit).map (base * number + ·) := by
  simp [natural?, some, List.foldlM_append]

/-- A number is read in a base exactly from a row of digits that writes it. -/
theorem natural?_eq_some {base number : Nat} :
    natural? base digits = some number ↔ Spells base digits number := by
  constructor
  · intro read
    induction digits using List.reverseRecOn generalizing number with
    | nil => cases read
    | append_singleton digits digit ih =>
        by_cases none : digits = []
        · subst none
          rw [List.nil_append, natural?_singleton] at read
          exact .first (digitValue?_eq_some.1 read)
        · rw [natural?_concat base none] at read
          obtain ⟨front, readFront, same⟩ := Option.bind_eq_some_iff.mp read
          obtain ⟨value, readDigit, rfl⟩ := Option.map_eq_some_iff.mp same
          exact .next (ih readFront) (digitValue?_eq_some.1 readDigit)
  · intro spells
    induction spells with
    | first isDigit => rw [natural?_singleton, digitValue?_eq_some.2 isDigit]
    | next spells isDigit ih =>
        rw [natural?_concat _ spells.ne_nil, ih, digitValue?_eq_some.2 isDigit]
        rfl

/-! ## Signs -/

/-- The characters write the number: a row of digits with a sign or without one. -/
inductive Writes : List Char → Int → Prop
  | bare {digits : List Char} : IsNumeral digits → Writes digits (numeral digits)
  | plus {digits : List Char} : IsNumeral digits → Writes ('+' :: digits) (numeral digits)
  | minus {digits : List Char} : IsNumeral digits → Writes ('-' :: digits) (-numeral digits)

theorem signed?_bare (row : IsNumeral digits) : signed? 10 digits = some ↑(numeral digits) := by
  have read := natural?_ten.2 ⟨row, rfl⟩
  unfold signed?
  split
  · exact absurd (row.digit '+' List.mem_cons_self) (by decide)
  · exact absurd (row.digit '-' List.mem_cons_self) (by decide)
  · simp [read]

/-- A number is read exactly from the characters that write it. -/
theorem signed?_ten : signed? 10 characters = some value ↔ Writes characters value := by
  constructor
  · intro read
    unfold signed? at read
    split at read
    all_goals
      obtain ⟨number, found, rfl⟩ := Option.map_eq_some_iff.mp read
      obtain ⟨row, rfl⟩ := natural?_ten.1 found
    · exact .plus row
    · exact .minus row
    · exact .bare row
  · rintro (row | row | row)
    · exact signed?_bare row
    · simp [signed?, natural?_ten.2 ⟨row, rfl⟩]
    · simp [signed?, natural?_ten.2 ⟨row, rfl⟩]

/-- Characters write at most one number. -/
theorem Writes.unique {other : Int} (first : Writes characters value)
    (second : Writes characters other) : value = other :=
  Option.some.inj ((signed?_ten.2 first).symm.trans (signed?_ten.2 second))

theorem Writes.dotless (writes : Writes characters value) : '.' ∉ characters := by
  have plain {digits : List Char} (row : IsNumeral digits) : '.' ∉ digits :=
    fun dot => absurd (row.digit '.' dot) (by decide)
  cases writes with
  | bare row => exact plain row
  | plus row => simpa using plain row
  | minus row => simpa using plain row

/-- A number is written out in decimal digits, with a minus sign in front of a negative one. -/
theorem writes_toString (value : Int) : Writes (toString value).toList value := by
  have row (number : Nat) : IsNumeral number.repr.toList := by
    rw [Nat.repr_eq_ofList_toDigits, String.toList_ofList]
    exact isNumeral_toDigits number
  have writes (number : Nat) : numeral number.repr.toList = number := by
    rw [Nat.repr_eq_ofList_toDigits, String.toList_ofList]
    exact numeral_toDigits number
  cases value with
  | ofNat number =>
      have bare := Writes.bare (row number)
      rwa [writes] at bare
  | negSucc number =>
      have minus := Writes.minus (row (number + 1))
      rw [writes] at minus
      have text : (toString (Int.negSucc number)).toList = '-' :: (number + 1).repr.toList := by
        rw [Int.toString_eq_repr, Int.repr, String.toList_append]
        rfl
      rwa [text, Int.negSucc_eq]

/-- A number of a signed 64-bit word is read exactly from the characters that write it. -/
theorem read?_eq_some : read? characters = some value ↔
    Writes characters value ∧ least ≤ value ∧ value ≤ greatest := by
  simp [read?, Option.filter_eq_some_iff, signed?_ten, fits]

end CorpusJudge.Integer
