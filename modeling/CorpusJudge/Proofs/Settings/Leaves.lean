import CorpusJudge.Proofs.Instant.Reading
import CorpusJudge.Settings.Document
import Mathlib.Data.List.Forall2

/-!
# Leaves of a settings document

What a scalar has to say to be a text, a number or a point in time, and which nodes are sequences.  The
values of settings are read from exactly such nodes.
-/

namespace CorpusJudge.Yaml.Document

open Integer (Spells)

/-! ## How numbers are written -/

/-- Digits for a number, with a mark in front if they are not decimal.  Decimal digits begin with a zero
only for zero itself. -/
inductive WritesMagnitude : List Char → Nat → Prop where
  | hexadecimal {digits : List Char} {value : Nat} : Spells 16 digits value →
      WritesMagnitude ('0' :: 'x' :: digits) value
  | octal {digits : List Char} {value : Nat} : Spells 8 digits value →
      WritesMagnitude ('0' :: 'o' :: digits) value
  | binary {digits : List Char} {value : Nat} : Spells 2 digits value →
      WritesMagnitude ('0' :: 'b' :: digits) value
  | decimal {digits : List Char} {value : Nat} : Spells 10 digits value →
      (∀ rest, digits = '0' :: rest → rest = []) → WritesMagnitude digits value

/-- A number that is not negative, with a plus sign or without. -/
inductive WritesNatural : List Char → Nat → Prop where
  | bare {digits : List Char} {value : Nat} : WritesMagnitude digits value →
      WritesNatural digits value
  | plus {digits : List Char} {value : Nat} : WritesMagnitude digits value →
      WritesNatural ('+' :: digits) value

/-- A whole number, with a sign or without. -/
inductive WritesInteger : List Char → Int → Prop where
  | natural {characters : List Char} {value : Nat} : WritesNatural characters value →
      WritesInteger characters value
  | minus {digits : List Char} {value : Nat} : WritesMagnitude digits value →
      WritesInteger ('-' :: digits) (-value)

/-! ## Leaves -/

/-- A scalar with some text, however it is written. -/
inductive IsText (document : Document) (node : Node) (text : String) : Prop where
  | scalar {style : Style} {tag : Option String} :
      document.resolve node = .scalar style tag text → IsText document node text

/-- A scalar that may stand for a number: a plain one, or a literal block that says so by its tag. -/
inductive IsNumeral (document : Document) (node : Node) (text : String) : Prop where
  | plain {tag : Option String} :
      document.resolve node = .scalar .plain tag text → IsNumeral document node text
  | tagged :
      document.resolve node = .scalar .literal (some "tag:yaml.org,2002:int") text →
      IsNumeral document node text

/-- A scalar for an unsigned 64-bit number. -/
def IsNatural (document : Document) (node : Node) (value : Nat) : Prop :=
  value < 2 ^ 64 ∧ ∃ text, document.IsNumeral node text ∧ WritesNatural text.toList value

/-- A scalar for a signed 64-bit number. -/
def IsInteger (document : Document) (node : Node) (value : Int) : Prop :=
  -9223372036854775808 ≤ value ∧ value ≤ 9223372036854775807 ∧
    ∃ text, document.IsNumeral node text ∧ WritesInteger text.toList value

/-- A scalar for a point in time. -/
def IsInstant (document : Document) (node : Node) (instant : Instant) : Prop :=
  ∃ text, document.IsText node text ∧ Instant.Writes text.toList instant

/-- The items of a sequence; where nothing is written, there are none. -/
inductive Enumerates (document : Document) (node : Node) : List Node → Prop where
  | written {items : List Node} :
      document.resolve node = .sequence items → Enumerates document node items
  | absent {tag : Option String} :
      document.resolve node = .scalar .plain tag "" → Enumerates document node []

variable {document : Document} {node : Node}

/-! ## Reading leaves -/

theorem isAbsent_iff {node : Node} : isAbsent node = true ↔ ∃ tag, node = .scalar .plain tag "" := by
  constructor
  · intro absent
    unfold isAbsent at absent
    split at absent
    · exact ⟨_, rfl⟩
    · cases absent
  · rintro ⟨tag, rfl⟩
    rfl

theorem text?_eq_some {text : String} : document.text? node = some text ↔ document.IsText node text := by
  unfold text?
  constructor
  · intro read
    split at read
    · next scalar =>
        obtain rfl := Option.some.inj read
        exact .scalar scalar
    · cases read
  · rintro ⟨scalar⟩
    rw [scalar]

theorem items?_eq_some {items : List Node} :
    document.items? node = some items ↔ document.Enumerates node items := by
  unfold items?
  constructor
  · intro read
    split at read
    · next written =>
        obtain rfl := Option.some.inj read
        exact .written written
    · split_ifs at read with absent
      obtain rfl := Option.some.inj read
      obtain ⟨tag, scalar⟩ := isAbsent_iff.1 absent
      exact .absent scalar
  · rintro (written | absent)
    · simp only [written]
    · simp only [absent]
      rfl

theorem numeral?_eq_some {characters : List Char} :
    document.numeral? node = some characters ↔
      ∃ text, document.IsNumeral node text ∧ characters = text.toList := by
  unfold numeral?
  constructor
  · intro read
    split at read
    · next scalar => exact ⟨_, .plain scalar, (Option.some.inj read).symm⟩
    · next scalar => exact ⟨_, .tagged scalar, (Option.some.inj read).symm⟩
    · cases read
  · rintro ⟨text, scalar | scalar, rfl⟩
    · simp only [scalar]
    · simp only [scalar]

/-- A row of decimal digits begins with an idle zero if it is longer than a zero itself. -/
theorem hasIdleZero_iff {digits : List Char} (row : Integer.IsNumeral digits) :
    hasIdleZero digits = false ↔ ∀ rest, digits = '0' :: rest → rest = [] := by
  unfold hasIdleZero
  split
  · next rest =>
      have all : rest.all Char.isDigit = true :=
        List.all_eq_true.mpr fun digit listed => row.digit digit (List.mem_cons_of_mem _ listed)
      simp [all]
  · next other => exact iff_of_true rfl fun rest same => absurd same (other rest)

theorem magnitude?_eq_some {characters : List Char} {value : Nat} :
    magnitude? characters = some value ↔ WritesMagnitude characters value := by
  constructor
  · intro read
    unfold magnitude? at read
    split at read
    · exact .hexadecimal (Integer.natural?_eq_some.1 read)
    · exact .octal (Integer.natural?_eq_some.1 read)
    · exact .binary (Integer.natural?_eq_some.1 read)
    · split_ifs at read with idle
      have row := (Integer.natural?_ten.1 read).1
      exact .decimal (Integer.natural?_eq_some.1 read)
        ((hasIdleZero_iff row).mp (by simpa using idle))
  · intro writes
    cases writes with
    | hexadecimal spells => exact Integer.natural?_eq_some.2 spells
    | octal spells => exact Integer.natural?_eq_some.2 spells
    | binary spells => exact Integer.natural?_eq_some.2 spells
    | decimal spells zero =>
        have read := Integer.natural?_eq_some.2 spells
        have idle := (hasIdleZero_iff (Integer.natural?_ten.1 read).1).mpr zero
        unfold magnitude?
        -- a mark would stand behind a zero
        split
        · cases zero _ rfl
        · cases zero _ rfl
        · cases zero _ rfl
        · simp only [idle, Bool.false_eq_true, if_false, read]

/-- What is written without a sign begins with a digit. -/
theorem WritesMagnitude.unsigned {characters rest : List Char} {value : Nat} {sign : Char}
    (writes : WritesMagnitude characters value) (noDigit : sign.isDigit = false) :
    characters ≠ sign :: rest := by
  rintro rfl
  cases writes with
  | hexadecimal => cases noDigit
  | octal => cases noDigit
  | binary => cases noDigit
  | decimal spells =>
      have row := (Integer.natural?_ten.1 (Integer.natural?_eq_some.2 spells)).1
      cases noDigit.symm.trans (row.digit sign List.mem_cons_self)

theorem naturalOf?_eq_some {characters : List Char} {value : Nat} :
    naturalOf? characters = some value ↔ WritesNatural characters value := by
  constructor
  · intro read
    unfold naturalOf? at read
    split at read
    · exact .plus (magnitude?_eq_some.1 read)
    · exact .bare (magnitude?_eq_some.1 read)
  · rintro (writes | writes)
    · unfold naturalOf?
      split
      · exact absurd rfl (writes.unsigned rfl)
      · exact magnitude?_eq_some.2 writes
    · exact magnitude?_eq_some.2 writes

theorem integerOf?_eq_some {characters : List Char} {value : Int} :
    integerOf? characters = some value ↔ WritesInteger characters value := by
  constructor
  · intro read
    unfold integerOf? at read
    split at read
    all_goals
      obtain ⟨number, found, rfl⟩ := Option.map_eq_some_iff.mp read
      have writes := magnitude?_eq_some.1 found
    · exact .natural (.plus writes)
    · exact .minus writes
    · exact .natural (.bare writes)
  · rintro ((writes | writes) | writes)
    · unfold integerOf?
      split
      · exact absurd rfl (writes.unsigned rfl)
      · exact absurd rfl (writes.unsigned rfl)
      · rw [magnitude?_eq_some.2 writes]
        rfl
    · simp [integerOf?, magnitude?_eq_some.2 writes]
    · simp [integerOf?, magnitude?_eq_some.2 writes]

theorem natural?_eq_some {value : Nat} :
    document.natural? node = some value ↔ document.IsNatural node value := by
  simp only [natural?, Option.filter_eq_some_iff, Option.bind_eq_some_iff, numeral?_eq_some,
    naturalOf?_eq_some, Integer.fitsUnsigned, decide_eq_true_eq]
  constructor
  · rintro ⟨⟨_, ⟨text, scalar, rfl⟩, writes⟩, fits⟩
    exact ⟨fits, text, scalar, writes⟩
  · rintro ⟨fits, text, scalar, writes⟩
    exact ⟨⟨_, ⟨text, scalar, rfl⟩, writes⟩, fits⟩

theorem integer?_eq_some {value : Int} :
    document.integer? node = some value ↔ document.IsInteger node value := by
  have bounds : Integer.fits value = true ↔
      -9223372036854775808 ≤ value ∧ value ≤ 9223372036854775807 := by
    simp only [Integer.fits, Bool.and_eq_true, decide_eq_true_eq]
    rfl
  simp only [integer?, Option.filter_eq_some_iff, Option.bind_eq_some_iff, numeral?_eq_some,
    integerOf?_eq_some, bounds]
  constructor
  · rintro ⟨⟨_, ⟨text, scalar, rfl⟩, writes⟩, low, high⟩
    exact ⟨low, high, text, scalar, writes⟩
  · rintro ⟨low, high, text, scalar, writes⟩
    exact ⟨⟨_, ⟨text, scalar, rfl⟩, writes⟩, low, high⟩

theorem instant?_eq_some {instant : Instant} :
    (document.text? node).bind Instant.ofText? = some instant ↔ document.IsInstant node instant := by
  simp only [Option.bind_eq_some_iff, text?_eq_some, Instant.ofText?_eq_some]
  rfl

end CorpusJudge.Yaml.Document
