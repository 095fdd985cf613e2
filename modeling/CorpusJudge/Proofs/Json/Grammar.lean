import CorpusJudge.Json.Reader
import Mathlib.Data.List.DropRight
import Mathlib.Data.List.TakeDrop
import Mathlib.Data.List.TakeWhile

/-!
# The grammar of JSON

Which octets are a JSON text, and which value they are written for.  Strings and numbers stay the way
they are written.  Octets beyond ASCII can only stand in strings, so the grammar of characters is the one
of the octets of their UTF-8 forms.
-/

namespace CorpusJudge.Json

variable {octet digit letter : Char} {value code : Nat} {text written rest digits : Octets}

/-! ## White space -/

/-- There is nothing but white space. -/
def IsBlank (text : Octets) : Prop :=
  ∀ octet ∈ text, octet = ' ' ∨ octet = '\n' ∨ octet = '\t' ∨ octet = '\r'

/-! ## Strings -/

/-- The digit of hexadecimal notation has the value; letters may be of either case. -/
def HexDigit (digit : Char) (value : Nat) : Prop :=
  value < 16 ∧ (digit = Nat.digitChar value ∨ digit = (Nat.digitChar value).toUpper)

instance (digit : Char) (value : Nat) : Decidable (HexDigit digit value) :=
  inferInstanceAs (Decidable (_ ∧ _))

/-- Four digits of hexadecimal notation write the number. -/
inductive CodeUnit : Octets → Nat → Prop where
  | digits {first second third fourth : Char} {one two three four : Nat} :
      HexDigit first one → HexDigit second two → HexDigit third three → HexDigit fourth four →
      CodeUnit [first, second, third, fourth] (((one * 16 + two) * 16 + three) * 16 + four)

/-- Behind a backslash the letter stands for the character. -/
inductive Abbreviates : Char → Char → Prop where
  | quote : Abbreviates '"' '"'
  | backslash : Abbreviates '\\' '\\'
  | slash : Abbreviates '/' '/'
  | backspace : Abbreviates 'b' '\x08'
  | formFeed : Abbreviates 'f' '\x0c'
  | lineBreak : Abbreviates 'n' '\n'
  | carriageReturn : Abbreviates 'r' '\r'
  | tab : Abbreviates 't' '\t'

/-- The octets can stand between the quotes of a string. -/
inductive IsBody : Octets → Prop where
  | nil : IsBody []
  | plain {octet : Char} {rest : Octets} : octet ≠ '"' → octet ≠ '\\' → ¬octet < ' ' →
      IsBody rest → IsBody (octet :: rest)
  | escape {letter character : Char} {rest : Octets} : Abbreviates letter character →
      IsBody rest → IsBody ('\\' :: letter :: rest)
  | unit {digits rest : Octets} {code : Nat} : CodeUnit digits code → IsBody rest →
      IsBody ('\\' :: 'u' :: (digits ++ rest))

/-! ## Numbers -/

/-- A row of digits, at least one. -/
def IsDigits (digits : Octets) : Prop :=
  digits ≠ [] ∧ ∀ digit ∈ digits, digit.isDigit = true

/-- The whole part of a number, in which no zero leads further digits. -/
inductive IsWhole : Octets → Prop where
  | zero : IsWhole ['0']
  | positive {digits : Octets} : IsDigits digits → digits.head? ≠ some '0' → IsWhole digits

/-- The decimals of a number, if it has any. -/
inductive IsDecimals : Octets → Prop where
  | absent : IsDecimals []
  | present {digits : Octets} : IsDigits digits → IsDecimals ('.' :: digits)

/-- The exponent of a number, if it has one. -/
inductive IsExponent : Octets → Prop where
  | absent : IsExponent []
  | present {mark : Char} {sign digits : Octets} : mark = 'e' ∨ mark = 'E' →
      sign = [] ∨ sign = ['+'] ∨ sign = ['-'] → IsDigits digits →
      IsExponent (mark :: (sign ++ digits))

/-- A number without its sign. -/
inductive IsUnsigned : Octets → Prop where
  | parts {whole decimals exponent : Octets} : IsWhole whole → IsDecimals decimals →
      IsExponent exponent → IsUnsigned (whole ++ decimals ++ exponent)

/-- A number. -/
inductive IsNumber : Octets → Prop where
  | positive {written : Octets} : IsUnsigned written → IsNumber written
  | negative {written : Octets} : IsUnsigned written → IsNumber ('-' :: written)

/-! ## Values -/

/-- What a part of a JSON text is written for.  The items of an array and the members of an object are
those between its brackets or braces, and there is at least one of them. -/
inductive Phrase where
  | value (value : Value)
  | padded (value : Value)
  | items (items : List Value)
  | member (name : Octets) (value : Value)
  | members (members : List (Octets × Value))

/-- The octets are written for the phrase. -/
inductive Writes : Phrase → Octets → Prop where
  | wordNull : Writes (.value .null) ['n', 'u', 'l', 'l']
  | wordFalse : Writes (.value (.boolean false)) ['f', 'a', 'l', 's', 'e']
  | wordTrue : Writes (.value (.boolean true)) ['t', 'r', 'u', 'e']
  | number {written : Octets} : IsNumber written → Writes (.value (.number written)) written
  | string {written : Octets} : IsBody written →
      Writes (.value (.string written)) ('"' :: (written ++ ['"']))
  | noItems {blank : Octets} : IsBlank blank →
      Writes (.value (.array [])) ('[' :: (blank ++ [']']))
  | array {items : List Value} {text : Octets} : Writes (.items items) text →
      Writes (.value (.array items)) ('[' :: (text ++ [']']))
  | noMembers {blank : Octets} : IsBlank blank →
      Writes (.value (.object [])) ('\x7b' :: (blank ++ ['\x7d']))
  | object {members : List (Octets × Value)} {text : Octets} : Writes (.members members) text →
      Writes (.value (.object members)) ('\x7b' :: (text ++ ['\x7d']))
  | padded {value : Value} {before text after : Octets} : IsBlank before →
      Writes (.value value) text → IsBlank after → Writes (.padded value) (before ++ text ++ after)
  | lastItem {item : Value} {text : Octets} : Writes (.padded item) text →
      Writes (.items [item]) text
  | nextItem {item : Value} {items : List Value} {text rest : Octets} :
      Writes (.padded item) text → Writes (.items items) rest →
      Writes (.items (item :: items)) (text ++ ',' :: rest)
  | member {name : Octets} {value : Value} {before between text : Octets} : IsBlank before →
      IsBody name → IsBlank between → Writes (.padded value) text →
      Writes (.member name value) (before ++ '"' :: (name ++ '"' :: (between ++ ':' :: text)))
  | lastMember {name : Octets} {value : Value} {text : Octets} : Writes (.member name value) text →
      Writes (.members [(name, value)]) text
  | nextMember {name : Octets} {value : Value} {members : List (Octets × Value)}
      {text rest : Octets} : Writes (.member name value) text → Writes (.members members) rest →
      Writes (.members ((name, value) :: members)) (text ++ ',' :: rest)

/-- The document holds the value and nothing else. -/
def Holds (document : Bytes) (value : Value) : Prop :=
  Writes (.padded value) document.octets

/-! ## Reading escapes -/

/-- A character in a range is one of those counted from its start. -/
theorem exists_offset {first last : Char} (lower : first ≤ digit) (upper : digit ≤ last) :
    ∃ offset < last.toNat - first.toNat + 1, digit = Char.ofNat (first.toNat + offset) := by
  have least : first.toNat ≤ digit.toNat := lower
  have most : digit.toNat ≤ last.toNat := upper
  refine ⟨digit.toNat - first.toNat, by omega, ?_⟩
  rw [Nat.add_sub_cancel' least, Char.ofNat_toNat]

theorem hexValue?_eq_some : Bytes.hexValue? digit = some value ↔ HexDigit digit value := by
  constructor
  · intro read
    unfold Bytes.hexValue? at read
    split_ifs at read with decimal lower upper
    · cases read
      obtain ⟨offset, small, rfl⟩ := exists_offset decimal.1 decimal.2
      clear decimal
      change offset < 10 at small
      decide +revert
    · cases read
      obtain ⟨offset, small, rfl⟩ := exists_offset lower.1 lower.2
      clear decimal lower
      change offset < 6 at small
      decide +revert
    · cases read
      obtain ⟨offset, small, rfl⟩ := exists_offset upper.1 upper.2
      clear decimal lower upper
      change offset < 6 at small
      decide +revert
  · rintro ⟨small, rfl | rfl⟩
    · decide +revert
    · decide +revert

theorem codeUnit?_eq_some :
    codeUnit? text = some (code, rest) ↔ ∃ digits, CodeUnit digits code ∧ text = digits ++ rest := by
  constructor
  · intro read
    unfold codeUnit? at read
    split at read
    · simp only [Option.bind_eq_bind, Option.bind_eq_some_iff, hexValue?_eq_some, Option.pure_def,
        Option.some.injEq, Prod.mk.injEq] at read
      obtain ⟨_, first, _, second, _, third, _, fourth, rfl, rfl⟩ := read
      exact ⟨_, .digits first second third fourth, rfl⟩
    · cases read
  · rintro ⟨_, ⟨first, second, third, fourth⟩, rfl⟩
    rw [← hexValue?_eq_some] at first second third fourth
    simp [codeUnit?, first, second, third, fourth]

theorem simpleEscape?_eq_some : simpleEscape? letter = some octet ↔ Abbreviates letter octet := by
  constructor
  · intro read
    unfold simpleEscape? at read
    split at read
    all_goals cases read
    all_goals constructor
  · rintro ⟨⟩
    all_goals rfl

/-! ## Reading white space -/

theorem isSpace_iff : isSpace octet = true ↔
    octet = ' ' ∨ octet = '\n' ∨ octet = '\t' ∨ octet = '\r' := by
  simp [isSpace, or_assoc]

theorem skipSpace_cons (rest : Octets) (noSpace : isSpace octet = false) :
    skipSpace (octet :: rest) = octet :: rest := by
  simp [skipSpace, noSpace]

theorem skipSpace_blank (blank : IsBlank text) (rest : Octets) :
    skipSpace (text ++ rest) = skipSpace rest :=
  List.dropWhile_append_of_pos fun octet member => isSpace_iff.2 (blank octet member)

theorem skipSpace_idem (text : Octets) : skipSpace (skipSpace text) = skipSpace text :=
  List.dropWhile_idempotent isSpace text

/-- A text is white space and what is left without it. -/
theorem exists_blank (text : Octets) : ∃ blank, IsBlank blank ∧ text = blank ++ skipSpace text :=
  ⟨text.takeWhile isSpace, fun _ member => isSpace_iff.1 (List.mem_takeWhile_imp member),
    (List.takeWhile_append_dropWhile).symm⟩

theorem skipSpace_eq_nil : skipSpace text = [] ↔ IsBlank text := by
  simp only [skipSpace, List.dropWhile_eq_nil_iff, isSpace_iff, IsBlank]

/-! ## Reading strings -/

section

attribute [local simp] readString?

theorem readString?_plain (done rest : Octets) (noQuote : octet ≠ '"') (noBackslash : octet ≠ '\\')
    (noControl : ¬octet < ' ') :
    readString? done (octet :: rest) = readString? (octet :: done) rest := by
  rw [readString?.eq_5 done octet rest noQuote (fun same _ => noBackslash same)
    (fun _ _ same _ => noBackslash same), if_neg noControl]

theorem HexDigit.plain (hex : HexDigit digit value) :
    digit ≠ '"' ∧ digit ≠ '\\' ∧ ¬digit < ' ' := by
  obtain ⟨small, rfl | rfl⟩ := hex
  · decide +revert
  · decide +revert

theorem CodeUnit.plain (unit : CodeUnit digits code) :
    ∀ digit ∈ digits, digit ≠ '"' ∧ digit ≠ '\\' ∧ ¬digit < ' ' := by
  cases unit with
  | digits first second third fourth =>
      simp only [List.forall_mem_cons]
      exact ⟨first.plain, second.plain, third.plain, fourth.plain, nofun⟩

/-- Digits are read as they are. -/
theorem CodeUnit.readString? (unit : CodeUnit digits code) (done rest : Octets) :
    Json.readString? done (digits ++ rest) = Json.readString? (digits.reverse ++ done) rest := by
  have plain := unit.plain
  clear unit
  induction digits generalizing done with
  | nil => rfl
  | cons digit digits ih =>
      obtain ⟨noQuote, noBackslash, noControl⟩ := plain digit (.head _)
      rw [List.cons_append, readString?_plain done _ noQuote noBackslash noControl,
        ih _ fun other member => plain other (.tail _ member)]
      simp

/-- A string is read up to the quote behind its body. -/
theorem IsBody.readString? (body : IsBody written) (done rest : Octets) :
    Json.readString? done (written ++ '"' :: rest) = some (done.reverse ++ written, rest) := by
  induction body generalizing done with
  | nil => simp
  | plain noQuote noBackslash noControl _ ih =>
      rw [List.cons_append, readString?_plain done _ noQuote noBackslash noControl, ih]
      simp
  | @escape letter _ _ stands _ ih =>
      have notUnit : letter ≠ 'u' := by
        rintro rfl
        cases stands
      have letter := simpleEscape?_eq_some.2 stands
      simp [notUnit, letter, ih]
  | @unit digits others code unit _ ih =>
      have read : codeUnit? (digits ++ (others ++ '"' :: rest)) =
          some (code, others ++ '"' :: rest) := codeUnit?_eq_some.2 ⟨digits, unit, rfl⟩
      simp [List.append_assoc, read, unit.readString?, ih]

/-- What a string's body begins with, unless it is an escape, is followed by a body. -/
theorem IsBody.tail {more : Octets} (body : IsBody written)
    (begins : written ++ '"' :: rest = octet :: more) (noQuote : octet ≠ '"')
    (noBackslash : octet ≠ '\\') :
    ∃ others, written = octet :: others ∧ IsBody others ∧ more = others ++ '"' :: rest := by
  cases body with
  | nil => exact absurd (List.cons.inj begins).1.symm noQuote
  | plain _ _ _ body =>
      obtain ⟨rfl, rfl⟩ := List.cons.inj begins
      exact ⟨_, rfl, body, rfl⟩
  | escape => exact absurd (List.cons.inj begins).1.symm noBackslash
  | unit => exact absurd (List.cons.inj begins).1.symm noBackslash

/-- Digits in front of a string's end are followed by a body. -/
theorem CodeUnit.isBody {more : Octets} (unit : CodeUnit digits code) (body : IsBody written)
    (begins : written ++ '"' :: rest = digits ++ more) :
    ∃ others, written = digits ++ others ∧ IsBody others ∧ more = others ++ '"' :: rest := by
  have plain := unit.plain
  clear unit
  induction digits generalizing written with
  | nil => exact ⟨written, rfl, body, begins.symm⟩
  | cons digit digits ih =>
      obtain ⟨noQuote, noBackslash, -⟩ := plain digit (.head _)
      obtain ⟨others, rfl, body, same⟩ := body.tail begins noQuote noBackslash
      obtain ⟨others, rfl, body, same⟩ :=
        ih body same.symm fun other member => plain other (.tail _ member)
      exact ⟨others, rfl, body, same⟩

/-- What is read as a string is a body and the quote behind it. -/
theorem isBody_of_readString? {done : Octets} (read : readString? done text = some (written, rest)) :
    ∃ body, IsBody body ∧ written = done.reverse ++ body ∧ text = body ++ '"' :: rest := by
  fun_induction readString? done text with
  | case2 =>
      cases read
      exact ⟨[], .nil, (List.append_nil _).symm, rfl⟩
  | case4 done more unit ih =>
      -- the digits have been read like any other octets
      obtain ⟨body, isBody, rfl, rfl⟩ := ih read
      obtain ⟨⟨code, rest⟩, unit⟩ := Option.isSome_iff_exists.mp unit
      obtain ⟨digits, isUnit, same⟩ := codeUnit?_eq_some.1 unit
      obtain ⟨others, rfl, isBody, -⟩ := isUnit.isBody isBody same
      exact ⟨_, .unit isUnit isBody, by simp, rfl⟩
  | case6 done letter more _ escape ih =>
      obtain ⟨body, isBody, rfl, rfl⟩ := ih read
      obtain ⟨character, stands⟩ := Option.isSome_iff_exists.mp escape
      exact ⟨_, .escape (simpleEscape?_eq_some.1 stands) isBody, by simp, rfl⟩
  | case9 done octet more noQuote alone escapes noControl ih =>
      obtain ⟨body, isBody, rfl, rfl⟩ := ih read
      have noBackslash : octet ≠ '\\' := by
        intro same
        cases following : body ++ '"' :: rest with
        | nil => exact alone same following
        | cons letter others => exact escapes letter others same following
      exact ⟨_, .plain noQuote noBackslash noControl isBody, by simp, rfl⟩
  | _ => cases read

end

/-! ## Reading numbers -/

/-- What comes next does not go on with a row of digits. -/
def EndsDigits (rest : Octets) : Prop :=
  ∀ next ∈ rest.head?, next.isDigit = false

/-- What comes next does not go on with a number. -/
def EndsNumber (rest : Octets) : Prop :=
  ∀ next ∈ rest.head?, next.isDigit = false ∧ next ≠ '.' ∧ next ≠ 'e' ∧ next ≠ 'E'

theorem EndsNumber.endsDigits (ends : EndsNumber rest) : EndsDigits rest :=
  fun next head => (ends next head).1

theorem endsDigits_cons (noDigit : octet.isDigit = false) (rest : Octets) :
    EndsDigits (octet :: rest) := by
  intro next head
  obtain rfl : octet = next := by simpa using head
  exact noDigit

theorem EndsDigits.none (ends : EndsDigits rest) :
    rest.takeWhile Char.isDigit = [] ∧ rest.dropWhile Char.isDigit = rest := by
  cases rest with
  | nil => exact ⟨rfl, rfl⟩
  | cons next more => simp [ends next rfl]

theorem IsDigits.readDigits? (row : IsDigits digits) (ends : EndsDigits rest) :
    Json.readDigits? (digits ++ rest) = some (digits, rest) := by
  obtain ⟨nonempty, digit⟩ := row
  have spans : (digits ++ rest).span Char.isDigit = (digits, rest) := by
    rw [List.span_eq_takeWhile_dropWhile, List.takeWhile_append_of_pos digit,
      List.dropWhile_append_of_pos digit, ends.none.1, ends.none.2, List.append_nil]
  unfold Json.readDigits?
  rw [spans]
  split
  · next same => exact absurd (Prod.mk.inj same).1 nonempty
  · rfl

/-- A row of digits begins with a digit. -/
theorem IsDigits.noHead (row : IsDigits digits) (noDigit : octet.isDigit = false) {others : Octets} :
    digits ++ rest ≠ octet :: others := by
  obtain ⟨first, more, rfl⟩ := List.exists_cons_of_ne_nil row.1
  rintro same
  have digit := row.2 first (.head _)
  rw [(List.cons.inj same).1, noDigit] at digit
  cases digit

theorem isDigits_of_readDigits? (read : readDigits? text = some (digits, rest)) :
    IsDigits digits ∧ text = digits ++ rest := by
  unfold readDigits? at read
  rw [List.span_eq_takeWhile_dropWhile] at read
  split at read
  · cases read
  · next nonempty =>
      cases read
      refine ⟨⟨fun empty => nonempty _ (by rw [empty]), fun digit member => ?_⟩,
        List.takeWhile_append_dropWhile.symm⟩
      exact List.mem_takeWhile_imp member

/-- What is put in front of a row of digits does not change what is read. -/
theorem isDigits_of_map (front : Octets → Octets)
    (read : ((readDigits? text).map fun (digits, after) => (front digits, after)) =
      some (written, rest)) :
    ∃ digits, IsDigits digits ∧ written = front digits ∧ text = digits ++ rest := by
  obtain ⟨⟨digits, after⟩, row, same⟩ := Option.map_eq_some_iff.mp read
  obtain ⟨rfl, rfl⟩ := Prod.mk.inj same
  obtain ⟨isDigits, rfl⟩ := isDigits_of_readDigits? row
  exact ⟨digits, isDigits, rfl, rfl⟩

theorem IsWhole.readWhole? (whole : IsWhole written) (ends : EndsDigits rest) :
    Json.readWhole? (written ++ rest) = some (written, rest) := by
  cases whole with
  | zero =>
      have next : (rest.head?.map Char.isDigit).getD false = false := by
        cases rest with
        | nil => rfl
        | cons next more => exact ends next rfl
      simp [Json.readWhole?, next]
  | positive row noZero =>
      have read := row.readDigits? ends
      unfold Json.readWhole?
      split
      · next others same =>
          rw [← List.head?_append_of_ne_nil _ row.1, same] at noZero
          exact absurd rfl noZero
      · exact read

theorem isWhole_of_readWhole? (read : readWhole? text = some (written, rest)) :
    IsWhole written ∧ text = written ++ rest := by
  unfold readWhole? at read
  split at read
  · split at read
    · cases read
    · cases read
      exact ⟨.zero, rfl⟩
  · next noZero =>
      obtain ⟨row, rfl⟩ := isDigits_of_readDigits? read
      refine ⟨.positive row fun zero => ?_, rfl⟩
      obtain ⟨others, rfl⟩ := List.head?_eq_some_iff.mp zero
      exact noZero _ rfl

theorem IsDecimals.readDecimals? (decimals : IsDecimals written) (ends : EndsDigits rest)
    (noPoint : rest.head? ≠ some '.') :
    Json.readDecimals? (written ++ rest) = some (written, rest) := by
  cases decimals with
  | absent =>
      unfold Json.readDecimals?
      split
      · next same =>
          rw [List.nil_append] at same
          exact absurd (by rw [same]; rfl) noPoint
      · rfl
  | present row => simp [Json.readDecimals?, row.readDigits? ends]

theorem isDecimals_of_readDecimals? (read : readDecimals? text = some (written, rest)) :
    IsDecimals written ∧ text = written ++ rest := by
  unfold readDecimals? at read
  split at read
  · obtain ⟨digits, row, rfl, rfl⟩ := isDigits_of_map ('.' :: ·) read
    exact ⟨.present row, rfl⟩
  · cases read
    exact ⟨.absent, rfl⟩

theorem IsExponent.readExponent? (exponent : IsExponent written) (ends : EndsNumber rest) :
    Json.readExponent? (written ++ rest) = some (written, rest) := by
  cases exponent with
  | absent =>
      cases rest with
      | nil => rfl
      | cons next more =>
          obtain ⟨-, -, noE, noE'⟩ := ends next rfl
          simp [Json.readExponent?, noE, noE']
  | @present mark sign digits isMark isSign row =>
      have read := row.readDigits? ends.endsDigits
      rcases isSign with rfl | rfl | rfl
      · simp only [List.nil_append, List.cons_append, Json.readExponent?, if_pos isMark]
        split
        · next others same => exact absurd same (row.noHead (by decide))
        · next others same => exact absurd same (row.noHead (by decide))
        · simp [read]
      · simp [Json.readExponent?, isMark, read]
      · simp [Json.readExponent?, isMark, read]

theorem isExponent_of_readExponent? (read : readExponent? text = some (written, rest)) :
    IsExponent written ∧ text = written ++ rest := by
  unfold readExponent? at read
  split at read
  · next mark more =>
      split_ifs at read with isMark
      · split at read
        · obtain ⟨digits, row, rfl, rfl⟩ := isDigits_of_map (mark :: '+' :: ·) read
          exact ⟨.present isMark (.inr (.inl rfl)) row, rfl⟩
        · obtain ⟨digits, row, rfl, rfl⟩ := isDigits_of_map (mark :: '-' :: ·) read
          exact ⟨.present isMark (.inr (.inr rfl)) row, rfl⟩
        · obtain ⟨digits, row, rfl, rfl⟩ := isDigits_of_map (mark :: ·) read
          exact ⟨.present isMark (.inl rfl) row, rfl⟩
      · cases read
        exact ⟨.absent, rfl⟩
  · cases read
    exact ⟨.absent, rfl⟩

theorem IsExponent.head (exponent : IsExponent written) (ends : EndsNumber rest) :
    EndsDigits (written ++ rest) ∧ (written ++ rest).head? ≠ some '.' := by
  cases exponent with
  | absent => exact ⟨ends.endsDigits, fun point => (ends '.' point).2.1 rfl⟩
  | present isMark =>
      rcases isMark with rfl | rfl
      · exact ⟨endsDigits_cons rfl _, by simp⟩
      · exact ⟨endsDigits_cons rfl _, by simp⟩

theorem IsDecimals.head (decimals : IsDecimals written) (ends : EndsDigits rest) :
    EndsDigits (written ++ rest) := by
  cases decimals with
  | absent => exact ends
  | present => exact endsDigits_cons rfl _

theorem IsUnsigned.readUnsigned? (unsigned : IsUnsigned written) (ends : EndsNumber rest) :
    Json.readUnsigned? (written ++ rest) = some (written, rest) := by
  obtain ⟨whole, decimals, exponent⟩ := unsigned
  obtain ⟨endsHere, noPoint⟩ := exponent.head ends
  simp only [Json.readUnsigned?, List.append_assoc, whole.readWhole? (decimals.head endsHere),
    decimals.readDecimals? endsHere noPoint, exponent.readExponent? ends, Option.bind_eq_bind,
    Option.bind_some]
  rfl

theorem isUnsigned_of_readUnsigned? (read : readUnsigned? text = some (written, rest)) :
    IsUnsigned written ∧ text = written ++ rest := by
  simp only [readUnsigned?, Option.bind_eq_bind, Option.bind_eq_some_iff] at read
  obtain ⟨⟨whole, _⟩, readWhole, ⟨decimals, _⟩, readDecimals, ⟨exponent, _⟩, readExponent, same⟩ :=
    read
  obtain ⟨isWhole, rfl⟩ := isWhole_of_readWhole? readWhole
  obtain ⟨isDecimals, rfl⟩ := isDecimals_of_readDecimals? readDecimals
  obtain ⟨isExponent, rfl⟩ := isExponent_of_readExponent? readExponent
  cases same
  exact ⟨.parts isWhole isDecimals isExponent, by simp⟩

/-- A number without its sign begins with a digit. -/
theorem IsUnsigned.begins (unsigned : IsUnsigned written) :
    ∃ first others, written = first :: others ∧ first.isDigit = true := by
  obtain ⟨whole, -, -⟩ := unsigned
  cases whole with
  | zero => exact ⟨'0', _, rfl, rfl⟩
  | positive row =>
      obtain ⟨first, others, rfl⟩ := List.exists_cons_of_ne_nil row.1
      exact ⟨first, _, rfl, row.2 first (.head _)⟩

theorem IsNumber.readNumber? (number : IsNumber written) (ends : EndsNumber rest) :
    Json.readNumber? (written ++ rest) = some (written, rest) := by
  cases number with
  | positive unsigned =>
      have read := unsigned.readUnsigned? ends
      obtain ⟨first, others, rfl, digit⟩ := unsigned.begins
      unfold Json.readNumber?
      split
      · next minus =>
          rw [(List.cons.inj minus).1] at digit
          cases digit
      · exact read
  | negative unsigned => simp [Json.readNumber?, unsigned.readUnsigned? ends]

theorem isNumber_of_readNumber? (read : readNumber? text = some (written, rest)) :
    IsNumber written ∧ text = written ++ rest := by
  unfold readNumber? at read
  split at read
  · obtain ⟨⟨unsigned, after⟩, readUnsigned, same⟩ := Option.map_eq_some_iff.mp read
    obtain ⟨rfl, rfl⟩ := Prod.mk.inj same
    obtain ⟨isUnsigned, rfl⟩ := isUnsigned_of_readUnsigned? readUnsigned
    exact ⟨.negative isUnsigned, rfl⟩
  · obtain ⟨isUnsigned, rfl⟩ := isUnsigned_of_readUnsigned? read
    exact ⟨.positive isUnsigned, rfl⟩

end CorpusJudge.Json
