import CorpusJudge.Proofs.Bytes
import CorpusJudge.Proofs.Json.Grammar
import Mathlib.Data.Option.Basic

/-!
# Reading JSON documents

A document is read as a value exactly if it holds that value by the grammar of JSON, and then there is
no other one that it holds.
-/

namespace CorpusJudge.Json

variable {octet : Char} {text rest blank : Octets} {value : Value} {phrase : Phrase} {fuel : Nat}

/-! ## What follows a value -/

/-- The text does not go on with the value in front of it, which only a number could do. -/
def Follows (value : Value) (rest : Octets) : Prop :=
  ∀ written, value = .number written → EndsNumber rest

theorem follows_cons (value : Value) (rest : Octets) (noDigit : octet.isDigit = false)
    (noPoint : octet ≠ '.') (noMark : octet ≠ 'e' ∧ octet ≠ 'E') :
    Follows value (octet :: rest) := by
  intro written _ next head
  obtain rfl : octet = next := by simpa using head
  exact ⟨noDigit, noPoint, noMark⟩

theorem follows_nil (value : Value) : Follows value [] :=
  fun _ _ _ head => nomatch head

theorem Follows.behind (follows : Follows value rest) (isBlank : IsBlank blank) :
    Follows value (blank ++ rest) := by
  cases blank with
  | nil => exact follows
  | cons space others =>
      rcases isBlank space (.head _) with rfl | rfl | rfl | rfl
      all_goals exact follows_cons value _ rfl (by decide) (by decide)

/-! ## How a text begins -/

theorem IsBlank.append {one other : Octets} (left : IsBlank one) (right : IsBlank other) :
    IsBlank (one ++ other) :=
  fun octet member => (List.mem_append.mp member).elim (left octet) (right octet)

theorem isBlank_nil : IsBlank [] :=
  nofun

/-- Behind white space the text begins with an octet that is neither space nor a closing bracket or
brace. -/
def Begins (text : Octets) : Prop :=
  ∃ blank first others, IsBlank blank ∧ text = blank ++ first :: others ∧ isSpace first = false ∧
    first ≠ ']' ∧ first ≠ '\x7d'

theorem Begins.append (begins : Begins text) (rest : Octets) : Begins (text ++ rest) := by
  obtain ⟨blank, first, others, isBlank, rfl, kind⟩ := begins
  exact ⟨blank, first, others ++ rest, isBlank, by simp, kind⟩

theorem Begins.behind (begins : Begins text) (isBlank : IsBlank blank) : Begins (blank ++ text) := by
  obtain ⟨own, first, others, isOwn, rfl, kind⟩ := begins
  exact ⟨blank ++ own, first, others, isBlank.append isOwn, by simp, kind⟩

theorem Begins.skipSpace (begins : Begins text) :
    ∃ first others, Json.skipSpace text = first :: others ∧ first ≠ ']' ∧ first ≠ '\x7d' := by
  obtain ⟨blank, first, others, isBlank, rfl, noSpace, kind⟩ := begins
  exact ⟨first, others, by rw [skipSpace_blank isBlank, skipSpace_cons _ noSpace], kind⟩

theorem begins_cons (others : Octets) (noSpace : isSpace octet = false) (noBracket : octet ≠ ']')
    (noBrace : octet ≠ '\x7d') : Begins (octet :: others) :=
  ⟨[], octet, others, isBlank_nil, rfl, noSpace, noBracket, noBrace⟩

/-- What can begin a number begins nothing else. -/
theorem IsNumber.head {written : Octets} (number : IsNumber written) :
    ∃ first others, written = first :: others ∧ isSpace first = false ∧
      first ∉ ['n', 't', 'f', '"', '[', '\x7b', ']', '\x7d'] := by
  cases number with
  | negative => exact ⟨'-', _, rfl, rfl, by decide⟩
  | positive unsigned =>
      obtain ⟨first, others, rfl, digit⟩ := unsigned.begins
      have different (octet : Char) (noDigit : octet.isDigit = false) : first ≠ octet := by
        rintro rfl
        exact absurd digit (noDigit ▸ Bool.false_ne_true)
      refine ⟨first, others, rfl, ?_, ?_⟩
      · simp [isSpace, different]
      · simp [different]

theorem Writes.begins (writes : Writes phrase text) : Begins text := by
  induction writes with
  | wordNull | wordFalse | wordTrue | string | noItems | array | noMembers | object =>
      exact begins_cons _ rfl (by decide) (by decide)
  | number number =>
      obtain ⟨first, others, rfl, noSpace, kind⟩ := number.head
      simp only [List.mem_cons, not_or] at kind
      exact begins_cons others noSpace kind.2.2.2.2.2.2.1 kind.2.2.2.2.2.2.2.1
  | padded before _ _ ih => exact (ih.behind before).append _
  | lastItem _ ih => exact ih
  | nextItem _ _ ih _ => exact ih.append _
  | member before => exact (begins_cons _ rfl (by decide) (by decide)).behind before
  | lastMember _ ih => exact ih
  | nextMember _ _ ih _ => exact ih.append _

/-! ## White space in front -/

section

attribute [local simp] readValue? readItems? readMembers?

/-- A value may be read from behind white space. -/
theorem readValue?_congr {one other : Octets} (fuel : Nat) (same : skipSpace one = skipSpace other) :
    readValue? fuel one = readValue? fuel other := by
  cases fuel with
  | zero => rfl
  | succ fuel => rw [readValue?, readValue?, same]

theorem readValue?_blank (isBlank : IsBlank blank) (fuel : Nat) (rest : Octets) :
    readValue? fuel (blank ++ rest) = readValue? fuel rest :=
  readValue?_congr fuel (skipSpace_blank isBlank rest)

theorem readItems?_skipSpace (fuel : Nat) (done : List Value) (text : Octets) :
    readItems? fuel done (skipSpace text) = readItems? fuel done text := by
  cases fuel with
  | zero => rfl
  | succ fuel => rw [readItems?, readItems?, readValue?_congr fuel (skipSpace_idem text)]

theorem readMembers?_skipSpace (fuel : Nat) (done : List (Octets × Value)) (text : Octets) :
    readMembers? fuel done (skipSpace text) = readMembers? fuel done text := by
  cases fuel with
  | zero => rfl
  | succ fuel => rw [readMembers?, readMembers?, skipSpace_idem]

/-! ## What is written is read -/

/-- Reading makes of the octets what they are written for, whatever comes next. -/
def IsRead : Phrase → Octets → Prop
  | .value value, text => ∀ fuel rest, text.length ≤ fuel → Follows value rest →
      readValue? fuel (text ++ rest) = some (value, rest)
  | .padded value, text => ∀ fuel rest, text.length ≤ fuel → Follows value rest →
      ∃ after, readValue? fuel (text ++ rest) = some (value, after) ∧
        skipSpace after = skipSpace rest
  | .items items, text => ∀ fuel done rest, text.length < fuel →
      readItems? fuel done (text ++ ']' :: rest) = some (done.reverse ++ items, rest)
  | .member name value, text => ∀ fuel rest, text.length ≤ fuel → Follows value rest →
      ∃ inside between after, skipSpace (text ++ rest) = '"' :: inside ∧
        readName? inside = some (name, between) ∧
        readValue? fuel between = some (value, after) ∧ skipSpace after = skipSpace rest
  | .members members, text => ∀ fuel done rest, text.length < fuel →
      readMembers? fuel done (text ++ '\x7d' :: rest) = some (done.reverse ++ members, rest)

theorem readWord?_append (word : String) (rest : Octets) :
    readWord? word (word.toList ++ rest) = some rest := by
  simp [readWord?, ← String.length_toList]

theorem isRead_number {written : Octets} (number : IsNumber written) :
    IsRead (.value (.number written)) written := by
  intro fuel rest enough follows
  have read := number.readNumber? (follows written rfl)
  obtain ⟨first, others, rfl, noSpace, kind⟩ := number.head
  obtain ⟨fuel, rfl⟩ := Nat.exists_eq_add_one.mpr (Nat.lt_of_lt_of_le (Nat.succ_pos _) enough)
  rw [List.cons_append] at read ⊢
  have other {word : Char} {more : Octets} (same : first :: (others ++ rest) = word :: more) :
      word ∉ ['n', 't', 'f', '"', '[', '\x7b', ']', '\x7d'] :=
    (List.cons.inj same).1 ▸ kind
  rw [readValue?, skipSpace_cons _ noSpace]
  split
  · next same => exact absurd (other same) (by decide)
  · next same => exact absurd (other same) (by decide)
  · next same => exact absurd (other same) (by decide)
  · next same => exact absurd (other same) (by decide)
  · next same => exact absurd (other same) (by decide)
  · next same => exact absurd (other same) (by decide)
  · rw [read, Option.map_some]

/-- One unit of fuel is for the first octet of a value, and the others pay for what is in it. -/
theorem isRead_cons {others : Octets}
    (reads : ∀ fuel rest, others.length ≤ fuel →
      readValue? (fuel + 1) (octet :: (others ++ rest)) = some (value, rest)) :
    IsRead (.value value) (octet :: others) := by
  intro fuel rest enough _
  obtain ⟨fuel, rfl⟩ := Nat.exists_eq_add_one.mpr (Nat.lt_of_lt_of_le (Nat.succ_pos _) enough)
  exact reads fuel rest (Nat.le_of_succ_le_succ enough)

theorem isRead_string {written : Octets} (body : IsBody written) :
    IsRead (.value (.string written)) ('"' :: (written ++ ['"'])) := by
  refine isRead_cons fun fuel rest _ => ?_
  have quote : skipSpace ('"' :: (written ++ '"' :: rest)) = '"' :: (written ++ '"' :: rest) :=
    skipSpace_cons _ rfl
  simp [quote, body.readString?]

theorem isRead_noItems (isBlank : IsBlank blank) :
    IsRead (.value (.array [])) ('[' :: (blank ++ [']'])) := by
  refine isRead_cons fun fuel rest _ => ?_
  have bracket : skipSpace ('[' :: (blank ++ ']' :: rest)) = '[' :: (blank ++ ']' :: rest) :=
    skipSpace_cons _ rfl
  have closing : skipSpace (']' :: rest) = ']' :: rest := skipSpace_cons _ rfl
  simp [bracket, skipSpace_blank isBlank, closing]

theorem isRead_noMembers (isBlank : IsBlank blank) :
    IsRead (.value (.object [])) ('\x7b' :: (blank ++ ['\x7d'])) := by
  refine isRead_cons fun fuel rest _ => ?_
  have brace : skipSpace ('\x7b' :: (blank ++ '\x7d' :: rest)) =
      '\x7b' :: (blank ++ '\x7d' :: rest) := skipSpace_cons _ rfl
  have closing : skipSpace ('\x7d' :: rest) = '\x7d' :: rest := skipSpace_cons _ rfl
  simp [brace, skipSpace_blank isBlank, closing]

namespace IsRead

/-- Items are read to the end of their array, since what they begin with does not close it. -/
theorem array {items : List Value} (isRead : IsRead (.items items) text) (begins : Begins text) :
    IsRead (.value (.array items)) ('[' :: (text ++ [']'])) := by
  refine isRead_cons fun fuel rest enough => ?_
  have bracket : skipSpace ('[' :: (text ++ ']' :: rest)) = '[' :: (text ++ ']' :: rest) :=
    skipSpace_cons _ rfl
  have read := isRead fuel [] rest (by simp at enough; omega)
  obtain ⟨first, others, begins, noBracket, -⟩ := (begins.append (']' :: rest)).skipSpace
  rw [← readItems?_skipSpace, begins] at read
  simp [bracket, begins, noBracket, read]

/-- Members are read to the end of their object, since what they begin with does not close it. -/
theorem object {members : List (Octets × Value)} (isRead : IsRead (.members members) text)
    (begins : Begins text) : IsRead (.value (.object members)) ('\x7b' :: (text ++ ['\x7d'])) := by
  refine isRead_cons fun fuel rest enough => ?_
  have brace : skipSpace ('\x7b' :: (text ++ '\x7d' :: rest)) =
      '\x7b' :: (text ++ '\x7d' :: rest) := skipSpace_cons _ rfl
  have read := isRead fuel [] rest (by simp at enough; omega)
  obtain ⟨first, others, begins, -, noBrace⟩ := (begins.append ('\x7d' :: rest)).skipSpace
  rw [← readMembers?_skipSpace, begins] at read
  simp [brace, begins, noBrace, read]

theorem padded {before after : Octets} (isRead : IsRead (.value value) text)
    (isBefore : IsBlank before) (isAfter : IsBlank after) :
    IsRead (.padded value) (before ++ text ++ after) := by
  intro fuel rest enough follows
  simp only [List.length_append] at enough
  refine ⟨after ++ rest, ?_, skipSpace_blank isAfter rest⟩
  rw [List.append_assoc, List.append_assoc, readValue?_blank isBefore]
  exact isRead fuel (after ++ rest) (by omega) (follows.behind isAfter)

theorem lastItem (isRead : IsRead (.padded value) text) : IsRead (.items [value]) text := by
  intro fuel done rest enough
  obtain ⟨fuel, rfl⟩ := Nat.exists_eq_add_one.mpr (Nat.zero_lt_of_lt enough)
  obtain ⟨after, read, same⟩ := isRead fuel (']' :: rest) (Nat.le_of_lt_succ enough)
    (follows_cons value rest rfl (by decide) (by decide))
  have bracket : skipSpace after = ']' :: rest := same.trans (skipSpace_cons _ rfl)
  simp [read, bracket]

theorem nextItem {items : List Value} {others : Octets} (isRead : IsRead (.padded value) text)
    (later : IsRead (.items items) others) :
    IsRead (.items (value :: items)) (text ++ ',' :: others) := by
  intro fuel done rest enough
  obtain ⟨fuel, rfl⟩ := Nat.exists_eq_add_one.mpr (Nat.zero_lt_of_lt enough)
  simp only [List.length_append, List.length_cons] at enough
  obtain ⟨after, read, same⟩ := isRead fuel (',' :: (others ++ ']' :: rest)) (by omega)
    (follows_cons value _ rfl (by decide) (by decide))
  have comma : skipSpace after = ',' :: (others ++ ']' :: rest) :=
    same.trans (skipSpace_cons _ rfl)
  simp [read, comma, later fuel (value :: done) rest (by omega)]

theorem member {name before between : Octets} (isRead : IsRead (.padded value) text)
    (isBefore : IsBlank before) (isBody : IsBody name) (isBetween : IsBlank between) :
    IsRead (.member name value) (before ++ '"' :: (name ++ '"' :: (between ++ ':' :: text))) := by
  intro fuel rest enough follows
  simp only [List.length_append, List.length_cons] at enough
  obtain ⟨after, read, same⟩ := isRead fuel rest (by omega) follows
  have quote : skipSpace (before ++ '"' :: (name ++ '"' :: (between ++ ':' :: (text ++ rest)))) =
      '"' :: (name ++ '"' :: (between ++ ':' :: (text ++ rest))) := by
    rw [skipSpace_blank isBefore, skipSpace_cons _ rfl]
  have colon : skipSpace (between ++ ':' :: (text ++ rest)) = ':' :: (text ++ rest) := by
    rw [skipSpace_blank isBetween, skipSpace_cons _ rfl]
  refine ⟨name ++ '"' :: (between ++ ':' :: (text ++ rest)), text ++ rest, after, ?_, ?_, read,
    same⟩
  · simpa using quote
  · simp [readName?, isBody.readString?, colon]

theorem lastMember {name : Octets} (isRead : IsRead (.member name value) text) :
    IsRead (.members [(name, value)]) text := by
  intro fuel done rest enough
  obtain ⟨fuel, rfl⟩ := Nat.exists_eq_add_one.mpr (Nat.zero_lt_of_lt enough)
  obtain ⟨inside, between, after, quote, named, read, same⟩ := isRead fuel ('\x7d' :: rest)
    (Nat.le_of_lt_succ enough) (follows_cons value rest rfl (by decide) (by decide))
  have brace : skipSpace after = '\x7d' :: rest := same.trans (skipSpace_cons _ rfl)
  simp [quote, named, read, brace]

theorem nextMember {name others : Octets} {members : List (Octets × Value)}
    (isRead : IsRead (.member name value) text) (later : IsRead (.members members) others) :
    IsRead (.members ((name, value) :: members)) (text ++ ',' :: others) := by
  intro fuel done rest enough
  obtain ⟨fuel, rfl⟩ := Nat.exists_eq_add_one.mpr (Nat.zero_lt_of_lt enough)
  simp only [List.length_append, List.length_cons] at enough
  obtain ⟨inside, between, after, quote, named, read, same⟩ :=
    isRead fuel (',' :: (others ++ '\x7d' :: rest)) (by omega)
      (follows_cons value _ rfl (by decide) (by decide))
  have comma : skipSpace after = ',' :: (others ++ '\x7d' :: rest) :=
    same.trans (skipSpace_cons _ rfl)
  simp [quote, named, read, comma, later fuel ((name, value) :: done) rest (by omega)]

end IsRead

theorem Writes.isRead (writes : Writes phrase text) : IsRead phrase text := by
  induction writes with
  | wordNull =>
      exact isRead_cons fun _ rest _ => congrArg (Option.map _) (readWord?_append "ull" rest)
  | wordFalse =>
      exact isRead_cons fun _ rest _ => congrArg (Option.map _) (readWord?_append "alse" rest)
  | wordTrue =>
      exact isRead_cons fun _ rest _ => congrArg (Option.map _) (readWord?_append "rue" rest)
  | number number => exact isRead_number number
  | string body => exact isRead_string body
  | noItems isBlank => exact isRead_noItems isBlank
  | array writes ih => exact ih.array writes.begins
  | noMembers isBlank => exact isRead_noMembers isBlank
  | object writes ih => exact ih.object writes.begins
  | padded before _ after ih => exact ih.padded before after
  | lastItem _ ih => exact ih.lastItem
  | nextItem _ _ ih later => exact ih.nextItem later
  | member before body between _ ih => exact ih.member before body between
  | lastMember _ ih => exact ih.lastMember
  | nextMember _ _ ih later => exact ih.nextMember later

end

/-! ## What is read is written -/

theorem readWord?_eq_some {word : String} (read : readWord? word text = some rest) :
    text = word.toList ++ rest := by
  unfold readWord? at read
  split_ifs at read with begins
  obtain ⟨more, rfl⟩ := List.isPrefixOf_iff_prefix.mp begins
  rw [← String.length_toList, List.drop_left] at read
  rw [Option.some.inj read]

theorem readName?_eq_some {name : Octets} (read : readName? text = some (name, rest)) :
    IsBody name ∧ ∃ blank, IsBlank blank ∧ text = name ++ '"' :: (blank ++ ':' :: rest) := by
  simp only [readName?, Option.bind_eq_bind, Option.bind_eq_some_iff] at read
  obtain ⟨⟨written, after⟩, readString, read⟩ := read
  obtain ⟨name, body, rfl, rfl⟩ := isBody_of_readString? readString
  obtain ⟨blank, isBlank, same⟩ := exists_blank after
  split at read
  · next colon =>
      cases read
      exact ⟨body, blank, isBlank, by rw [same, colon]⟩
  · cases read

/-- Reading with some fuel finds only what the octets are written for. -/
structure Sound (fuel : Nat) : Prop where
  value : ∀ {text value rest}, readValue? fuel text = some (value, rest) →
    ∃ blank own, IsBlank blank ∧ Writes (.value value) own ∧ text = blank ++ (own ++ rest)
  items : ∀ {done text items rest}, readItems? fuel done text = some (items, rest) →
    ∃ more own, items = done.reverse ++ more ∧ Writes (.items more) own ∧ text = own ++ ']' :: rest
  members : ∀ {done text members rest}, readMembers? fuel done text = some (members, rest) →
    ∃ more own, members = done.reverse ++ more ∧ Writes (.members more) own ∧
      text = own ++ '\x7d' :: rest

/-- A value is followed by white space up to what comes next. -/
theorem Sound.padded (sound : Sound fuel) (read : readValue? fuel text = some (value, rest)) :
    ∃ own, Writes (.padded value) own ∧ text = own ++ skipSpace rest := by
  obtain ⟨before, own, isBefore, writes, rfl⟩ := sound.value read
  obtain ⟨after, isAfter, same⟩ := exists_blank rest
  refine ⟨before ++ own ++ after, .padded isBefore writes isAfter, ?_⟩
  rw [List.append_assoc _ after, ← same, List.append_assoc]

theorem Sound.next_value (sound : Sound fuel)
    (read : readValue? (fuel + 1) text = some (value, rest)) :
    ∃ blank own, IsBlank blank ∧ Writes (.value value) own ∧ text = blank ++ (own ++ rest) := by
  obtain ⟨blank, isBlank, same⟩ := exists_blank text
  suffices ∃ own, Writes (.value value) own ∧ skipSpace text = own ++ rest by
    obtain ⟨own, writes, behind⟩ := this
    exact ⟨blank, own, isBlank, writes, behind ▸ same⟩
  rw [readValue?] at read
  split at read
  · next begins =>
      obtain ⟨after, word, same⟩ := Option.map_eq_some_iff.mp read
      cases same
      exact ⟨_, .wordNull, by rw [begins, readWord?_eq_some word]; rfl⟩
  · next begins =>
      obtain ⟨after, word, same⟩ := Option.map_eq_some_iff.mp read
      cases same
      exact ⟨_, .wordTrue, by rw [begins, readWord?_eq_some word]; rfl⟩
  · next begins =>
      obtain ⟨after, word, same⟩ := Option.map_eq_some_iff.mp read
      cases same
      exact ⟨_, .wordFalse, by rw [begins, readWord?_eq_some word]; rfl⟩
  · next begins =>
      obtain ⟨⟨written, after⟩, readString, same⟩ := Option.map_eq_some_iff.mp read
      cases same
      obtain ⟨body, isBody, rfl, rfl⟩ := isBody_of_readString? readString
      exact ⟨_, .string isBody, by rw [begins]; simp⟩
  · next more begins =>
      obtain ⟨inner, isInner, sameInner⟩ := exists_blank more
      split at read
      · next closing =>
          cases read
          exact ⟨_, .noItems isInner, by rw [begins, sameInner, closing]; simp⟩
      · rw [readItems?_skipSpace] at read
        obtain ⟨⟨items, after⟩, readItems, same⟩ := Option.map_eq_some_iff.mp read
        cases same
        obtain ⟨items, own, rfl, writes, rfl⟩ := sound.items readItems
        exact ⟨_, .array writes, by rw [begins]; simp⟩
  · next more begins =>
      obtain ⟨inner, isInner, sameInner⟩ := exists_blank more
      split at read
      · next closing =>
          cases read
          exact ⟨_, .noMembers isInner, by rw [begins, sameInner, closing]; simp⟩
      · rw [readMembers?_skipSpace] at read
        obtain ⟨⟨members, after⟩, readMembers, same⟩ := Option.map_eq_some_iff.mp read
        cases same
        obtain ⟨members, own, rfl, writes, rfl⟩ := sound.members readMembers
        exact ⟨_, .object writes, by rw [begins]; simp⟩
  · obtain ⟨⟨written, after⟩, readNumber, same⟩ := Option.map_eq_some_iff.mp read
    cases same
    obtain ⟨number, same⟩ := isNumber_of_readNumber? readNumber
    exact ⟨_, .number number, same⟩

theorem Sound.next_items (sound : Sound fuel) {done items : List Value}
    (read : readItems? (fuel + 1) done text = some (items, rest)) :
    ∃ more own, items = done.reverse ++ more ∧ Writes (.items more) own ∧
      text = own ++ ']' :: rest := by
  simp only [readItems?, Option.bind_eq_bind, Option.bind_eq_some_iff] at read
  obtain ⟨⟨item, after⟩, readItem, read⟩ := read
  obtain ⟨own, writes, rfl⟩ := sound.padded readItem
  split at read
  · next comma =>
      obtain ⟨others, rest, rfl, writesOthers, rfl⟩ := sound.items read
      exact ⟨_, _, by simp, .nextItem writes writesOthers, by rw [comma]; simp⟩
  · next bracket =>
      cases read
      exact ⟨_, _, by simp, .lastItem writes, by rw [bracket]⟩
  · cases read

theorem Sound.next_members (sound : Sound fuel) {done members : List (Octets × Value)}
    (read : readMembers? (fuel + 1) done text = some (members, rest)) :
    ∃ more own, members = done.reverse ++ more ∧ Writes (.members more) own ∧
      text = own ++ '\x7d' :: rest := by
  obtain ⟨before, isBefore, same⟩ := exists_blank text
  simp only [readMembers?] at read
  split at read
  · next inside quote =>
      simp only [Option.bind_eq_bind, Option.bind_eq_some_iff] at read
      obtain ⟨⟨name, between⟩, named, ⟨value, after⟩, readValue, read⟩ := read
      obtain ⟨body, blank, isBlank, rfl⟩ := readName?_eq_some named
      obtain ⟨own, writes, rfl⟩ := sound.padded readValue
      rw [quote] at same
      have member := Writes.member isBefore body isBlank writes
      split at read
      · next comma =>
          obtain ⟨others, rest, rfl, writesOthers, rfl⟩ := sound.members read
          refine ⟨_, _, by simp, .nextMember member writesOthers, ?_⟩
          rw [same, comma]
          simp
      · next brace =>
          cases read
          refine ⟨_, _, by simp, .lastMember member, ?_⟩
          rw [same, brace]
          simp
      · cases read
  · cases read

theorem sound (fuel : Nat) : Sound fuel := by
  induction fuel with
  | zero =>
      constructor
      · intro _ _ _ read
        cases read
      · intro _ _ _ _ read
        cases read
      · intro _ _ _ _ read
        cases read
  | succ fuel ih => exact ⟨ih.next_value, ih.next_items, ih.next_members⟩

/-- A document is read as a value exactly if it holds that value. -/
theorem read?_eq_some {document : Bytes} : read? document = some value ↔ Holds document value := by
  simp only [read?, Option.bind_eq_bind, Option.bind_eq_some_iff, Option.guard_eq_some',
    exists_const, List.isEmpty_iff, Option.pure_def, Option.some.injEq, Holds]
  constructor
  · rintro ⟨⟨found, after⟩, read, ended, rfl⟩
    obtain ⟨own, writes, same⟩ := (sound _).padded read
    rw [ended, List.append_nil] at same
    exact same ▸ writes
  · intro writes
    have enough : document.octets.length ≤ 2 * document.length + 1 := by
      rw [Bytes.octets, List.length_map]
      omega
    obtain ⟨after, read, same⟩ := writes.isRead _ [] enough (follows_nil value)
    rw [List.append_nil] at read
    exact ⟨(value, after), read, same, rfl⟩

/-- A document with anything but white space behind a value is not read, unless that goes on with the
value. -/
theorem read?_eq_none {document : Bytes} (writes : Writes (.padded value) text)
    (follows : Follows value rest) (whole : document.octets = text ++ rest) (more : ¬ IsBlank rest) :
    read? document = none := by
  have enough : text.length ≤ 2 * document.length + 1 := by
    have length := congrArg List.length whole
    rw [Bytes.octets, List.length_map, List.length_append] at length
    omega
  obtain ⟨after, read, same⟩ := writes.isRead _ rest enough follows
  have ended : skipSpace after ≠ [] := by
    rw [same]
    exact mt skipSpace_eq_nil.1 more
  simp [read?, whole, read, ended]

/-! ## Strings of a document -/

/-- The octets stand between quotes somewhere in the phrase, as a name or as a string. -/
inductive Quotes : Phrase → Octets → Prop where
  | string {written : Octets} : Quotes (.value (.string written)) written
  | padded {value : Value} {written : Octets} : Quotes (.value value) written →
      Quotes (.padded value) written
  | array {items : List Value} {written : Octets} : Quotes (.items items) written →
      Quotes (.value (.array items)) written
  | item {item : Value} {items : List Value} {written : Octets} : item ∈ items →
      Quotes (.value item) written → Quotes (.items items) written
  | object {members : List (Octets × Value)} {written : Octets} : Quotes (.members members) written →
      Quotes (.value (.object members)) written
  | name {name : Octets} {value : Value} : Quotes (.member name value) name
  | memberValue {name : Octets} {value : Value} {written : Octets} : Quotes (.value value) written →
      Quotes (.member name value) written
  | member {name : Octets} {value : Value} {members : List (Octets × Value)} {written : Octets} :
      (name, value) ∈ members → Quotes (.member name value) written →
      Quotes (.members members) written

/-- What stands between quotes is part of the text. -/
theorem Writes.subset {written : Octets} (writes : Writes phrase text)
    (quotes : Quotes phrase written) : written ⊆ text := by
  intro octet member
  induction writes generalizing written with
  | wordNull | wordFalse | wordTrue | number => cases quotes
  | string =>
      cases quotes
      simp [member]
  | noItems =>
      cases quotes with
      | array inside => nomatch inside
  | noMembers =>
      cases quotes with
      | object inside => nomatch inside
  | array _ ih =>
      cases quotes with
      | array inside => simp [ih inside member]
  | object _ ih =>
      cases quotes with
      | object inside => simp [ih inside member]
  | padded _ _ _ ih =>
      cases quotes with
      | padded inside => simp [ih inside member]
  | lastItem _ ih =>
      cases quotes with
      | item listed inside =>
          obtain rfl := List.mem_singleton.mp listed
          exact ih (.padded inside) member
  | nextItem _ _ ih ihOthers =>
      cases quotes with
      | item listed inside =>
          rcases List.mem_cons.mp listed with rfl | listed
          · simp [ih (.padded inside) member]
          · simp [ihOthers (.item listed inside) member]
  | member _ _ _ _ ih =>
      cases quotes with
      | name => simp [member]
      | memberValue inside => simp [ih (.padded inside) member]
  | lastMember _ ih =>
      cases quotes with
      | member listed inside =>
          cases List.mem_singleton.mp listed
          exact ih inside member
  | nextMember _ _ ih ihOthers =>
      cases quotes with
      | member listed inside =>
          rcases List.mem_cons.mp listed with same | listed
          · cases same
            simp [ih inside member]
          · simp [ihOthers (.member listed inside) member]

/-- What stands between the quotes of a document consists of octets. -/
theorem Holds.narrow {document : Bytes} {written : Octets} (holds : Holds document value)
    (quotes : Quotes (.value value) written) : ∀ octet ∈ written, octet.toNat < 256 :=
  fun _ member => Bytes.octets_narrow (holds.subset (.padded quotes) member)

end CorpusJudge.Json
