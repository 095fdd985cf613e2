import CorpusJudge.Proofs.Bytes
import CorpusJudge.Proofs.Json.Grammar
import CorpusJudge.Proofs.Text.Utf8
import Mathlib.Data.Option.Basic

/-!
# Spelling texts in JSON

A text can be spelled in many ways between the quotes of a string: each of its characters stands for
itself or is escaped, by a letter, by a number or by two of them.  Whichever way it is, it is read as that
text, and what can be read as a text spells it.
-/

namespace CorpusJudge.Json

variable {character : Char} {text : List Char} {escape written octets digits rest : Octets}
variable {bytes : Bytes} {code fuel : Nat}

/-! ## Characters and how they are spelled -/

/-- The escape stands for the character. -/
inductive Escapes : Octets → Char → Prop where
  | letter {letter character : Char} : Abbreviates letter character →
      Escapes ['\\', letter] character
  | number {digits : Octets} {character : Char} : CodeUnit digits character.toNat →
      Escapes ('\\' :: 'u' :: digits) character
  | surrogates {high low : Octets} {lead trail : Nat} {character : Char} :
      CodeUnit high lead → CodeUnit low trail → 0xD800 ≤ lead ∧ lead ≤ 0xDBFF →
      0xDC00 ≤ trail ∧ trail ≤ 0xDFFF →
      character.toNat = 0x10000 + (lead - 0xD800) * 0x400 + (trail - 0xDC00) →
      Escapes ('\\' :: 'u' :: (high ++ '\\' :: 'u' :: low)) character

/-- The octets spell the characters between the quotes of a string. -/
inductive Spells : List Char → Octets → Prop where
  | nil : Spells [] []
  | plain {character : Char} {text : List Char} {written : Octets} : character ≠ '\\' →
      Spells text written →
      Spells (character :: text) (Bytes.octets (String.utf8EncodeChar character) ++ written)
  | escape {character : Char} {text : List Char} {escape written : Octets} :
      Escapes escape character → Spells text written →
      Spells (character :: text) (escape ++ written)

/-- Octet by octet and escape by escape, the octets stand for the bytes. -/
inductive Resolves : Octets → Bytes → Prop where
  | nil : Resolves [] []
  | plain {octet : Char} {rest : Octets} {bytes : Bytes} : octet ≠ '\\' → Resolves rest bytes →
      Resolves (octet :: rest) (octet.toNat.toUInt8 :: bytes)
  | escape {character : Char} {escape rest : Octets} {bytes : Bytes} :
      Escapes escape character → Resolves rest bytes →
      Resolves (escape ++ rest) (String.utf8EncodeChar character ++ bytes)

/-! ## Reading escapes -/

theorem Abbreviates.ascii {letter : Char} (stands : Abbreviates letter character) :
    letter ≠ 'u' ∧ character.toNat < 0x80 := by
  cases stands <;> decide

/-- A character of ASCII is its own octet. -/
theorem octets_encode_ascii (ascii : character.toNat < 0x80) :
    Bytes.octets (String.utf8EncodeChar character) = [character] := by
  have number : character.val.toNat = character.toNat := rfl
  have byte : (UInt8.ofNat character.toNat).toNat = character.toNat :=
    UInt8.toNat_ofNat_of_lt' (show character.toNat < 256 by omega)
  simp only [String.utf8EncodeChar, number]
  rw [if_pos (Nat.le_of_lt_succ ascii), Bytes.octets, List.map_singleton, byte, Char.ofNat_toNat]

theorem CodeUnit.small (unit : CodeUnit digits code) : code < 0x10000 := by
  obtain ⟨⟨first, -⟩, ⟨second, -⟩, ⟨third, -⟩, ⟨fourth, -⟩⟩ := unit
  omega

theorem CodeUnit.codeUnit? (unit : CodeUnit digits code) (rest : Octets) :
    Json.codeUnit? (digits ++ rest) = some (code, rest) :=
  codeUnit?_eq_some.2 ⟨digits, unit, rfl⟩

theorem escapedChar?_of_escapes (escapes : Escapes ('\\' :: 'u' :: digits) character)
    (rest : Octets) : escapedChar? (digits ++ rest) = some (character.toNat, rest) := by
  cases escapes with
  | letter stands => exact absurd rfl stands.ascii.1
  | number unit =>
      have valid := Utf8.toNat_valid character
      rw [escapedChar?, unit.codeUnit?, Option.bind_eq_bind, Option.bind_some]
      dsimp only
      rw [if_neg (by omega), if_neg (by omega)]
      rfl
  | @surrogates high low lead trail _ isHigh isLow leads trails same =>
      rw [escapedChar?, List.append_assoc, isHigh.codeUnit?, Option.bind_eq_bind, Option.bind_some]
      dsimp only
      rw [if_neg (by omega), if_pos leads]
      simp [isLow.codeUnit?, trails, same]

theorem escapes_of_escapedChar? {written : Octets} (read : escapedChar? written = some (code, rest)) :
    ∃ digits character, Escapes ('\\' :: 'u' :: digits) character ∧ code = character.toNat ∧
      written = digits ++ rest := by
  simp only [escapedChar?, Option.bind_eq_bind, Option.bind_eq_some_iff] at read
  obtain ⟨⟨lead, more⟩, readLead, read⟩ := read
  obtain ⟨high, isHigh, rfl⟩ := codeUnit?_eq_some.1 readLead
  have small := isHigh.small
  have toNat {code : Nat} (valid : code.isValidChar) : code = (Char.ofNat code).toNat :=
    (Bytes.toNat_ofNat valid).symm
  dsimp only at read
  split_ifs at read with trailing leading
  · split at read
    · simp only [Option.bind_eq_some_iff, Option.guard_eq_some', exists_const, Bool.and_eq_true,
        decide_eq_true_eq, Option.pure_def, Option.some.injEq, Prod.mk.injEq] at read
      obtain ⟨⟨trail, after⟩, readTrail, trails, same, rfl⟩ := read
      obtain ⟨low, isLow, rfl⟩ := codeUnit?_eq_some.1 readTrail
      dsimp only at trails same
      have valid : code = (Char.ofNat code).toNat := toNat (.inr (by omega))
      exact ⟨_, _, .surrogates isHigh isLow leading trails (valid.symm.trans same.symm), valid,
        by simp⟩
    · cases read
  · simp only [Option.pure_def, Option.some.injEq, Prod.mk.injEq] at read
    obtain ⟨rfl, rfl⟩ := read
    have valid : lead = (Char.ofNat lead).toNat := toNat (by unfold Nat.isValidChar; omega)
    exact ⟨high, Char.ofNat lead, .number (valid ▸ isHigh), valid, rfl⟩

/-! ## Reading strings -/

section

attribute [local simp] resolveEscapes?

/-- Reading an escape yields the octets of its character. -/
theorem Escapes.resolveEscapes? (escapes : Escapes escape character) (fuel : Nat)
    (done rest : Octets) : Json.resolveEscapes? (fuel + 1) done (escape ++ rest) =
      Json.resolveEscapes? fuel
        ((Bytes.octets (String.utf8EncodeChar character)).reverse ++ done) rest := by
  have encoded : encodedChar character.toNat = Bytes.octets (String.utf8EncodeChar character) := by
    rw [encodedChar, Char.ofNat_toNat]
  have number {digits : Octets} (escapes : Escapes ('\\' :: 'u' :: digits) character) :
      Json.resolveEscapes? (fuel + 1) done ('\\' :: 'u' :: (digits ++ rest)) =
        Json.resolveEscapes? fuel
          ((Bytes.octets (String.utf8EncodeChar character)).reverse ++ done) rest := by
    simp [escapedChar?_of_escapes escapes, encoded]
  cases escapes with
  | letter stands =>
      rw [octets_encode_ascii stands.ascii.2]
      have letter := simpleEscape?_eq_some.2 stands
      simp [stands.ascii.1, letter]
  | number unit => exact number (.number unit)
  | surrogates high low leads trails same => exact number (.surrogates high low leads trails same)

theorem resolveEscapes?_plain {octet : Char} (noBackslash : octet ≠ '\\') (done rest : Octets) :
    resolveEscapes? (fuel + 1) done (octet :: rest) = resolveEscapes? fuel (octet :: done) rest := by
  rw [resolveEscapes?]
  · exact fun _ same => absurd same noBackslash
  · exact fun _ _ same => absurd same noBackslash
  · exact fun same => absurd same noBackslash

theorem Escapes.nonempty (escapes : Escapes escape character) : escape ≠ [] := by
  cases escapes <;> exact List.cons_ne_nil _ _

/-- What stands for bytes is read as them. -/
theorem Resolves.resolveEscapes? (resolves : Resolves written bytes) (done : Octets)
    (enough : written.length ≤ fuel) : ∃ octets,
      Json.resolveEscapes? fuel done written = some octets ∧
        Bytes.ofOctets octets = Bytes.ofOctets done.reverse ++ bytes := by
  induction resolves generalizing done fuel with
  | nil => exact ⟨done.reverse, by simp, (List.append_nil _).symm⟩
  | @plain octet rest bytes noBackslash _ ih =>
      obtain ⟨fuel, rfl⟩ := Nat.exists_eq_add_one.mpr (Nat.lt_of_lt_of_le (Nat.succ_pos _) enough)
      obtain ⟨octets, read, same⟩ := ih (octet :: done) (Nat.le_of_succ_le_succ enough)
      rw [resolveEscapes?_plain noBackslash]
      exact ⟨octets, read, by rw [same]; simp [Bytes.ofOctets]⟩
  | @escape character escape rest bytes escapes _ ih =>
      have nonempty := List.length_pos_iff.mpr escapes.nonempty
      rw [List.length_append] at enough
      obtain ⟨fuel, rfl⟩ : ∃ less, fuel = less + 1 := ⟨fuel - 1, by omega⟩
      obtain ⟨octets, read, same⟩ :=
        ih ((Bytes.octets (String.utf8EncodeChar character)).reverse ++ done)
          (show rest.length ≤ fuel by omega)
      rw [escapes.resolveEscapes?]
      refine ⟨octets, read, ?_⟩
      rw [same, List.reverse_append, List.reverse_reverse, Bytes.ofOctets_append,
        Bytes.ofOctets_octets, List.append_assoc]

/-- Only what stands for bytes is read. -/
theorem resolves_of_resolveEscapes? {done : Octets}
    (read : resolveEscapes? fuel done written = some octets) : ∃ bytes, Resolves written bytes ∧
      Bytes.ofOctets octets = Bytes.ofOctets done.reverse ++ bytes := by
  fun_induction resolveEscapes? fuel done written with
  | case1 =>
      cases read
      exact ⟨[], .nil, (List.append_nil _).symm⟩
  | case2 => cases read
  | case3 done fuel more ih =>
      simp only [Option.bind_eq_bind, Option.bind_eq_some_iff] at read
      obtain ⟨⟨code, after⟩, readEscape, read⟩ := read
      obtain ⟨digits, character, escapes, rfl, rfl⟩ := escapes_of_escapedChar? readEscape
      obtain ⟨bytes, resolves, same⟩ := ih _ _ read
      refine ⟨_, .escape escapes resolves, ?_⟩
      rw [same, List.reverse_append, List.reverse_reverse, Bytes.ofOctets_append, encodedChar,
        Char.ofNat_toNat, Bytes.ofOctets_octets, List.append_assoc]
  | case4 done fuel letter more _ ih =>
      simp only [Option.bind_eq_bind, Option.bind_eq_some_iff] at read
      obtain ⟨character, readLetter, read⟩ := read
      have stands := simpleEscape?_eq_some.1 readLetter
      obtain ⟨bytes, resolves, same⟩ := ih _ read
      refine ⟨_, .escape (.letter stands) resolves, ?_⟩
      rw [same, List.reverse_cons, Bytes.ofOctets_append, ← octets_encode_ascii stands.ascii.2,
        Bytes.ofOctets_octets, List.append_assoc]
  | case5 => cases read
  | case6 done fuel octet more noNumber noLetter alone ih =>
      obtain ⟨bytes, resolves, same⟩ := ih read
      have noBackslash : octet ≠ '\\' := by
        intro same
        cases more with
        | nil => exact alone same rfl
        | cons letter others => exact noLetter letter others same rfl
      exact ⟨_, .plain noBackslash resolves, by rw [same]; simp [Bytes.ofOctets]⟩

/-- A string is read as a text exactly if it stands for the bytes of that text. -/
theorem textOf?_eq_some_iff_resolves {text : String} :
    textOf? written = some text ↔ Resolves written (Bytes.ofString text) := by
  simp only [textOf?, Option.bind_eq_bind, Option.bind_eq_some_iff, Utf8.decode?_eq_some]
  constructor
  · rintro ⟨octets, read, bytes⟩
    obtain ⟨_, resolves, same⟩ := resolves_of_resolveEscapes? read
    exact same.symm.trans bytes ▸ resolves
  · intro resolves
    exact resolves.resolveEscapes? [] (Nat.le_refl _)

end

/-! ## Bytes of characters -/

section

variable {one other : Char} {byte : UInt8} {left right : Bytes}

/-- The bytes of one character do not begin those of another. -/
theorem encode_append_inj
    (same : String.utf8EncodeChar one ++ left = String.utf8EncodeChar other ++ right) :
    one = other ∧ left = right := by
  have decoded := congrArg (fun bytes => bytes.toByteArray.utf8DecodeChar? 0) same
  simp only [List.toByteArray_append, ByteArray.utf8DecodeChar?_utf8EncodeChar_append,
    Option.some.injEq] at decoded
  subst decoded
  exact ⟨rfl, List.append_cancel_left same⟩

/-- Only its first byte can begin a character. -/
theorem encode_cons (character : Char) : ∃ first tail,
    String.utf8EncodeChar character = first :: tail ∧ first.IsUTF8FirstByte ∧
      ∀ byte ∈ tail, ¬ byte.IsUTF8FirstByte := by
  obtain ⟨first, tail, bytes⟩ := List.exists_cons_of_ne_nil (@String.utf8EncodeChar_ne_nil character)
  have firstOnly (index : Nat) (inside : index < (String.utf8EncodeChar character).length) :
      (String.utf8EncodeChar character)[index].IsUTF8FirstByte ↔ index = 0 :=
    UInt8.isUTF8FirstByte_getElem_utf8EncodeChar
  simp only [bytes] at firstOnly
  refine ⟨first, tail, bytes, (firstOnly 0 (by simp)).mpr rfl, fun byte member begins => ?_⟩
  obtain ⟨index, inside, rfl⟩ := List.getElem_of_mem member
  cases (firstOnly (index + 1) (by simpa using inside)).mp begins

/-- A byte that is a character of its own is part of no other one. -/
theorem eq_of_mem_encode (single : String.utf8EncodeChar one = [byte])
    (member : byte ∈ String.utf8EncodeChar other) : other = one := by
  obtain ⟨first, tail, bytes, -, continues⟩ := encode_cons other
  obtain ⟨_, _, same, begins, -⟩ := encode_cons one
  obtain ⟨rfl, -⟩ := List.cons.inj (same.symm.trans single)
  rw [bytes] at member
  rcases List.mem_cons.mp member with rfl | member
  · exact (encode_append_inj (show String.utf8EncodeChar other ++ [] =
      String.utf8EncodeChar one ++ tail by rw [single, bytes]; simp)).1
  · exact absurd begins (continues _ member)

end

/-! ## What is spelled -/

theorem Resolves.behind {run : Bytes} (plain : ∀ byte ∈ run, Char.ofNat byte.toNat ≠ '\\')
    (resolves : Resolves written bytes) : Resolves (Bytes.octets run ++ written) (run ++ bytes) := by
  induction run with
  | nil => exact resolves
  | cons byte run ih =>
      obtain ⟨noBackslash, plain⟩ := List.forall_mem_cons.mp plain
      have front := Resolves.plain noBackslash (ih plain)
      rwa [Bytes.toNat_octet, Nat.toUInt8_eq, UInt8.ofNat_toNat] at front

/-- What spells a text stands for its bytes. -/
theorem Spells.resolves (spells : Spells text written) :
    Resolves written (text.flatMap String.utf8EncodeChar) := by
  induction spells with
  | nil => exact .nil
  | escape escapes _ ih => exact .escape escapes ih
  | @plain character text written noBackslash _ ih =>
      refine ih.behind fun byte member same => noBackslash ?_
      have code : byte.toNat = '\\'.toNat := by rw [← same, Bytes.toNat_octet]
      have backslash : byte = 92 := UInt8.toNat_inj.mp code
      exact eq_of_mem_encode (show String.utf8EncodeChar '\\' = [92] by decide) (backslash ▸ member)

theorem ofNat_toUInt8 {octet : Char} (narrow : octet.toNat < 256) :
    Char.ofNat octet.toNat.toUInt8.toNat = octet := by
  rw [Nat.toUInt8_eq, UInt8.toNat_ofNat_of_lt' narrow, Char.ofNat_toNat]

/-- Bytes that go on with a character can only stand for themselves. -/
theorem Resolves.continuation {tail more : Bytes} (resolves : Resolves written bytes)
    (same : bytes = tail ++ more) (narrow : ∀ octet ∈ written, octet.toNat < 256)
    (continues : ∀ byte ∈ tail, ¬ byte.IsUTF8FirstByte) :
    ∃ rest, written = Bytes.octets tail ++ rest ∧ Resolves rest more := by
  induction tail generalizing written bytes with
  | nil =>
      subst same
      exact ⟨written, rfl, resolves⟩
  | cons byte tail ih =>
      cases resolves with
      | nil => cases same
      | @plain octet rest bytes _ resolves =>
          obtain ⟨rfl, following⟩ := List.cons.inj same
          obtain ⟨small, narrow⟩ := List.forall_mem_cons.mp narrow
          obtain ⟨rest, rfl, onward⟩ :=
            ih resolves following narrow fun byte member => continues byte (.tail _ member)
          exact ⟨rest, congrArg (· :: _) (ofNat_toUInt8 small).symm, onward⟩
      | @escape character escape rest bytes _ resolves =>
          obtain ⟨first, others, encoded, begins, -⟩ := encode_cons character
          rw [encoded] at same
          obtain ⟨rfl, -⟩ := List.cons.inj same
          exact absurd begins (continues _ (.head _))

/-- What stands for the bytes of a text spells that text. -/
theorem Resolves.spells (resolves : Resolves written bytes)
    (same : bytes = text.flatMap String.utf8EncodeChar)
    (narrow : ∀ octet ∈ written, octet.toNat < 256) : Spells text written := by
  induction text generalizing written bytes with
  | nil =>
      cases resolves with
      | nil => exact .nil
      | plain => cases same
      | escape =>
          exact absurd (List.append_eq_nil_iff.mp same).1 String.utf8EncodeChar_ne_nil
  | cons character text ih =>
      rw [List.flatMap_cons] at same
      cases resolves with
      | nil => exact absurd (List.append_eq_nil_iff.mp same.symm).1 String.utf8EncodeChar_ne_nil
      | @escape other escape rest bytes escapes resolves =>
          obtain ⟨rfl, following⟩ := encode_append_inj same
          exact .escape escapes
            (ih resolves following fun octet member => narrow octet (List.mem_append_right _ member))
      | @plain octet rest bytes noBackslash resolves =>
          obtain ⟨first, tail, encoded, -, continues⟩ := encode_cons character
          rw [encoded] at same
          obtain ⟨rfl, following⟩ := List.cons.inj same
          obtain ⟨small, narrow⟩ := List.forall_mem_cons.mp narrow
          obtain ⟨rest, rfl, onward⟩ := resolves.continuation following narrow continues
          have whole : octet :: (Bytes.octets tail ++ rest) =
              Bytes.octets (String.utf8EncodeChar character) ++ rest := by
            rw [encoded]
            exact congrArg (· :: _) (ofNat_toUInt8 small).symm
          rw [whole]
          refine .plain ?_ (ih onward rfl fun octet member =>
            narrow octet (List.mem_append_right _ member))
          rintro rfl
          rw [show String.utf8EncodeChar '\\' = [92] by decide] at encoded
          have code : octet.toNat.toUInt8 = 92 := (List.cons.inj encoded).1.symm
          exact noBackslash (by rw [← ofNat_toUInt8 small, code]; rfl)

/-- A string is read as a text exactly if it spells that text. -/
theorem textOf?_eq_some {text : String} (narrow : ∀ octet ∈ written, octet.toNat < 256) :
    textOf? written = some text ↔ Spells text.toList written :=
  textOf?_eq_some_iff_resolves.trans
    ⟨fun resolves => resolves.spells rfl narrow, fun spells => spells.resolves⟩

end CorpusJudge.Json
