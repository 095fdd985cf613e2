import CorpusJudge.Proofs.Bytes
import CorpusJudge.Report
import CorpusJudge.Text.Escaped

/-!
# Escaped bytes

Whatever bytes are escaped, what is written is printable ASCII, so that it stays on its line.  An excerpt
shows the first bytes of an output and nothing else: its escapes can be undone in one way only, no quote
but the last one ends it, and it is cut between two bytes, never inside an escape.
-/

namespace CorpusJudge

/-- A printable character of ASCII. -/
def IsPrintable (character : Char) : Prop :=
  ' ' ≤ character ∧ character ≤ '~'

instance (character : Char) : Decidable (IsPrintable character) :=
  inferInstanceAs (Decidable (_ ∧ _))

-- The characters of the row are looked at, not all the characters there are.
instance (row : List Char) : Decidable (∀ character ∈ row, IsPrintable character) :=
  List.decidableBAll IsPrintable row

theorem IsHexDigit.isPrintable {character : Char} (digit : IsHexDigit character) :
    IsPrintable character := by
  rcases digit with ⟨lower, upper⟩ | ⟨lower, upper⟩
  · exact ⟨Char.le_trans (by decide) lower, Char.le_trans upper (by decide)⟩
  · exact ⟨Char.le_trans (by decide) lower, Char.le_trans upper (by decide)⟩

theorem IsPrintable.ne_break {character : Char} (printable : IsPrintable character) :
    character ≠ '\n' := by
  rintro rfl
  exact absurd printable (by decide)

namespace Escaped

variable {byte : UInt8} {bytes : Bytes} {character : Char} {unit body : List Char}

/-! ## Printing -/

theorem ofNat_isPrintable {code : Nat} (lower : 32 ≤ code) (upper : code ≤ 126) :
    IsPrintable (Char.ofNat code) := by
  have value : (Char.ofNat code).toNat = code := Bytes.toNat_ofNat (.inl (by omega))
  constructor
  · change 32 ≤ (Char.ofNat code).toNat
    omega
  · change (Char.ofNat code).toNat ≤ 126
    omega

theorem escapeByte_isPrintable (member : character ∈ escapeByte byte) : IsPrintable character := by
  have marked {letter : Char} (plain : IsPrintable letter) :
      ∀ other ∈ ['\\', letter], IsPrintable other :=
    List.forall_mem_cons.mpr ⟨by decide, List.forall_mem_singleton.mpr plain⟩
  unfold escapeByte at member
  iterate 6
    split at member
    · exact marked (by decide) _ member
  split at member
  · next plain =>
      rw [List.mem_singleton.mp member]
      exact ofNat_isPrintable plain.1 plain.2
  · rcases List.mem_cons.mp member with rfl | digits
    · decide
    · rcases List.mem_cons.mp digits with rfl | digits
      · decide
      · exact (Bytes.hexOfByte_isHexDigit digits).isPrintable

theorem escape_isPrintable (member : character ∈ escape bytes) : IsPrintable character := by
  obtain ⟨byte, -, written⟩ := List.mem_flatMap.mp member
  exact escapeByte_isPrintable written

theorem excerpt_isPrintable (member : character ∈ (excerpt bytes).toList) :
    IsPrintable character := by
  simp only [excerpt, String.toList_ofList, List.cons_append, List.mem_cons, List.mem_append,
    List.not_mem_nil, or_false] at member
  rcases member with rfl | written | rfl
  · decide
  · exact escape_isPrintable written
  · decide

/-! ## Undoing escapes -/

/-- The characters stand for one byte: an escape, or a printable character for itself. -/
inductive StandsFor : List Char → UInt8 → Prop where
  | tab : StandsFor ['\\', 't'] 9
  | lineBreak : StandsFor ['\\', 'n'] 10
  | carriageReturn : StandsFor ['\\', 'r'] 13
  | quote : StandsFor ['\\', '"'] 34
  | apostrophe : StandsFor ['\\', '\''] 39
  | backslash : StandsFor ['\\', '\\'] 92
  | numbered {high low : Char} {upper lower : Nat} : IsHexDigit high → IsHexDigit low →
      Bytes.hexValue? high = some upper → Bytes.hexValue? low = some lower →
      StandsFor ['\\', 'x', high, low] (16 * upper + lower).toUInt8
  | plain {character : Char} : IsPrintable character → character ≠ '"' → character ≠ '\\' →
      StandsFor [character] character.toNat.toUInt8

/-- The characters stand for the bytes, one byte after the other. -/
inductive Undoes : List Char → Bytes → Prop where
  | nil : Undoes [] []
  | cons {unit rest : List Char} {byte : UInt8} {bytes : Bytes} :
      StandsFor unit byte → Undoes rest bytes → Undoes (unit ++ rest) (byte :: bytes)

/-- Whether a quote stands in a text without a backslash that escapes it. -/
def hasBareQuote : List Char → Bool
  | '\\' :: _ :: rest => hasBareQuote rest
  | '"' :: _ => true
  | _ :: rest => hasBareQuote rest
  | [] => false

theorem hasBareQuote_plain {character : Char} (noQuote : character ≠ '"')
    (noBackslash : character ≠ '\\') (rest : List Char) :
    hasBareQuote (character :: rest) = hasBareQuote rest := by
  rw [hasBareQuote]
  · rintro _ _ rfl
    exact absurd rfl noBackslash
  · exact noQuote

/-- Reading on behind the characters of one byte meets no bare quote there. -/
theorem StandsFor.hasBareQuote (stands : StandsFor unit byte) (rest : List Char) :
    Escaped.hasBareQuote (unit ++ rest) = Escaped.hasBareQuote rest := by
  cases stands with
  | numbered high low upper lower =>
      obtain ⟨highQuote, highBackslash⟩ := high.plain
      obtain ⟨lowQuote, lowBackslash⟩ := low.plain
      exact (hasBareQuote_plain highQuote highBackslash _).trans
        (hasBareQuote_plain lowQuote lowBackslash rest)
  | plain _ noQuote noBackslash => exact hasBareQuote_plain noQuote noBackslash rest
  | _ => rfl

theorem Undoes.hasBareQuote (undoes : Undoes body bytes) :
    Escaped.hasBareQuote body = false := by
  induction undoes with
  | nil => rfl
  | cons stands _ ih => exact (stands.hasBareQuote _).trans ih

theorem StandsFor.unescape? (stands : StandsFor unit byte) (rest : List Char) :
    Escaped.unescape? (unit ++ rest) = (Escaped.unescape? rest).map (byte :: ·) := by
  cases stands with
  | numbered high low upper lower =>
      simp only [List.cons_append, List.nil_append, Escaped.unescape?, upper, lower]
      cases Escaped.unescape? rest <;> rfl
  | @plain character printable noQuote noBackslash =>
      have within : ' ' ≤ character ∧ character ≤ '~' := printable
      rw [List.singleton_append, Escaped.unescape?, if_pos within]
      all_goals simp [noQuote, noBackslash]
  | _ => rfl

/-- Undoing the escapes of a text leads to no other bytes. -/
theorem Undoes.unescape? (undoes : Undoes body bytes) : Escaped.unescape? body = some bytes := by
  induction undoes with
  | nil => rfl
  | cons stands _ ih => rw [stands.unescape?, ih, Option.map_some]

/-! ## What escaping writes -/

theorem escapeByte_standsFor (byte : UInt8) : StandsFor (escapeByte byte) byte := by
  have bound := byte.toNat_lt
  unfold escapeByte
  split_ifs with tab line carriage quote apostrophe backslash plain
  · exact tab ▸ .tab
  · exact line ▸ .lineBreak
  · exact carriage ▸ .carriageReturn
  · exact quote ▸ .quote
  · exact apostrophe ▸ .apostrophe
  · exact backslash ▸ .backslash
  · have number : (Char.ofNat byte.toNat).toNat = byte.toNat := Bytes.toNat_octet byte
    have differs (other : Char) (code : UInt8) (same : other.toNat = code.toNat)
        (unequal : byte ≠ code) : Char.ofNat byte.toNat ≠ other := by
      rintro rfl
      exact unequal (UInt8.toNat_inj.mp (number.symm.trans same))
    have printable : IsPrintable (Char.ofNat byte.toNat) := ofNat_isPrintable plain.1 plain.2
    have stands := StandsFor.plain printable (differs '"' 34 rfl quote)
      (differs '\\' 92 rfl backslash)
    rwa [number, Nat.toUInt8_eq, UInt8.ofNat_toNat] at stands
  · have high := Bytes.hexValue?_hexDigit (show byte.toNat / 16 < 16 by omega)
    have low := Bytes.hexValue?_hexDigit (show byte.toNat % 16 < 16 by omega)
    have whole : 16 * (byte.toNat / 16) + byte.toNat % 16 = byte.toNat := by omega
    have stands := StandsFor.numbered (Bytes.hexDigit_isHexDigit (by omega))
      (Bytes.hexDigit_isHexDigit (by omega)) high low
    rwa [whole, Nat.toUInt8_eq, UInt8.ofNat_toNat] at stands

theorem escape_undoes (bytes : Bytes) : Undoes (escape bytes) bytes := by
  induction bytes with
  | nil => exact .nil
  | cons byte rest ih =>
      rw [escape, List.flatMap_cons]
      exact .cons (escapeByte_standsFor byte) ih

/-! ## Excerpts -/

theorem excerpt_toList (bytes : Bytes) :
    (excerpt bytes).toList = '"' :: escape (bytes.take 100) ++ ['"'] := by
  rw [excerpt, String.toList_ofList]
  rfl

theorem excerpt_eq_iff {one other : Bytes} :
    excerpt one = excerpt other ↔ one.take 100 = other.take 100 := by
  constructor
  · intro same
    have written := congrArg String.toList same
    rw [excerpt_toList, excerpt_toList, List.append_cancel_right_eq, List.cons.injEq] at written
    have undone := (escape_undoes (one.take 100)).unescape?
    rw [written.2, (escape_undoes (other.take 100)).unescape?] at undone
    exact (Option.some.inj undone).symm
  · intro same
    rw [excerpt, excerpt]
    exact congrArg (fun shown => String.ofList ('"' :: escape shown ++ ['"'])) same

theorem excerptLine_isPrintable (outcome : Outcome) :
    ∃ row, (Reporter.excerptLine outcome).toList = row ++ ['\n'] ∧
      ∀ character ∈ row, IsPrintable character := by
  have lead : ∀ character ∈ "  actual=".toList, IsPrintable character := by decide
  have middle : ∀ character ∈ " expected=".toList, IsPrintable character := by decide
  refine ⟨"  actual=".toList ++ (excerpt outcome.actual).toList ++ " expected=".toList ++
    (excerpt outcome.expected).toList, by simp [Reporter.excerptLine], ?_⟩
  simp only [List.mem_append]
  rintro character (((member | member) | member) | member)
  · exact lead _ member
  · exact excerpt_isPrintable member
  · exact middle _ member
  · exact excerpt_isPrintable member

/-- An excerpt is an escaped body between two quotes, printable throughout and without a bare quote
inside.  Undoing the escapes of the body yields the first hundred bytes, or all there are, and nothing
else; what follows in the whole escaped form stands for the bytes that follow, so that no escape is
cut.  Two excerpts are the same only if those first bytes are.  The line of a report that shows
excerpts is one line. -/
theorem excerpt_faithful :
    (∀ bytes, ∃ body, (excerpt bytes).toList = '"' :: body ++ ['"'] ∧
      (∀ character ∈ (excerpt bytes).toList, IsPrintable character) ∧
      hasBareQuote body = false ∧
      Undoes body (bytes.take 100) ∧
      (∀ other, Undoes body other → other = bytes.take 100) ∧
      ∃ rest, escape bytes = body ++ rest ∧ Undoes rest (bytes.drop 100)) ∧
    (∀ one other, excerpt one = excerpt other ↔ one.take 100 = other.take 100) ∧
    ∀ outcome, ∃ row, (Reporter.excerptLine outcome).toList = row ++ ['\n'] ∧
      ∀ character ∈ row, IsPrintable character := by
  refine ⟨fun bytes => ?_, fun one other => excerpt_eq_iff, excerptLine_isPrintable⟩
  have undoes := escape_undoes (bytes.take 100)
  refine ⟨escape (bytes.take 100), excerpt_toList bytes, fun _ => excerpt_isPrintable,
    undoes.hasBareQuote, undoes, fun other alike => ?_, escape (bytes.drop 100), ?_,
    escape_undoes (bytes.drop 100)⟩
  · exact Option.some.inj (alike.unescape?.symm.trans undoes.unescape?)
  · rw [escape, escape, escape, ← List.flatMap_append, List.take_append_drop]

end Escaped

end CorpusJudge
