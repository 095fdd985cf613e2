import CorpusJudge.Proofs.Bytes
import CorpusJudge.Text.Utf8

/-!
# UTF-8

Reading the bytes of a text gives its characters back, and bytes without malformed pieces are those of
a text.  Both follow from how the parts of one character are read.
-/

namespace CorpusJudge.Utf8

/-- The numbers of characters leave out the surrogates. -/
theorem toNat_valid (character : Char) :
    character.toNat < 0xD800 ∨ 0xDFFF < character.toNat ∧ character.toNat < 0x110000 :=
  character.valid

/-! ## Reading the bytes of a character -/

section

variable {code bits missing second : Nat} {least greatest : UInt8}

/-- The number leads a character: reading it gives some bits of that character, and a range in which
the second byte lies. -/
def Leads (lead bits missing second : Nat) : Prop :=
  ∃ least greatest : UInt8, least.toNat ≤ second ∧ second ≤ greatest.toNat ∧
    ∀ pieces, start pieces (UInt8.ofNat lead) = ⟨pieces, some ⟨bits, missing, least, greatest⟩⟩

theorem toNat_byte {number : Nat} (small : number < 256) : (UInt8.ofNat number).toNat = number :=
  UInt8.toNat_ofNat_of_lt' small

theorem feed_start (pieces : List (Option Char)) (byte : UInt8) :
    feed ⟨pieces, none⟩ byte = start pieces byte :=
  rfl

theorem feed_last (pieces : List (Option Char)) (lower : least.toNat ≤ second)
    (upper : second ≤ greatest.toNat) :
    feed ⟨pieces, some ⟨bits, 1, least, greatest⟩⟩ (UInt8.ofNat second) =
      ⟨some (Char.ofNat (bits * 64 + (second - 0x80))) :: pieces, none⟩ := by
  have bound := greatest.toNat_lt
  simp [feed, UInt8.le_iff_toNat_le, toNat_byte (show second < 256 by omega), lower, upper]

theorem feed_more (pieces : List (Option Char)) (lower : least.toNat ≤ second)
    (upper : second ≤ greatest.toNat) :
    feed ⟨pieces, some ⟨bits, missing + 2, least, greatest⟩⟩ (UInt8.ofNat second) =
      ⟨pieces, some ⟨bits * 64 + (second - 0x80), missing + 1, 0x80, 0xBF⟩⟩ := by
  have bound := greatest.toNat_lt
  simp [feed, UInt8.le_iff_toNat_le, toNat_byte (show second < 256 by omega), lower, upper]

theorem leads_two (least : 0x7f < code) (greatest : code ≤ 0x7ff) :
    Leads (code / 64 % 0x20 + 0xc0) (code / 64) 1 (code % 64 + 0x80) := by
  have most : code % 64 < 64 := Nat.mod_lt _ (by decide)
  have lower : 2 ≤ code / 64 := by omega
  have upper : code / 64 < 0x20 := by omega
  rw [Nat.mod_eq_of_lt upper]
  generalize code / 64 = bits at lower upper ⊢
  clear least greatest
  refine ⟨0x80, 0xBF, Nat.le_add_left .., Nat.add_le_add_right (Nat.le_of_lt_succ most) 0x80,
    fun pieces => ?_⟩
  simp only [start, toNat_byte (show bits + 0xc0 < 256 by omega)]
  rw [if_neg (by omega), if_neg (by omega), if_pos (by omega), Nat.add_sub_cancel]

theorem leads_three (least : 0x7ff < code) (greatest : code ≤ 0xffff)
    (valid : code < 0xD800 ∨ 0xDFFF < code) :
    Leads (code / 4096 % 0x10 + 0xe0) (code / 4096) 2 (code / 64 % 64 + 0x80) := by
  have most : code / 64 % 64 < 64 := Nat.mod_lt _ (by decide)
  have upper : code / 4096 < 0x10 := by omega
  have short : code / 4096 = 0 → 0x20 ≤ code / 64 % 64 := by omega
  have whole : code / 4096 = 13 → code / 64 % 64 < 0x20 := by omega
  rw [Nat.mod_eq_of_lt upper]
  generalize code / 4096 = bits at upper short whole ⊢
  generalize code / 64 % 64 = second at most short whole ⊢
  clear least greatest valid
  have atMost : second + 0x80 ≤ 0xBF := Nat.add_le_add_right (Nat.le_of_lt_succ most) 0x80
  by_cases overlong : bits = 0
  · subst overlong
    exact ⟨0xA0, 0xBF, Nat.add_le_add_right (short rfl) 0x80, atMost, fun pieces => rfl⟩
  · by_cases surrogate : bits = 13
    · subst surrogate
      exact ⟨0x80, 0x9F, Nat.le_add_left .., Nat.add_le_add_right (Nat.le_of_lt_succ (whole rfl)) 0x80,
        fun pieces => rfl⟩
    · refine ⟨0x80, 0xBF, Nat.le_add_left .., atMost, fun pieces => ?_⟩
      clear short whole most atMost
      simp only [start, toNat_byte (show bits + 0xe0 < 256 by omega)]
      rw [if_neg (by omega), if_neg (by omega), if_neg (by omega), if_neg (by omega),
        if_neg (by omega), if_pos (by omega), Nat.add_sub_cancel]

theorem leads_four (least : 0xffff < code) (greatest : code < 0x110000) :
    Leads (code / 262144 % 8 + 0xf0) (code / 262144) 3 (code / 4096 % 64 + 0x80) := by
  have most : code / 4096 % 64 < 64 := Nat.mod_lt _ (by decide)
  have upper : code / 262144 < 5 := by omega
  have short : code / 262144 = 0 → 0x10 ≤ code / 4096 % 64 := by omega
  have whole : code / 262144 = 4 → code / 4096 % 64 < 0x10 := by omega
  rw [Nat.mod_eq_of_lt (Nat.lt_trans upper (by decide))]
  generalize code / 262144 = bits at upper short whole ⊢
  generalize code / 4096 % 64 = second at most short whole ⊢
  clear least greatest
  have atMost : second + 0x80 ≤ 0xBF := Nat.add_le_add_right (Nat.le_of_lt_succ most) 0x80
  by_cases overlong : bits = 0
  · subst overlong
    exact ⟨0x90, 0xBF, Nat.add_le_add_right (short rfl) 0x80, atMost, fun pieces => rfl⟩
  · by_cases last : bits = 4
    · subst last
      exact ⟨0x80, 0x8F, Nat.le_add_left .., Nat.add_le_add_right (Nat.le_of_lt_succ (whole rfl)) 0x80,
        fun pieces => rfl⟩
    · refine ⟨0x80, 0xBF, Nat.le_add_left .., atMost, fun pieces => ?_⟩
      clear short whole most atMost
      simp only [start, toNat_byte (show bits + 0xf0 < 256 by omega)]
      rw [if_neg (by omega), if_neg (by omega), if_neg (by omega), if_neg (by omega),
        if_neg (by omega), if_neg (by omega), if_neg (by omega), if_pos (by omega),
        Nat.add_sub_cancel]

end

/-- Reading the bytes of a character gives that character. -/
theorem feed_encode (pieces : List (Option Char)) (character : Char) :
    (String.utf8EncodeChar character).foldl feed ⟨pieces, none⟩ =
      ⟨some character :: pieces, none⟩ := by
  have valid := toNat_valid character
  have same := Char.ofNat_toNat character
  have unfolded : character.val.toNat = character.toNat := rfl
  have tail (number : Nat) : (0x80 : UInt8).toNat ≤ number % 64 + 0x80 ∧
      number % 64 + 0x80 ≤ (0xBF : UInt8).toNat :=
    ⟨Nat.le_add_left .., Nat.add_le_add_right (by omega) 0x80⟩
  simp only [String.utf8EncodeChar, unfolded]
  generalize character.toNat = code at *
  split
  · next one =>
      have value := toNat_byte (show code < 256 by omega)
      simp only [List.foldl, feed_start, start, value]
      rw [if_pos (by omega), same]
  split
  · next more two =>
      obtain ⟨least, greatest, lower, upper, leads⟩ := leads_two (by omega) two
      have whole : code / 64 * 64 + (code % 64 + 0x80 - 0x80) = code := by omega
      simp only [List.foldl]
      rw [feed_start, leads, feed_last _ lower upper, whole, same]
  split
  · next more three =>
      obtain ⟨least, greatest, lower, upper, leads⟩ := leads_three (by omega) three (by omega)
      have whole : (code / 4096 * 64 + (code / 64 % 64 + 0x80 - 0x80)) * 64 +
          (code % 64 + 0x80 - 0x80) = code := by omega
      simp only [List.foldl]
      rw [feed_start, leads, feed_more _ lower upper, feed_last _ (tail code).1 (tail code).2, whole,
        same]
  · next more =>
      obtain ⟨least, greatest, lower, upper, leads⟩ :=
        leads_four (show 0xffff < code by omega) (by omega)
      have whole : ((code / 262144 * 64 + (code / 4096 % 64 + 0x80 - 0x80)) * 64 +
          (code / 64 % 64 + 0x80 - 0x80)) * 64 + (code % 64 + 0x80 - 0x80) = code := by omega
      simp only [List.foldl]
      rw [feed_start, leads, feed_more _ lower upper, feed_more _ (tail _).1 (tail _).2,
        feed_last _ (tail code).1 (tail code).2, whole, same]

theorem foldl_feed_encode (text : List Char) (pieces : List (Option Char)) :
    (text.flatMap String.utf8EncodeChar).foldl feed ⟨pieces, none⟩ =
      ⟨(text.map some).reverse ++ pieces, none⟩ := by
  induction text generalizing pieces with
  | nil => rfl
  | cons character rest ih =>
      rw [List.flatMap_cons, List.foldl_append, feed_encode, ih, List.map_cons, List.reverse_cons,
        List.append_assoc, List.singleton_append]

/-- The bytes of a text have its characters as their pieces. -/
theorem pieces_ofString (text : String) : pieces (Bytes.ofString text) = text.toList.map some := by
  simp [pieces, Bytes.ofString, foldl_feed_encode]

/-- A text is read back from its bytes. -/
@[simp] theorem decode?_ofString (text : String) : decode? (Bytes.ofString text) = some text := by
  have characters : (text.toList.map some).mapM id = some text.toList := by
    induction text.toList with
    | nil => rfl
    | cons character rest ih => simp [ih]
  rw [decode?, pieces_ofString, characters, Option.map_some, String.ofList_toList]

/-! ## Bytes without malformed pieces -/

section

variable {lead second third fourth : UInt8}

/-- A byte after the first of a character. -/
def Continues (byte : UInt8) : Prop :=
  0x80 ≤ byte.toNat ∧ byte.toNat ≤ 0xBF

/-- The bytes of the character with a valid number. -/
theorem encode_ofNat {code : Nat} (valid : code.isValidChar) :
    (Char.ofNat code).val.toNat = code :=
  Bytes.toNat_ofNat valid

theorem ofNat_eq {number : Nat} (byte : UInt8) (same : number = byte.toNat) :
    UInt8.ofNat number = byte := by
  rw [same, UInt8.ofNat_toNat]

theorem Continues.exists_bits {byte : UInt8} (continues : Continues byte) :
    ∃ bits < 64, byte.toNat = 0x80 + bits := by
  obtain ⟨lower, upper⟩ := continues
  exact ⟨byte.toNat - 0x80, by omega, by omega⟩

/-- Six bits behind a number are found again. -/
theorem append_bits (number : Nat) {bits : Nat} (small : bits < 64) :
    (number * 64 + bits) / 64 = number ∧ (number * 64 + bits) % 64 = bits := by
  omega

theorem encode_two (lower : 0xC2 ≤ lead.toNat) (upper : lead.toNat < 0xE0)
    (continues : Continues second) :
    String.utf8EncodeChar (Char.ofNat ((lead.toNat - 0xC0) * 64 + (second.toNat - 0x80))) =
      [lead, second] := by
  obtain ⟨number, leadIs⟩ := Nat.exists_eq_add_of_le (Nat.le_trans (by decide : 0xC0 ≤ 0xC2) lower)
  obtain ⟨bits, small, secondIs⟩ := continues.exists_bits
  rw [leadIs] at lower upper
  have least : 2 ≤ number := by omega
  have greatest : number < 32 := by omega
  have valid : (number * 64 + bits).isValidChar := .inl (by omega)
  obtain ⟨high, low⟩ := append_bits number small
  rw [leadIs, secondIs, Nat.add_sub_cancel_left, Nat.add_sub_cancel_left]
  simp only [String.utf8EncodeChar, encode_ofNat valid, high, low]
  rw [if_neg (by omega), if_pos (by omega), Nat.mod_eq_of_lt greatest, Nat.add_comm number,
    Nat.add_comm bits, ofNat_eq lead leadIs.symm, ofNat_eq second secondIs.symm]

theorem encode_three (lower : 0xE0 ≤ lead.toNat) (upper : lead.toNat < 0xF0)
    (continues : Continues second) (last : Continues third)
    (short : lead.toNat = 0xE0 → 0xA0 ≤ second.toNat)
    (whole : lead.toNat = 0xED → second.toNat ≤ 0x9F) :
    String.utf8EncodeChar (Char.ofNat (((lead.toNat - 0xE0) * 64 + (second.toNat - 0x80)) * 64 +
        (third.toNat - 0x80))) = [lead, second, third] := by
  obtain ⟨number, leadIs⟩ := Nat.exists_eq_add_of_le lower
  obtain ⟨middle, small, secondIs⟩ := continues.exists_bits
  obtain ⟨bits, smallest, thirdIs⟩ := last.exists_bits
  rw [leadIs] at upper
  rw [leadIs, secondIs] at short whole
  have greatest : number < 16 := by omega
  have least : 32 ≤ number * 64 + middle := by omega
  have noSurrogate : number * 64 + middle < 864 ∨ 896 ≤ number * 64 + middle := by omega
  obtain ⟨high, mid⟩ := append_bits number small
  obtain ⟨front, low⟩ := append_bits (number * 64 + middle) smallest
  generalize started : number * 64 + middle = start at least noSurrogate high mid front low
  have valid : (start * 64 + bits).isValidChar := by
    unfold Nat.isValidChar
    omega
  have first : (start * 64 + bits) / 4096 = number :=
    (Nat.div_div_eq_div_mul _ 64 64).symm.trans (by rw [front, high])
  rw [leadIs, secondIs, thirdIs, Nat.add_sub_cancel_left, Nat.add_sub_cancel_left,
    Nat.add_sub_cancel_left, started]
  simp only [String.utf8EncodeChar, encode_ofNat valid, first, front, mid, low]
  rw [if_neg (by omega), if_neg (by omega), if_pos (by omega), Nat.mod_eq_of_lt greatest,
    Nat.add_comm number, Nat.add_comm middle, Nat.add_comm bits, ofNat_eq lead leadIs.symm,
    ofNat_eq second secondIs.symm, ofNat_eq third thirdIs.symm]

theorem encode_four (lower : 0xF0 ≤ lead.toNat) (upper : lead.toNat ≤ 0xF4)
    (continues : Continues second) (more : Continues third) (last : Continues fourth)
    (short : lead.toNat = 0xF0 → 0x90 ≤ second.toNat)
    (whole : lead.toNat = 0xF4 → second.toNat ≤ 0x8F) :
    String.utf8EncodeChar (Char.ofNat ((((lead.toNat - 0xF0) * 64 + (second.toNat - 0x80)) * 64 +
        (third.toNat - 0x80)) * 64 + (fourth.toNat - 0x80))) = [lead, second, third, fourth] := by
  obtain ⟨number, leadIs⟩ := Nat.exists_eq_add_of_le lower
  obtain ⟨middle, small, secondIs⟩ := continues.exists_bits
  obtain ⟨further, smaller, thirdIs⟩ := more.exists_bits
  obtain ⟨bits, smallest, fourthIs⟩ := last.exists_bits
  rw [leadIs] at upper
  rw [leadIs, secondIs] at short whole
  have greatest : number ≤ 4 := by omega
  have least : 16 ≤ number * 64 + middle := by omega
  have most : number * 64 + middle < 272 := by omega
  obtain ⟨high, mid⟩ := append_bits number small
  obtain ⟨front, next⟩ := append_bits (number * 64 + middle) smaller
  obtain ⟨all, low⟩ := append_bits ((number * 64 + middle) * 64 + further) smallest
  generalize started : number * 64 + middle = start at least most high mid front next all low
  have second : (start * 64 + further) / 64 % 64 = middle := by rw [front, mid]
  have first : (start * 64 + further) / 4096 = number :=
    (Nat.div_div_eq_div_mul _ 64 64).symm.trans (by rw [front, high])
  have wide : 1024 ≤ start * 64 + further ∧ start * 64 + further < 17408 := by omega
  clear least most high mid front
  generalize continued : start * 64 + further = body at next all low second first wide
  have valid : (body * 64 + bits).isValidChar := .inr (by omega)
  have firstOf : (body * 64 + bits) / 262144 = number :=
    (Nat.div_div_eq_div_mul _ 64 4096).symm.trans (by rw [all, first])
  have secondOf : (body * 64 + bits) / 4096 % 64 = middle := by
    rw [← Nat.div_div_eq_div_mul _ 64 64, all, second]
  rw [leadIs, secondIs, thirdIs, fourthIs, Nat.add_sub_cancel_left, Nat.add_sub_cancel_left,
    Nat.add_sub_cancel_left, Nat.add_sub_cancel_left, started, continued]
  simp only [String.utf8EncodeChar, encode_ofNat valid, firstOf, secondOf, all, next, low]
  rw [if_neg (by omega), if_neg (by omega), if_neg (by omega),
    Nat.mod_eq_of_lt (show number < 8 by omega), Nat.add_comm number, Nat.add_comm middle,
    Nat.add_comm further, Nat.add_comm bits, ofNat_eq lead leadIs.symm,
    ofNat_eq _ secondIs.symm, ofNat_eq third thirdIs.symm, ofNat_eq fourth fourthIs.symm]

end

/-- Whichever bytes follow, as many as are missing, they complete the bytes read so far to those of
a character, whose bits continue the given ones. -/
def Completes : Nat → Nat → Bytes → Prop
  | 0, bits, read => String.utf8EncodeChar (Char.ofNat bits) = read
  | missing + 1, bits, read =>
    ∀ byte, Continues byte → Completes missing (bits * 64 + (byte.toNat - 0x80)) (read ++ [byte])

/-- A partial character has been read from these bytes. -/
structure Partial.Of (pending : Partial) (read : Bytes) : Prop where
  positive : 0 < pending.missing
  continues : ∀ byte, pending.least ≤ byte → byte ≤ pending.greatest →
    Completes (pending.missing - 1) (pending.bits * 64 + (byte.toNat - 0x80)) (read ++ [byte])

/-- Reading stands after these bytes, none of them malformed. -/
def Progress.Of (progress : Progress) (read : Bytes) : Prop :=
  ∃ (text : List Char) (part : Bytes), progress.pieces = (text.map some).reverse ∧
    read = text.flatMap String.utf8EncodeChar ++ part ∧
    match progress.pending with
    | none => part = []
    | some pending => pending.Of part

/-! ### First bytes -/

section

variable {bits : Nat} {lead least greatest byte : UInt8}

/-- A byte in the range that a partial character asks for continues it. -/
theorem continues_of_range (lower : 0x80 ≤ least.toNat) (upper : greatest.toNat ≤ 0xBF)
    (atLeast : least ≤ byte) (atMost : byte ≤ greatest) : Continues byte :=
  ⟨lower.trans (UInt8.le_iff_toNat_le.mp atLeast), (UInt8.le_iff_toNat_le.mp atMost).trans upper⟩

theorem continues_of_tail (atLeast : 0x80 ≤ byte) (atMost : byte ≤ 0xBF) : Continues byte :=
  continues_of_range (by decide) (by decide) atLeast atMost

theorem of_two (value : bits = lead.toNat - 0xC0) (lower : 0xC2 ≤ lead.toNat)
    (upper : lead.toNat < 0xE0) : Partial.Of ⟨bits, 1, 0x80, 0xBF⟩ [lead] where
  positive := Nat.one_pos
  continues byte atLeast atMost := by
    rw [value]
    simp only [Completes, Nat.sub_self, List.singleton_append]
    exact encode_two lower upper (continues_of_tail atLeast atMost)

theorem of_three (value : bits = lead.toNat - 0xE0) (lower : 0xE0 ≤ lead.toNat)
    (upper : lead.toNat < 0xF0) (low : 0x80 ≤ least.toNat) (high : greatest.toNat ≤ 0xBF)
    (short : lead.toNat = 0xE0 → 0xA0 ≤ least.toNat)
    (whole : lead.toNat = 0xED → greatest.toNat ≤ 0x9F) :
    Partial.Of ⟨bits, 2, least, greatest⟩ [lead] where
  positive := Nat.two_pos
  continues byte atLeast atMost := by
    rw [value]
    simp only [Completes, Nat.add_one_sub_one, List.cons_append]
    intro third last
    exact encode_three lower upper (continues_of_range low high atLeast atMost) last
      (fun same => (short same).trans (UInt8.le_iff_toNat_le.mp atLeast))
      (fun same => (UInt8.le_iff_toNat_le.mp atMost).trans (whole same))

theorem of_four (value : bits = lead.toNat - 0xF0) (lower : 0xF0 ≤ lead.toNat)
    (upper : lead.toNat ≤ 0xF4) (low : 0x80 ≤ least.toNat) (high : greatest.toNat ≤ 0xBF)
    (short : lead.toNat = 0xF0 → 0x90 ≤ least.toNat)
    (whole : lead.toNat = 0xF4 → greatest.toNat ≤ 0x8F) :
    Partial.Of ⟨bits, 3, least, greatest⟩ [lead] where
  positive := Nat.zero_lt_succ 2
  continues byte atLeast atMost := by
    rw [value]
    simp only [Completes, Nat.add_one_sub_one, List.cons_append]
    intro third more fourth last
    exact encode_four lower upper (continues_of_range low high atLeast atMost) more last
      (fun same => (short same).trans (UInt8.le_iff_toNat_le.mp atLeast))
      (fun same => (UInt8.le_iff_toNat_le.mp atMost).trans (whole same))

end

/-- A byte that has to start a character is malformed, or a character, or the start of one. -/
theorem start_cases (pieces : List (Option Char)) (byte : UInt8) :
    start pieces byte = ⟨none :: pieces, none⟩ ∨
    (start pieces byte = ⟨some (Char.ofNat byte.toNat) :: pieces, none⟩ ∧
      String.utf8EncodeChar (Char.ofNat byte.toNat) = [byte]) ∨
    ∃ pending, start pieces byte = ⟨pieces, some pending⟩ ∧ pending.Of [byte] := by
  simp only [start]
  by_cases one : byte.toNat < 0x80
  · rw [if_pos one]
    refine .inr (.inl ⟨rfl, ?_⟩)
    simp [String.utf8EncodeChar, encode_ofNat (.inl (by omega : byte.toNat < 0xD800)),
      Nat.le_of_lt_succ one]
  rw [if_neg one]
  by_cases bare : byte.toNat < 0xC2
  · rw [if_pos bare]
    exact .inl rfl
  rw [if_neg bare]
  by_cases two : byte.toNat < 0xE0
  · rw [if_pos two]
    exact .inr (.inr ⟨_, rfl, of_two rfl (Nat.le_of_not_lt bare) two⟩)
  rw [if_neg two]
  clear one bare
  by_cases short : byte.toNat = 0xE0
  · rw [if_pos short]
    exact .inr (.inr ⟨_, rfl, of_three (by omega) (by omega) (by omega) (by decide) (by decide)
      (fun _ => by decide) (by omega)⟩)
  rw [if_neg short]
  by_cases whole : byte.toNat = 0xED
  · rw [if_pos whole]
    exact .inr (.inr ⟨_, rfl, of_three (by omega) (by omega) (by omega) (by decide) (by decide)
      (by omega) (fun _ => by decide)⟩)
  rw [if_neg whole]
  by_cases three : byte.toNat < 0xF0
  · rw [if_pos three]
    exact .inr (.inr ⟨_, rfl, of_three rfl (Nat.le_of_not_lt two) three (by decide) (by decide)
      (fun same => absurd same short) (fun same => absurd same whole)⟩)
  rw [if_neg three]
  clear two short whole
  by_cases short : byte.toNat = 0xF0
  · rw [if_pos short]
    exact .inr (.inr ⟨_, rfl, of_four (by omega) (by omega) (by omega) (by decide) (by decide)
      (fun _ => by decide) (by omega)⟩)
  rw [if_neg short]
  by_cases four : byte.toNat < 0xF4
  · rw [if_pos four]
    exact .inr (.inr ⟨_, rfl, of_four rfl (Nat.le_of_not_lt three) (Nat.le_of_lt four) (by decide)
      (by decide) (fun same => absurd same short) (by omega)⟩)
  rw [if_neg four]
  by_cases last : byte.toNat = 0xF4
  · rw [if_pos last]
    exact .inr (.inr ⟨_, rfl, of_four (by omega) (by omega) (by omega) (by decide) (by decide)
      (by omega) (fun _ => by decide)⟩)
  rw [if_neg last]
  exact .inl rfl

/-! ### The whole reading -/

/-- A malformed piece stays. -/
theorem none_mem_feed {progress : Progress} (byte : UInt8) (malformed : none ∈ progress.pieces) :
    none ∈ (feed progress byte).pieces := by
  have started (pieces : List (Option Char)) (member : none ∈ pieces) :
      none ∈ (start pieces byte).pieces := by
    rcases start_cases pieces byte with same | ⟨same, -⟩ | ⟨_, same, -⟩
    all_goals simp [same, member]
  unfold feed
  split
  · exact started _ malformed
  · dsimp only
    split_ifs
    · exact List.mem_cons_of_mem _ malformed
    · exact malformed
    · exact started _ (List.mem_cons_of_mem _ malformed)

/-- Another byte that is not found malformed keeps the reading in step. -/
theorem Progress.Of.feed {progress : Progress} {read : Bytes} (stands : progress.Of read)
    (byte : UInt8) (whole : none ∉ (feed progress byte).pieces) :
    (Utf8.feed progress byte).Of (read ++ [byte]) := by
  obtain ⟨text, part, pieces, rfl, rest⟩ := stands
  obtain ⟨shown, pending⟩ := progress
  subst pieces
  cases pending with
  | none =>
      subst rest
      rw [feed_start] at whole ⊢
      rcases start_cases (text.map some).reverse byte with same | ⟨same, one⟩ | ⟨pending, same, of⟩
      · simp [same] at whole
      · exact ⟨text ++ [Char.ofNat byte.toNat], [], by simp [same], by simp [one], by rw [same]⟩
      · exact ⟨text, [byte], by simp [same], by simp, by rw [same]; exact of⟩
  | some pending =>
      obtain ⟨bits, missing, least, greatest⟩ := pending
      obtain ⟨positive, continues⟩ := rest
      have malformed : none ∈ (start (none :: (text.map some).reverse) byte).pieces := by
        rcases start_cases (none :: (text.map some).reverse) byte with same | ⟨same, -⟩ | ⟨_, same, -⟩
        all_goals simp [same]
      simp only [Utf8.feed] at whole ⊢
      split_ifs at whole ⊢ with within last
      · obtain rfl : missing = 1 := Nat.le_antisymm last positive
        have written := continues byte within.1 within.2
        exact ⟨text ++ [Char.ofNat (bits * 64 + (byte.toNat - 0x80))], [], by simp,
          by simp [show String.utf8EncodeChar _ = part ++ [byte] from written], rfl⟩
      · refine ⟨text, part ++ [byte], rfl, by simp, Nat.sub_pos_of_lt (Nat.lt_of_not_le last), ?_⟩
        obtain ⟨more, rfl⟩ : ∃ more, missing = more + 2 :=
          ⟨missing - 2, by have := Nat.lt_of_not_le last; omega⟩
        intro following atLeast atMost
        exact continues byte within.1 within.2 following (continues_of_tail atLeast atMost)
      · exact absurd malformed whole

theorem foldl_feed_of (bytes : Bytes) (whole : none ∉ (bytes.foldl feed ⟨[], none⟩).pieces) :
    (bytes.foldl feed ⟨[], none⟩).Of bytes := by
  induction bytes using List.reverseRecOn with
  | nil => exact ⟨[], [], rfl, rfl, rfl⟩
  | append_singleton read byte ih =>
      rw [List.foldl_concat] at whole ⊢
      exact (ih (mt (none_mem_feed byte) whole)).feed byte whole

/-- The bytes without malformed pieces are those of the texts. -/
theorem isText_iff {bytes : Bytes} :
    isText bytes = true ↔ ∃ text, bytes = Bytes.ofString text := by
  constructor
  · intro found
    have whole : none ∉ pieces bytes := by
      intro member
      simpa using List.all_eq_true.mp found none member
    unfold pieces at whole
    dsimp only at whole
    cases pending : (bytes.foldl feed ⟨[], none⟩).pending with
    | some rest => simp [pending] at whole
    | none =>
        simp only [pending, List.mem_reverse] at whole
        obtain ⟨text, part, -, same, rest⟩ := foldl_feed_of bytes whole
        rw [pending] at rest
        subst rest
        exact ⟨String.ofList text, by simpa [Bytes.ofString] using same⟩
  · rintro ⟨text, rfl⟩
    simp [isText, pieces_ofString]

/-- Bytes are read as a text only if they are its bytes. -/
theorem decode?_eq_some {bytes : Bytes} {text : String} :
    decode? bytes = some text ↔ bytes = Bytes.ofString text := by
  constructor
  · intro read
    have whole : isText bytes = true := by
      obtain ⟨characters, present, -⟩ := Option.map_eq_some_iff.mp read
      have pieces : ∀ {pieces : List (Option Char)} {characters}, pieces.mapM id = some characters →
          pieces.all Option.isSome = true := by
        intro pieces
        induction pieces with
        | nil => exact fun _ => rfl
        | cons piece pieces ih =>
            intro characters present
            simp only [List.mapM_cons, id_eq, Option.bind_eq_bind, Option.bind_eq_some_iff] at present
            obtain ⟨character, rfl, others, present, -⟩ := present
            exact ih present
      exact pieces present
    obtain ⟨own, rfl⟩ := isText_iff.1 whole
    rw [decode?_ofString] at read
    rw [Option.some.inj read]
  · rintro rfl
    exact decode?_ofString text

end CorpusJudge.Utf8
