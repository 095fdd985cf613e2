import CorpusJudge.Bytes
import Mathlib.Algebra.Ring.Nat
import Mathlib.Tactic.SplitIfs

/-!
# The order of names

Names are sorted as texts, which is the order of their UTF-8 bytes.  Sorting depends only on which
names there are.
-/

namespace CorpusJudge.Text

theorem sorted_pairwise (names : List String) :
    (names.mergeSort (· ≤ ·)).Pairwise (· ≤ ·) := by
  refine (List.pairwise_mergeSort ?_ ?_ _).imp of_decide_eq_true
  · intro first second third before after
    exact decide_eq_true (String.le_trans (of_decide_eq_true before) (of_decide_eq_true after))
  · intro first second
    simpa using String.le_total first second

/-- A sorted list of names is known from the names in it. -/
theorem eq_of_perm_sorted {left right : List String} (leftSorted : left.Pairwise (· ≤ ·))
    (rightSorted : right.Pairwise (· ≤ ·)) (perm : left.Perm right) : left = right :=
  perm.eq_of_pairwise (fun _ _ _ _ => String.le_antisymm) leftSorted rightSorted

theorem sorted_perm {left right : List String} (perm : left.Perm right) :
    left.mergeSort (· ≤ ·) = right.mergeSort (· ≤ ·) :=
  eq_of_perm_sorted (sorted_pairwise left) (sorted_pairwise right)
    ((List.mergeSort_perm ..).trans (perm.trans (List.mergeSort_perm ..).symm))

/-! ## Byte order -/

private theorem cons_lt_cons_ofNat {first second : Nat} (low : first < 256) (high : second < 256)
    (left right : Bytes) :
    UInt8.ofNat first :: left < UInt8.ofNat second :: right ↔
      first < second ∨ first = second ∧ left < right := by
  rw [List.cons_lt_cons_iff, UInt8.lt_iff_toNat_lt, ← UInt8.toNat_inj, UInt8.toNat_ofNat_of_lt' low,
    UInt8.toNat_ofNat_of_lt' high]

/-- The last bits of a number, six in each byte. -/
def continuation : Nat → Nat → Bytes
  | 0, _ => []
  | count + 1, number =>
    UInt8.ofNat (number / 64 ^ count % 64 + 0x80) :: continuation count number

/-- How many bytes of a character follow the first one. -/
def following (number : Nat) : Nat :=
  if number ≤ 0x7f then 0 else if number ≤ 0x7ff then 1 else if number ≤ 0xffff then 2 else 3

/-- The first byte of a character. -/
def lead (number : Nat) : Nat :=
  if number ≤ 0x7f then number
  else if number ≤ 0x7ff then number / 64 + 0xc0
  else if number ≤ 0xffff then number / 4096 + 0xe0
  else number / 262144 + 0xf0

theorem toNat_lt (character : Char) : character.val.toNat < 0x110000 := by
  have valid := character.valid
  simp only [UInt32.isValidChar, Nat.isValidChar] at valid
  omega

theorem encode_eq (character : Char) : String.utf8EncodeChar character =
    UInt8.ofNat (lead character.val.toNat) ::
      continuation (following character.val.toNat) character.val.toNat := by
  have bound := toNat_lt character
  unfold String.utf8EncodeChar lead following
  generalize character.val.toNat = number at bound ⊢
  simp only
  split_ifs with one two three
  · rfl
  · have small : number / 64 < 0x20 := by omega
    simp [continuation, Nat.mod_eq_of_lt small]
  · have small : number / 4096 < 0x10 := by omega
    simp [continuation, Nat.mod_eq_of_lt small]
  · have small : number / 262144 < 8 := by omega
    simp [continuation, Nat.mod_eq_of_lt small]

theorem lead_lt {number : Nat} (bound : number < 0x110000) : lead number < 256 := by
  unfold lead
  split_ifs with one two three
  all_goals omega

/-- Longer forms start with greater bytes. -/
theorem lead_cases {lower upper : Nat} (less : lower < upper) (bound : upper < 0x110000) :
    lead lower < lead upper ∨ lead lower = lead upper ∧ following lower = following upper ∧
      lower / 64 ^ following lower = upper / 64 ^ following upper := by
  unfold lead following
  split_ifs with one two three four five six
  all_goals simp only [Nat.reducePow, Nat.div_one, true_and]
  all_goals omega

/-- Forms of the same length compare digit by digit. -/
theorem continuation_lt {count lower upper : Nat} (less : lower < upper)
    (same : lower / 64 ^ count = upper / 64 ^ count) (left right : Bytes) :
    continuation count lower ++ left < continuation count upper ++ right := by
  induction count with
  | zero =>
      rw [Nat.pow_zero, Nat.div_one, Nat.div_one] at same
      exact absurd same (Nat.ne_of_lt less)
  | succ count ih =>
      have atMost : lower / 64 ^ count ≤ upper / 64 ^ count :=
        Nat.div_le_div_right (Nat.le_of_lt less)
      rw [Nat.pow_succ, ← Nat.div_div_eq_div_mul, ← Nat.div_div_eq_div_mul] at same
      simp only [continuation, List.cons_append]
      rw [cons_lt_cons_ofNat (by omega) (by omega)]
      rcases Nat.lt_or_eq_of_le atMost with before | same
      · exact .inl (by omega)
      · exact .inr ⟨by rw [same], ih same⟩

/-- The bytes of a character come before those of a greater one, whatever follows. -/
theorem encode_lt {lower upper : Char} (before : lower < upper) (left right : Bytes) :
    String.utf8EncodeChar lower ++ left < String.utf8EncodeChar upper ++ right := by
  have less : lower.val.toNat < upper.val.toNat := before
  have bound := toNat_lt upper
  rw [encode_eq, encode_eq, List.cons_append, List.cons_append,
    cons_lt_cons_ofNat (lead_lt (Nat.lt_trans less bound)) (lead_lt bound)]
  rcases lead_cases less bound with first | ⟨first, length, same⟩
  · exact .inl first
  · rw [← length] at same ⊢
    exact .inr ⟨first, continuation_lt less same left right⟩

theorem encodeAll_lt {left right : List Char} (before : left < right) :
    left.flatMap String.utf8EncodeChar < right.flatMap String.utf8EncodeChar := by
  induction left generalizing right with
  | nil =>
      cases right with
      | nil => cases before
      | cons character rest =>
          rw [List.flatMap_cons]
          cases encoded : String.utf8EncodeChar character with
          | nil => exact absurd encoded String.utf8EncodeChar_ne_nil
          | cons byte bytes => exact .nil
  | cons character rest ih =>
      cases right with
      | nil => cases before
      | cons other others =>
          rw [List.flatMap_cons, List.flatMap_cons]
          rcases List.cons_lt_cons_iff.mp before with less | ⟨rfl, later⟩
          · exact encode_lt less _ _
          · exact List.append_left_lt (ih later)

/-- Texts compare as their UTF-8 bytes do. -/
theorem ofString_le_iff (left right : String) :
    Bytes.ofString left ≤ Bytes.ofString right ↔ left ≤ right := by
  constructor
  · intro atMost
    refine String.not_lt.mp fun before => ?_
    exact List.not_lt.mpr atMost (encodeAll_lt before)
  · intro atMost
    refine List.not_lt.mp fun before => ?_
    by_cases less : left < right
    · exact List.lt_asymm (encodeAll_lt less) before
    · obtain rfl := String.le_antisymm atMost (String.not_lt.mp less)
      exact List.lt_irrefl _ before

/-- Sorted names that are distinct are in strictly increasing byte order. -/
theorem increasing_of_sorted {names : List String} (sorted : names.Pairwise (· ≤ ·))
    (distinct : names.Nodup) :
    names.Pairwise fun one other => Bytes.ofString one < Bytes.ofString other := by
  apply (sorted.and distinct).imp
  rintro one other ⟨atMost, differ⟩
  rw [← List.not_le, ofString_le_iff]
  intro back
  exact differ (String.le_antisymm atMost back)

end CorpusJudge.Text
