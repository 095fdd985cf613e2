import CorpusJudge.Bytes
import Mathlib.Data.List.Infix

/-!
# Byte strings

Octets and bytes stand for each other, hexadecimal notation has two lower-case digits for each byte,
and looking for a block finds it wherever it stands.
-/

namespace CorpusJudge

/-- A lower-case digit of hexadecimal notation. -/
def IsHexDigit (character : Char) : Prop :=
  ('0' ≤ character ∧ character ≤ '9') ∨ ('a' ≤ character ∧ character ≤ 'f')

instance (character : Char) : Decidable (IsHexDigit character) :=
  inferInstanceAs (Decidable (_ ∨ _))

/-- A digit is neither a quote nor a backslash. -/
theorem IsHexDigit.plain {digit : Char} (hex : IsHexDigit digit) : digit ≠ '"' ∧ digit ≠ '\\' := by
  constructor
  · rintro rfl
    exact absurd hex (by decide)
  · rintro rfl
    exact absurd hex (by decide)

namespace Bytes

variable {byte : UInt8} {bytes source block : Bytes} {character : Char}

/-! ## Octets -/

/-- A code point is that of its character. -/
theorem toNat_ofNat {code : Nat} (valid : code.isValidChar) : (Char.ofNat code).toNat = code := by
  unfold Char.ofNat
  rw [dif_pos valid]
  rfl

theorem toNat_octet (byte : UInt8) : (Char.ofNat byte.toNat).toNat = byte.toNat := by
  have bound := byte.toNat_lt
  exact toNat_ofNat (.inl (by omega))

@[simp] theorem ofOctets_octets (bytes : Bytes) : ofOctets bytes.octets = bytes := by
  simp only [ofOctets, octets, List.map_map]
  refine (List.map_congr_left fun byte _ => ?_).trans (List.map_id bytes)
  simp [toNat_octet]

theorem ofOctets_append (one other : Octets) :
    ofOctets (one ++ other) = ofOctets one ++ ofOctets other :=
  List.map_append

theorem octets_ofOctets {octets : Octets} (narrow : ∀ octet ∈ octets, octet.toNat < 256) :
    (ofOctets octets).octets = octets := by
  simp only [ofOctets, Bytes.octets, List.map_map]
  refine (List.map_congr_left fun octet member => ?_).trans (List.map_id octets)
  have small := narrow octet member
  simp [Nat.mod_eq_of_lt small]

theorem octets_narrow (member : character ∈ bytes.octets) : character.toNat < 256 := by
  obtain ⟨byte, -, rfl⟩ := List.mem_map.mp member
  rw [toNat_octet]
  exact byte.toNat_lt

/-! ## Hexadecimal notation -/

theorem hexDigit_isHexDigit {value : Nat} (small : value < 16) : IsHexDigit (hexDigit value) := by
  decide +revert

theorem hexValue?_hexDigit {value : Nat} (small : value < 16) :
    hexValue? (hexDigit value) = some value := by
  decide +revert

theorem hexOfByte_isHexDigit (member : character ∈ hexOfByte byte) : IsHexDigit character := by
  have bound := byte.toNat_lt
  simp only [hexOfByte, List.mem_cons, List.not_mem_nil, or_false] at member
  rcases member with rfl | rfl
  · exact hexDigit_isHexDigit (by omega)
  · exact hexDigit_isHexDigit (by omega)

theorem toHex_isHexDigit (member : character ∈ bytes.toHex.toList) : IsHexDigit character := by
  rw [toHex, String.toList_ofList] at member
  obtain ⟨byte, -, written⟩ := List.mem_flatMap.mp member
  exact hexOfByte_isHexDigit written

theorem length_toHex (bytes : Bytes) : bytes.toHex.toList.length = 2 * bytes.length := by
  simp [toHex, hexOfByte, List.length_flatMap, Nat.mul_comm]

/-! ## Blocks -/

/-- A block is found exactly where it stands as one piece. -/
theorem containsBlock_iff : source.containsBlock block = true ↔ block <:+: source := by
  induction source with
  | nil => simp [containsBlock]
  | cons byte rest ih =>
      rw [containsBlock, Bool.or_eq_true, List.isPrefixOf_iff_prefix, ih, List.infix_cons_iff]

end Bytes

end CorpusJudge
