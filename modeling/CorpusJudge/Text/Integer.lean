/-!
# Decimal integers

Whole numbers written in ASCII digits, and the two ranges that the program's numbers live in.
-/

namespace CorpusJudge.Integer

/-- The least number of a signed 64-bit word. -/
def least : Int := -9223372036854775808

/-- The greatest number of a signed 64-bit word. -/
def greatest : Int := 9223372036854775807

/-- Whether a number fits a signed 64-bit word. -/
def fits (value : Int) : Bool :=
  least ≤ value && value ≤ greatest

/-- The number of a signed 64-bit word that is nearest to `value`. -/
def clamp (value : Int) : Int :=
  max least (min value greatest)

/-- Whether a number fits an unsigned 64-bit word. -/
def fitsUnsigned (value : Nat) : Bool :=
  value < 18446744073709551616

/-- The value of a digit in a base up to sixteen. -/
def digitValue? (base : Nat) (character : Char) : Option Nat :=
  let value :=
    if '0' ≤ character ∧ character ≤ '9' then character.toNat - 48
    else if 'a' ≤ character ∧ character ≤ 'f' then character.toNat - 87
    else if 'A' ≤ character ∧ character ≤ 'F' then character.toNat - 55
    else base
  if value < base then some value else none

/-- The number that a non-empty row of digits writes in a base, most significant digit first. -/
def natural? (base : Nat) (digits : List Char) : Option Nat :=
  if digits.isEmpty then none
  else digits.foldlM (fun value digit => (digitValue? base digit).map (base * value + ·)) 0

/-- The number at the start of a text in the base that its mark asks for, and what follows: a zero
asks for base eight, a zero with an `x` for base sixteen. -/
def prefixed (text : List Char) : Nat × List Char :=
  let take (base : Nat) (digits : List Char) : Nat × List Char :=
    let used := digits.takeWhile fun digit => (digitValue? base digit).isSome
    ((natural? base used).getD 0, digits.drop used.length)
  match text with
  | '0' :: mark :: digit :: rest =>
    if (mark = 'x' || mark = 'X') && (digitValue? 16 digit).isSome then take 16 (digit :: rest)
    else take 8 text
  | '0' :: _ => take 8 text
  | _ => take 10 text

/-- A sign, if one is written, and digits. -/
def signed? (base : Nat) : List Char → Option Int
  | '+' :: digits => (natural? base digits).map Int.ofNat
  | '-' :: digits => (natural? base digits).map fun value => -Int.ofNat value
  | digits => (natural? base digits).map Int.ofNat

/-- A decimal number that fits a signed 64-bit word. -/
def read? (characters : List Char) : Option Int :=
  (signed? 10 characters).filter fits

/-- A decimal number, with a plus sign or none, that fits an unsigned 64-bit word. -/
def readUnsigned? : List Char → Option Nat
  | '+' :: digits => (natural? 10 digits).filter fitsUnsigned
  | digits => (natural? 10 digits).filter fitsUnsigned

end CorpusJudge.Integer
