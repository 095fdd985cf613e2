import CorpusJudge.Emulator.Number
import CorpusJudge.Emulator.Tool.Options

/-!
# Orders of texts

Ways to compare texts: byte by byte, by the number at the start, by the name of a month, or by the
parts of a version, where rows of digits count as numbers.
-/

namespace CorpusJudge.Octets

/-- The order of texts byte by byte. -/
def order : Octets → Octets → Ordering
  | [], [] => .eq
  | [], _ => .lt
  | _, [] => .gt
  | left :: lefts, right :: rights =>
    if left.toNat < right.toNat then .lt
    else if right.toNat < left.toNat then .gt
    else order lefts rights

/-- Whether a character separates fields where nothing else does. -/
def isBlank (character : Char) : Bool :=
  character = ' ' || character = '\t' || character = '\n'

/-- A decimal fraction: a whole number over a power of ten. -/
structure Decimal where
  mantissa : Int
  places : Nat

/-- The order of decimal fractions. -/
def Decimal.order (left right : Decimal) : Ordering :=
  compare (left.mantissa * Nat.pow 10 right.places) (right.mantissa * Nat.pow 10 left.places)

/-- The decimal fraction at the start of a text, behind blanks, and what follows it.  A text without
digits counts as zero. -/
def decimal (text : Octets) : Decimal × Octets :=
  let text := text.dropWhile isBlank
  let (isNegative, body) := match text with
    | '-' :: rest => (true, rest)
    | _ => (false, text)
  match Quantity.readDigits? 10 body with
  | some (value, places, rest) => (⟨if isNegative then -Int.ofNat value else value, places⟩, rest)
  | none => (⟨0, 0⟩, body)

/-- How large the unit behind a number is, with the sign of the number; nothing has a unit that is
zero. -/
def unitGrade (text : Octets) : Int :=
  let (number, rest) := decimal text
  if number.mantissa = 0 then 0
  else
    let grade := match rest with
      | 'k' :: _ => 1
      | letter :: _ => ("KMGTPEZYRQ".toList.findIdx? (· = letter)).elim 0 (· + 1)
      | [] => 0
    if number.mantissa < 0 then -Int.ofNat grade else grade

/-- The number of the month whose name a text starts with, or zero. -/
def monthNumber (text : Octets) : Nat :=
  let name := ((text.dropWhile isBlank).take 3).map Char.toUpper
  let names := ["JAN", "FEB", "MAR", "APR", "MAY", "JUN", "JUL", "AUG", "SEP", "OCT", "NOV", "DEC"]
  (names.findIdx? fun month => month.toList = name).elim 0 (· + 1)

/-- Where a stored number stands among all texts that may be numbers: those that are none come first,
then numbers without a value. -/
def generalOrder (left right : Option Quantity) : Ordering :=
  let grade : Option Quantity → Nat
    | none => 0
    | some (.undefined _) => 1
    | some (.infinite true) => 2
    | some (.finite ..) => 3
    | some (.infinite false) => 4
  match left, right with
  | some (.finite isLess numerator denominator), some (.finite isLess' numerator' denominator') =>
    let signed (isNegative : Bool) (size : Nat) : Int := if isNegative then -Int.ofNat size else size
    compare (signed isLess (numerator * denominator')) (signed isLess' (numerator' * denominator))
  | _, _ => compare (grade left) (grade right)

/-! ## Versions -/

/-- How long the part of a name in front of its endings is, where `size` characters were passed and
the last of the endings so far starts behind `kept` of them. -/
def stemSize (isInside : Bool) (size kept : Nat) : Octets → Nat
  | '.' :: first :: rest =>
    if first.isAlpha || first = '~' then
      stemSize true (size + 2) (if isInside then kept else size) rest
    else stemSize false (size + 1) (size + 1) (first :: rest)
  | character :: rest =>
    if isInside && (character.isAlphanum || character = '~') then
      stemSize true (size + 1) kept rest
    else stemSize false (size + 1) (size + 1) rest
  | [] => kept
termination_by text => text.length

/-- The weight of the first character of a text where it meets one that is no digit. -/
def versionWeight : Octets → Int
  | [] => -1
  | character :: _ =>
    if character.isDigit then 0
    else if character.isAlpha then character.toNat
    else if character = '~' then -2
    else character.toNat + 256

/-- The order of the digits at the start of two texts as numbers, of which `sofar` decides if they
are equally long, and the texts behind them. -/
def digitsOrder (sofar : Ordering) : Octets → Octets → Ordering × Octets × Octets
  | left :: lefts, right :: rights =>
    if left.isDigit && right.isDigit then
      digitsOrder (sofar.then (compare left.toNat right.toNat)) lefts rights
    else if left.isDigit then (.gt, left :: lefts, right :: rights)
    else if right.isDigit then (.lt, left :: lefts, right :: rights)
    else (sofar, left :: lefts, right :: rights)
  | left :: lefts, [] => (if left.isDigit then .gt else sofar, left :: lefts, [])
  | [], right :: rights => (if right.isDigit then .lt else sofar, [], right :: rights)
  | [], [] => (sofar, [], [])

/-- The order of versions part by part. -/
def partsOrder : Nat → Octets → Octets → Ordering
  | 0, _, _ => .eq
  | fuel + 1, left, right =>
    let isText (text : Octets) : Bool := text.head?.any fun character => !character.isDigit
    if left.isEmpty && right.isEmpty then .eq
    else if isText left || isText right then
      (compare (versionWeight left) (versionWeight right)).then
        (partsOrder fuel left.tail right.tail)
    else
      let (result, left, right) :=
        digitsOrder .eq (left.dropWhile (· = '0')) (right.dropWhile (· = '0'))
      result.then (partsOrder fuel left right)

/-- The order of names as versions: hidden names come first, and endings count only where everything
in front of them is alike. -/
def versionOrder (left right : Octets) : Ordering :=
  let grade (text : Octets) : Nat :=
    if text.isEmpty then 0
    else if text = ['.'] then 1
    else if text = ['.', '.'] then 2
    else if text.head? = some '.' then 3
    else 4
  let fuel := 2 * (left.length + right.length) + 2
  let stem (text : Octets) : Octets := text.take (stemSize false 1 1 text.tail)
  (compare (grade left) (grade right)).then <|
    (partsOrder fuel (stem left) (stem right)).then (partsOrder fuel left right)

end CorpusJudge.Octets
