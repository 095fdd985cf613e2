import CorpusJudge.Bytes
import CorpusJudge.Text.Classes
import CorpusJudge.Text.Integer

/-!
# Numbers with fractions

Numbers with fractions as exact ratios, how they are written, and how they are reckoned with.  What
machines store is a ratio whose numerator or denominator is a power of two times a mantissa of some
bits; storing a ratio means rounding it to the nearest of those, halves to the even one.
-/

namespace CorpusJudge

/-- A number: a sign with a size, a size beyond all bounds, or the result of an operation that has
none. -/
inductive Quantity where
  | finite (isNegative : Bool) (numerator denominator : Nat)
  | infinite (isNegative : Bool)
  | undefined (isNegative : Bool)
  deriving DecidableEq

namespace Quantity

/-- A quotient rounded to the nearest whole number, halves to the even one. -/
def roundDiv (numerator denominator : Nat) : Nat :=
  let quotient := numerator / denominator
  let twice := 2 * (numerator % denominator)
  if denominator < twice || (twice = denominator && quotient % 2 = 1) then quotient + 1 else quotient

/-- A size times a power of two, as a numerator and a denominator. -/
def scaled (size : Nat) (exponent : Int) : Nat × Nat :=
  if 0 ≤ exponent then (size <<< exponent.toNat, 1) else (size, 1 <<< (-exponent).toNat)

/-- How numbers are stored: the bits of their mantissa, the least exponent that is used with it, and
the least power of two that is out of range. -/
structure Storage where
  bits : Nat
  leastExponent : Int
  limit : Nat

/-- Numbers of 32 bits. -/
def Storage.single : Storage := ⟨24, -149, 128⟩

/-- Numbers of 64 bits. -/
def Storage.double : Storage := ⟨53, -1074, 1024⟩

/-- Numbers of 80 bits. -/
def Storage.extended : Storage := ⟨64, -16445, 16384⟩

/-- The mantissa and the exponent with which a positive ratio is stored. -/
def Storage.round (storage : Storage) (numerator denominator : Nat) : Nat × Int :=
  let at? (exponent : Int) : Nat :=
    let (upper, lower) := scaled 1 (-exponent)
    roundDiv (numerator * upper) (denominator * lower)
  let guess := Int.ofNat numerator.log2 - Int.ofNat denominator.log2 - Int.ofNat storage.bits
  let guess := max guess storage.leastExponent
  let mantissa := at? guess
  if mantissa < 1 <<< storage.bits then (mantissa, guess)
  else
    let mantissa := at? (guess + 1)
    if mantissa < 1 <<< storage.bits then (mantissa, guess + 1) else (mantissa / 2, guess + 2)

/-- A ratio as it is stored, and whether it is out of range. -/
def stored (storage : Storage) (isNegative : Bool) (numerator denominator : Nat) :
    Quantity × Bool :=
  if numerator = 0 then (.finite isNegative 0 1, false)
  else
    let (mantissa, exponent) := storage.round numerator denominator
    if Int.ofNat storage.limit < Int.ofNat mantissa.log2 + exponent + 1 then
      (.infinite isNegative, true)
    else
      let (upper, lower) := scaled mantissa exponent
      let isSmall := mantissa < 1 <<< (storage.bits - 1)
      (.finite isNegative upper lower, isSmall && upper * denominator ≠ numerator * lower)

/-- The greatest exponent in the notation of a number that is looked at closely. -/
def exponentLimit : Nat := 20000

/-- The exponent behind a mark, if there is one, and what follows it. -/
def readExponent (mark : Char) (text : List Char) : Int × List Char :=
  match text with
  | first :: rest =>
    let (isNegative, digits) := match rest with
      | '-' :: more => (true, more)
      | '+' :: more => (false, more)
      | _ => (false, rest)
    let used := digits.takeWhile Char.isDigit
    if first.toLower = mark && !used.isEmpty then
      let size := Int.ofNat (min exponentLimit ((Integer.natural? 10 used).getD 0))
      (if isNegative then -size else size, digits.drop used.length)
    else (0, text)
  | [] => (0, text)

/-- Digits with a point among them in a base: the number without the point, how many digits stand
behind the point, and what follows; nothing if there is no digit. -/
def readDigits? (base : Nat) (text : List Char) : Option (Nat × Nat × List Char) :=
  let isDigit (character : Char) : Bool := (Integer.digitValue? base character).isSome
  let whole := text.takeWhile isDigit
  let (fraction, rest) := match text.drop whole.length with
    | '.' :: more =>
      let fraction := more.takeWhile isDigit
      (fraction, more.drop fraction.length)
    | rest => ([], rest)
  let rest := if whole.isEmpty && fraction.isEmpty then text else rest
  (Integer.natural? base (whole ++ fraction)).map fun value => (value, fraction.length, rest)

/-- A number at the start of a text without a sign in front, as a ratio, and what follows it. -/
def readSize? (text : List Char) : Option (Nat × Nat × List Char) :=
  let hexadecimal : Option (Nat × Nat × List Char) :=
    match text with
    | '0' :: mark :: rest =>
      if mark = 'x' || mark = 'X' then
        (readDigits? 16 rest).map fun (value, places, rest) =>
          let (exponent, rest) := readExponent 'p' rest
          let (upper, lower) := scaled value (exponent - 4 * Int.ofNat places)
          (upper, lower, rest)
      else none
    | _ => none
  hexadecimal.or <|
    (readDigits? 10 text).map fun (value, places, rest) =>
      let (exponent, rest) := readExponent 'e' rest
      let exponent := exponent - Int.ofNat places
      if 0 ≤ exponent then (value * Nat.pow 10 exponent.toNat, 1, rest)
      else (value, Nat.pow 10 (-exponent).toNat, rest)

/-- Whether a text starts with a word in any case. -/
def startsWith (word : String) (text : List Char) : Bool :=
  word.toList.isPrefixOf (text.map Char.toLower)

/-- The number at the start of a text, as it is stored: the number, whether it is out of range, and
what follows.  Blanks may precede it. -/
def read? (storage : Storage) (text : List Char) : Option (Quantity × Bool × List Char) :=
  let core := text.dropWhile fun character => Text.liesIn [('\t', '\r'), (' ', ' ')] character
  let (isNegative, core) := match core with
    | '-' :: rest => (true, rest)
    | '+' :: rest => (false, rest)
    | _ => (false, core)
  if startsWith "infinity" core then some (.infinite isNegative, false, core.drop 8)
  else if startsWith "inf" core then some (.infinite isNegative, false, core.drop 3)
  else if startsWith "nan" core then
    let rest := core.drop 3
    let isNote (character : Char) : Bool := character.isAlphanum || character = '_'
    let rest := match rest with
      | '(' :: more =>
        match more.dropWhile isNote with
        | ')' :: after => after
        | _ => rest
      | _ => rest
    some (.undefined isNegative, false, rest)
  else
    (readSize? core).map fun (numerator, denominator, rest) =>
      let (quantity, isBeyond) := stored storage isNegative numerator denominator
      (quantity, isBeyond, rest)

/-- A whole number. -/
def ofInt (value : Int) : Quantity := .finite (value < 0) value.natAbs 1

/-- Whether the sign is a minus. -/
def isNegative : Quantity → Bool
  | finite isNegative _ _ => isNegative
  | infinite isNegative => isNegative
  | undefined isNegative => isNegative

end Quantity

end CorpusJudge

namespace CorpusJudge.Notation

/-- Digits of a whole number, at least a number of them. -/
def digits (least value : Nat) : List Char :=
  let text := Nat.toDigits 10 value
  List.replicate (least - text.length) '0' ++ text

/-- A whole number with a point in front of its last digits. -/
def pointed (places : Nat) (keepsPoint : Bool) (value : Nat) : List Char :=
  let text := digits (places + 1) value
  let whole := text.take (text.length - places)
  if places = 0 then whole ++ (if keepsPoint then ['.'] else [])
  else whole ++ '.' :: text.drop (text.length - places)

/-- A size with a fixed number of decimal places. -/
def fixed (places : Nat) (keepsPoint : Bool) (numerator denominator : Nat) : List Char :=
  pointed places keepsPoint (Quantity.roundDiv (numerator * Nat.pow 10 places) denominator)

/-- A size times a power of ten, rounded. -/
def shifted (power : Int) (numerator denominator : Nat) : Nat :=
  if 0 ≤ power then Quantity.roundDiv (numerator * Nat.pow 10 power.toNat) denominator
  else Quantity.roundDiv numerator (denominator * Nat.pow 10 (-power).toNat)

/-- Whether a size is at least a power of ten. -/
def reaches (power : Int) (numerator denominator : Nat) : Bool :=
  if 0 ≤ power then denominator * Nat.pow 10 power.toNat ≤ numerator
  else denominator ≤ numerator * Nat.pow 10 (-power).toNat

/-- The digits of a size with one in front of the point, and its power of ten. -/
def significant (places : Nat) (numerator denominator : Nat) : Nat × Int :=
  if numerator = 0 then (0, 0)
  else
    let guess := Int.ofNat (Nat.toDigits 10 numerator).length -
      Int.ofNat (Nat.toDigits 10 denominator).length
    let power := if reaches guess numerator denominator then guess else guess - 1
    let value := shifted (Int.ofNat places - power) numerator denominator
    if value = Nat.pow 10 (places + 1) then (value / 10, power + 1) else (value, power)

/-- An exponent with its sign and at least two digits. -/
def exponentText (least : Nat) (power : Int) : List Char :=
  (if power < 0 then '-' else '+') :: digits least power.natAbs

/-- A size with an exponent. -/
def scientific (places : Nat) (keepsPoint : Bool) (numerator denominator : Nat) : List Char :=
  let (value, power) := significant places numerator denominator
  pointed places keepsPoint value ++ 'e' :: exponentText 2 power

/-- A text without the zeros at the end of its fraction. -/
def withoutZeros (text : List Char) : List Char :=
  if text.contains '.' then
    match text.reverse.dropWhile (· = '0') with
    | '.' :: rest => rest.reverse
    | rest => rest.reverse
  else text

/-- A size with a number of digits, in the shorter of two notations. -/
def general (precision : Nat) (keepsZeros : Bool) (numerator denominator : Nat) : List Char :=
  let precision := max 1 precision
  let (value, power) := significant (precision - 1) numerator denominator
  let tidy (text : List Char) : List Char := if keepsZeros then text else withoutZeros text
  if -4 ≤ power && power < Int.ofNat precision then
    tidy (fixed (Int.ofNat precision - 1 - power).toNat keepsZeros numerator denominator)
  else
    tidy (pointed (precision - 1) keepsZeros value) ++ 'e' :: exponentText 2 power

/-- A size that is stored in some way, in hexadecimal digits and with a power of two. -/
def hexadecimal (storage : Quantity.Storage) (precision : Option Nat) (keepsPoint : Bool)
    (numerator denominator : Nat) : List Char :=
  let whole := if storage.bits = 64 then 4 else 1
  let width := (storage.bits - whole + 3) / 4
  let (mantissa, exponent) :=
    if numerator = 0 then (0, -Int.ofNat (4 * width))
    else storage.round numerator denominator
  let (value, places) := match precision with
    | some places =>
      if places < width then
        (Quantity.roundDiv mantissa (1 <<< (4 * (width - places))), places)
      else (mantissa <<< (4 * (places - width)), places)
    | none => (mantissa, width)
  let text := Nat.toDigits 16 value
  let text := List.replicate (places + 1 - text.length) '0' ++ text
  let front := text.take (text.length - places)
  let fraction := text.drop (text.length - places)
  let fraction := if precision.isNone then (fraction.reverse.dropWhile (· = '0')).reverse
    else fraction
  let power := exponent + Int.ofNat (4 * width)
  ['0', 'x'] ++ front ++ (if fraction.isEmpty && !keepsPoint then [] else '.' :: fraction) ++
    'p' :: exponentText 1 power

/-- The size of a number in the notation of a letter: `f`, `e`, `g` or `a`. -/
def sizeText (storage : Quantity.Storage) (letter : Char) (precision : Option Nat) (keeps : Bool) :
    Quantity → List Char
  | .infinite _ => ['i', 'n', 'f']
  | .undefined _ => ['n', 'a', 'n']
  | .finite _ numerator denominator =>
    match letter with
    | 'f' => fixed (precision.getD 6) keeps numerator denominator
    | 'e' => scientific (precision.getD 6) keeps numerator denominator
    | 'g' => general (precision.getD 6) keeps numerator denominator
    | _ => hexadecimal storage precision keeps numerator denominator

/-- Whether a number is finite. -/
def isFinite : Quantity → Bool
  | .finite _ _ _ => true
  | _ => false

/-- A number as a directive with flags and a width asks for it.  A capital letter asks for capital
letters. -/
def text (storage : Quantity.Storage) (flags : List Char) (width : Nat) (precision : Option Nat)
    (kind : Char) (quantity : Quantity) : List Char :=
  let size := sizeText storage kind.toLower precision (flags.contains '#') quantity
  let size := if kind.isUpper then size.map Char.toUpper else size
  let sign := if quantity.isNegative then ['-']
    else if flags.contains '+' then ['+']
    else if flags.contains ' ' then [' ']
    else []
  let missing := width - sign.length - size.length
  if flags.contains '-' then sign ++ size ++ List.replicate missing ' '
  else if flags.contains '0' && isFinite quantity then
    let mark := if kind = 'a' || kind = 'A' then 2 else 0
    sign ++ size.take mark ++ List.replicate missing '0' ++ size.drop mark
  else List.replicate missing ' ' ++ sign ++ size

end CorpusJudge.Notation

namespace CorpusJudge.Quantity

/-- The same number, without a denominator if it is whole. -/
def tidy : Quantity → Quantity
  | finite isNegative numerator denominator =>
    if denominator ≠ 1 && numerator % denominator = 0 then
      .finite isNegative (numerator / denominator) 1
    else .finite isNegative numerator denominator
  | other => other

/-- A ratio as it is stored.  A whole number of few digits is stored as it is. -/
def kept (isNegative : Bool) (numerator denominator : Nat) : Quantity :=
  if denominator = 1 && numerator < 9007199254740992 then .finite isNegative numerator 1
  else (stored .double isNegative numerator denominator).1.tidy

/-- A ratio with a sign as it is stored. -/
def ofRatio (numerator : Int) (denominator : Nat) (isNegativeZero : Bool) : Quantity :=
  kept (if numerator = 0 then isNegativeZero else numerator < 0) numerator.natAbs denominator

/-- A whole number as it is stored. -/
def ofNumber (value : Int) : Quantity := ofRatio value 1 false

/-- Zero. -/
def zero : Quantity := .finite false 0 1

/-- One. -/
def one : Quantity := .finite false 1 1

/-- A truth value as a number. -/
def ofBool (value : Bool) : Quantity := if value then one else zero

/-- What an operation without a result gives. -/
def noResult : Quantity := .undefined true

/-- A numerator with its sign. -/
def signed (isNegative : Bool) (numerator : Nat) : Int :=
  if isNegative then -Int.ofNat numerator else Int.ofNat numerator

/-- The same size with the other sign. -/
def negate : Quantity → Quantity
  | finite isNegative numerator denominator => .finite (!isNegative) numerator denominator
  | infinite isNegative => .infinite (!isNegative)
  | undefined isNegative => .undefined (!isNegative)

/-- Whether a number is zero. -/
def isZero : Quantity → Bool
  | finite _ numerator _ => numerator = 0
  | _ => false

/-- A sum. -/
def add : Quantity → Quantity → Quantity
  | undefined isNegative, _ => .undefined isNegative
  | _, undefined isNegative => .undefined isNegative
  | infinite first, infinite second => if first = second then .infinite first else noResult
  | infinite isNegative, _ => .infinite isNegative
  | _, infinite isNegative => .infinite isNegative
  | finite first upper lower, finite second upper' lower' =>
    ofRatio (signed first upper * Int.ofNat lower' + signed second upper' * Int.ofNat lower)
      (lower * lower') (first && second)

/-- A difference. -/
def subtract (first second : Quantity) : Quantity :=
  match first, second with
  | undefined isNegative, _ => .undefined isNegative
  | _, undefined isNegative => .undefined isNegative
  | _, _ => first.add second.negate

/-- A product. -/
def multiply : Quantity → Quantity → Quantity
  | undefined isNegative, _ => .undefined isNegative
  | _, undefined isNegative => .undefined isNegative
  | finite first upper lower, finite second upper' lower' =>
    kept (first != second) (upper * upper') (lower * lower')
  | first, second =>
    if first.isZero || second.isZero then noResult
    else .infinite (first.isNegative != second.isNegative)

/-- A quotient. -/
def divide : Quantity → Quantity → Quantity
  | undefined isNegative, _ => .undefined isNegative
  | _, undefined isNegative => .undefined isNegative
  | infinite _, infinite _ => noResult
  | infinite first, second => .infinite (first != second.isNegative)
  | first, infinite second => .finite (first.isNegative != second) 0 1
  | finite first upper lower, finite second upper' lower' =>
    if upper' = 0 then (if upper = 0 then noResult else .infinite (first != second))
    else kept (first != second) (upper * lower') (lower * upper')

/-- What is left over by a division with a whole quotient, with the sign of the first number. -/
def remainder : Quantity → Quantity → Quantity
  | undefined isNegative, _ => .undefined isNegative
  | _, undefined isNegative => .undefined isNegative
  | infinite _, _ => noResult
  | first, infinite _ => first
  | finite first upper lower, finite _ upper' lower' =>
    if upper' = 0 then noResult
    else kept first (upper * lower' % (upper' * lower)) (lower * lower')

/-- The whole part. -/
def truncated : Quantity → Quantity
  | finite isNegative numerator denominator => .finite isNegative (numerator / denominator) 1
  | other => other

/-- How two numbers compare; what is undefined is like anything. -/
def order : Quantity → Quantity → Ordering
  | undefined _, _ => .eq
  | _, undefined _ => .eq
  | infinite first, infinite second =>
    if first = second then .eq else if first then .lt else .gt
  | infinite isNegative, _ => if isNegative then .lt else .gt
  | _, infinite isNegative => if isNegative then .gt else .lt
  | finite first upper lower, finite second upper' lower' =>
    compare (signed first upper * Int.ofNat lower') (signed second upper' * Int.ofNat lower)

/-- The whole part if it is among the numbers of a word, or else the end of their range that is
nearer. -/
def clamped : Quantity → Int
  | finite isNegative numerator denominator =>
    Integer.clamp (signed isNegative (numerator / denominator))
  | infinite isNegative => Integer.clamp (signed isNegative (1 <<< 64))
  | undefined _ => Integer.clamp (-(1 <<< 64))

/-- The number as it is stored in 64 bits. -/
def toFloat : Quantity → Float
  | finite isNegative numerator denominator =>
    let (mantissa, exponent) :=
      if numerator = 0 then (0, 0) else Storage.double.round numerator denominator
    let size := Float.scaleB (Float.ofNat mantissa) exponent
    if isNegative then -size else size
  | infinite isNegative => if isNegative then -(1.0 / 0.0) else 1.0 / 0.0
  | undefined _ => 0.0 / 0.0

/-- The number that is stored in 64 bits. -/
def ofFloat (value : Float) : Quantity :=
  if value.isNaN then noResult
  else
    let bits := value.toBits.toNat
    let isNegative := 9223372036854775808 ≤ bits
    let exponent := bits / 4503599627370496 % 2048
    let fraction := bits % 4503599627370496
    if exponent = 2047 then .infinite isNegative
    else
      let (upper, lower) :=
        if exponent = 0 then scaled fraction (-1074)
        else scaled (fraction + 4503599627370496) (Int.ofNat exponent - 1075)
      kept isNegative upper lower

/-- A function of stored numbers, for one that is not undefined. -/
def through (function : Float → Float) : Quantity → Quantity
  | undefined isNegative => .undefined isNegative
  | other => ofFloat (function other.toFloat)

/-- A power. -/
def power (base exponent : Quantity) : Quantity :=
  ofFloat (Float.pow base.toFloat exponent.toFloat)

end CorpusJudge.Quantity
