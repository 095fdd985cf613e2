import CorpusJudge.Emulator.Number
import CorpusJudge.Emulator.Tool.Call

/-!
# Numbers in order, with units and in factors

Numbers from a first one on in equal steps.  They are exact ratios over one denominator, and are
written with as many decimal places as the first number and the step have.
-/

namespace CorpusJudge.Call

/-- A number as it is written: its value as a ratio, how many decimal places it has if it is plain,
and how wide it is. -/
structure WrittenNumber where
  isNegative : Bool
  numerator : Nat
  denominator : Nat
  places : Option Nat
  isPlain : Bool

namespace WrittenNumber

/-- The number that a word writes. -/
def read? (word : Octets) : Option WrittenNumber :=
  match Quantity.read? .extended word with
  | some (.finite isNegative numerator denominator, _, []) =>
    let body := word.filter fun character => character ≠ '-' && character ≠ '+'
    let isHexadecimal := body.any fun character => character = 'x' || character = 'X'
    let mantissa := body.takeWhile fun character => character ≠ 'e' && character ≠ 'E'
    let exponent := ((Integer.signed? 10 ((word.dropWhile fun character =>
      character ≠ 'e' && character ≠ 'E').drop 1)).getD 0)
    let fraction := (mantissa.dropWhile (· ≠ '.')).drop 1
    let places := (Int.ofNat fraction.length - exponent).toNat
    let exact := if isHexadecimal then (numerator, denominator)
      else match Integer.natural? 10 (mantissa.filter (· ≠ '.')) with
        | some digits =>
          let scale := Int.ofNat fraction.length - exponent
          if 0 ≤ scale then (digits, Nat.pow 10 scale.toNat)
          else (digits * Nat.pow 10 (-scale).toNat, 1)
        | none => (numerator, denominator)
    some ⟨isNegative, exact.1, exact.2, if isHexadecimal then none else some places,
      body.all Char.isDigit⟩
  | _ => none

/-- The value over a common denominator. -/
def scaledTo (number : WrittenNumber) (denominator : Nat) : Int :=
  let size := Int.ofNat (number.numerator * (denominator / number.denominator))
  if number.isNegative then -size else size

end WrittenNumber

/-- The one directive of a format, with what stands before and behind it: its flags, width,
precision and letter. -/
structure NumberFormat where
  before : Octets
  flags : Octets
  width : Nat
  precision : Option Nat
  letter : Char
  behind : Octets

/-- A text without directives at the start of a format, with doubled signs made single, and what
follows. -/
def plainFormat (read : Octets) : Octets → Octets × Octets
  | [] => (read.reverse, [])
  | '%' :: '%' :: rest => plainFormat ('%' :: read) rest
  | '%' :: rest => (read.reverse, '%' :: rest)
  | character :: rest => plainFormat (character :: read) rest

/-- Read a format with one directive for a number. -/
def NumberFormat.read (format : Octets) : Except Octets NumberFormat := do
  let named := "format ".toList ++ quoted format
  let (before, rest) := plainFormat [] format
  match rest with
  | [] => throw (named ++ " has no % directive".toList)
  | _ :: rest =>
    let flags := rest.takeWhile "-+#0 '".toList.contains
    let rest := rest.drop flags.length
    let width := rest.takeWhile Char.isDigit
    let rest := rest.drop width.length
    let (precision, rest) := match rest with
      | '.' :: rest =>
        let digits := rest.takeWhile Char.isDigit
        (some ((Integer.natural? 10 digits).getD 0), rest.drop digits.length)
      | _ => (none, rest)
    let rest := if rest.head? = some 'L' then rest.tail else rest
    match rest with
    | [] => throw (named ++ " ends in %".toList)
    | letter :: rest =>
      if !"efgaEFGA".toList.contains letter then
        throw (named ++ s!" has unknown %{String.ofList [letter]} directive".toList)
      let (behind, more) := plainFormat [] rest
      if !more.isEmpty then throw (named ++ " has too many % directives".toList)
      return ⟨before, flags, (Integer.natural? 10 width).getD 0, precision, letter, behind⟩

/-- A number in a format. -/
def NumberFormat.apply (format : NumberFormat) (isNegative : Bool) (numerator denominator : Nat) :
    Octets :=
  let quantity := (Quantity.stored .extended isNegative numerator denominator).1
  format.before ++
    Notation.text .extended format.flags format.width format.precision format.letter quantity ++
    format.behind

/-- Numbers over a denominator, from a first one on in equal steps; without a count, they have no
end. -/
structure Progression where
  start : Int
  stride : Int
  denominator : Nat
  count : Option Nat
  places : Nat
  startsBelowZero : Bool

namespace Progression

/-- The numbers from a first one to a last one, or without end. -/
def between (first step : WrittenNumber) (last : Option WrittenNumber) : Progression :=
  let bound := last.getD first
  let denominator := Nat.lcm (Nat.lcm first.denominator step.denominator) bound.denominator
  let start := first.scaledTo denominator
  let stride := step.scaledTo denominator
  let bound := bound.scaledTo denominator
  let reach := if 0 < stride then (bound - start).fdiv stride else (start - bound).fdiv (-stride)
  { start := start
    stride := stride
    denominator := denominator
    count := last.map fun _ => (reach + 1).toNat
    places := max (first.places.getD 0) (step.places.getD 0)
    startsBelowZero := first.isNegative }

/-- The number at an index. -/
def value (progression : Progression) (index : Nat) : Int :=
  progression.start + progression.stride * Int.ofNat index

/-- The number at an index with its decimal places. -/
def plain (progression : Progression) (index : Nat) : Octets :=
  let value := progression.value index
  let isNegative := value < 0 || (value = 0 && index = 0 && progression.startsBelowZero)
  (if isNegative then ['-'] else []) ++
    Notation.fixed progression.places false value.natAbs progression.denominator

/-- How wide the numbers are at most. -/
def width (progression : Progression) : Nat :=
  match progression.count with
  | some (more + 1) => max (progression.plain 0).length (progression.plain more).length
  | _ => 0

/-- The number at an index, filled up with zeros to the width of all. -/
def widened (progression : Progression) (index : Nat) : Octets :=
  let text := progression.plain index
  let zeros := List.replicate (progression.width - text.length) '0'
  match text with
  | '-' :: digits => '-' :: zeros ++ digits
  | _ => zeros ++ text

/-- The number at an index in a format. -/
def formatted (progression : Progression) (format : NumberFormat) (index : Nat) : Octets :=
  let value := progression.value index
  format.apply (value < 0) value.natAbs progression.denominator

end Progression

/-- Whether a word is an option; a number may start with a dash. -/
def isOptionWord : Octets → Bool
  | '-' :: mark :: _ => mark ≠ '.' && !mark.isDigit
  | _ => false

/-- The options in front of the numbers, and the numbers. -/
def splitNumbers : List Octets → List Octets × List Octets
  | [] => ([], [])
  | ['-', 's'] :: value :: rest =>
    let (front, back) := splitNumbers rest
    (['-', 's'] :: value :: front, back)
  | ['-', 'f'] :: value :: rest =>
    let (front, back) := splitNumbers rest
    (['-', 'f'] :: value :: front, back)
  | word :: rest =>
    if isOptionWord word then
      let (front, back) := splitNumbers rest
      (word :: front, back)
    else ([], word :: rest)

/-- The numbers that words ask for, or what is wrong with the words. -/
def progressionOf (words : List Octets) : Except Octets Progression := do
  if words.isEmpty then throw "missing operand".toList
  if let some extra := words[3]? then throw ("extra operand ".toList ++ quoted extra)
  let isEndless := (words.getLast?.map (List.map Char.toLower)) = some "inf".toList
  let numbers ← (if isEndless then words.dropLast else words).mapM fun word =>
    match WrittenNumber.read? word with
    | some number => .ok number
    | none =>
      let kind := if word.map Char.toLower = "nan".toList then "invalid 'not-a-number' argument: "
        else "invalid floating point argument: "
      .error (kind.toList ++ quoted word)
  let one : WrittenNumber := ⟨false, 1, 1, some 0, true⟩
  let last := if isEndless then none else numbers.getLast?
  let front := if isEndless then numbers else numbers.dropLast
  let step := front.getD 1 one
  if step.numerator = 0 then
    throw ("invalid Zero increment value: ".toList ++ quoted (words.getD 1 []))
  return Progression.between (front.getD 0 one) step last

/-- Numbers in order. -/
def sequence (call : Call) : Tool :=
  let (front, numbers) := splitNumbers call.arguments
  let table : OptionTable :=
    ⟨"f:s:w", [("format", 'f'), ("separator", 's'), ("equal-width", 'w')], [], true⟩
  (call.withArguments front).withOptions table 1 fun options =>
    match progressionOf (options.operands ++ numbers) with
    | .error complaint => call.misused 1 complaint
    | .ok progression =>
      let run (shown : Nat → Octets) : Tool :=
        let item (index : Nat) : Octets :=
          shown index ++ if progression.count = some (index + 1) then ['\n']
            else (options.value? "s").getD ['\n']
        { name := call.name
          jobs := if progression.count = some 0 then [] else [.proceed]
          filter := .generate item 0 progression.count }
      match options.value? "f" with
      | none => run (if options.has "w" then progression.widened else progression.plain)
      | some text =>
        match NumberFormat.read text with
        | .ok format => run (progression.formatted format)
        | .error complaint => call.refuse 1 complaint

/-! ## Numbers with units

Numbers may carry the letter of a unit, a power of a thousand or of 1024. -/

/-- The letters of units, from the smallest on. -/
def unitLetters : List Char := "KMGTPEZYRQ".toList

/-- A number that may carry the letter of a unit, as a ratio in units of one, and how many decimal
places it is written with. -/
def unitNumber? (scale : Octets) (word : Octets) : Except Octets (Bool × Nat × Nat × Nat) := do
  let invalid := "invalid number: ".toList ++ quoted word
  let (isNegative, body) := match word with
    | '-' :: rest => (true, rest)
    | _ => (false, word)
  match Quantity.readDigits? 10 body with
  | none => throw invalid
  | some (digits, places, rest) =>
    if body.head? = some '.' then throw invalid
    let denominator := Nat.pow 10 places
    match rest with
    | [] => return (isNegative, digits, denominator, places)
    | letter :: rest =>
      let known := if letter = 'k' then 'K' else letter
      match unitLetters.findIdx? (· = known) with
      | none =>
        throw ("invalid suffix in input: ".toList ++ quoted word)
      | some index =>
        let base? := match String.ofList scale, rest with
          | "si", [] => some 1000
          | "iec", [] => some 1024
          | "iec-i", ['i'] => some 1024
          | "auto", [] => some 1000
          | "auto", ['i'] => some 1024
          | _, _ => none
        match base? with
        | some base => return (isNegative, digits * Nat.pow base (index + 1), denominator, 0)
        | none =>
          if scale = "none".toList || scale.isEmpty then
            throw ("rejecting suffix in input: ".toList ++ quoted word ++
              " (consider using --from)".toList)
          else if scale = "iec-i".toList then
            throw ("missing 'i' suffix in input: ".toList ++ quoted word ++
              " (e.g Ki/Mi/Gi)".toList)
          else throw ("invalid suffix in input ".toList ++ quoted word ++ ": ".toList ++
            quoted rest)

/-- A ratio rounded to a whole number in the way that a word names. -/
def roundedBy (manner : String) (isNegative : Bool) (numerator denominator : Nat) : Nat :=
  let below := numerator / denominator
  let above := (numerator + denominator - 1) / denominator
  match manner with
  | "up" => if isNegative then below else above
  | "down" => if isNegative then above else below
  | "towards-zero" => below
  | "nearest" => (2 * numerator + denominator) / (2 * denominator)
  | _ => above

/-- A number with the letter of the unit that suits it. -/
def withUnit (scale manner : String) (precision : Option Nat) (isNegative : Bool)
    (numerator denominator : Nat) : Octets :=
  let base := if scale = "si" then 1000 else 1024
  let rec grade : Nat → Nat → Nat
    | 0, power => power
    | fuel + 1, power =>
      if Nat.pow base (power + 1) * denominator ≤ numerator then grade fuel (power + 1) else power
  let power := grade 10 0
  let text (power places : Nat) : Nat :=
    roundedBy manner isNegative (numerator * Nat.pow 10 places) (denominator * Nat.pow base power)
  let small := numerator < 10 * (denominator * Nat.pow base power)
  let places := match precision with
    | some places => places
    | none => if power ≠ 0 && small then 1 else 0
  let value := text power places
  let (power, value, places) := match precision with
    | some _ => (power, value, places)
    | none =>
      if places = 1 && 100 ≤ value then (power, text power 0, 0)
      else if base * Nat.pow 10 places ≤ value then
        (power + 1, 10, 1)
      else (power, value, places)
  let letter := if power = 0 then [] else
    [(unitLetters[power - 1]?).getD 'Q'] ++ if scale = "iec-i" then ['i'] else []
  (if isNegative && value ≠ 0 then ['-'] else []) ++ Notation.pointed places false value ++ letter

/-- Numbers with units put in or taken away. -/
def numberFormat (call : Call) : Tool :=
  let table : OptionTable := ⟨"d:z", [("delimiter", 'd'), ("zero-terminated", 'z')],
    ["from:", "to:", "from-unit:", "to-unit:", "suffix:", "padding:", "round:", "format:", "field:",
      "header::", "grouping", "invalid:", "debug"], true⟩
  call.withOptions table 1 fun options =>
    let source := (options.value? "from").getD "none".toList
    let target := String.ofList ((options.value? "to").getD "none".toList)
    let manner := String.ofList ((options.value? "round").getD "from-zero".toList)
    let suffix := (options.value? "suffix").getD []
    let padding := (options.value? "padding").bind (Integer.signed? 10)
    let invalid := String.ofList ((options.value? "invalid").getD "abort".toList)
    let format := (options.value? "format").bind fun text => (NumberFormat.read text).toOption
    let unit (key : String) : Nat := ((options.value? key).bind (Integer.natural? 10)).getD 1
    let padded (text : Octets) : Octets :=
      match padding with
      | some width =>
        let blanks := List.replicate (width.natAbs - text.length) ' '
        if 0 ≤ width then blanks ++ text else text ++ blanks
      | none => text
    let convert (word : Octets) : Except Octets Octets := do
      let bare := if suffix.isSuffixOf word then word.take (word.length - suffix.length) else word
      let (isNegative, numerator, denominator, places) ← unitNumber? source bare
      let numerator := numerator * unit "from-unit"
      let denominator := denominator * unit "to-unit"
      let precision := format.bind NumberFormat.precision
      let text := if target = "none" then
          let places := precision.getD places
          let value := roundedBy manner isNegative (numerator * Nat.pow 10 places) denominator
          (if isNegative && value ≠ 0 then ['-'] else []) ++ Notation.pointed places false value
        else withUnit target manner precision isNegative numerator denominator
      let text := text ++ suffix
      match format with
      | some format =>
        let fill := if format.flags.contains '0' then '0' else ' '
        let blanks := List.replicate (format.width - text.length) fill
        return format.before ++
          (if format.flags.contains '-' then text ++ blanks else blanks ++ text) ++ format.behind
      | none => return padded text
    let job (word : Octets) (render : Octets → Octets) : List Job :=
      match convert word with
      | .ok text => [.emit 1 (Bytes.ofOctets (render text))]
      | .error complaint =>
        if invalid = "abort" then [.complain call.name complaint, .quit 2]
        else
          (if invalid = "ignore" then [] else [.complain call.name complaint]) ++
            [.emit 1 (Bytes.ofOctets (render word))] ++
            (if invalid = "fail" then [.finish 2] else [])
    let mark := if options.has "z" then '\x00' else '\n'
    let field := ((options.value? "field").bind (Integer.natural? 10)).getD 1
    let line (text : Octets) : List Job :=
      match options.value? "d" with
      | some [separator] =>
        let fields := Text.segments separator text
        job (fields.getD (field - 1) []) fun image =>
          Text.joined separator (fields.set (field - 1) image) ++ [mark]
      | _ =>
        let isBlank (character : Char) : Bool := character = ' ' || character = '\t'
        let pieces := text.splitBy fun left right => isBlank left == isBlank right
        let starts := pieces.zipIdx.filter fun (piece, _) => !piece.all isBlank
        match starts[field - 1]? with
        | some (word, index) =>
          let before := if index = 0 then [] else (pieces[index - 1]?).getD []
          job word fun image =>
            let blanks := if options.has "padding" || field ≠ 1 && index ≠ 0 then before.take 0 else before
            let width := before.length + word.length
            let image := if index ≠ 0 && field ≠ 1 && !options.has "padding" then
                ' ' :: List.replicate (width - 1 - image.length) ' ' ++ image
              else image
            (pieces.take (index - 1)).flatten ++ (if index = 0 then [] else blanks) ++ image ++
              (pieces.drop (index + 1)).flatten ++ [mark]
        | none => job [] (· ++ [mark])
    if options.operands.isEmpty then
      let header := if options.has "header" then
          ((options.value? "header").bind (Integer.natural? 10)).getD 1
        else 0
      call.gathering [] fun inputs =>
        let text := Bytes.octets (inputs.flatMap Prod.snd)
        let lines := Text.segments mark text
        let lines := if lines.getLast? = some [] then lines.dropLast else lines
        (lines.take header).map (fun text => Job.emit 1 (Bytes.ofOctets (text ++ [mark]))) ++
          (lines.drop header).flatMap line
    else call.jobs (options.operands.flatMap line)

/-! ## Prime factors

Small factors are found by division; what is left is tested for being prime, and divided along walks
that meet themselves. -/

/-- A power modulo a number. -/
def powerModulo (modulus : Nat) : Nat → Nat → Nat → Nat → Nat
  | 0, _, _, result => result
  | fuel + 1, base, exponent, result =>
    if exponent = 0 then result
    else
      let result := if exponent % 2 = 1 then result * base % modulus else result
      powerModulo modulus fuel (base * base % modulus) (exponent / 2) result

/-- Whether a base shows that an odd number is composite. -/
def isWitness (number base : Nat) : Bool :=
  let rec halve : Nat → Nat → Nat → Nat × Nat
    | 0, odd, twos => (odd, twos)
    | fuel + 1, odd, twos => if odd % 2 = 0 then halve fuel (odd / 2) (twos + 1) else (odd, twos)
  let bits := number.log2 + 2
  let (odd, twos) := halve bits (number - 1) 0
  let start := powerModulo number bits (base % number) odd 1
  if base % number = 0 || start = 1 || start = number - 1 then false
  else
    let squares := (List.range (twos - 1)).foldl (fun (value, found) _ =>
      let next := value * value % number
      (next, found || next = number - 1)) (start, false)
    !squares.2

/-- Whether a number greater than one is prime. -/
def isPrime (number : Nat) : Bool :=
  let small := [2, 3, 5, 7, 11, 13, 17, 19, 23, 29, 31, 37, 41]
  if small.contains number then true
  else if small.any fun prime => number % prime = 0 then false
  else small.all fun base => !isWitness number base

/-- A proper divisor of a composite number, looked for along two walks of different speed. -/
def divisorFrom (number offset : Nat) : Nat → Nat → Nat → Option Nat
  | 0, _, _ => none
  | fuel + 1, slow, fast =>
    let onward (value : Nat) : Nat := (value * value + offset) % number
    let slow := onward slow
    let fast := onward (onward fast)
    let common := Nat.gcd (if slow < fast then fast - slow else slow - fast) number
    if common = 1 then divisorFrom number offset fuel slow fast
    else if common = number then none
    else some common

/-- The prime factors of a number without small ones. -/
def largeFactors : Nat → Nat → List Nat
  | 0, number => [number]
  | fuel + 1, number =>
    if number = 1 then []
    else if isPrime number then [number]
    else match (List.range 20).findSome? fun offset => divisorFrom number (offset + 1) 200000 2 2 with
      | some divisor => largeFactors fuel divisor ++ largeFactors fuel (number / divisor)
      | none => [number]

/-- The prime factors of a number that are at least a divisor, as far as small ones go. -/
def factorsFrom : Nat → Nat → Nat → List Nat
  | 0, _, number => largeFactors number.log2 number
  | fuel + 1, divisor, number =>
    if number = 1 then []
    else if number < divisor * divisor then [number]
    else if number % divisor = 0 then divisor :: factorsFrom fuel divisor (number / divisor)
    else factorsFrom fuel (if divisor = 2 then 3 else divisor + 2) number

/-- The prime factors of a number in order. -/
def factors (number : Nat) : List Nat :=
  if number = 0 then [] else (factorsFrom 3000 2 number).mergeSort

/-- The prime factors of numbers. -/
def factor (call : Call) : Tool :=
  call.withOptions ⟨"h", [("exponents", 'h')], [], false⟩ 1 fun options =>
    let shown (number : Nat) : Octets :=
      let found := factors number
      let texts := if options.has "h" then
          (found.eraseDups.map fun prime =>
            let power := found.count prime
            if power = 1 then s!"{prime}" else s!"{prime}^{power}")
        else found.map toString
      (toString number).toList ++ [':'] ++ texts.flatMap (fun text => ' ' :: text.toList) ++ ['\n']
    let one (word : Octets) : List Job :=
      let digits := if word.head? = some '+' then word.tail else word
      match Integer.natural? 10 digits with
      | some number => [.emit 1 (Bytes.ofOctets (shown number))]
      | none => [.complain call.name (quoted word ++ " is not a valid positive integer".toList),
          .finish 1]
    if options.operands.isEmpty then
      call.gathering [] fun inputs =>
        let text := Bytes.octets (inputs.flatMap Prod.snd)
        let words := (text.splitBy fun left right => left.isWhitespace == right.isWhitespace).filter
          fun word => !word.all Char.isWhitespace
        words.flatMap one
    else { call.jobs (options.operands.flatMap one) with isHasty := true }

end CorpusJudge.Call
