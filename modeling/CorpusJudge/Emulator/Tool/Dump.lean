import CorpusJudge.Emulator.Number
import CorpusJudge.Emulator.Tool.Passing

/-!
# Dumps of bytes

A dump shows bytes in rows, each behind its address.  There can be several lines for a row, which show
the same bytes in different forms, one below the other.
-/

namespace CorpusJudge

/-- A form in which bytes are shown: numbers of some bytes in a base, numbers with fractions, or
characters of which some have names. -/
inductive DumpKind where
  | number (base : Nat) (isSigned : Bool) (size : Nat)
  | fraction (size : Nat)
  | character
  | name

/-- A line of a row: its form, and whether the characters follow at its end. -/
structure DumpForm where
  kind : DumpKind
  hasText : Bool := false

namespace DumpKind

/-- How many bytes one item has. -/
def size : DumpKind → Nat
  | number _ _ size => size
  | fraction size => size
  | _ => 1

/-- How wide one item is, without the blank in front of it. -/
def width : DumpKind → Nat
  | number 8 _ size => (8 * size + 2) / 3
  | number 16 _ size => 2 * size
  | number _ true size => [0, 4, 6, 8, 11, 13, 16, 18, 20].getD size 20
  | number _ false size => [0, 3, 5, 8, 10, 13, 15, 17, 20].getD size 20
  | fraction size => if size = 4 then 15 else 24
  | _ => 3

/-- The names of characters that cannot be printed, and of the blank. -/
def names : List String :=
  ["nul", "soh", "stx", "etx", "eot", "enq", "ack", "bel", "bs", "ht", "nl", "vt", "ff", "cr", "so",
    "si", "dle", "dc1", "dc2", "dc3", "dc4", "nak", "syn", "etb", "can", "em", "sub", "esc", "fs",
    "gs", "rs", "us", "sp"]

/-- A character, with an escape or digits if it cannot be printed. -/
def characterText (byte : UInt8) : Octets :=
  if byte = 0 then ['\\', '0'] else
    let character := Char.ofNat byte.toNat
    if Quoting.isPrintable character then [character]
    else match Quoting.escape character with
      | '\\' :: digits => if digits.length = 3 then digits else '\\' :: digits
      | other => other

/-- The name of a character. -/
def nameText (byte : UInt8) : Octets :=
  let code := byte.toNat % 128
  if code = 127 then "del".toList
  else match names[code]? with
    | some word => word.toList
    | none => [Char.ofNat code]

/-- The number that bytes are, the least significant one first. -/
def valueOf (bytes : Bytes) : Nat :=
  bytes.foldr (fun byte value => value * 256 + byte.toNat) 0

/-- The shortest notation of a number with a fraction that is read back as the same number. -/
def fractionText (size value : Nat) : Octets :=
  let (storage, places, usual) : Quantity.Storage × Nat × Nat :=
    if size = 4 then (.single, 23, 6) else (.double, 52, 15)
  let isNegative := (value >>> (8 * size - 1)) % 2 = 1
  let fraction := value % (1 <<< places)
  let exponent := (value >>> places) % (1 <<< (8 * size - 1 - places))
  let sign : Octets := if isNegative then ['-'] else []
  if exponent + 1 = 1 <<< (8 * size - 1 - places) then
    sign ++ if fraction = 0 then "inf".toList else "nan".toList
  else
    let (mantissa, power) : Nat × Int :=
      if exponent = 0 then (fraction, storage.leastExponent)
      else (fraction + (1 <<< places), storage.leastExponent + Int.ofNat (exponent - 1))
    let (numerator, denominator) := Quantity.scaled mantissa power
    let isBack (precision : Nat) : Bool :=
      match Quantity.read? storage (Notation.general precision false numerator denominator) with
      | some (.finite _ upper lower, _, _) => upper * denominator = numerator * lower
      | _ => false
    let start := if exponent = 0 then 1 else usual
    let choices := (List.range 18).filterMap fun precision =>
      if start ≤ precision && isBack precision then some precision else none
    sign ++ Notation.general (choices.headD 17) false numerator denominator

/-- One item. -/
def text (kind : DumpKind) (bytes : Bytes) : Octets :=
  let filled (base value : Nat) : Octets :=
    let digits := Nat.toDigits base value
    List.replicate (kind.width - digits.length) '0' ++ digits
  match kind with
  | number 10 true size =>
    let value := valueOf bytes
    let full := 1 <<< (8 * size)
    if value < full / 2 then (toString value).toList else '-' :: (toString (full - value)).toList
  | number 10 false _ => (toString (valueOf bytes)).toList
  | number base _ _ => filled base (valueOf bytes)
  | fraction size => fractionText size (valueOf bytes)
  | character => characterText (bytes.headD 0)
  | name => nameText (bytes.headD 0)

end DumpKind

/-- A plan for a dump: the base of addresses and how many digits they have, if they are shown; how many
bytes there are in a row; the forms; whether equal rows are left out; and whether the most significant
byte comes first. -/
structure DumpPlan where
  address : Option (Nat × Nat)
  rowSize : Nat
  forms : List DumpForm
  showsAll : Bool
  isBigEndian : Bool

namespace DumpPlan

/-- An address. -/
def addressText (plan : DumpPlan) (address : Nat) : Octets :=
  match plan.address with
  | none => []
  | some (base, width) =>
    let digits := Nat.toDigits base address
    List.replicate (width - digits.length) '0' ++ digits

/-- How wide a row is at most. -/
def width (plan : DumpPlan) : Nat :=
  (plan.forms.map fun form => (form.kind.width + 1) * (plan.rowSize / form.kind.size)).foldl max 0

/-- Bytes in groups of so many; zeros fill up the last one. -/
def grouped (size : Nat) : Nat → Bytes → List Bytes
  | 0, _ => []
  | fuel + 1, bytes =>
    if bytes.isEmpty then []
    else
      let group := bytes.take size
      (group ++ List.replicate (size - group.length) 0) :: grouped size fuel (bytes.drop size)

/-- A line of a row, without its address. -/
def line (plan : DumpPlan) (form : DumpForm) (row : Bytes) : Octets :=
  let kind := form.kind
  let count := plan.rowSize / kind.size
  let padding := plan.width - kind.width * count
  let left (index : Nat) : Nat := padding * (count - index) / count
  let items := (grouped kind.size row.length row).zipIdx.flatMap fun (bytes, index) =>
    let text := kind.text (if plan.isBigEndian then bytes.reverse else bytes)
    let width := left index - left (index + 1) + kind.width
    List.replicate (width - text.length) ' ' ++ text
  let blank := (plan.rowSize - row.length) / kind.size
  let shown (byte : UInt8) : Char :=
    let character := Char.ofNat byte.toNat
    if Quoting.isPrintable character then character else '.'
  let trailer := if form.hasText then
      List.replicate (blank * kind.width + padding * blank / count) ' ' ++
        "  >".toList ++ row.map shown ++ ['<']
    else []
  items ++ trailer ++ ['\n']

/-- The lines of a row. -/
def row (plan : DumpPlan) (address : Nat) (bytes : Bytes) : Octets :=
  let front := plan.addressText address
  plan.forms.zipIdx.flatMap fun (form, index) =>
    (if index = 0 then front else List.replicate front.length ' ') ++ plan.line form bytes

/-- How far a dump has come: the address of the next row, the row before it, whether a mark stands in
the place of that one, and the text, last row first. -/
structure Progress where
  address : Nat
  before : Option Bytes := none
  isMarked : Bool := false
  done : List Octets := []

/-- Take in the next row.  A mark stands in the place of rows that are equal to the one before. -/
def addRow (plan : DumpPlan) (progress : Progress) (bytes : Bytes) : Progress :=
  let address := progress.address + bytes.length
  if !plan.showsAll && bytes.length = plan.rowSize && progress.before = some bytes then
    { progress with
      address := address
      isMarked := true
      done := if progress.isMarked then progress.done else ['*', '\n'] :: progress.done }
  else ⟨address, some bytes, false, plan.row progress.address bytes :: progress.done⟩

/-- Bytes in rows. -/
def split (size : Nat) (bytes : Bytes) : List Bytes :=
  let cut (state : List Bytes × Bytes × Nat) (byte : UInt8) : List Bytes × Bytes × Nat :=
    let (done, row, count) := state
    if count + 1 = size then ((byte :: row).reverse :: done, [], 0)
    else (done, byte :: row, count + 1)
  let (done, row, _) := bytes.foldl cut ([], [], 0)
  (if row.isEmpty then done else row.reverse :: done).reverse

/-- A dump of bytes from an address on. -/
def text (plan : DumpPlan) (address : Nat) (bytes : Bytes) : Octets :=
  let progress := (split plan.rowSize bytes).foldl plan.addRow ⟨address, none, false, []⟩
  progress.done.reverse.flatten ++
    match plan.address with
    | none => []
    | some _ => plan.addressText (address + bytes.length) ++ ['\n']

/-- The texts of some length among bytes, each up to a zero, behind their addresses. -/
def strings (plan : DumpPlan) (least address : Nat) (bytes : Bytes) : Octets :=
  let step (state : List Octets × Octets × Nat) (byte : UInt8) : List Octets × Octets × Nat :=
    let (found, text, place) := state
    let character := Char.ofNat byte.toNat
    if Quoting.isPrintable character then (found, character :: text, place + 1)
    else if byte = 0 && least ≤ text.length then
      let front := plan.addressText (place - text.length)
      ((front ++ (if front.isEmpty then [] else [' ']) ++ text.reverse ++ ['\n']) :: found, [],
        place + 1)
    else (found, [], place + 1)
  (bytes.foldl step ([], [], address)).1.reverse.flatten

/-! ## Reading what is asked for -/

/-- The number of bytes that a text asks for: digits, or a letter. -/
def sizeIn (isFraction : Bool) (usual : Nat) (text : Octets) : Nat × Octets :=
  let digits := text.takeWhile Char.isDigit
  match Integer.natural? 10 digits, text with
  | some size, _ => (size, text.drop digits.length)
  | none, letter :: rest =>
    let sizes := if isFraction then [('F', 4), ('D', 8), ('L', 16)]
      else [('C', 1), ('S', 2), ('I', 4), ('L', 8)]
    match sizes.lookup letter with
    | some size => (size, rest)
    | none => (usual, text)
  | none, [] => (usual, [])

/-- The forms that a text asks for. -/
def formsIn (whole : Octets) : Nat → Octets → Except Octets (List DumpForm)
  | 0, _ => .ok []
  | fuel + 1, text => do
    let add (kind : DumpKind) (rest : Octets) : Except Octets (List DumpForm) :=
      match rest with
      | 'z' :: rest => (formsIn whole fuel rest).map (⟨kind, true⟩ :: ·)
      | rest => (formsIn whole fuel rest).map (⟨kind, false⟩ :: ·)
    let unfit (size : Nat) (noun : String) : Octets :=
      "invalid type string ".toList ++ quoted whole ++
        s!";\nthis system doesn't provide a {size}-byte {noun} type".toList
    let number (base : Nat) (isSigned : Bool) (rest : Octets) : Except Octets (List DumpForm) :=
      let (size, rest) := sizeIn false 4 rest
      if [1, 2, 4, 8].contains size then add (.number base isSigned size) rest
      else .error (unfit size "integral")
    match text with
    | [] => return []
    | 'a' :: rest => add .name rest
    | 'c' :: rest => add .character rest
    | 'd' :: rest => number 10 true rest
    | 'o' :: rest => number 8 false rest
    | 'u' :: rest => number 10 false rest
    | 'x' :: rest => number 16 false rest
    | 'f' :: rest =>
      let (size, rest) := sizeIn true 8 rest
      if size = 4 || size = 8 then add (.fraction size) rest
      else .error (unfit size "floating-point")
    | letter :: _ =>
      .error ("invalid character ".toList ++ quoted [letter] ++ " in type string ".toList ++
        quoted whole)

/-- The forms behind the letters of options. -/
def formLetters : List (String × String) :=
  [("a", "a"), ("b", "o1"), ("c", "c"), ("d", "u2"), ("D", "u4"), ("e", "fD"), ("f", "fF"),
    ("F", "fD"), ("h", "x2"), ("H", "x4"), ("i", "dI"), ("I", "dL"), ("l", "dL"), ("L", "dL"),
    ("o", "o2"), ("O", "o4"), ("s", "d2"), ("x", "x2"), ("X", "x4"), ("B", "o2")]

/-- The forms that options ask for, in their order. -/
def formsOf (options : Options) : Except Octets (List DumpForm) := do
  let texts := options.flags.filterMap fun (key, value) =>
    if key = "t" then some value else (formLetters.lookup key).map String.toList
  let forms ← texts.mapM fun text => formsIn text (text.length + 1) text
  return if forms.flatten.isEmpty then [⟨.number 8 false 2, false⟩] else forms.flatten

/-- How addresses are shown. -/
def addressOf (options : Options) : Except Octets (Option (Nat × Nat)) :=
  match (options.value? "A").getD ['o'] with
  | 'o' :: _ => .ok (some (8, 7))
  | 'd' :: _ => .ok (some (10, 7))
  | 'x' :: _ => .ok (some (16, 6))
  | 'n' :: _ => .ok none
  | text => .error ("invalid output address radix '".toList ++ text.take 1 ++
      "'; it must be one character from [doxn]".toList)

end DumpPlan

namespace Call

/-- A number of bytes, in digits of a base that its beginning tells, and with a unit behind it. -/
def byteCount? (text : Octets) : Option Nat :=
  match text with
  | '0' :: 'x' :: digits => Integer.natural? 16 digits
  | '0' :: digit :: digits =>
    if digit.isDigit then Integer.natural? 8 (digit :: digits) else scaledNumber? text
  | _ => if text.head?.any Char.isDigit then scaledNumber? text else none

/-- The operands of a dump, of which the last one can be an address to start at. -/
def dumpStart (options : Options) : List Octets × Option Nat :=
  if options.hasAny ["A", "j", "N", "t", "v", "w"] then (options.operands, none)
  else match options.operands with
    | [only] =>
      match only with
      | '+' :: text =>
        match Integer.natural? 8 text with
        | some start => ([], some start)
        | none => ([only], none)
      | _ => ([only], none)
    | [file, text] =>
      let digits := if text.head? = some '+' then text.drop 1 else text
      match Integer.natural? 8 digits with
      | some start => ([file], some start)
      | none => ([file, text], none)
    | operands => (operands, none)

/-- A dump of what is read. -/
def dump (call : Call) : Tool :=
  let table : OptionTable := ⟨"A:aBbcDdeFfHhIij:LlN:OoS:st:vw::Xx", [("address-radix", 'A'),
    ("skip-bytes", 'j'), ("read-bytes", 'N'), ("format", 't'), ("output-duplicates", 'v'),
    ("width", 'w'), ("strings", 'S')], ["endian:", "traditional"], false⟩
  call.withOptions table 1 fun options =>
    let (operands, start) := dumpStart options
    let counted (key : String) : Except Octets (Option Nat) :=
      match options.value? key with
      | none => .ok none
      | some text => match byteCount? text with
        | some count => .ok (some count)
        | none => .error (s!"invalid -{key} argument ".toList ++ quoted text)
    let read : Except Octets (DumpPlan × Nat × Option Nat) := do
      let address ← DumpPlan.addressOf options
      let skipped ← counted "j"
      let most ← counted "N"
      let forms ← DumpPlan.formsOf options
      let width ← match options.value? "w" with
        | none => .ok none
        | some [] => .ok (some 32)
        | some text => match byteCount? text with
          | some count => .ok (some count)
          | none => .error ("invalid -w argument ".toList ++ quoted text)
      let common := (forms.map fun form => form.kind.size).foldl Nat.lcm 1
      let rowSize := match width with
        | none => max common (common * (16 / common))
        | some width => if width ≠ 0 && width % common = 0 then width else common
      let plan : DumpPlan := ⟨address, rowSize, forms, options.has "v",
        options.value? "endian" = some "big".toList⟩
      return (plan, (skipped.or start).getD 0, most)
    match read with
    | .error complaint => call.refuse 1 complaint
    | .ok (plan, skipped, most) =>
      let warning := match (options.value? "w").bind byteCount? with
        | some width =>
          if width = plan.rowSize then []
          else [Job.complain call.name
            s!"warning: invalid width {width}; using {plan.rowSize} instead".toList]
        | none => []
      let finish (inputs : List (Octets × Bytes)) : List Job :=
        let bytes := inputs.flatMap Prod.snd
        if inputs.isEmpty then []
        else if bytes.length < skipped then
          [.complain call.name "cannot skip past end of combined input".toList, .finish 1]
        else
          let rest := bytes.drop skipped
          [.emit 1 (Bytes.ofOctets <| match (options.value? "S").map byteCount? with
            | some least => plan.strings (least.getD 3) skipped rest
            | none => plan.text skipped rest)]
      { name := call.name
        jobs := warning ++ reading operands ++ [.conclude]
        filter := .gather [] (most.map (· + skipped)) finish }

end Call

end CorpusJudge
