import CorpusJudge.Bytes
import CorpusJudge.Emulator.Number
import CorpusJudge.Emulator.Shell.Condition

/-!
# Formats

Text with directives that are filled from a list of operands, again and again until all of them are
used.
-/

namespace CorpusJudge.Shell

/-- What is wrong with a format or one of its operands. -/
inductive Fault where
  | noNumber (operand : Octets)
  | trailing (operand : Octets)
  | outOfRange (operand : Octets)
  | noDirective (text : Octets)
  | invalidDirective (text : Octets)
  | excess (operand : Octets)

namespace Fault

/-- Whether nothing can be written any more. -/
def isFatal : Fault → Bool
  | noDirective _ => true
  | invalidDirective _ => true
  | _ => false

/-- Whether the fault is only that operands were left over. -/
def isExcess : Fault → Bool
  | excess _ => true
  | _ => false

/-- What the extended dialect says about an operand that is no number. -/
def numberComplaint (operand : Octets) : String :=
  let kind := match operand with
    | '0' :: next :: _ => if next.isDigit then "octal " else if next = 'x' then "hex " else ""
    | _ => ""
  String.ofList operand ++ ": invalid " ++ kind ++ "number"

/-- The wording of the extended dialect. -/
def extendedMessage : Fault → String
  | noNumber operand => numberComplaint operand
  | trailing operand => numberComplaint operand
  | outOfRange operand => s!"warning: {String.ofList operand}: Numerical result out of range"
  | noDirective text => "\x60" ++ String.ofList text ++ "': missing format character"
  | invalidDirective text =>
    "\x60" ++ String.ofList (text.getLast?.toList) ++ "': invalid format character"
  | excess operand => s!"excess operand {String.ofList operand}"

/-- Whether a fault is only a warning. -/
def isWarning : Fault → Bool
  | outOfRange _ => true
  | _ => false

/-- The wording of a shell. -/
def message : Fault → String
  | noNumber operand => s!"{String.ofList operand}: expected numeric value"
  | trailing operand => s!"{String.ofList operand}: not completely converted"
  | outOfRange operand => s!"{String.ofList operand}: Numerical result out of range"
  | noDirective _ => "missing format character"
  | invalidDirective text => s!"{String.ofList text}: invalid directive"
  | excess operand => s!"excess operand {String.ofList operand}"

end Fault

namespace Format

/-- How formats are read: how numbers with fractions are stored, whether bytes may be written by
their hexadecimal digits, which letters ask for a conversion, whether formats have the escapes of the
extended dialect, and how times are written in a format of their own, given in seconds unless it is the
present one. -/
structure Manner where
  storage : Quantity.Storage
  hasHexEscapes : Bool
  letters : List Char
  hasShellEscapes : Bool := false
  clock : Octets → Option Int → Octets := fun _ _ => []

/-- The manner of the plain shell. -/
def Manner.plain : Manner :=
  { storage := .double, hasHexEscapes := false, letters := "diouxXcsbeEfFgGaA".toList }

/-- The manner of the tool. -/
def Manner.tool : Manner :=
  { storage := .extended, hasHexEscapes := true, letters := "diouxXcsbqeEfFgGaA".toList }

/-- The manner of the extended dialect. -/
def Manner.extendedShell : Manner :=
  { storage := .extended
    hasHexEscapes := true
    letters := "diouxXcsbqQeEfFgGaA".toList
    hasShellEscapes := true }

/-- The characters that a backslash and a letter stand for. -/
def namedEscape? : Char → Option Char
  | 'a' => some '\x07'
  | 'b' => some '\x08'
  | 'e' => some '\x1b'
  | 'f' => some '\x0c'
  | 'n' => some '\n'
  | 'r' => some '\r'
  | 't' => some '\t'
  | 'v' => some '\x0b'
  | '\\' => some '\\'
  | _ => none

/-- Whether a character is one of the eight digits of octal notation. -/
def isOctal (character : Char) : Bool := '0' ≤ character && character ≤ '7'

/-- The byte that octal digits write. -/
def octalByte (digits : Octets) : Char :=
  Char.ofNat ((Integer.natural? 8 digits).getD 0 % 256)

/-- A code point as it is written for readers without a character for it. -/
def codePointText (value : Nat) : Octets :=
  if value < 128 then [Char.ofNat value]
  else
    let digits := (Nat.toDigits 16 value).map Char.toUpper
    if value < 65536 then ['\\', 'u'] ++ List.replicate (4 - digits.length) '0' ++ digits
    else ['\\', 'U'] ++ List.replicate (8 - digits.length) '0' ++ digits

/-- What the text behind a backslash stands for, what follows it, and whether all output ends there.
In an operand, a zero may precede the three octal digits of a byte. -/
def escapeAt (manner : Manner) (isOperand : Bool) (text : Octets) : Octets × Octets × Bool :=
  match text with
  | [] => (['\\'], [], false)
  | character :: rest =>
    let hex (most : Nat) : Octets :=
      (rest.take most).takeWhile fun digit => (Integer.digitValue? 16 digit).isSome
    let isStop := isOperand || (manner.hasHexEscapes && !manner.hasShellEscapes)
    let isShellMark := manner.hasShellEscapes && !isOperand && (character = '\'' || character = '?')
    if character = 'c' && isStop then ([], [], true)
    else if manner.hasShellEscapes && character = 'E' then (['\x1b'], rest, false)
    else if isShellMark then ([character], rest, false)
    else if isOctal character then
      let source := if isOperand && character = '0' then rest else text
      let digits := (source.take 3).takeWhile isOctal
      ([octalByte digits], source.drop digits.length, false)
    else if manner.hasHexEscapes && character = 'x' && !(hex 2).isEmpty then
      ([Char.ofNat ((Integer.natural? 16 (hex 2)).getD 0)], rest.drop (hex 2).length, false)
    else if manner.hasHexEscapes && character = 'u' && !(hex 4).isEmpty then
      (codePointText ((Integer.natural? 16 (hex 4)).getD 0), rest.drop (hex 4).length, false)
    else if manner.hasHexEscapes && character = 'U' && !(hex 8).isEmpty then
      (codePointText ((Integer.natural? 16 (hex 8)).getD 0), rest.drop (hex 8).length, false)
    else if manner.hasHexEscapes && character = '"' && !(manner.hasShellEscapes && isOperand) then
      (['"'], rest, false)
    else match namedEscape? character with
      | some byte => ([byte], rest, false)
      | none => (['\\', character], rest, false)

/-- Replace the escapes of a text, and tell whether one of them ends all output. -/
def unescape (manner : Manner) (isOperand : Bool) : Nat → Octets → Octets × Bool
  | 0, _ => ([], false)
  | fuel + 1, text =>
    match text with
    | [] => ([], false)
    | '\\' :: rest =>
      let (bytes, rest, isEnd) := escapeAt manner isOperand rest
      if isEnd then (bytes, true)
      else
        let (more, isLast) := unescape manner isOperand fuel rest
        (bytes ++ more, isLast)
    | character :: rest =>
      let (more, isLast) := unescape manner isOperand fuel rest
      (character :: more, isLast)

/-- An operand with its escapes replaced. -/
def unescapeOperand (manner : Manner) (text : Octets) : Octets × Bool :=
  unescape manner true (text.length + 1) text

/-- A measure of a directive: none, a number, or the next operand. -/
inductive Measure where
  | absent
  | fixed (count : Nat)
  | operand

/-- A piece of a format. -/
inductive Directive where
  | text (characters : Octets)
  | convert (flags : List Char) (width precision : Measure) (kind : Char)
  | time (flags : List Char) (width precision : Measure) (format : Octets)
  | count
  | stop
  | missing (text : Octets)
  | invalid (text : Octets)

/-- A measure at the start of a text, and what follows. -/
def measure (text : Octets) : Measure × Octets :=
  match text with
  | '*' :: rest => (.operand, rest)
  | _ =>
    let digits := text.takeWhile Char.isDigit
    match Integer.natural? 10 digits with
    | some count => (.fixed count, text.drop digits.length)
    | none => (.absent, text)

/-- The pieces of a format. -/
def directives (manner : Manner) : Nat → Octets → List Directive
  | 0, _ => []
  | fuel + 1, text =>
    match text with
    | [] => []
    | '%' :: '%' :: rest => .text ['%'] :: directives manner fuel rest
    | '%' :: rest =>
      let flags := rest.takeWhile fun character => "#-+ 0".toList.contains character
      let (width, after) := measure (rest.drop flags.length)
      let (precision, after) : Measure × Octets := match after with
        | '.' :: digits =>
          match measure digits with
          | (.absent, after) => (.fixed 0, after)
          | found => found
        | _ => (.absent, after)
      let after := if manner.hasHexEscapes then after.dropWhile "hlLjzt".toList.contains else after
      let inside := (after.drop 1).takeWhile (· ≠ ')')
      match after with
      | [] => [.missing ('%' :: rest)]
      | kind :: more =>
        if manner.hasShellEscapes && kind = '(' && (more.drop inside.length).take 2 = [')', 'T'] then
          .time flags width precision inside :: directives manner fuel (more.drop (inside.length + 2))
        else if manner.hasShellEscapes && kind = 'n' then .count :: directives manner fuel more
        else if manner.letters.contains kind then
          .convert flags width precision kind :: directives manner fuel more
        else [.invalid ('%' :: rest.take (rest.length - more.length))]
    | '\\' :: rest =>
      if manner.hasHexEscapes then
        match escapeAt manner false rest with
        | (bytes, _, true) => [.text bytes, .stop]
        | (bytes, rest, false) => .text bytes :: directives manner fuel rest
      else .text ['\\'] :: directives manner fuel rest
    | character :: rest => .text [character] :: directives manner fuel rest

/-- Output so far with what is wrong between its pieces, latest first; the operands that are left;
whether the output has ended; and how much of it there was where variables were to know that, latest
first. -/
structure Progress where
  said : List (Except Fault Octets)
  operands : List Octets
  isEnded : Bool
  counts : List (Octets × Nat) := []

namespace Progress

/-- Add to the output. -/
def write (progress : Progress) (text : Octets) : Progress :=
  { progress with said := .ok text :: progress.said }

/-- All of the output. -/
def text (progress : Progress) : Octets :=
  (progress.said.reverse.filterMap Except.toOption).flatten

/-- All that is wrong. -/
def faults (progress : Progress) : List Fault :=
  progress.said.reverse.filterMap fun piece => match piece with
    | .error fault => some fault
    | .ok _ => none

/-- Note what is wrong. -/
def note (progress : Progress) (fault : Fault) : Progress :=
  { progress with
    said := .error fault :: progress.said, isEnded := progress.isEnded || fault.isFatal }

/-- Whether nothing more could be written because of a fault. -/
def isFatal (progress : Progress) : Bool := progress.faults.any Fault.isFatal

/-- The next operand, if there is one. -/
def next (progress : Progress) : Option Octets × Progress :=
  match progress.operands with
  | [] => (none, progress)
  | operand :: rest => (some operand, { progress with operands := rest })

/-- The number of the character behind a quotation mark that starts an operand. -/
def quotedNumber? (operand : Octets) : Option Nat :=
  match operand with
  | first :: rest =>
    if first = '\'' || first = '"' then some (rest.headD '\x00').toNat else none
  | [] => none

/-- The number that the next operand writes, or zero, in a signed or an unsigned word. -/
def nextNumber (isSigned : Bool) (progress : Progress) : Int × Progress :=
  match progress.next with
  | (none, progress) => (0, progress)
  | (some operand, progress) =>
    match quotedNumber? operand with
    | some number => (number, progress)
    | none =>
      let core := operand.dropWhile fun character => Text.liesIn [('\t', '\r'), (' ', ' ')] character
      let (isNegative, digits) := match core with
        | '-' :: rest => (true, rest)
        | '+' :: rest => (false, rest)
        | _ => (false, core)
      if operand.isEmpty then (0, progress)
      else if !digits.head?.any Char.isDigit then (0, progress.note (.noNumber operand))
      else
        let (size, rest) := Integer.prefixed digits
        let value := if isNegative then -Int.ofNat size else Int.ofNat size
        let (kept, isBeyond) := if isSigned then (Integer.clamp value, !Integer.fits value)
          else if Integer.fitsUnsigned size then (value, false)
          else (-1, true)
        if !rest.isEmpty then (kept, progress.note (.trailing operand))
        else if isBeyond then (kept, progress.note (.outOfRange operand))
        else (kept, progress)

/-- The number with a fraction that the next operand writes, or zero. -/
def nextQuantity (storage : Quantity.Storage) (progress : Progress) : Quantity × Progress :=
  match progress.next with
  | (none, progress) => (.ofInt 0, progress)
  | (some operand, progress) =>
    match quotedNumber? operand with
    | some number => (.ofInt number, progress)
    | none =>
      match Quantity.read? storage operand with
      | none =>
        (.ofInt 0, if operand.isEmpty then progress else progress.note (.noNumber operand))
      | some (quantity, isBeyond, rest) =>
        if !rest.isEmpty then (quantity, progress.note (.trailing operand))
        else if isBeyond then (quantity, progress.note (.outOfRange operand))
        else (quantity, progress)

/-- The value of a measure. -/
def measured (progress : Progress) : Measure → Option Int × Progress
  | .absent => (none, progress)
  | .fixed count => (some count, progress)
  | .operand =>
    let (value, progress) := progress.nextNumber true
    (some value, progress)

end Progress

/-- Fill a text up to a width. -/
def pad (toLeft : Bool) (width : Nat) (fill : Char) (text : Octets) : Octets :=
  let missing := List.replicate (width - text.length) fill
  if toLeft then text ++ missing else missing ++ text

/-- The digits of a number in the notation of a directive, at least as many as the precision. -/
def digitsOf (kind : Char) (precision : Nat) (value : Nat) : Octets :=
  let base := if kind = 'o' then 8 else if kind = 'x' || kind = 'X' then 16 else 10
  let digits := Nat.toDigits base value
  let digits := if kind = 'X' then digits.map Char.toUpper else digits
  List.replicate (precision - digits.length) '0' ++ digits

/-- What a number looks like in a directive. -/
def numberText (flags : List Char) (width : Nat) (precision : Option Nat) (kind : Char)
    (value : Int) : Octets :=
  let isSigned := kind = 'd' || kind = 'i'
  let magnitude := if isSigned then value.natAbs else (value % 18446744073709551616).toNat
  let sign := if !isSigned then []
    else if value < 0 then ['-']
    else if flags.contains '+' then ['+']
    else if flags.contains ' ' then [' ']
    else []
  let mark := if !flags.contains '#' || magnitude = 0 then []
    else if kind = 'x' then ['0', 'x']
    else if kind = 'X' then ['0', 'X']
    else if kind = 'o' then ['0']
    else []
  let digits := digitsOf kind (precision.getD 1) magnitude
  let toLeft := flags.contains '-'
  if flags.contains '0' && !toLeft && precision.isNone then
    sign ++ mark ++ pad false (width - sign.length - mark.length) '0' digits
  else pad toLeft width ' ' (sign ++ mark ++ digits)

/-- The text of a directive for a text where operands are missing. -/
def missingText (kind : Char) : Octets :=
  if kind = 'c' then ['\x00'] else if kind = 'q' || kind = 'Q' then ['\'', '\''] else []

/-- Fill one directive. -/
def fill (manner : Manner) (quote : Octets → Octets) (progress : Progress) (directive : Directive) :
    Progress :=
  if progress.isEnded then progress
  else match directive with
    | .text characters => progress.write characters
    | .stop => { progress with isEnded := true }
    | .missing text => progress.note (.noDirective text)
    | .invalid text => progress.note (.invalidDirective text)
    | .count =>
      let (operand, progress) := progress.next
      match operand with
      | some name => { progress with counts := (name, progress.text.length) :: progress.counts }
      | none => progress
    | .time flags width precision format =>
      let (width, progress) := progress.measured width
      let (precision, progress) := progress.measured precision
      let (seconds, progress) : Option Int × Progress :=
        if progress.operands.isEmpty then (none, progress)
        else
          let (value, progress) := progress.nextNumber true
          (if value < 0 then none else some value, progress)
      let shown := manner.clock (if format.isEmpty then ['%', 'X'] else format) seconds
      let text := match precision.filter (0 ≤ ·) with
        | some count => shown.take count.toNat
        | none => shown
      progress.write (pad (flags.contains '-') ((width.getD 0).natAbs) ' ' text)
    | .convert flags width precision kind =>
      let (width, progress) := progress.measured width
      let flags := if width.any (· < 0) then '-' :: flags else flags
      let width := (width.getD 0).natAbs
      let (precision, progress) := progress.measured precision
      let precision := (precision.filter (0 ≤ ·)).map Int.toNat
      let toLeft := flags.contains '-'
      if "sbqQc".toList.contains kind then
        let (operand, progress) := progress.next
        let (text, isLast) := match operand, kind with
          | none, _ => (missingText kind, false)
          | some text, 'b' => unescapeOperand manner text
          | some text, 'c' => ([text.headD '\x00'], false)
          | some text, 'q' => (quote text, false)
          | some text, 'Q' =>
            (quote (match precision with
              | some count => text.take count
              | none => text), false)
          | some text, _ => (text, false)
        let text := match precision with
          | some count => if kind = 'c' || kind = 'Q' then text else text.take count
          | none => text
        { progress.write (pad toLeft width ' ' text) with isEnded := isLast }
      else if "eEfFgGaA".toList.contains kind then
        let (quantity, progress) := progress.nextQuantity manner.storage
        progress.write (Notation.text manner.storage flags width precision kind quantity)
      else
        let (value, progress) := progress.nextNumber (kind = 'd' || kind = 'i')
        progress.write (numberText flags width precision kind value)

/-- Fill the directives again and again, as long as that uses operands. -/
def passes (manner : Manner) (quote : Octets → Octets) (directives : List Directive) :
    Nat → Progress → Progress
  | 0, progress => progress
  | fuel + 1, progress =>
    let after := directives.foldl (fill manner quote) progress
    if after.isEnded || after.operands.isEmpty then after
    else if after.operands.length = progress.operands.length then
      after.note (.excess (after.operands.headD []))
    else passes manner quote directives fuel after

/-- Fill a format with operands. -/
def apply (manner : Manner) (quote : Octets → Octets) (format : Octets) (operands : List Octets) :
    Progress :=
  let format := if manner.hasHexEscapes then format
    else (unescape manner false (format.length + 1) format).1
  passes manner quote (directives manner (format.length + 1) format) (operands.length + 1)
    { said := [], operands := operands, isEnded := false }

end Format

end CorpusJudge.Shell
