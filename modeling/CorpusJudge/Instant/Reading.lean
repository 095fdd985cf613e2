import CorpusJudge.Instant
import CorpusJudge.Text.Classes
import CorpusJudge.Text.Integer

/-!
# Reading an instant

An instant is written as a date, a `T` or a space, a time of day to the second and an offset from
universal time.  White space may stand in front of every number, separator and offset; numbers
need no leading zeros.
-/

namespace CorpusJudge.Instant

/-- Digits from the start of a text, at least one and at most `most`, as a number. -/
def readDigits? (most : Nat) (text : List Char) : Option (Nat × List Char) := do
  let digits := (text.takeWhile Char.isDigit).take most
  let value ← Integer.natural? 10 digits
  guard (Integer.fits value)
  return (value, text.drop digits.length)

/-- A number of at most two digits between two bounds, behind optional white space. -/
def readField? (least greatest : Nat) (text : List Char) : Option (Nat × List Char) := do
  let (value, rest) ← readDigits? 2 (Text.skipBlanks text)
  guard (least ≤ value && value ≤ greatest)
  return (value, rest)

/-- A year: four digits at most, or a sign and any number of them. -/
def readYear? (text : List Char) : Option (Int × List Char) :=
  match Text.skipBlanks text with
  | '-' :: rest => (readDigits? rest.length rest).map fun (value, after) => (-(value : Int), after)
  | '+' :: rest => (readDigits? rest.length rest).map fun (value, after) => ((value : Int), after)
  | rest => (readDigits? 4 rest).map fun (value, after) => ((value : Int), after)

/-- The text behind a separator, which white space may precede. -/
def readMark? (mark : Char) (text : List Char) : Option (List Char) :=
  match Text.skipBlanks text with
  | [] => none
  | character :: rest => if character = mark then some rest else none

/-- The years for which dates exist. -/
def isYear (year : Int) : Bool :=
  -262143 ≤ year && year ≤ 262142

/-- A date, as its day number. -/
def readDate? (text : List Char) : Option (Int × List Char) := do
  let (year, text) ← readYear? text
  let (month, text) ← readField? 1 12 (← readMark? '-' text)
  let (day, text) ← readField? 1 31 (← readMark? '-' text)
  guard (isYear year && day ≤ daysInMonth year month)
  return (dayNumber year month day, text)

/-- A fraction of a second in nanoseconds; digits after the ninth are passed over. -/
def readFraction? : List Char → Option (Nat × List Char)
  | '.' :: text => do
    let (value, rest) ← readDigits? 9 text
    let scale := Nat.pow 10 (9 - (text.length - rest.length))
    return (value * scale, rest.dropWhile Char.isDigit)
  | text => some (0, text)

/-- A time of day: seconds since midnight and nanoseconds.  The sixty-first second of a minute is
its sixtieth with a second's worth of nanoseconds more. -/
def readTime? (text : List Char) : Option (Nat × Nat × List Char) := do
  let (hour, text) ← readField? 0 23 text
  let (minute, text) ← readField? 0 59 (← readMark? ':' text)
  let (second, text) ← readField? 0 60 (← readMark? ':' text)
  let (nanos, text) ← readFraction? text
  let start := hour * 3600 + minute * 60
  if second = 60 then return (start + 59, nanos + 1000000000, text)
  else return (start + second, nanos, text)

/-- The sign of an offset. -/
def readSign? : List Char → Option (Int × List Char)
  | '+' :: rest => some (1, rest)
  | '-' :: rest => some (-1, rest)
  | '−' :: rest => some (-1, rest)
  | _ => none

/-- Exactly two digits as a number. -/
def readPair? : List Char → Option (Nat × List Char)
  | first :: second :: rest => (Integer.natural? 10 [first, second]).map (·, rest)
  | _ => none

/-- The letters that stand for universal time. -/
def isUniversal (letters : List Char) : Bool :=
  letters.map Char.toUpper = ['U', 'T', 'C']

/-- An offset from universal time in seconds.  Colons and white space may part hours and minutes. -/
def readOffset? (text : List Char) : Option (Int × List Char) :=
  if isUniversal (text.take 3) then some (0, text.drop 3)
  else match text with
    | 'Z' :: rest => some (0, rest)
    | 'z' :: rest => some (0, rest)
    | _ => do
      let (sign, text) ← readSign? text
      let (hours, text) ← readPair? text
      let separator (character : Char) : Bool := character = ':' || Text.isBlank character
      let (minutes, text) ← readPair? (text.dropWhile separator)
      guard (minutes < 60 && hours < 24)
      return (sign * (hours * 3600 + minutes * 60 : Nat), text)

/-- Whether a character parts the date from the time of day. -/
def isDateMark (character : Char) : Bool :=
  character = 't' || character = 'T' || character = ' '

/-- The instant that a text writes, if it writes one and nothing else.  The instant in universal
time must have a year again. -/
def ofText? (text : String) : Option Instant := do
  let (day, rest) ← readDate? text.toList
  let mark :: rest := rest | none
  guard (isDateMark mark)
  let (second, nanos, rest) ← readTime? rest
  let (offset, rest) ← readOffset? (Text.skipBlanks rest)
  guard (Text.skipBlanks rest).isEmpty
  let seconds := day * 86400 + second - offset
  guard (isYear (dateOfDay (seconds / 86400)).1)
  return ⟨seconds, nanos⟩

end CorpusJudge.Instant
