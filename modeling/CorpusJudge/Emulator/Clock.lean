import CorpusJudge.Bytes
import CorpusJudge.Instant
import CorpusJudge.Emulator.Number

/-!
# Clocks

What clocks and calendars show at an instant somewhere on earth, and how that is written in a format.
-/

namespace CorpusJudge

/-- A place on earth as far as clocks are concerned: how many seconds they are ahead of universal
time, and what their time is called. -/
structure TimeZone where
  offset : Int := 0
  name : String := "UTC"

/-- What a clock and a calendar show. -/
structure ClockTime where
  year : Int
  month : Nat
  day : Nat
  hour : Nat
  minute : Nat
  second : Nat
  nanos : Nat
  weekday : Nat
  yearDay : Nat
  zone : TimeZone
  seconds : Int

/-- The zone that a text in the environment stands for: a name, and how many hours its clocks are
behind universal time. -/
def TimeZone.ofText (text : Octets) : TimeZone :=
  let name := text.takeWhile Char.isAlpha
  let rest := text.drop name.length
  let (sign, rest) := match rest with
    | '-' :: rest => ((1 : Int), rest)
    | '+' :: rest => (-1, rest)
    | rest => (-1, rest)
  let hours := rest.takeWhile Char.isDigit
  let minutes := match rest.drop hours.length with
    | ':' :: more => more.takeWhile Char.isDigit
    | _ => []
  match Integer.natural? 10 hours with
  | some value =>
    if name.length < 3 then {}
    else
      ⟨sign * (3600 * Int.ofNat value + 60 * Int.ofNat ((Integer.natural? 10 minutes).getD 0)),
        String.ofList name⟩
  | none => {}

namespace ClockTime

/-- What clocks in a zone show at a time given in seconds and nanoseconds. -/
def ofSeconds (zone : TimeZone) (seconds : Int) (nanos : Nat) : ClockTime :=
  let wall := seconds + zone.offset
  let days := wall / 86400
  let second := (wall % 86400).toNat
  let (year, month, day) := Instant.dateOfDay days
  { year := year
    month := month
    day := day
    hour := second / 3600
    minute := second / 60 % 60
    second := second % 60
    nanos := nanos
    weekday := ((days + 4) % 7).toNat
    yearDay := (days - Instant.dayNumber year 1 1).toNat
    zone := zone
    seconds := seconds }

/-- The names of the days of a week. -/
def dayNames : List String :=
  ["Sunday", "Monday", "Tuesday", "Wednesday", "Thursday", "Friday", "Saturday"]

/-- The names of the months of a year. -/
def monthNames : List String :=
  ["January", "February", "March", "April", "May", "June", "July", "August", "September", "October",
    "November", "December"]

/-- The year to which the week of a day belongs, and the number of that week, where weeks start on
Monday and belong to the year that has their Thursday. -/
def isoWeek (time : ClockTime) : Int × Nat :=
  let monday := (time.weekday + 6) % 7
  let weekOf (yearDay : Int) : Int := (yearDay - Int.ofNat monday + 10) / 7
  let daysIn (year : Int) : Int := if Instant.isLeapYear year then 366 else 365
  let day := Int.ofNat time.yearDay
  let week := weekOf day
  if week < 1 then (time.year - 1, (weekOf (day + daysIn (time.year - 1))).toNat)
  else
    let thursday := day - Int.ofNat monday + 3
    if daysIn time.year ≤ thursday then (time.year + 1, 1) else (time.year, week.toNat)

/-- A number in so many digits, filled up in some way. -/
def filled (fill : Option Char) (width : Nat) (value : Int) : Octets :=
  let digits := (toString value.natAbs).toList
  let sign := if value < 0 then ['-'] else []
  match fill with
  | none => sign ++ digits
  | some ' ' => List.replicate (width - digits.length - sign.length) ' ' ++ sign ++ digits
  | some fill => sign ++ List.replicate (width - digits.length - sign.length) fill ++ digits

/-- How far the clocks are ahead, with so many colons in it. -/
def offsetText (time : ClockTime) (colons : Nat) : Octets :=
  let size := time.zone.offset.natAbs
  let two (value : Nat) : Octets := (Instant.padded 2 value).toList
  (if time.zone.offset < 0 then '-' else '+') :: match colons with
    | 0 => two (size / 3600) ++ two (size / 60 % 60)
    | 1 => two (size / 3600) ++ ':' :: two (size / 60 % 60)
    | 2 => two (size / 3600) ++ ':' :: two (size / 60 % 60) ++ ':' :: two (size % 60)
    | _ => two (size / 3600) ++ (if size % 3600 = 0 then [] else ':' :: two (size / 60 % 60))

mutual

/-- What a letter of a format stands for; flags tell how numbers are filled up and in which case
letters are shown. -/
def field (time : ClockTime) (flags : List Char) (width : Option Nat) (colons : Nat) (letter : Char) :
    Nat → Option Octets
  | 0 => none
  | fuel + 1 =>
    let fillBy (usual : Char) : Option Char :=
      match flags.getLast? with
      | some '-' => none
      | some '_' => some ' '
      | some '0' => some '0'
      | _ => some usual
    let number (usual : Char) (size : Nat) (value : Int) : Octets :=
      filled (fillBy usual) (width.getD size) value
    let word (text : String) : Octets :=
      let text := if flags.contains '^' then text.toUpper
        else if flags.contains '#' then text.toUpper
        else text
      List.replicate ((width.getD 0) - text.length) (if flags.contains '0' then '0' else ' ') ++
        text.toList
    let nested (format : String) : Octets :=
      let text := formatted time fuel format.toList
      List.replicate ((width.getD 0) - text.length) (if flags.contains '_' then ' ' else '0') ++ text
    let hour12 : Nat := if time.hour % 12 = 0 then 12 else time.hour % 12
    let noon := if time.hour < 12 then "AM" else "PM"
    match letter with
    | '%' => some ['%']
    | 'n' => some ['\n']
    | 't' => some ['\t']
    | 'a' => some (word (((dayNames[time.weekday]?).getD "").take 3).toString)
    | 'A' => some (word ((dayNames[time.weekday]?).getD ""))
    | 'b' => some (word (((monthNames[time.month - 1]?).getD "").take 3).toString)
    | 'h' => some (word (((monthNames[time.month - 1]?).getD "").take 3).toString)
    | 'B' => some (word ((monthNames[time.month - 1]?).getD ""))
    | 'c' => some (nested "%a %b %e %H:%M:%S %Y")
    | 'C' => some (number '0' 2 (time.year / 100))
    | 'd' => some (number '0' 2 time.day)
    | 'D' => some (nested "%m/%d/%y")
    | 'e' => some (number ' ' 2 time.day)
    | 'F' =>
      let text := formatted time fuel "-%m-%d".toList
      some (filled (fillBy '0') ((width.getD 10) - text.length) time.year ++ text)
    | 'g' => some (number '0' 2 (time.isoWeek.1 % 100))
    | 'G' => some (number '0' 4 time.isoWeek.1)
    | 'H' => some (number '0' 2 time.hour)
    | 'I' => some (number '0' 2 hour12)
    | 'j' => some (number '0' 3 (time.yearDay + 1))
    | 'k' => some (number ' ' 2 time.hour)
    | 'l' => some (number ' ' 2 hour12)
    | 'm' => some (number '0' 2 time.month)
    | 'M' => some (number '0' 2 time.minute)
    | 'N' =>
      let digits := (Instant.padded 9 time.nanos).toList
      let digits := digits.take (width.getD 9) ++ List.replicate ((width.getD 9) - 9) '0'
      some (if flags.getLast? = some '-' then (digits.reverse.dropWhile (· = '0')).reverse else digits)
    | 'p' => some (if flags.contains '#' then noon.toLower.toList else word noon)
    | 'P' => some noon.toLower.toList
    | 'q' => some (number '0' 1 ((time.month - 1) / 3 + 1))
    | 'r' => some (nested "%I:%M:%S %p")
    | 'R' => some (nested "%H:%M")
    | 's' => some (number '0' 1 time.seconds)
    | 'S' => some (number '0' 2 time.second)
    | 'T' => some (nested "%H:%M:%S")
    | 'u' => some (number '0' 1 (if time.weekday = 0 then 7 else time.weekday))
    | 'U' => some (number '0' 2 ((time.yearDay + 7 - time.weekday) / 7))
    | 'V' => some (number '0' 2 time.isoWeek.2)
    | 'w' => some (number '0' 1 time.weekday)
    | 'W' => some (number '0' 2 ((time.yearDay + 7 - (time.weekday + 6) % 7) / 7))
    | 'x' => some (nested "%m/%d/%y")
    | 'X' => some (nested "%H:%M:%S")
    | 'y' => some (number '0' 2 (time.year % 100))
    | 'Y' => some (number '0' 4 time.year)
    | 'z' => some (time.offsetText colons)
    | 'Z' => some (if flags.contains '#' then time.zone.name.toLower.toList else word time.zone.name)
    | _ => none
termination_by structural fuel => fuel

/-- A format with what its fields stand for. -/
def formatted (time : ClockTime) : Nat → Octets → Octets
  | 0, _ => []
  | fuel + 1, text =>
    match text with
    | '%' :: rest =>
      let flags := rest.takeWhile "-_0^#+".toList.contains
      let rest' := rest.drop flags.length
      let digits := rest'.takeWhile Char.isDigit
      let rest' := rest'.drop digits.length
      let colons := (rest'.takeWhile (· = ':')).length
      let rest' := rest'.drop colons
      let rest' := match rest' with
        | 'E' :: letter :: more => if letter.isAlpha then letter :: more else rest'
        | 'O' :: letter :: more => if letter.isAlpha then letter :: more else rest'
        | _ => rest'
      match rest' with
      | letter :: after =>
        match field time flags (Integer.natural? 10 digits) colons letter fuel with
        | some shown => shown ++ formatted time fuel after
        | none => '%' :: formatted time fuel rest
      | [] => '%' :: formatted time fuel rest
    | character :: rest => character :: formatted time fuel rest
    | [] => []
termination_by structural fuel => fuel

end

/-- A time in a format. -/
def text (time : ClockTime) (format : Octets) : Octets :=
  formatted time (format.length + 40) format

end ClockTime

end CorpusJudge
