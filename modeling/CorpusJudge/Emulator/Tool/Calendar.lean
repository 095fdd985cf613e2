import CorpusJudge.Emulator.Clock
import CorpusJudge.Emulator.Tool.Call

/-!
# Dates and times of day

An instant is shown by the date and the time of day that a clock shows somewhere, and texts about
dates, times and what lies between them are read as instants.
-/

namespace CorpusJudge

/-! ## Reading -/

/-- A word of a text about a time: a number with its sign, the count of its digits and the
nanoseconds of its fraction; letters in lower case; or another character. -/
inductive TimeWord where
  | number (sign : Int) (value digits : Nat) (nanos : Option Nat)
  | letters (text : String)
  | mark (character : Char)

/-- What a text about a time has said so far.  The parts of each kind are counted, since none may be
said twice. -/
structure TimeNotes where
  dates : Nat := 0
  times : Nat := 0
  zones : Nat := 0
  days : Nat := 0
  hasShift : Bool := false
  year : Int
  month : Nat
  day : Nat
  hasYear : Bool := true
  hour : Nat
  minute : Nat
  second : Nat
  nanos : Nat
  zone : Int
  dayOrdinal : Int := 0
  weekday : Nat := 0
  months : Int := 0
  shiftDays : Int := 0
  shiftSeconds : Int := 0
  shiftNanos : Int := 0

namespace TimeNotes

/-- The words of a text. -/
def words : Nat → Octets → List TimeWord
  | 0, _ => []
  | fuel + 1, text =>
    let number (sign : Int) (text : Octets) : List TimeWord :=
      let digits := text.takeWhile Char.isDigit
      let rest := text.drop digits.length
      let value := (Integer.natural? 10 digits).getD 0
      match rest with
      | mark :: first :: more =>
        if (mark = '.' || mark = ',') && first.isDigit then
          let fraction := (first :: more).takeWhile Char.isDigit
          let nanos := (Integer.natural? 10 ((fraction ++ List.replicate 9 '0').take 9)).getD 0
          .number sign value digits.length (some nanos) ::
            words fuel ((first :: more).drop fraction.length)
        else .number sign value digits.length none :: words fuel rest
      | _ => .number sign value digits.length none :: words fuel rest
    match text with
    | [] => []
    | character :: rest =>
      if character = ' ' || character = '\t' || character = '\n' then words fuel rest
      else if character.isDigit then number 0 text
      else if character = '-' || character = '+' then
        let behind := rest.dropWhile (· = ' ')
        if behind.head?.any Char.isDigit then number (if character = '-' then -1 else 1) behind
        else words fuel rest
      else if character.isAlpha then
        let letters := text.takeWhile fun other => other.isAlpha || other = '.'
        .letters ((String.ofList (letters.filter (· ≠ '.'))).toLower) ::
          words fuel (text.drop letters.length)
      else if character = '(' then words fuel ((rest.dropWhile (· ≠ ')')).drop 1)
      else .mark character :: words fuel rest

/-- The number of a month whose name or its beginning a word is. -/
def month? (word : String) : Option Nat :=
  if word = "sept" then some 9
  else (ClockTime.monthNames.findIdx? fun name =>
    let name := name.toLower
    word = name || word = (name.take 3).toString).map (· + 1)

/-- The number of a weekday whose name or its beginning a word is. -/
def weekday? (word : String) : Option Nat :=
  if word = "tues" then some 2
  else if word = "wednes" then some 3
  else if word = "thur" || word = "thurs" then some 4
  else ClockTime.dayNames.findIdx? fun name =>
    let name := name.toLower
    word = name || word = (name.take 3).toString

/-- The number that a word counts with. -/
def ordinal? (word : String) : Option Int :=
  match word with
  | "last" => some (-1)
  | "this" => some 0
  | "next" => some 1
  | "first" => some 1
  | "third" => some 3
  | "fourth" => some 4
  | "fifth" => some 5
  | "sixth" => some 6
  | "seventh" => some 7
  | "eighth" => some 8
  | "ninth" => some 9
  | "tenth" => some 10
  | "eleventh" => some 11
  | "twelfth" => some 12
  | _ => none

/-- The hours by which the clocks are ahead where a zone has some name. -/
def zone? (word : String) : Option Int :=
  let zones : List (String × Int) :=
    [("utc", 0), ("gmt", 0), ("ut", 0), ("z", 0), ("wet", 0), ("west", 1), ("bst", 1), ("cet", 1),
      ("met", 1), ("mez", 1), ("cest", 2), ("mest", 2), ("eet", 2), ("eest", 3), ("est", -5),
      ("edt", -4), ("cst", -6), ("cdt", -5), ("mst", -7), ("mdt", -6), ("pst", -8), ("pdt", -7),
      ("akst", -9), ("akdt", -8), ("hst", -10), ("jst", 9), ("sgt", 8), ("ast", -4), ("adt", -3)]
  (zones.lookup word).map (· * 3600)

/-- Shift the time by so many units. -/
def shift? (notes : TimeNotes) (count : Int) (unit : String) : Option TimeNotes :=
  let name := if unit.endsWith "s" && unit ≠ "s" then (unit.dropEnd 1).toString else unit
  let days (size : Int) : Option TimeNotes :=
    some { notes with shiftDays := notes.shiftDays + size * count, hasShift := true }
  let seconds (size : Int) : Option TimeNotes :=
    some { notes with shiftSeconds := notes.shiftSeconds + size * count, hasShift := true }
  match name with
  | "year" => some { notes with months := notes.months + 12 * count, hasShift := true }
  | "month" => some { notes with months := notes.months + count, hasShift := true }
  | "fortnight" => days 14
  | "week" => days 7
  | "day" => days 1
  | "hour" => seconds 3600
  | "minute" => seconds 60
  | "min" => seconds 60
  | "second" => seconds 1
  | "sec" => seconds 1
  | _ => none

/-- Note a date. -/
def withDate (notes : TimeNotes) (year : Int) (month day : Nat) : TimeNotes :=
  { notes with dates := notes.dates + 1, year := year, month := month, day := day }

/-- The year that a number means, which may stand for itself without its century. -/
def fullYear (value digits : Nat) : Int :=
  if digits = 2 then if value < 69 then value + 2000 else value + 1900 else value

/-- Note a time of day; a word may tell which half of the day is meant. -/
def withTime (notes : TimeNotes) (hour minute second nanos : Nat) (half : Option String) :
    Option TimeNotes :=
  let hour? := match half with
    | some half =>
      if hour = 0 || 12 < hour then none
      else some (hour % 12 + if half = "pm" then 12 else 0)
    | none => if hour < 24 then some hour else none
  hour?.bind fun hour =>
    if minute < 60 && second < 60 then
      some { notes with
        times := notes.times + 1, hour := hour, minute := minute, second := second, nanos := nanos }
    else none

/-- Note how far clocks are ahead. -/
def withZone (notes : TimeNotes) (offset : Int) : TimeNotes :=
  { notes with zones := notes.zones + 1, zone := offset }

/-- How far clocks are ahead, as a number with its digits tells, and minutes behind a colon. -/
def offsetOf (sign : Int) (value digits : Nat) (minutes : Option Nat) : Option Int :=
  let size := match minutes with
    | some minutes => value * 60 + minutes
    | none => if digits ≤ 2 then value * 60 else value / 100 * 60 + value % 100
  if 24 * 60 < size then none else some (sign * 60 * Int.ofNat size)

/-- Whether a word tells a half of the day. -/
def half? (word : String) : Option String :=
  if word = "am" || word = "pm" then some word else none

/-- Read what stands at the start of some words, and the words behind it. -/
def item? (notes : TimeNotes) (words : List TimeWord) : Option (TimeNotes × List TimeWord) :=
  let zoned (notes : TimeNotes) (rest : List TimeWord) : Option (TimeNotes × List TimeWord) :=
    match rest with
    | .number sign value digits none :: .mark ':' :: .number 0 minutes _ none :: rest =>
      if sign = 0 then some (notes, .number sign value digits none :: .mark ':' ::
        .number 0 minutes 2 none :: rest)
      else (offsetOf sign value digits (some minutes)).map fun offset => (notes.withZone offset, rest)
    | .number sign value digits none :: .letters word :: rest =>
      let isUnit := (shift? notes 1 word).isSome
      if sign = 0 || isUnit then some (notes, .number sign value digits none :: .letters word :: rest)
      else (offsetOf sign value digits none).map fun offset =>
        (notes.withZone offset, .letters word :: rest)
    | .number sign value digits none :: rest =>
      if sign = 0 then some (notes, .number sign value digits none :: rest)
      else (offsetOf sign value digits none).map fun offset => (notes.withZone offset, rest)
    | rest => some (notes, rest)
  let timed (hour minute second nanos : Nat) (rest : List TimeWord) :
      Option (TimeNotes × List TimeWord) :=
    match rest with
    | .letters word :: after =>
      match half? word with
      | some half =>
        (notes.withTime hour minute second nanos (some half)).map fun notes => (notes, after)
      | none => (notes.withTime hour minute second nanos none).map fun notes => (notes, rest)
    | _ => (notes.withTime hour minute second nanos none).bind fun notes => zoned notes rest
  let shifted (count : Int) (unit : String) (rest : List TimeWord) :
      Option (TimeNotes × List TimeWord) :=
    match rest with
    | .letters "ago" :: rest => (notes.shift? (-count) unit).map (·, rest)
    | _ => (notes.shift? count unit).map (·, rest)
  match words with
  | .number 0 hour _ none :: .mark ':' :: .number 0 minute _ none :: .mark ':' ::
      .number 0 second _ nanos :: rest => timed hour minute second (nanos.getD 0) rest
  | .number 0 hour _ none :: .mark ':' :: .number 0 minute _ none :: rest => timed hour minute 0 0 rest
  | .number 0 year digits none :: .number (-1) month _ none :: .number (-1) day _ none :: rest =>
    some (notes.withDate (fullYear year digits) month day, rest)
  | .number 0 year digits none :: .mark '/' :: .number 0 month _ none :: .mark '/' ::
      .number 0 day days none :: rest =>
    if 4 ≤ digits then some (notes.withDate year month day, rest)
    else some (notes.withDate (fullYear day days) year month, rest)
  | .number 0 month _ none :: .mark '/' :: .number 0 day _ none :: rest =>
    some (notes.withDate notes.year month day, rest)
  | .number 0 day _ none :: .letters word :: .number (-1) year digits none :: rest =>
    match month? word with
    | some month => some (notes.withDate (fullYear year digits) month day, rest)
    | none => shifted day word (.number (-1) year digits none :: rest)
  | .number sign value digits none :: .letters word :: rest =>
    match half? word, month? word, weekday? word with
    | some half, _, _ =>
      if sign ≠ 0 then none
      else (notes.withTime value 0 0 0 (some half)).map fun notes => (notes, rest)
    | none, some month, _ =>
      if sign ≠ 0 then none
      else match rest with
        | .number 0 year digits none :: .mark ':' :: more =>
          some ({ notes.withDate notes.year month value with hasYear := false },
            .number 0 year digits none :: .mark ':' :: more)
        | .number 0 year digits none :: rest =>
          some (notes.withDate (fullYear year digits) month value, rest)
        | _ => some ({ notes.withDate notes.year month value with hasYear := false }, rest)
    | none, none, some weekday =>
      some ({ notes with
        days := notes.days + 1, dayOrdinal := (if sign = -1 then -Int.ofNat value else value),
        weekday := weekday }, rest)
    | none, none, none =>
      if (shift? notes 1 word).isSome then
        shifted (if sign = -1 then -Int.ofNat value else value) word rest
      else if sign = 0 && word = "t" && 4 < digits then
        some (notes.withDate (value / 10000) (value / 100 % 100) (value % 100), rest)
      else none
  | .number 0 value digits none :: rest =>
    if notes.dates ≠ 0 && !notes.hasYear && !notes.hasShift && (notes.times ≠ 0 || 2 < digits) then
      some ({ notes with year := fullYear value digits, hasYear := true }, rest)
    else if 4 < digits then
      some (notes.withDate (fullYear (value / 10000) (digits - 4)) (value / 100 % 100) (value % 100),
        rest)
    else if digits ≤ 2 then (notes.withTime value 0 0 0 none).map fun notes => (notes, rest)
    else (notes.withTime (value / 100) (value % 100) 0 0 none).map fun notes => (notes, rest)
  | .letters word :: rest =>
    match month? word, weekday? word, ordinal? word, zone? word with
    | some month, _, _, _ =>
      match rest with
      | .number 0 day _ none :: .mark ',' :: .number 0 year digits none :: rest =>
        some (notes.withDate (fullYear year digits) month day, rest)
      | .number (-1) day _ none :: .number (-1) year digits none :: rest =>
        some (notes.withDate (fullYear year digits) month day, rest)
      | .number 0 day _ none :: .mark ',' :: rest =>
        some ({ notes.withDate notes.year month day with hasYear := false }, rest)
      | .number 0 day _ none :: rest =>
        some ({ notes.withDate notes.year month day with hasYear := false }, rest)
      | _ => none
    | none, some weekday, _, _ =>
      let rest := match rest with
        | .mark ',' :: rest => rest
        | rest => rest
      some ({ notes with days := notes.days + 1, dayOrdinal := 0, weekday := weekday }, rest)
    | none, none, some ordinal, _ =>
      match rest with
      | .letters next :: rest =>
        match weekday? next with
        | some weekday =>
          some ({ notes with days := notes.days + 1, dayOrdinal := ordinal, weekday := weekday }, rest)
        | none => shifted ordinal next rest
      | _ => none
    | none, none, none, some offset =>
      match rest with
      | .number sign value digits none :: more =>
        if sign ≠ 0 && !(match more with
            | .letters unit :: _ => (shift? notes 1 unit).isSome
            | _ => false) then
          (offsetOf sign value digits none).map fun more' => (notes.withZone (offset + more'), more)
        else some (notes.withZone offset, rest)
      | _ => some (notes.withZone offset, rest)
    | none, none, none, none =>
      match word with
      | "now" => some ({ notes with hasShift := true }, rest)
      | "today" => some ({ notes with hasShift := true }, rest)
      | "tomorrow" => (notes.shift? 1 "day").map (·, rest)
      | "yesterday" => (notes.shift? (-1) "day").map (·, rest)
      | "t" => match rest with
        | .number 0 _ _ _ :: _ => some (notes, rest)
        | _ => none
      | unit => shifted 1 unit rest
  | .mark ',' :: rest => some (notes, rest)
  | _ => none

/-- Read all words. -/
def read? : Nat → TimeNotes → List TimeWord → Option TimeNotes
  | 0, _, _ => none
  | fuel + 1, notes, words =>
    if words.isEmpty then some notes
    else match item? notes words with
      | some (notes, rest) => read? fuel notes rest
      | none => none

/-- The seconds and nanoseconds of the time that notes make. -/
def instant? (notes : TimeNotes) : Option (Int × Nat) :=
  if 1 < notes.dates || 1 < notes.times || 1 < notes.zones || 1 < notes.days then none
  else if notes.month = 0 || 12 < notes.month || notes.day = 0 ||
      Instant.daysInMonth notes.year notes.month < notes.day then none
  else
    let keepsTime := notes.times ≠ 0 || (notes.hasShift && notes.dates = 0 && notes.days = 0)
    let (hour, minute, second, nanos) := if keepsTime then
        (notes.hour, notes.minute, notes.second, notes.nanos)
      else (0, 0, 0, 0)
    let months := notes.year * 12 + Int.ofNat (notes.month - 1) + notes.months
    let days := Instant.dayNumber (months / 12) ((months % 12).toNat + 1) 1 +
      Int.ofNat (notes.day - 1)
    let weekday := ((days + 4) % 7).toNat
    let days := if notes.days ≠ 0 && notes.dates = 0 then
        let ahead := Int.ofNat ((notes.weekday + 7 - weekday) % 7)
        let weeks := notes.dayOrdinal -
          if 0 < notes.dayOrdinal && weekday ≠ notes.weekday then 1 else 0
        days + ahead + 7 * weeks
      else days
    let seconds := (days + notes.shiftDays) * 86400 +
      Int.ofNat (hour * 3600 + minute * 60 + second) - notes.zone + notes.shiftSeconds
    some (seconds, nanos)

end TimeNotes

/-- The seconds and nanoseconds of the time that a text is about, seen from a time in a zone. -/
def readTime? (now : ClockTime) (text : Octets) : Option (Int × Nat) :=
  let isSpace (character : Char) : Bool := character = ' ' || character = '\t'
  let trimmed := text.dropWhile isSpace
  match trimmed with
  | '@' :: rest =>
    match TimeNotes.words (rest.length + 1) rest with
    | [.number sign value _ nanos] =>
      let seconds : Int := if sign = -1 then -Int.ofNat value else value
      let fraction := nanos.getD 0
      if !Integer.fits seconds || 67768036191676799 < value then none
      else if sign = -1 && fraction ≠ 0 then some (seconds - 1, 1000000000 - fraction)
      else some (seconds, fraction)
    | _ => none
  | _ =>
    let (zone, text) := match trimmed with
      | 'T' :: 'Z' :: '=' :: '"' :: rest =>
        (TimeZone.ofText (rest.takeWhile (· ≠ '"')), (rest.dropWhile (· ≠ '"')).drop 1)
      | _ => (now.zone, text)
    let notes : TimeNotes := {
      year := now.year, month := now.month, day := now.day, hour := now.hour, minute := now.minute,
      second := now.second, nanos := now.nanos, zone := zone.offset }
    let words := TimeNotes.words (text.length + 1) text
    (TimeNotes.read? (2 * words.length + 2) notes words).bind TimeNotes.instant?

namespace Call

/-- The zone of a tool. -/
def zone (call : Call) (isUniversal : Bool) : TimeZone :=
  if isUniversal then {}
  else match call.environment.lookup "TZ" with
    | some text => TimeZone.ofText text
    | none => {}

/-- What clocks show at a time in microseconds. -/
def clockTime (zone : TimeZone) (micros : Int) : ClockTime :=
  ClockTime.ofSeconds zone (micros / 1000000) ((micros % 1000000).toNat * 1000)

/-- The date and the time of day. -/
def date (call : Call) : Tool :=
  let table : OptionTable := ⟨"d:f:I::r:Rs:u", [("date", 'd'), ("file", 'f'), ("iso-8601", 'I'),
    ("reference", 'r'), ("rfc-email", 'R'), ("rfc-822", 'R'), ("rfc-2822", 'R'), ("set", 's'),
    ("utc", 'u'), ("uct", 'u'), ("universal", 'u')], ["rfc-3339:", "debug", "resolution"], false⟩
  call.withOptions table 1 fun options =>
    let zone := call.zone (options.has "u")
    let now := clockTime zone call.facts.files.clock
    let isoFormat (word : Octets) : Option String :=
      let kinds := [("date", "%Y-%m-%d"), ("hours", "%Y-%m-%dT%H%:z"),
        ("minutes", "%Y-%m-%dT%H:%M%:z"), ("seconds", "%Y-%m-%dT%H:%M:%S%:z"),
        ("ns", "%Y-%m-%dT%H:%M:%S,%N%:z")]
      if word.isEmpty then some "%Y-%m-%d"
      else (kinds.find? fun (name, _) => word.isPrefixOf name.toList).map Prod.snd
    let rfcFormat (word : Octets) : Option String :=
      let kinds := [("date", "%Y-%m-%d"), ("seconds", "%Y-%m-%d %H:%M:%S%:z"),
        ("ns", "%Y-%m-%d %H:%M:%S.%N%:z")]
      (kinds.find? fun (name, _) => word.isPrefixOf name.toList).map Prod.snd
    let usual := "%a %b %e %H:%M:%S %Z %Y"
    let format : Except Octets Octets :=
      match options.operands with
      | ('+' :: format) :: _ => .ok format
      | _ =>
        match options.last? ["I", "R", "rfc-3339", "resolution"] with
        | some "I" =>
          match isoFormat ((options.value? "I").getD []) with
          | some format => .ok format.toList
          | none => .error (choiceFault "iso-8601" ((options.value? "I").getD [])
              ["hours", "minutes", "date", "seconds", "ns"])
        | some "R" => .ok "%a, %d %b %Y %H:%M:%S %z".toList
        | some "rfc-3339" =>
          match rfcFormat ((options.value? "rfc-3339").getD []) with
          | some format => .ok format.toList
          | none => .error (choiceFault "rfc-3339" ((options.value? "rfc-3339").getD [])
              ["date", "seconds", "ns"])
        | _ => .ok usual.toList
    let invalid (text : Octets) : List Job :=
      [.complain call.name ("invalid date ".toList ++ Quoting.always text), .finish 1]
    match options.operands, format with
    | _ :: extra :: _, _ => call.misused 1 ("extra operand ".toList ++ Quoting.always extra)
    | _, .error complaint => call.misused 1 complaint
    | operands, .ok format =>
      let shown (text : Octets) : List Job :=
        match readTime? now text with
        | some (seconds, nanos) =>
          [.emit 1 (Bytes.ofOctets ((ClockTime.ofSeconds zone seconds nanos).text format ++ ['\n']))]
        | none => invalid text
      let setting := match operands with
        | [] => none
        | ('+' :: _) :: _ => none
        | word :: _ => some word
      match setting, options.value? "d", options.value? "f", options.value? "r" with
      | some word, none, _, _ => call.jobs (invalid word)
      | some word, some _, _, _ =>
        call.misused 1 ("the argument ".toList ++ Quoting.always word ++
          (" lacks a leading '+';\nwhen using an option to specify date(s), any non-option\n" ++
            "argument must be a format string beginning with '+'").toList)
      | none, some text, _, _ => call.jobs (shown text)
      | none, none, some path, _ =>
        { (call.gathering [path] fun inputs =>
            let lines := Text.segments '\n' (Bytes.octets (inputs.flatMap Prod.snd))
            ((if lines.getLast? = some [] then lines.dropLast else lines).flatMap shown)) with
          name := call.name }
      | none, none, none, some path =>
        match call.facts.files.find (Shell.pathOf path) with
        | .error error => call.refuse 1 (Quoting.asName path ++ s!": {error.reason}".toList)
        | .ok (place, _) =>
          let time := clockTime zone (call.facts.files.detail place).changed
          call.say (time.text format ++ ['\n'])
      | none, none, none, none =>
        if options.has "s" then
          call.jobs [.complain call.name "cannot set date: Operation not permitted".toList,
            .finish 1]
        else call.jobs [.look fun facts =>
          [.emit 1 (Bytes.ofOctets ((clockTime zone facts.files.clock).text format ++ ['\n']))]]

end Call

end CorpusJudge
