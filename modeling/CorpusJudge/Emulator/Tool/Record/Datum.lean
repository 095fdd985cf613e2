import CorpusJudge.Bytes
import CorpusJudge.Emulator.Number
import CorpusJudge.Emulator.Shell.Format
import CorpusJudge.Emulator.Tool.Order
import Std.Data.HashMap

/-!
# Data of programs for records

A datum is a number or a text.  A text that comes from outside counts as a number too if it looks like
one, and what was never set is an empty text and zero.
-/

namespace CorpusJudge.Record

/-! ## Tables

A table leads from keys to data.  Its keys are listed chain by chain, and within a chain the one that
was looked for last comes first.  A key that was only ever used as a number gets its place among the
others when they are needed. -/

/-- A key: a number, or a text. -/
inductive Key where
  | number (value : Int)
  | text (text : Octets)
  deriving DecidableEq

namespace Key

/-- The text of a key. -/
def shown : Key → Octets
  | .number value => (toString value).toList
  | .text characters => characters

/-- The number of the chain of a text, before it is cut to the number of chains. -/
def scatter (text : Octets) : Nat :=
  (text.foldl (fun number character => (number ^^^ character.toNat.toUInt32) * 16777619)
    (2166136261 : UInt32)).toNat

end Key

/-- Texts are found by a number that depends on all of their characters. -/
instance (priority := 2000) : Hashable Octets where
  hash text := text.foldl (fun number character => mixHash number (hash character.toNat)) 7

/-- A table: its data, the chains of the keys that are known as texts, and of those that are known as
numbers.  While all keys are those of a list, there are no chains. -/
structure Table (α : Type) where
  data : Std.HashMap Octets α := {}
  isListed : Bool := false
  texts : Array (List Octets) := #[]
  numbers : Array (List Int) := #[]
  knowsTexts : Bool := false
  knowsNumbers : Bool := false

namespace Table

variable {α : Type}

/-- How many chains a table has at first. -/
def firstChains : Nat := 64

/-- How long chains may be on average. -/
def chainLength : Nat := 12

/-- How many entries there are. -/
def size (table : Table α) : Nat := table.data.size

/-- A table without entries. -/
def empty : Table α := {}

/-- The table of a list, with the places as keys. -/
def ofList (items : List α) : Table α :=
  if items.isEmpty then empty
  else
    let entries := items.zipIdx.map fun (item, index) => ((toString (index + 1)).toList, item)
    { data := .ofList entries, isListed := true }

/-- The place of a number among so many chains. -/
def chainOf (value : Int) (count : Nat) : Nat := (value % Int.ofNat count).toNat

/-- How many chains are needed for so many entries. -/
def chainsFor (size : Nat) : Nat → Nat → Nat
  | 0, count => count
  | fuel + 1, count =>
    if count * chainLength < size then chainsFor size fuel (2 * count) else count

/-- Put something in front of a chain. -/
def pushed {β : Type} (chains : Array (List β)) (place : Nat) (item : β) : Array (List β) :=
  chains.modify place (item :: ·)

/-- The table with chains instead of a list. -/
def unlisted (table : Table α) : Table α :=
  if !table.isListed then table
  else
    let count := chainsFor table.size 40 firstChains
    let empty : Array (List Int) := Array.replicate count []
    let numbers := (List.range table.size).foldl (fun chains index =>
      let value := Int.ofNat (index + 1)
      pushed chains (chainOf value count) value) empty
    { table with
      isListed := false, texts := Array.replicate count [], numbers := numbers
      knowsTexts := false, knowsNumbers := true }

/-- The table with chains, also if it is empty. -/
def chained (table : Table α) : Table α :=
  let table := table.unlisted
  if table.texts.isEmpty then
    { table with
      texts := Array.replicate firstChains [], numbers := Array.replicate firstChains [] }
  else table

/-- The table with all keys known as texts. -/
def withTexts (table : Table α) : Table α :=
  let table := table.chained
  if table.knowsTexts then table
  else
    let count := table.texts.size
    let texts := table.numbers.foldl (fun texts chain =>
      chain.foldl (fun texts value =>
        let text := Key.shown (.number value)
        pushed texts (Key.scatter text % count) text) texts) table.texts
    { table with texts := texts, knowsTexts := true }

/-- The table with twice as many chains. -/
def doubled (table : Table α) : Table α :=
  let count := 2 * table.texts.size
  let among {β : Type} (placeOf : β → Nat) (chains : Array (List β)) : Array (List β) :=
    (Array.range count).map fun place =>
      (chains.getD (place % chains.size) []).filter fun item => placeOf item % count = place
  { table with
    texts := among Key.scatter table.texts
    numbers := among (fun value => chainOf value count) table.numbers }

/-- The table with as many chains as its entries need. -/
def fitted (table : Table α) : Table α :=
  if table.texts.size * chainLength < table.size then table.doubled else table

/-- The list with an item in front that may have been in it. -/
def fronted {β : Type} [BEq β] (item : β) (chain : List β) : List β :=
  if chain.head? == some item then chain else item :: chain.erase item

/-- Put a text in front of its chain. -/
def frontText (table : Table α) (text : Octets) : Table α :=
  let place := Key.scatter text % table.texts.size
  { table with texts := table.texts.modify place (fronted text) }

/-- Put a number in front of its chain. -/
def frontNumber (table : Table α) (value : Int) : Table α :=
  let place := chainOf value table.numbers.size
  { table with numbers := table.numbers.modify place (fronted value), knowsNumbers := true }

/-- Whether a number is in the chain where it belongs. -/
def knowsNumber (table : Table α) (value : Int) : Bool :=
  (table.numbers.getD (chainOf value table.numbers.size) []).contains value

/-- Look for a key: the table afterwards, and what it leads to. -/
def find? (table : Table α) (key : Key) : Table α × Option α :=
  if table.size = 0 then (table, none)
  else
    let found := table.data[key.shown]?
    match key with
    | .text text =>
      let table := table.withTexts
      (if found.isSome then table.frontText text else table, found)
    | .number value =>
      if table.isListed && found.isSome then (table, found)
      else
        let table := table.unlisted
        if table.knowsNumber value then (table.frontNumber value, found)
        else if table.knowsTexts && found.isSome then
          ((table.frontText key.shown).frontNumber value, found)
        else (table, found)

/-- Let a key lead to something. -/
def insert (table : Table α) (key : Key) (item : α) : Table α :=
  let (found, old) := table.find? key
  let put (table : Table α) : Table α := { table with data := table.data.insert key.shown item }
  if old.isSome then put found
  else
    match key with
    | .text text => (put (found.withTexts.frontText text)).fitted
    | .number value =>
      let table := found.chained
      let table := if table.knowsTexts then table.frontText key.shown else table
      (put (table.frontNumber value)).fitted

/-- Take a key away. -/
def erase (table : Table α) (key : Key) : Table α :=
  let text := key.shown
  if table.size = 0 then table
  else if table.isListed && key = .number (Int.ofNat table.size) then
    let table := { table with data := table.data.erase text }
    if table.size = 0 then empty else table
  else
    let isNumber := match key with
      | .number _ => true
      | .text _ => false
    let table := if isNumber then table.unlisted else table.withTexts
    if !table.data.contains text then table
    else
      let value? := (String.ofList text).toInt?
      let place := Key.scatter text % table.texts.size
      let numbers := match value? with
        | some value =>
          if Key.shown (.number value) = text then
            table.numbers.modify (chainOf value table.numbers.size) (·.erase value)
          else table.numbers
        | none => table.numbers
      let table := { table with
        data := table.data.erase text
        texts := table.texts.modify place (·.erase text)
        numbers := numbers }
      if table.size = 0 then empty else table

/-- The keys in their order. -/
def keys (table : Table α) : Table α × List Octets :=
  if table.size = 0 then (table, [])
  else
    let table := table.withTexts
    (table, table.texts.toList.flatten)

end Table

end CorpusJudge.Record

namespace CorpusJudge.Record

/-! ## Data -/

/-- A datum. -/
inductive Datum where
  | absent
  | number (value : Quantity)
  | text (text : Octets)
  | input (text : Octets)

/-- The number at the start of a text, or zero. -/
def numberAt (text : Octets) : Quantity :=
  match Quantity.read? .double text with
  | some (value, _, _) => value.tidy
  | none => .zero

/-- The number that a text is if it looks like one: it starts and ends like a number, and nothing
stands around it but blanks. -/
def looksLikeNumber? (text : Octets) : Option Quantity :=
  let isBlank (character : Char) : Bool :=
    Text.liesIn [('\t', '\r'), (' ', ' ')] character
  let core := ((text.dropWhile isBlank).reverse.dropWhile isBlank).reverse
  let startsWell := core.head?.any fun first => first.isDigit || "+-.".toList.contains first
  let endsWell := core.getLast?.any fun last => last.isDigit || last = '.'
  if startsWell && endsWell then
    match Quantity.read? .double core with
    | some (value, _, []) => some value.tidy
    | _ => none
  else none

namespace Datum

/-- The datum as a number. -/
def toNumber : Datum → Quantity
  | absent => .zero
  | number value => value
  | text characters => numberAt characters
  | input characters => numberAt characters

/-- The number that a datum counts as, if it does. -/
def asNumber? : Datum → Option Quantity
  | absent => some .zero
  | number value => some value
  | text _ => none
  | input characters => looksLikeNumber? characters

/-- Whether a datum holds as a condition. -/
def isTrue : Datum → Bool
  | absent => false
  | number value => !value.isZero
  | text characters => !characters.isEmpty
  | input characters =>
    match looksLikeNumber? characters with
    | some value => !value.isZero
    | none => !characters.isEmpty

end Datum

/-- The greatest power of two that is written out without a fraction. -/
def wordSize : Nat := 18446744073709551616

/-! ## Formats -/

/-- What is wrong with a format. -/
inductive FormatMistake where
  | tooFew
  | improper (number : Nat)

/-- A directive of a format: its flags, its measures and its letter. -/
structure Directive where
  flags : List Char
  width : Shell.Format.Measure
  precision : Shell.Format.Measure
  letter : Char

/-- The directive behind a percent sign, and what follows. -/
def directive? (text : Octets) : Option (Directive × Octets) :=
  let flags := text.takeWhile "#-+ 0".toList.contains
  let (width, rest) := Shell.Format.measure (text.drop flags.length)
  let (precision, rest) : Shell.Format.Measure × Octets := match rest with
    | '.' :: digits =>
      match Shell.Format.measure digits with
      | (.absent, rest) => (.fixed 0, rest)
      | found => found
    | _ => (.absent, rest)
  match rest.dropWhile "hlL".toList.contains with
  | letter :: rest => some (⟨flags, width, precision, letter⟩, rest)
  | [] => none

/-- The whole number that a directive for signed numbers writes.  Great numbers are written as if there
were no sign. -/
def signedWord (letter : Char) (value : Quantity) : Int :=
  match value with
  | .undefined _ => -9223372036854775808
  | _ =>
    let whole := match value.truncated with
      | .finite isNegative size _ => Quantity.signed isNegative size
      | .infinite isNegative => Quantity.signed isNegative wordSize
      | .undefined _ => 0
    if whole < -9223372036854775808 then -9223372036854775807
    else if letter = 'i' then min 9223372036854775807 whole
    else min (Int.ofNat wordSize - 1) whole

/-- The whole number that a directive for unsigned numbers writes. -/
def unsignedWord (value : Quantity) : Int :=
  match value with
  | .undefined _ => 9223372036854775808
  | _ =>
    let size := match value.truncated with
      | .finite _ size _ => min size (wordSize - 1)
      | _ => wordSize - 1
    if value.isNegative then (-Int.ofNat size) % Int.ofNat wordSize else Int.ofNat size

/-- A number as text: whole numbers with all their digits, others as a format asks. -/
def numberText (format : Octets) (value : Quantity) : Octets :=
  match value with
  | .finite isNegative numerator 1 =>
    if numerator ≤ wordSize && !(isNegative && 9223372036854775808 < numerator) then
      (if isNegative && numerator ≠ 0 then ['-'] else []) ++
        (toString (min numerator (wordSize - 1))).toList
    else other format value
  | value => other format value
where
  /-- What a format makes of a number. -/
  other (format : Octets) (value : Quantity) : Octets :=
    let start := format.takeWhile (· ≠ '%')
    match format.drop start.length with
    | '%' :: rest =>
      match directive? rest with
      | some (directive, rest) =>
        let width := match directive.width with
          | .fixed width => width
          | _ => 0
        let precision := match directive.precision with
          | .fixed precision => some precision
          | _ => none
        let shown := if "eEfFgG".toList.contains directive.letter then
            Notation.text .double directive.flags width precision directive.letter value
          else Shell.Format.numberText directive.flags width precision directive.letter
            (signedWord 'd' value)
        start ++ shown ++ rest
      | none => format
    | _ => format

/-- The datum as a text. -/
def Datum.toText (format : Octets) : Datum → Octets
  | absent => []
  | number value => numberText format value
  | text characters => characters
  | input characters => characters

/-- The key that a datum is in a table. -/
def Datum.toKey (format : Octets) (datum : Datum) : Key :=
  match datum with
  | .number (.finite isNegative numerator 1) =>
    if numerator < 2147483648 then .number (Quantity.signed isNegative numerator)
    else .text (datum.toText format)
  | datum => .text (datum.toText format)

/-- How two data compare: as numbers if both count as numbers. -/
def Datum.order (format : Octets) (first second : Datum) : Ordering :=
  match first.asNumber?, second.asNumber? with
  | some first, some second => first.order second
  | _, _ => Octets.order (first.toText format) (second.toText format)

/-- The text of a directive for one character. -/
def characterOf (format : Octets) (datum : Datum) : Octets :=
  let ofNumber (value : Quantity) : Octets :=
    [Char.ofNat (unsignedWord value % 256).toNat]
  match datum with
  | .number value => ofNumber value
  | .input characters =>
    match looksLikeNumber? characters with
    | some value => ofNumber value
    | none => [characters.headD '\x00']
  | datum => [(datum.toText format).headD '\x00']

/-- Fill a format with data, of which each directive takes one.  The number of the directive is
counted.  A failure comes with what was written until then. -/
def filled (textFormat : Octets) (number : Nat) (output : Octets) :
    Nat → Octets → List Datum → Except (FormatMistake × Octets) Octets
  | 0, _, _ => .ok output.reverse
  | fuel + 1, text, data =>
    match text with
    | [] => .ok output.reverse
    | '%' :: '%' :: rest => filled textFormat number ('%' :: output) fuel rest data
    | '%' :: rest =>
      if data.isEmpty then .error (.tooFew, output.reverse)
      else match directive? rest with
        | none => .error (.improper number, output.reverse)
        | some (directive, rest) =>
          let measure (kind : Shell.Format.Measure) (data : List Datum) :
              Option Int × List Datum :=
            match kind, data with
            | .fixed size, data => (some (Int.ofNat size), data)
            | .operand, datum :: data => (some datum.toNumber.clamped, data)
            | _, data => (none, data)
          let (width, data) := measure directive.width data
          let (precision, data) := measure directive.precision data
          let flags := if width.any (· < 0) then '-' :: directive.flags else directive.flags
          let width := (width.getD 0).natAbs
          let precision := (precision.filter (0 ≤ ·)).map Int.toNat
          let letter := directive.letter
          let pad (text : Octets) : Octets :=
            Shell.Format.pad (flags.contains '-') width ' ' text
          match data with
          | [] => .error (.tooFew, output.reverse)
          | datum :: data =>
            let shown : Option Octets :=
              if letter = 's' then
                let text := datum.toText textFormat
                some (pad (match precision with
                  | some size => text.take size
                  | none => text))
              else if letter = 'c' then some (pad (characterOf textFormat datum))
              else if letter = 'd' || letter = 'i' then
                some (Shell.Format.numberText flags width precision 'd'
                  (signedWord letter datum.toNumber))
              else if "oxXu".toList.contains letter then
                some (Shell.Format.numberText flags width precision letter
                  (unsignedWord datum.toNumber))
              else if "eEfFgGaA".toList.contains letter then
                some (Notation.text .double flags width precision letter datum.toNumber)
              else none
            match shown with
            | some shown =>
              filled textFormat (number + 1) (shown.reverse ++ output) fuel rest data
            | none => .error (.improper number, output.reverse)
    | character :: rest => filled textFormat number (character :: output) fuel rest data

/-- Fill a format with data. -/
def format (textFormat text : Octets) (data : List Datum) : Except (FormatMistake × Octets) Octets :=
  filled textFormat 1 [] (text.length + 1) text data

end CorpusJudge.Record
