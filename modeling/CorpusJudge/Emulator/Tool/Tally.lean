import CorpusJudge.Emulator.Tool.Job

/-!
# Counts, runs of equal lines and blocks

How many lines, words and bytes a text has, and how wide its longest line is.  Counts are kept while
the text comes in piece by piece.
-/

namespace CorpusJudge

/-- Counts of a text so far: also how far its last line reaches, and whether it ends in a word. -/
structure Tally where
  lines : Nat := 0
  words : Nat := 0
  bytes : Nat := 0
  longest : Nat := 0
  column : Nat := 0
  isInWord : Bool := false

namespace Tally

/-- Whether a byte is a blank or a break. -/
def isSpace (byte : UInt8) : Bool :=
  byte = 32 || (9 ≤ byte && byte ≤ 13)

/-- How far a line reaches behind a byte, and how far it did when the byte ended it. -/
def columnBehind (column : Nat) (byte : UInt8) : Nat × Nat :=
  if byte = 10 || byte = 13 || byte = 12 then (0, column)
  else if byte = 9 then (let next := column / 8 * 8 + 8; (next, next))
  else if 32 ≤ byte && byte ≤ 126 then (column + 1, column + 1)
  else (column, column)

/-- Counts with one byte more. -/
def addByte (tally : Tally) (byte : UInt8) : Tally :=
  let (column, reached) := columnBehind tally.column byte
  let space := isSpace byte
  { lines := if byte = 10 then tally.lines + 1 else tally.lines
    words := if space || tally.isInWord then tally.words else tally.words + 1
    bytes := tally.bytes + 1
    longest := max tally.longest reached
    column := column
    isInWord := !space }

/-- Counts with another piece.  Where only bytes matter, they are not looked at. -/
def add (tally : Tally) (onlyBytes : Bool) (piece : Piece) : Tally :=
  if onlyBytes then { tally with bytes := tally.bytes + piece.size }
  else piece.bytes.foldl addByte tally

/-- The counts of two texts together. -/
def together (left right : Tally) : Tally where
  lines := left.lines + right.lines
  words := left.words + right.words
  bytes := left.bytes + right.bytes
  longest := max left.longest right.longest

end Tally

/-- Which counts are shown, how wide, whether those of each source are shown, and whether a total
follows. -/
structure TallyPlan where
  lines : Bool
  words : Bool
  characters : Bool
  bytes : Bool
  longest : Bool
  width : Nat
  hasParts : Bool
  hasTotal : Bool

namespace TallyPlan

/-- Whether nothing but bytes is counted. -/
def onlyBytes (plan : TallyPlan) : Bool :=
  !plan.lines && !plan.words && !plan.longest

/-- A number, filled up with blanks on its left. -/
def column (width value : Nat) : Octets :=
  let digits := (toString value).toList
  List.replicate (width - digits.length) ' ' ++ digits

/-- The counts that are shown, with a name behind them. -/
def row (plan : TallyPlan) (name : Octets) (tally : Tally) : Octets :=
  let counts :=
    (if plan.lines then [tally.lines] else []) ++ (if plan.words then [tally.words] else []) ++
      (if plan.characters then [tally.bytes] else []) ++
      (if plan.bytes then [tally.bytes] else []) ++ (if plan.longest then [tally.longest] else [])
  [' '].intercalate (counts.map (column plan.width)) ++
    (if name.isEmpty then [] else ' ' :: name) ++ ['\n']

end TallyPlan

/-- Counting at work: the counts of the source it is at, and of all before it. -/
structure Counting where
  plan : TallyPlan
  name : Octets := []
  current : Tally := {}
  total : Tally := {}

namespace Counting

/-- Start with a source. -/
def opened (counting : Counting) (name : Octets) : Counting :=
  { counting with name := name, current := {} }

/-- Take in a piece. -/
def add (counting : Counting) (piece : Piece) : Counting :=
  { counting with current := counting.current.add counting.plan.onlyBytes piece }

/-- Finish with a source. -/
def closed (counting : Counting) : Counting × Octets :=
  ({ counting with total := counting.total.together counting.current },
    if counting.plan.hasParts then counting.plan.row counting.name counting.current else [])

/-- The line with the totals, if there is one. -/
def finished (counting : Counting) : Octets :=
  if counting.plan.hasTotal then
    counting.plan.row (if counting.plan.hasParts then "total".toList else []) counting.total
  else []

end Counting

/-! ## Runs of equal lines

Of lines that follow each other and are the same in what is compared, one is kept. -/

/-- Where empty lines stand between the runs that are shown: in front of the first run, between any
two, behind the last one. -/
structure RunGaps where
  hasFirst : Bool
  hasInner : Bool
  hasLast : Bool

/-- Which lines of a run are shown: its first one, if the run has only one line or more than one,
or all lines of a run, unless it has only one line and that is left out. -/
inductive RunReport where
  | first (single repeated : Bool)
  | all (single : Bool) (gaps : RunGaps)

/-- How lines are compared and what is shown of a run. -/
structure DistinctPlan where
  report : RunReport
  showsCount : Bool
  skippedFields : Nat
  skippedCharacters : Nat
  compared : Option Nat
  foldsCase : Bool
  mark : Char

namespace DistinctPlan

/-- A line without fields at its start. -/
def withoutFields : Nat → Octets → Octets
  | 0, line => line
  | count + 1, line =>
    let isBlank (character : Char) : Bool := character = ' ' || character = '\t'
    withoutFields count ((line.dropWhile isBlank).dropWhile (!isBlank ·))

/-- The part of a line that is compared. -/
def keyOf (plan : DistinctPlan) (line : Octets) : Octets :=
  let rest := (withoutFields plan.skippedFields line).drop plan.skippedCharacters
  let key := match plan.compared with
    | some count => rest.take count
    | none => rest
  if plan.foldsCase then key.map Char.toUpper else key

end DistinctPlan

/-- Lines of a run being read, last one first. -/
structure Distinct where
  plan : DistinctPlan
  key : Octets := []
  lines : List Octets := []
  count : Nat := 0
  hasShown : Bool := false

namespace Distinct

/-- What is shown of the run that ends here. -/
def ended (distinct : Distinct) : Octets :=
  let plan := distinct.plan
  match distinct.lines.getLast? with
  | none => []
  | some first =>
    let shown (line : Octets) : Octets :=
      (if plan.showsCount then TallyPlan.column 7 distinct.count ++ [' '] else []) ++ line ++
        [plan.mark]
    match plan.report with
    | .first single repeated =>
      if (if distinct.count = 1 then single else repeated) then shown first else []
    | .all single gaps =>
      if distinct.count = 1 && !single then []
      else
        (if if distinct.hasShown then gaps.hasInner else gaps.hasFirst then [plan.mark] else []) ++
          distinct.lines.reverse.flatMap shown

/-- What is shown at the end. -/
def finished (distinct : Distinct) : Octets :=
  let last := distinct.ended
  match distinct.plan.report with
  | .all _ gaps =>
    if gaps.hasLast && (distinct.hasShown || !last.isEmpty) then last ++ [distinct.plan.mark]
    else last
  | .first _ _ => last

/-- Take in a line. -/
def line (distinct : Distinct) (text : Octets) : Distinct × Octets :=
  let key := distinct.plan.keyOf text
  if !distinct.lines.isEmpty && key = distinct.key then
    let lines := match distinct.plan.report with
      | .all _ _ => text :: distinct.lines
      | .first _ _ => distinct.lines
    ({ distinct with lines := lines, count := distinct.count + 1 }, [])
  else
    let output := distinct.ended
    ({ distinct with
        key := key
        lines := [text]
        count := 1
        hasShown := distinct.hasShown || !output.isEmpty }, output)

end Distinct

/-! ## Copying in blocks

A copy can be made block by block, with a count of the blocks and with changes of their bytes. -/

/-- How blocks are copied: how many bytes are read at a time, how many are written at a time unless
each block is written as it is read, what becomes of the bytes, and whether a block that is too short
is filled up with zeros. -/
structure BlockPlan where
  inputSize : Nat
  outputSize : Option Nat
  change : Bytes → Bytes
  fills : Bool

/-- A copy in blocks: the bytes that are still to be skipped, the blocks or bytes that may still be
read, how many bytes of the current block there are, how many whole and other blocks have been read
and written, and what is to be written next. -/
structure BlockCopy where
  plan : BlockPlan
  skipped : Nat
  left : Option Nat
  countsBytes : Bool
  begun : Nat := 0
  wholeIn : Nat := 0
  partIn : Nat := 0
  wholeOut : Nat := 0
  partOut : Nat := 0
  copied : Nat := 0
  held : Bytes := []

namespace BlockCopy

/-- How many bytes are asked for: what the current block lacks, but not more than can be read at a
time. -/
def request (copy : BlockCopy) (most : Nat) : Nat :=
  if 0 < copy.skipped then min copy.skipped most
  else
    let lacking := min (copy.plan.inputSize - copy.begun) most
    if copy.countsBytes then min (copy.left.getD most) lacking else lacking

/-- Whether no more is to be read. -/
def isOver (copy : BlockCopy) : Bool := copy.left = some 0

/-- Write as many whole blocks as there are. -/
def settle (copy : BlockCopy) (size : Nat) : BlockCopy × Bytes :=
  let count := copy.held.length / size
  ({ copy with
      held := copy.held.drop (count * size)
      wholeOut := copy.wholeOut + count
      copied := copy.copied + count * size }, copy.held.take (count * size))

/-- The end of the current block. -/
def closeBlock (copy : BlockCopy) : BlockCopy × Bytes :=
  let plan := copy.plan
  let isWhole := copy.begun = plan.inputSize
  let filling := if plan.fills then List.replicate (plan.inputSize - copy.begun) 0 else []
  let copy := { copy with
    begun := 0
    left := if copy.countsBytes then copy.left else copy.left.map (· - 1)
    wholeIn := copy.wholeIn + if isWhole then 1 else 0
    partIn := copy.partIn + if isWhole then 0 else 1 }
  match plan.outputSize with
  | some size => { copy with held := copy.held ++ plan.change filling }.settle size
  | none =>
    let isWhole := isWhole || plan.fills
    ({ copy with
        wholeOut := copy.wholeOut + if isWhole then 1 else 0
        partOut := copy.partOut + if isWhole then 0 else 1
        copied := copy.copied + filling.length }, plan.change filling)

/-- Take in what has been read.  Less than was asked for is the end of the block. -/
def add (copy : BlockCopy) (most : Nat) (bytes : Bytes) : BlockCopy × Bytes :=
  let size := bytes.length
  if 0 < copy.skipped then ({ copy with skipped := copy.skipped - size }, [])
  else
    let isShort := size < copy.request most
    let changed := copy.plan.change bytes
    let copy := { copy with
      begun := copy.begun + size
      left := if copy.countsBytes then copy.left.map (· - size) else copy.left }
    let (copy, output) := match copy.plan.outputSize with
      | some blockSize => { copy with held := copy.held ++ changed }.settle blockSize
      | none => ({ copy with copied := copy.copied + size }, changed)
    if isShort || copy.begun = copy.plan.inputSize || (copy.countsBytes && copy.isOver) then
      let (copy, more) := copy.closeBlock
      (copy, output ++ more)
    else (copy, output)

/-- Write what is left. -/
def finished (copy : BlockCopy) : BlockCopy × Bytes :=
  let (copy, output) := if copy.begun = 0 then (copy, []) else copy.closeBlock
  if copy.held.isEmpty then (copy, output)
  else
    ({ copy with
        held := []
        partOut := copy.partOut + 1
        copied := copy.copied + copy.held.length }, output ++ copy.held)

end BlockCopy

end CorpusJudge
