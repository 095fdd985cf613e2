import CorpusJudge.Text.Integer
import CorpusJudge.Yaml.Cursor

/-!
# Scalars

The text of a scalar, whatever its style.  Inside a scalar that runs over several lines the break
between two lines counts as a space, and further breaks after it count as themselves.
-/

namespace CorpusJudge.Yaml

/-- White space inside a scalar that counts only when more of the scalar follows: either blanks on
one line, or a line break and the breaks after it. -/
inductive Gap where
  | blanks (reversed : List Char)
  | breaks (first : List Char) (more : List Char)

namespace Gap

/-- No white space. -/
def none : Gap := .blanks []

/-- Whether the gap goes over the end of a line. -/
def crossesLine : Gap → Bool
  | .blanks _ => false
  | .breaks _ _ => true

/-- What the gap counts for between two parts of a scalar. -/
def text : Gap → List Char
  | .blanks reversed => reversed.reverse
  | .breaks first more =>
    if first = ['\n'] then if more.isEmpty then [' '] else more
    else first ++ more

/-- The gap with one more blank; at the start of a line blanks do not count. -/
def addBlank (gap : Gap) (blank : Char) : Gap :=
  match gap with
  | .blanks reversed => .blanks (blank :: reversed)
  | .breaks _ _ => gap

/-- The gap with one more line break. -/
def addBreak (gap : Gap) (text : List Char) : Gap :=
  match gap with
  | .blanks _ => .breaks text []
  | .breaks first more => .breaks first (more ++ text)

end Gap

/-- A scalar that is being read: what it holds so far, backwards, and the gap after that. -/
structure Pending where
  reversed : List Char
  gap : Gap

namespace Pending

/-- Nothing read yet. -/
def empty : Pending := ⟨[], .none⟩

/-- What has been read, gap included, backwards. -/
def closed (pending : Pending) : List Char :=
  pending.gap.text.reverse ++ pending.reversed

/-- More characters after the gap. -/
def push (pending : Pending) (characters : List Char) : Pending :=
  ⟨characters.reverse ++ pending.closed, .none⟩

end Pending

/-! ## Quoted scalars -/

/-- The character that a one-letter escape stands for. -/
def namedEscape? : Char → Option Char
  | '0' => some '\x00'
  | 'a' => some '\x07'
  | 'b' => some '\x08'
  | 't' => some '\t'
  | '\t' => some '\t'
  | 'n' => some '\n'
  | 'v' => some '\x0b'
  | 'f' => some '\x0c'
  | 'r' => some '\r'
  | 'e' => some '\x1b'
  | ' ' => some ' '
  | '"' => some '"'
  | '/' => some '/'
  | '\\' => some '\\'
  | 'N' => some '\u0085'
  | '_' => some '\u00a0'
  | 'L' => some '\u2028'
  | 'P' => some '\u2029'
  | _ => none

/-- How many hexadecimal digits follow the letter of a numeric escape. -/
def escapeWidth? : Char → Option Nat
  | 'x' => some 2
  | 'u' => some 4
  | 'U' => some 8
  | _ => none

/-- The character written behind a backslash and the number of characters that write it. -/
def readEscape? : List Char → Option (Char × Nat)
  | [] => none
  | letter :: rest =>
    match escapeWidth? letter with
    | none => (namedEscape? letter).map (·, 1)
    | some width => do
      let digits := rest.take width
      guard (digits.length = width)
      let code ← Integer.natural? 16 digits
      guard (code < 0xD800 || (0xDFFF < code && code ≤ 0x10FFFF))
      return (Char.ofNat code, width + 1)

/-- The rest of a single-quoted scalar. -/
def readSingleQuoted? : Nat → Pending → Cursor → Option (List Char × Cursor)
  | 0, _, _ => none
  | fuel + 1, pending, cursor =>
    match cursor.rest with
    | [] => none
    | character :: after =>
      if isBlank character then
        readSingleQuoted? fuel ⟨pending.reversed, pending.gap.addBlank character⟩ (cursor.skip 1)
      else if isBreak character then
        readSingleQuoted? fuel ⟨pending.reversed, pending.gap.addBreak cursor.breakText⟩
          cursor.skipBreak
      else if cursor.atDocumentBoundary then none
      else if character = '\'' then
        if after.head? = some '\'' then
          readSingleQuoted? fuel (pending.push ['\'']) (cursor.skip 2)
        else some (pending.closed.reverse, cursor.skip 1)
      else readSingleQuoted? fuel (pending.push [character]) (cursor.skip 1)

/-- The rest of a double-quoted scalar.  A backslash at the end of a line keeps the line break out
of the scalar. -/
def readDoubleQuoted? : Nat → Pending → Cursor → Option (List Char × Cursor)
  | 0, _, _ => none
  | fuel + 1, pending, cursor =>
    match cursor.rest with
    | [] => none
    | character :: after =>
      if isBlank character then
        readDoubleQuoted? fuel ⟨pending.reversed, pending.gap.addBlank character⟩ (cursor.skip 1)
      else if isBreak character then
        readDoubleQuoted? fuel ⟨pending.reversed, pending.gap.addBreak cursor.breakText⟩
          cursor.skipBreak
      else if cursor.atDocumentBoundary then none
      else if character = '"' then some (pending.closed.reverse, cursor.skip 1)
      else if character = '\\' then
        if after.head?.any isBreak then
          readDoubleQuoted? fuel ⟨pending.closed, .breaks [] []⟩ (cursor.skip 1).skipBreak
        else do
          let (escaped, count) ← readEscape? after
          readDoubleQuoted? fuel (pending.push [escaped]) (cursor.skip (count + 1))
      else readDoubleQuoted? fuel (pending.push [character]) (cursor.skip 1)

/-! ## Plain scalars -/

/-- Whether a character has a meaning of its own inside brackets and braces. -/
def isFlowMark (character : Char) : Bool :=
  character = ',' || character = '[' || character = ']' || character = '\x7b' ||
    character = '\x7d'

/-- Whether a plain scalar ends in front of the next character. -/
def endsPlain (inFlow : Bool) (cursor : Cursor) : Bool :=
  (cursor.atChar ':' && cursor.gapAt 1) || (inFlow && cursor.rest.head?.any isFlowMark)

/-- Whether a colon stands where brackets and braces do not allow one inside a plain scalar. -/
def isStrayColon (inFlow : Bool) (cursor : Cursor) : Bool :=
  inFlow && cursor.atChar ':' &&
    (cursor.peek 1).any fun character => isFlowMark character || character = '?'

/-- The rest of a plain scalar whose lines lie at `indent` or deeper, the gap behind it and where
reading stops. -/
def readPlain? (inFlow : Bool) (indent : Int) : Nat → Pending → Cursor →
    Option (Pending × Cursor)
  | 0, _, _ => none
  | fuel + 1, pending, cursor =>
    match cursor.rest with
    | [] => some (pending, cursor)
    | character :: _ =>
      if isBlank character then
        if pending.gap.crossesLine && cursor.column < indent && character = '\t' then none
        else readPlain? inFlow indent fuel ⟨pending.reversed, pending.gap.addBlank character⟩
          (cursor.skip 1)
      else if isBreak character then
        readPlain? inFlow indent fuel ⟨pending.reversed, pending.gap.addBreak cursor.breakText⟩
          cursor.skipBreak
      else
        let afterGap := pending.gap.crossesLine || !pending.gap.text.isEmpty
        if afterGap && !inFlow && cursor.column < indent then some (pending, cursor)
        else if cursor.atDocumentBoundary then some (pending, cursor)
        else if afterGap && character = '#' then some (pending, cursor)
        else if isStrayColon inFlow cursor then none
        else if endsPlain inFlow cursor then some (pending, cursor)
        else readPlain? inFlow indent fuel (pending.push [character]) (cursor.skip 1)

/-! ## Block scalars -/

/-- What happens to the line breaks at the end of a block scalar: one is kept, or none, or all. -/
inductive Chomping where
  | clip
  | strip
  | keep
  deriving DecidableEq

/-- The chomping that a character asks for. -/
def chomping? : Char → Option Chomping
  | '-' => some .strip
  | '+' => some .keep
  | _ => none

/-- The indentation that a digit asks for; zero is none. -/
def indentDigit? (character : Char) : Option Nat :=
  if '1' ≤ character ∧ character ≤ '9' then some (character.toNat - 48) else none

/-- Chomping and indentation, in either order, and the number of characters that write them. -/
def readBlockHeader? (text : List Char) : Option (Chomping × Option Nat × Nat) :=
  match text with
  | first :: second :: _ =>
    match chomping? first with
    | some chomping =>
      if second = '0' then none
      else match indentDigit? second with
        | some indent => some (chomping, some indent, 2)
        | none => some (chomping, none, 1)
    | none =>
      if first = '0' then none
      else match indentDigit? first with
        | some indent =>
          match chomping? second with
          | some chomping => some (chomping, some indent, 2)
          | none => some (.clip, some indent, 1)
        | none => some (.clip, none, 0)
  | [only] =>
    match chomping? only with
    | some chomping => some (chomping, none, 1)
    | none =>
      if only = '0' then none
      else match indentDigit? only with
        | some indent => some (.clip, some indent, 1)
        | none => some (.clip, none, 0)
  | [] => some (.clip, none, 0)

/-- Go past blank lines and the indentation of the next line: the breaks, the greatest column
reached, and where reading stops.  Without a known indentation all leading spaces are passed. -/
def readBlankLines? (indent : Option Nat) : Nat → List Char → Nat → Cursor →
    Option (List Char × Nat × Cursor)
  | 0, _, _, _ => none
  | fuel + 1, breaks, widest, cursor =>
    let room := match indent with
      | some indent => indent - cursor.column
      | none => cursor.rest.length
    let spaces := ((cursor.rest.take room).takeWhile (· = ' ')).length
    let cursor := cursor.skip spaces
    let widest := max widest cursor.column
    let short := match indent with
      | some indent => cursor.column < indent
      | none => true
    if short && cursor.atChar '\t' then none
    else if cursor.atBreak then
      readBlankLines? indent fuel (breaks ++ cursor.breakText) widest cursor.skipBreak
    else some (breaks, widest, cursor)

/-- A block scalar that is being read: its text backwards, the break after its last line, the
breaks of the blank lines after that, and whether that line started with a blank. -/
structure BlockPending where
  reversed : List Char
  lastBreak : List Char
  blankLines : List Char
  startedBlank : Bool

/-- The text, backwards, with the breaks in front of one more line.  Folding makes a space of a
single break between two lines that do not start with blanks. -/
def BlockPending.beforeLine (pending : BlockPending) (folds startsBlank : Bool) : List Char :=
  let joins := folds && pending.lastBreak = ['\n'] && !pending.startedBlank && !startsBlank
  let lead :=
    if joins then if pending.blankLines.isEmpty then [' '] else []
    else pending.lastBreak
  pending.blankLines.reverse ++ lead.reverse ++ pending.reversed

/-- The lines of a block scalar, all of them at column `indent`. -/
def readBlockLines? (folds : Bool) (indent : Nat) : Nat → BlockPending → Cursor →
    Option (BlockPending × Cursor)
  | 0, _, _ => none
  | fuel + 1, pending, cursor =>
    if cursor.column = indent && !cursor.atEnd then do
      let startsBlank := cursor.atBlank
      let line := cursor.rest.takeWhile fun character => !isBreak character
      let reversed := line.reverse ++ pending.beforeLine folds startsBlank
      let lineEnd := cursor.skip line.length
      let next := if lineEnd.atEnd then lineEnd else lineEnd.skipBreak
      let (blankLines, _, next) ← readBlankLines? (some indent) (next.rest.length + 1) [] 0 next
      readBlockLines? folds indent fuel ⟨reversed, lineEnd.breakText, blankLines, startsBlank⟩ next
    else some (pending, cursor)

/-- The breaks that chomping leaves at the end of a block scalar. -/
def Chomping.tail (chomping : Chomping) (pending : BlockPending) : List Char :=
  match chomping with
  | .strip => []
  | .clip => pending.lastBreak
  | .keep => pending.lastBreak ++ pending.blankLines

/-- A block scalar behind its first mark, inside a block at column `parent`. -/
def readBlock? (folds : Bool) (parent : Int) (cursor : Cursor) : Option (List Char × Cursor) := do
  let (chomping, extra, count) ← readBlockHeader? cursor.rest
  let cursor ← (cursor.skip count).skipToNextLine?
  let fuel := cursor.rest.length + 1
  let given := extra.map fun extra => (max parent 0).toNat + extra
  let (breaks, widest, cursor) ← readBlankLines? given fuel [] 0 cursor
  let indent := given.getD (max widest (max (parent + 1).toNat 1))
  let (pending, cursor) ← readBlockLines? folds indent fuel ⟨[], [], breaks, false⟩ cursor
  return (pending.reversed.reverse ++ chomping.tail pending, cursor)

end CorpusJudge.Yaml
