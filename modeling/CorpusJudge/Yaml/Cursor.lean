/-!
# Reading positions

Where a YAML reader stands in its text.  Lines end at a line feed, a carriage return, both
together, or one of the three line breaks beyond ASCII.
-/

namespace CorpusJudge.Yaml

/-- Whether a character may occur in a document at all. -/
def isAllowed (character : Char) : Bool :=
  let code := character.toNat
  code = 0x09 || code = 0x0A || code = 0x0D || (0x20 ≤ code && code ≤ 0x7E) || code = 0x85 ||
    (0xA0 ≤ code && code ≤ 0xFFFD) || 0x10000 ≤ code

/-- Whether a character ends a line. -/
def isBreak (character : Char) : Bool :=
  character = '\n' || character = '\r' || character = '\u0085' || character = '\u2028' ||
    character = '\u2029'

/-- Whether a character is a space or a tab. -/
def isBlank (character : Char) : Bool :=
  character = ' ' || character = '\t'

/-- Whether a character may occur in the names of anchors and directives. -/
def isWord (character : Char) : Bool :=
  character.isAlphanum || character = '-' || character = '_'

/-- A place in a text: what is still ahead, how many characters and lines lie behind, and how many
characters of this line. -/
structure Cursor where
  rest : List Char
  index : Nat
  line : Nat
  column : Nat

namespace Cursor

/-- The start of a text. -/
def start (text : List Char) : Cursor := ⟨text, 0, 0, 0⟩

/-- The character that lies `distance` ahead. -/
def peek (cursor : Cursor) (distance : Nat) : Option Char :=
  cursor.rest[distance]?

/-- Whether a given character comes next. -/
def atChar (cursor : Cursor) (character : Char) : Bool :=
  cursor.rest.head? == some character

/-- Whether the text has ended. -/
def atEnd (cursor : Cursor) : Bool := cursor.rest.isEmpty

/-- Whether a space or tab comes next. -/
def atBlank (cursor : Cursor) : Bool := cursor.rest.head?.any isBlank

/-- Whether a line break comes next. -/
def atBreak (cursor : Cursor) : Bool := cursor.rest.head?.any isBreak

/-- Whether white space, a line break or the end lies `distance` ahead. -/
def gapAt (cursor : Cursor) (distance : Nat) : Bool :=
  (cursor.peek distance).all fun character => isBlank character || isBreak character

/-- Go past characters of the same line. -/
def skip (cursor : Cursor) (count : Nat) : Cursor :=
  ⟨cursor.rest.drop count, cursor.index + count, cursor.line, cursor.column + count⟩

/-- Go past a line break. -/
def skipBreak (cursor : Cursor) : Cursor :=
  match cursor.rest with
  | '\r' :: '\n' :: rest => ⟨rest, cursor.index + 2, cursor.line + 1, 0⟩
  | _ :: rest => ⟨rest, cursor.index + 1, cursor.line + 1, 0⟩
  | [] => cursor

/-- The line break that comes next as it counts in a scalar: the line and paragraph separators as
themselves, all others as line feeds, and nothing at the end of the text. -/
def breakText (cursor : Cursor) : List Char :=
  match cursor.rest with
  | [] => []
  | character :: _ =>
    if character = '\u2028' ∨ character = '\u2029' then [character] else ['\n']

/-- Go past the characters of this line that satisfy a predicate. -/
def skipWhile (cursor : Cursor) (keep : Char → Bool) : Cursor :=
  cursor.skip (cursor.rest.takeWhile keep).length

/-- Go to the end of the line. -/
def skipLine (cursor : Cursor) : Cursor :=
  cursor.skipWhile fun character => !isBreak character

/-- Whether three equal marks and then a gap start this line. -/
def atDocumentMark (cursor : Cursor) (mark : Char) : Bool :=
  cursor.column = 0 && cursor.rest.take 3 = [mark, mark, mark] && cursor.gapAt 3

/-- Whether the start or the end of a document is marked here. -/
def atDocumentBoundary (cursor : Cursor) : Bool :=
  cursor.atDocumentMark '-' || cursor.atDocumentMark '.'

/-- The rest of a line that may hold nothing more than a comment, gone past with its line break. -/
def skipToNextLine? (cursor : Cursor) : Option Cursor :=
  let blanks := cursor.skipWhile isBlank
  let comment := if blanks.atChar '#' then blanks.skipLine else blanks
  if comment.atEnd then some comment
  else if comment.atBreak then some comment.skipBreak
  else none

end Cursor

end CorpusJudge.Yaml
