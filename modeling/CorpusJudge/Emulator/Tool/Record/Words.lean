import CorpusJudge.Emulator.Tool.Record.Token
import CorpusJudge.Emulator.Tool.Record.Datum

/-!
# Parts of texts

Texts are cut into records and fields, and parts of them are found and replaced.
-/

namespace CorpusJudge.Record

/-- What stands between the parts of a text: blanks, nothing, a character, or what fits a regular
expression. -/
inductive Separator where
  | blanks
  | nothing
  | character (character : Char)
  | pattern (regex : Regex)

/-- The separator that a text stands for. -/
def separatorOf (text : Octets) : Except RegexMistake Separator :=
  match text with
  | [] => .ok .nothing
  | [' '] => .ok .blanks
  | [character] => .ok (.character character)
  | _ => (regexOf text).map .pattern

/-- Whether a character is a blank between fields. -/
def isBlank (character : Char) : Bool := Text.liesIn [('\t', '\r'), (' ', ' ')] character

/-- The words of a text. -/
def blankWords (text : Octets) : List Octets :=
  (text.splitBy fun left right => isBlank left == isBlank right).filter fun word =>
    !word.head?.any isBlank

/-- The parts of a text between matches that are not empty. -/
def between (text : Octets) (matches? : List Regex.Match) : List Octets :=
  let found := matches?.filter fun found => found.start < found.finish
  let (parts, rest, _) := found.foldl (fun ((parts : List Octets), rest, place) found =>
    (rest.take (found.start - place) :: parts, rest.drop (found.finish - place), found.finish))
    ([], text, 0)
  (rest :: parts).reverse

/-- The parts of a text. -/
def parts (separator : Separator) (text : Octets) : List Octets :=
  if text.isEmpty then []
  else match separator with
    | .blanks => blankWords text
    | .nothing => text.map fun character => [character]
    | .character mark => Text.segments mark text
    | .pattern regex => between text (Regex.all false false regex text)

/-- How records are told apart: by a character, by empty lines, or by what fits a regular
expression. -/
inductive RecordEnd where
  | character (character : Char)
  | emptyLine
  | pattern (regex : Regex)

/-- The end of records that a text stands for. -/
def recordEndOf (text : Octets) : Except RegexMistake RecordEnd :=
  match text with
  | [] => .ok .emptyLine
  | [character] => .ok (.character character)
  | _ => (regexOf text).map .pattern

/-- What comes of an attempt to cut off a record: a record and what follows, nothing more, or that more
has to be read first. -/
inductive Cut where
  | record (text rest : Octets)
  | none
  | more

/-- The text up to an empty line, if there is one, and what follows. -/
def paragraph? : List Char → Octets → Option (Octets × Octets)
  | _, [] => none
  | found, '\n' :: '\n' :: rest => some (found.reverse, rest)
  | found, character :: rest => paragraph? (character :: found) rest

/-- A text without line ends behind it. -/
def withoutBreaks (text : Octets) : Octets := (text.reverse.dropWhile (· = '\n')).reverse

/-- Cut a record off a text, behind which there may be more. -/
def cutRecord (recordEnd : RecordEnd) (isOver : Bool) (text : Octets) : Cut :=
  match recordEnd with
  | .character mark =>
    match text.span (· ≠ mark) with
    | (record, _ :: rest) => .record record rest
    | (_, []) => if !isOver then .more else if text.isEmpty then .none else .record text []
  | .emptyLine =>
    let text := text.dropWhile (· = '\n')
    match paragraph? [] text with
    | some (record, rest) => .record record rest
    | none => if !isOver then .more else if text.isEmpty then .none
      else .record (withoutBreaks text) []
  | .pattern regex =>
    match Regex.search? false regex text with
    | some found =>
      if found.start < found.finish && (isOver || found.finish < text.length) then
        .record (text.take found.start) (text.drop found.finish)
      else if !isOver then .more
      else if text.isEmpty then .none else .record text []
    | none => if !isOver then .more else if text.isEmpty then .none else .record text []

/-! ## Replacing -/

/-- What stands in a text that replaces a match.  Of the backslashes in front of an ampersand half are
kept, and one that is left over means the ampersand itself. -/
def replacement (held : Octets) : Nat → Octets → Octets
  | 0, _ => []
  | fuel + 1, text =>
    match text with
    | [] => []
    | '&' :: rest => held ++ replacement held fuel rest
    | '\\' :: _ =>
      let count := (text.takeWhile (· = '\\')).length
      match text.drop count with
      | '&' :: rest =>
        List.replicate (count / 2) '\\' ++ (if count % 2 = 1 then ['&'] else held) ++
          replacement held fuel rest
      | rest => List.replicate count '\\' ++ replacement held fuel rest
    | character :: rest => character :: replacement held fuel rest

/-- A text with matches replaced. -/
def replaced (found : List Regex.Match) (replacing text : Octets) : Octets :=
  let (pieces, rest, _) := found.foldl (fun ((pieces : List Octets), rest, place) found =>
    (replacement found.held (replacing.length + 1) replacing ::
      rest.take (found.start - place) :: pieces,
      rest.drop (found.finish - place), found.finish)) ([], text, 0)
  pieces.reverse.flatten ++ rest

/-! ## Finding -/

/-- The place of a text in another one, counted from one, or zero. -/
def indexOf (sought : Octets) (place : Nat) : Octets → Nat
  | [] => 0
  | character :: rest =>
    if sought.isPrefixOf (character :: rest) then place else indexOf sought (place + 1) rest

/-- Part of a text from a place on that is counted from one.  What lies in front of the text counts
among its size. -/
def substring (text : Octets) (start : Int) (size : Option Int) : Octets :=
  let size := size.map fun size => if start < 0 then size - start else size
  let rest := text.drop (start - 1).toNat
  match size with
  | some size => rest.take size.toNat
  | none => rest

end CorpusJudge.Record
