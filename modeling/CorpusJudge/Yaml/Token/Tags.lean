import CorpusJudge.Bytes
import CorpusJudge.Yaml.Cursor
import CorpusJudge.Yaml.Token

/-!
# Directives, anchors and tags

The marks that start with `%`, `&`, `*` and `!`.
-/

namespace CorpusJudge.Yaml

/-- Whether a character may stand in a tag. -/
def isTagChar (verbatim : Bool) (character : Char) : Bool :=
  isWord character || ";/?:@&=+$.%!~*'()".toList.contains character ||
    (verbatim && ",[]".toList.contains character)

/-- How many bytes a UTF-8 character has that starts with a byte. -/
def encodedWidth? (byte : Nat) : Option Nat :=
  if byte < 0x80 then some 1
  else if byte < 0xC0 then none
  else if byte < 0xE0 then some 2
  else if byte < 0xF0 then some 3
  else if byte < 0xF8 then some 4
  else none

/-- A byte written as a percent sign and two hexadecimal digits. -/
def readEscapedByte? : List Char → Option (Nat × List Char)
  | '%' :: high :: low :: rest => do
    return (16 * (← Bytes.hexValue? high) + (← Bytes.hexValue? low), rest)
  | _ => none

/-- The bytes that continue a character, as octets. -/
def readContinuation? : Nat → List Char → Option (List Char × List Char)
  | 0, text => some ([], text)
  | count + 1, text => do
    let (byte, text) ← readEscapedByte? text
    guard (0x80 ≤ byte && byte < 0xC0)
    let (octets, text) ← readContinuation? count text
    return (Char.ofNat byte :: octets, text)

/-- The characters of a tag, with their escapes resolved to octets, and what follows them. -/
def readTagChars? (verbatim : Bool) : Nat → List Char → Option (List Char × List Char)
  | 0, text => some ([], text)
  | _ + 1, [] => some ([], [])
  | fuel + 1, text@(character :: rest) =>
    if !isTagChar verbatim character then some ([], text)
    else if character = '%' then do
      let (byte, text) ← readEscapedByte? text
      let (octets, text) ← readContinuation? ((← encodedWidth? byte) - 1) text
      let (more, text) ← readTagChars? verbatim fuel text
      return (Char.ofNat byte :: octets ++ more, text)
    else do
      let (more, text) ← readTagChars? verbatim fuel rest
      return (character :: more, text)

/-- A tag's characters, read from a cursor. -/
def readTagText? (verbatim : Bool) (cursor : Cursor) : Option (List Char × Cursor) := do
  let (characters, rest) ← readTagChars? verbatim cursor.rest.length cursor.rest
  return (characters, cursor.skip (cursor.rest.length - rest.length))

/-- A tag handle: an exclamation mark, word characters and perhaps another exclamation mark. -/
def readHandle? (cursor : Cursor) : Option (List Char × Cursor) :=
  match cursor.rest with
  | '!' :: rest =>
    let word := rest.takeWhile isWord
    let after := cursor.skip (word.length + 1)
    if after.atChar '!' then some ('!' :: word ++ ['!'], after.skip 1)
    else some ('!' :: word, after)
  | _ => none

/-- Whether a handle is closed by a second exclamation mark. -/
def isClosedHandle (handle : List Char) : Bool :=
  2 ≤ handle.length && handle.getLast? == some '!'

/-- A tag. -/
def readTag? (inFlow : Bool) (cursor : Cursor) : Option (Token × Cursor) := do
  let (token, after) ←
    if cursor.peek 1 = some '<' then do
      let (characters, after) ← readTagText? true (cursor.skip 2)
      guard (!characters.isEmpty && after.atChar '>')
      pure (Token.tag "" (String.ofList characters), after.skip 1)
    else do
      let (handle, after) ← readHandle? cursor
      if isClosedHandle handle then do
        let (characters, after) ← readTagText? false after
        guard (!characters.isEmpty)
        pure (Token.tag (String.ofList handle) (String.ofList characters), after)
      else do
        let (characters, after) ← readTagText? false after
        match handle.drop 1 ++ characters with
        | [] => pure (Token.tag "" "!", after)
        | suffix => pure (Token.tag "!" (String.ofList suffix), after)
  guard (after.gapAt 0 || (inFlow && after.atChar ','))
  return (token, after)

/-- The name behind an anchor or alias mark. -/
def readAnchorName? (cursor : Cursor) : Option (String × Cursor) := do
  let name := (cursor.rest.drop 1).takeWhile isWord
  let after := cursor.skip (name.length + 1)
  let closes (character : Char) : Bool := "?:,]\x7d%@\x60".toList.contains character
  guard (!name.isEmpty && (after.gapAt 0 || after.rest.head?.any closes))
  return (String.ofList name, after)

/-- One of the two numbers of a version, at most nine digits long. -/
def readVersionNumber? (cursor : Cursor) : Option (Nat × Cursor) := do
  let digits := cursor.rest.takeWhile Char.isDigit
  guard (!digits.isEmpty && digits.length ≤ 9)
  let number := digits.foldl (fun value digit => 10 * value + (digit.toNat - 48)) 0
  return (number, cursor.skip digits.length)

/-- The value of a version directive. -/
def readVersion? (cursor : Cursor) : Option (Token × Cursor) := do
  let (major, cursor) ← readVersionNumber? (cursor.skipWhile isBlank)
  guard (cursor.atChar '.')
  let (minor, cursor) ← readVersionNumber? (cursor.skip 1)
  return (.versionDirective major minor, cursor)

/-- The value of a tag directive: a handle and what it stands for. -/
def readTagDirective? (cursor : Cursor) : Option (Token × Cursor) := do
  let (handle, cursor) ← readHandle? (cursor.skipWhile isBlank)
  guard ((isClosedHandle handle || handle = ['!']) && cursor.atBlank)
  let (stem, cursor) ← readTagText? true (cursor.skipWhile isBlank)
  guard (!stem.isEmpty && cursor.gapAt 0)
  return (.tagDirective (String.ofList handle) (String.ofList stem), cursor)

/-- A directive with its line. -/
def readDirective? (cursor : Cursor) : Option (Token × Cursor) := do
  let name := (cursor.rest.drop 1).takeWhile isWord
  let after := cursor.skip (name.length + 1)
  guard (!name.isEmpty && after.gapAt 0)
  let (token, after) ←
    if name = "YAML".toList then readVersion? after
    else if name = "TAG".toList then readTagDirective? after
    else none
  return (token, ← after.skipToNextLine?)

end CorpusJudge.Yaml
