import CorpusJudge.Emulator.Tool.Record.Grammar
import CorpusJudge.Emulator.Tool.Regex

/-!
# Tokens of programs for records

The text of a program is a sequence of words and marks.  A slash starts a regular expression where no
value stands that could be divided.  In a regular expression, a backslash takes away the meaning of what
follows it, also within brackets, or writes a character by its number.
-/

namespace CorpusJudge.Record

/-- What is wrong with a regular expression. -/
inductive RegexMistake where
  | missingOperand
  | repeatedAnchor
  | openGroup
  | badSet
  | badBounds

namespace RegexMistake

/-- The wording of the mistake. -/
def message : RegexMistake → String
  | missingOperand => "missing operand"
  | repeatedAnchor => "syntax error ^* or ^+"
  | openGroup => "missing ')'"
  | badSet => "bad class -- [], [^] or ["
  | badBounds => "bad interval expression"

end RegexMistake

/-- The character that a letter behind a backslash writes. -/
def lettered? : Char → Option Char
  | 'a' => some '\x07'
  | 'b' => some '\x08'
  | 'f' => some '\x0c'
  | 'n' => some '\n'
  | 'r' => some '\r'
  | 't' => some '\t'
  | 'v' => some '\x0b'
  | _ => none

/-- The character that digits behind a backslash write, and what follows them. -/
def numbered? (text : Octets) : Option (Char × Octets) :=
  let octal := (text.take 3).takeWhile fun digit => '0' ≤ digit && digit ≤ '7'
  match Integer.natural? 8 octal, text with
  | some value, _ => some (Char.ofNat (value % 256), text.drop octal.length)
  | none, 'x' :: rest =>
    let digits := (rest.take 2).takeWhile fun digit => (Integer.digitValue? 16 digit).isSome
    (Integer.natural? 16 digits).map fun value => (Char.ofNat value, rest.drop digits.length)
  | none, _ => none

/-- The character that stands behind a backslash, and what follows it. -/
def guarded? : Octets → Option (Char × Octets)
  | [] => none
  | character :: rest =>
    match lettered? character with
    | some other => some (other, rest)
    | none => (numbered? (character :: rest)).or (some (character, rest))

/-- Part of an expression, and what follows it. -/
abbrev RegexReading := Except RegexMistake (Regex × Octets)

/-- The expression for one character. -/
def single (character : Char) : Regex := .among false [(character, character)]

/-- A character in a set, and what follows it. -/
def setCharacter? : Octets → Option (Char × Octets)
  | '\\' :: rest => (guarded? rest).or (some ('\\', rest))
  | character :: rest => some (character, rest)
  | [] => none

/-- The members of a set, and what follows it. -/
def readSet (isFirst : Bool) (ranges : List Text.CharRange) :
    Nat → Octets → Except RegexMistake (List Text.CharRange × Octets)
  | 0, _ => .error .badSet
  | fuel + 1, text =>
    match text with
    | '[' :: ':' :: rest =>
      let name := rest.takeWhile Char.isAlpha
      match Text.classRanges? (String.ofList name), rest.drop name.length with
      | some found, ':' :: ']' :: rest => readSet false (found ++ ranges) fuel rest
      | _, _ => .error .badSet
    | ']' :: rest =>
      if isFirst then readSet false ((']', ']') :: ranges) fuel rest else .ok (ranges, rest)
    | _ =>
      match setCharacter? text with
      | none => .error .badSet
      | some (first, '-' :: ']' :: rest) => .ok (('-', '-') :: (first, first) :: ranges, rest)
      | some (first, '-' :: rest) =>
        match setCharacter? rest with
        | none => .error .badSet
        | some (last, after) =>
          if last < first then
            readSet false ((first, first) :: ('-', '-') :: (last, last) :: ranges) fuel after
          else readSet false ((first, last) :: ranges) fuel after
      | some (first, rest) => readSet false ((first, first) :: ranges) fuel rest

/-- The bounds of a repetition behind the opening brace, and what follows, if there are bounds. -/
def bounds? (text : Octets) : Option (Nat × Option Nat × Octets) :=
  let first := text.takeWhile Char.isDigit
  let least := (Integer.natural? 10 first).getD 0
  match text.drop first.length with
  | '\x7d' :: rest => if first.isEmpty then none else some (least, some least, rest)
  | ',' :: rest =>
    let second := rest.takeWhile Char.isDigit
    match rest.drop second.length with
    | '\x7d' :: after =>
      if first.isEmpty && second.isEmpty then none
      else some (least, Integer.natural? 10 second, after)
    | _ => none
  | _ => none

/-- An expression with the repetitions behind it. -/
def readRepeats : Nat → Regex → Octets → RegexReading
  | 0, piece, text => .ok (piece, text)
  | fuel + 1, piece, text =>
    match text with
    | '*' :: rest => readRepeats fuel (.repeated 0 none piece) rest
    | '+' :: rest => readRepeats fuel (.repeated 1 none piece) rest
    | '?' :: rest => readRepeats fuel (.repeated 0 (some 1) piece) rest
    | '\x7b' :: rest =>
      match bounds? rest with
      | some (least, most, after) =>
        if most.any (· < least) then .error .badBounds
        else readRepeats fuel (.repeated least most piece) after
      | none => .ok (piece, text)
    | _ => .ok (piece, text)

mutual

/-- Alternatives, up to the end of the text or group. -/
def readEither (depth : Nat) : Nat → Octets → RegexReading
  | 0, _ => .error .missingOperand
  | fuel + 1, text => do
    let (first, rest) ← readBoth depth true fuel text
    match rest with
    | '|' :: after =>
      let (second, rest) ← readEither depth fuel after
      return (.either first second, rest)
    | _ => return (first, rest)
termination_by structural fuel => fuel

/-- Pieces that follow each other. -/
def readBoth (depth : Nat) (isFirst : Bool) : Nat → Octets → RegexReading
  | 0, _ => .error .missingOperand
  | fuel + 1, text => do
    let isOver := match text with
      | [] => true
      | '|' :: _ => true
      | ')' :: _ => 0 < depth
      | _ => false
    if isOver then
      if isFirst then throw .missingOperand
      return (.nothing, text)
    let (piece, rest) ← readPiece depth fuel text
    let isAnchor := match piece with
      | .start => true
      | _ => false
    if isAnchor && (rest.head? = some '*' || rest.head? = some '+') then throw .repeatedAnchor
    let (piece, rest) ← readRepeats (rest.length + 1) piece rest
    let (more, rest) ← readBoth depth false fuel rest
    return (.both piece more, rest)
termination_by structural fuel => fuel

/-- One piece. -/
def readPiece (depth : Nat) : Nat → Octets → RegexReading
  | 0, _ => .error .missingOperand
  | fuel + 1, text =>
    match text with
    | [] => .error .missingOperand
    | ['('] => .error .openGroup
    | '(' :: rest => do
      match ← readEither (depth + 1) fuel rest with
      | (inside, ')' :: after) => return (inside, after)
      | _ => throw .openGroup
    | '[' :: rest =>
      let (isNegated, rest) := match rest with
        | '^' :: rest => (true, rest)
        | _ => (false, rest)
      (readSet true [] (rest.length + 1) rest).map fun (ranges, rest) =>
        (.among isNegated ranges, rest)
    | '\\' :: rest =>
      match guarded? rest with
      | some (character, rest) => .ok (single character, rest)
      | none => .ok (single '\\', [])
    | '.' :: rest => .ok (.any, rest)
    | '^' :: rest => .ok (.start, rest)
    | '$' :: rest => .ok (.finish, rest)
    | character :: rest =>
      if "*+?".toList.contains character then .error .missingOperand
      else .ok (single character, rest)
termination_by structural fuel => fuel

end

/-- The regular expression that a text writes. -/
def regexOf (text : Octets) : Except RegexMistake Regex :=
  if text.isEmpty then .ok .nothing
  else (readEither 0 (4 * text.length + 8) text).map Prod.fst

end CorpusJudge.Record

namespace CorpusJudge.Record

/-- What a token is. -/
inductive TokenKind where
  | number (value : Quantity)
  | text (text : Octets)
  | pattern (text : Octets)
  | name (name : String)
  /-- A name with an opening parenthesis right behind it. -/
  | called (name : String)
  | builtin (name : String)
  | field (index : Nat)
  | keyword (word : String)
  | mark (text : String)
  | line
  | finish
  /-- Something that cannot be there, and whether that is said in brief. -/
  | wrong (message : Octets) (isBrief : Bool)
  deriving DecidableEq

/-- A token with its line, what stands in the program, and how many parentheses and braces are open
there. -/
structure Token where
  kind : TokenKind
  line : Nat
  shown : Octets
  parens : Nat
  braces : Nat

namespace Token

/-- The words with a meaning of their own. -/
def keywords : List String :=
  ["BEGIN", "END", "break", "continue", "delete", "do", "else", "exit", "for", "function",
    "getline", "if", "in", "next", "nextfile", "print", "printf", "return", "while"]

/-- The marks, longer ones first. -/
def marks : List String :=
  ["&&", "||", "++", "--", "+=", "-=", "*=", "/=", "%=", "^=", "==", "<=", ">=", "!=", "!~", ">>",
    "\x7b", "\x7d", "(", ")", "[", "]", ";", ",", "+", "-", "*", "/", "%", "^", "!", ">", "<", "|",
    "?", ":", "~", "$", "="]

/-- Whether a slash behind a token divides. -/
def endsValue : TokenKind → Bool
  | .number _ => true
  | .text _ => true
  | .pattern _ => true
  | .name _ => true
  | .field _ => true
  | .keyword word => word = "getline"
  | .mark text => [")", "]", "++", "--"].contains text
  | _ => false

/-- The beginning of a text that was never ended, as it is shown. -/
def beginningOf (text : Octets) : Octets :=
  (text.take 10).takeWhile (· ≠ '\n') ++ " ...".toList

/-- The text up to the closing quotation mark, with backslashes as they are, and what follows, if it
ends on its line. -/
def quotedText? : Nat → Octets → Option (Octets × Octets)
  | 0, _ => none
  | fuel + 1, text =>
    match text with
    | '"' :: rest => some ([], rest)
    | '\\' :: character :: rest =>
      (quotedText? fuel rest).map fun (more, rest) => ('\\' :: character :: more, rest)
    | '\n' :: _ => none
    | character :: rest => (quotedText? fuel rest).map fun (more, rest) => (character :: more, rest)
    | [] => none

/-- The text up to the slash behind a regular expression, and what follows, if it ends on its line.
A slash within brackets is part of the expression. -/
def patternText? (isInSet : Bool) : Nat → Octets → Option (Octets × Octets)
  | 0, _ => none
  | fuel + 1, text =>
    match text with
    | '\\' :: '/' :: rest =>
      (patternText? isInSet fuel rest).map fun (more, rest) => ('/' :: more, rest)
    | '\\' :: '\n' :: rest => patternText? isInSet fuel rest
    | '\\' :: character :: rest =>
      (patternText? isInSet fuel rest).map fun (more, rest) => ('\\' :: character :: more, rest)
    | '\n' :: _ => none
    | '/' :: rest =>
      if isInSet then (patternText? true fuel rest).map fun (more, rest) => ('/' :: more, rest)
      else some ([], rest)
    | '[' :: '^' :: ']' :: rest =>
      if isInSet then (patternText? false fuel rest).map fun (more, rest) =>
        ('[' :: '^' :: ']' :: more, rest)
      else (patternText? true fuel rest).map fun (more, rest) => ('[' :: '^' :: ']' :: more, rest)
    | '[' :: ']' :: rest =>
      (patternText? (!isInSet) fuel rest).map fun (more, rest) => ('[' :: ']' :: more, rest)
    | '[' :: ':' :: rest =>
      let name := rest.takeWhile Char.isAlpha
      match isInSet, rest.drop name.length with
      | true, ':' :: ']' :: after =>
        (patternText? true fuel after).map fun (more, rest) =>
          ("[:".toList ++ name ++ ":]".toList ++ more, rest)
      | _, _ => (patternText? true fuel (':' :: rest)).map fun (more, rest) => ('[' :: more, rest)
    | '[' :: rest => (patternText? true fuel rest).map fun (more, rest) => ('[' :: more, rest)
    | ']' :: rest => (patternText? false fuel rest).map fun (more, rest) => (']' :: more, rest)
    | character :: rest =>
      (patternText? isInSet fuel rest).map fun (more, rest) => (character :: more, rest)
    | [] => none

/-- A text with its backslashes replaced.  One that means nothing stays. -/
def unescaped : Nat → Octets → Octets
  | 0, _ => []
  | fuel + 1, text =>
    match text with
    | '\\' :: '\n' :: rest => unescaped fuel rest
    | '\\' :: character :: rest =>
      if character = '"' || character = '\\' then character :: unescaped fuel rest
      else match lettered? character with
        | some other => other :: unescaped fuel rest
        | none => match numbered? (character :: rest) with
          | some (other, rest) => other :: unescaped fuel rest
          | none => '\\' :: character :: unescaped fuel rest
    | character :: rest => character :: unescaped fuel rest
    | [] => []

/-- A text with its backslashes replaced. -/
def unescape (text : Octets) : Octets := unescaped (text.length + 1) text

/-- The size of the number at the start of a text. -/
def numberSize (text : Octets) : Nat :=
  let whole := (text.takeWhile Char.isDigit).length
  let places := match text.drop whole with
    | '.' :: rest => 1 + (rest.takeWhile Char.isDigit).length
    | _ => 0
  let size := whole + places
  match text.drop size with
  | mark :: rest =>
    let sign := if rest.head? = some '+' || rest.head? = some '-' then 1 else 0
    let digits := ((rest.drop sign).takeWhile Char.isDigit).length
    if (mark = 'e' || mark = 'E') && 0 < digits then size + 1 + sign + digits else size
  | [] => size

/-- The number that a text writes. -/
def numberOf (text : Octets) : Quantity :=
  match Quantity.readSize? text with
  | some (numerator, denominator, _) => Quantity.kept false numerator denominator
  | none => .zero

/-- Whether a character can stand in a name. -/
def isNameCharacter (character : Char) : Bool := character.isAlphanum || character = '_'

/-- The kind and the size of the token at the start of a text that is not blank. -/
def first (previous : TokenKind) (text : Octets) : TokenKind × Nat :=
  match text with
  | [] => (.finish, 0)
  | '\n' :: _ => (.line, 1)
  | '"' :: rest =>
    match quotedText? (rest.length + 1) rest with
    | some (found, after) => (.text (unescape found), text.length - after.length)
    | none => (.wrong ("runaway string constant \"".toList ++ beginningOf rest) false, text.length)
  | character :: rest =>
    let isNumber := character.isDigit || (character = '.' && rest.head?.any Char.isDigit)
    if isNumber then
      let size := numberSize text
      (.number (numberOf (text.take size)), size)
    else if character.isAlpha || character = '_' then
      let name := text.takeWhile isNameCharacter
      let word := String.ofList name
      let kind := if keywords.contains word then .keyword word
        else if (Builtin.all.lookup word).isSome then .builtin word
        else if (text.drop name.length).head? = some '(' then .called word
        else .name word
      (kind, name.length)
    else if character = '/' && !endsValue previous then
      match patternText? false (rest.length + 1) rest with
      | some (found, after) => (.pattern found, text.length - after.length)
      | none => (.wrong ("runaway regular expression /".toList ++ beginningOf rest) false, text.length)
    else if character = '$' && rest.head?.any Char.isDigit then
      let size := numberSize rest
      match Integer.natural? 10 (rest.take size) with
      | some index => (.field index, size + 1)
      | none => (.wrong ('$' :: rest.take size ++ " is invalid field index".toList) false, size + 1)
    else match marks.find? fun mark => mark.toList.isPrefixOf text with
      | some mark => (.mark mark, mark.length)
      | none => (.wrong ("unexpected character ".toList ++ ['\'', character, '\'']) true, 1)

/-- The blanks, comments and continued line ends at the start of a text: how many characters and lines
they have. -/
def blanks : Nat → Octets → Nat × Nat
  | 0, _ => (0, 0)
  | fuel + 1, text =>
    let go (size lines : Nat) (rest : Octets) : Nat × Nat :=
      let (more, further) := blanks fuel rest
      (size + more, lines + further)
    match text with
    | '\\' :: '\n' :: rest => go 2 1 rest
    | '#' :: rest =>
      let size := (rest.takeWhile (· ≠ '\n')).length
      go (1 + size) 0 (rest.drop size)
    | character :: rest =>
      if character = ' ' || (Text.liesIn [('\x0b', '\r'), ('\t', '\t')] character) then go 1 0 rest
      else (0, 0)
    | [] => (0, 0)

/-- The tokens of a text, behind those that stand in reverse, and what is wrong with parentheses and
braces. -/
def scan (line parens braces : Nat) (found : List Token) (mistakes : List Mistake) :
    Nat → Octets → List Token × List Mistake
  | 0, _ => (found.reverse, mistakes)
  | fuel + 1, text =>
    let (size, lines) := blanks (text.length + 1) text
    let text := text.drop size
    let line := line + lines
    let previous := match found with
      | token :: _ => token.kind
      | [] => .line
    let (kind, size) := first previous text
    let token : Token := ⟨kind, line, text.take size, parens, braces⟩
    let text := text.drop size
    let line := line + ((token.shown.filter (· = '\n')).length)
    match kind with
    | .finish => ((token :: found).reverse, mistakes)
    | .wrong _ _ => ((token :: found).reverse, mistakes)
    | .mark "(" => scan line (parens + 1) braces (token :: found) mistakes fuel text
    | .mark ")" =>
      if parens = 0 then
        scan line 0 braces found (mistakes ++ [⟨token.line, "extra ')'".toList, false⟩]) fuel text
      else scan line (parens - 1) braces (token :: found) mistakes fuel text
    | .mark "\x7b" => scan line parens (braces + 1) (token :: found) mistakes fuel text
    | .mark "\x7d" =>
      if braces = 0 then
        let stray := { token with shown := "end of line".toList }
        ((stray :: found).reverse, mistakes ++ [⟨token.line, "extra '\x7d'".toList, false⟩])
      else scan line parens (braces - 1) (token :: found) mistakes fuel text
    | _ => scan line parens braces (token :: found) mistakes fuel text

/-- The tokens of a program. -/
def ofText (text : Octets) : List Token × List Mistake :=
  scan 1 0 0 [] [] (text.length + 2) (text ++ ['\n'])

end Token

end CorpusJudge.Record
