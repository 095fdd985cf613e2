import CorpusJudge.Emulator.Shell.Grammar

/-!
# Tokens of shell scripts

The text of a script is read token by token.  A token may be a whole word with the expansions inside it.
-/

namespace CorpusJudge.Shell

/-- What the text of a script consists of.  A word that stands where a command may start and is
one of the reserved ones is a keyword. -/
inductive Token where
  | eof
  | newline
  | operator (text : String)
  | keyword (text : String)
  | redirection (redirection : Redirection)
  | word (parts : Word)

/-- What is wrong with a script. -/
inductive MistakeCause where
  /-- A token that may not stand where it does, as it is written, and which one should stand there. -/
  | unexpected (token : Token) (text : List Char) (wanted : Option String)
  /-- A mark that is never closed, and the line on which it stands. -/
  | unclosed (mark : String) (start : Nat) (message : String)
  /-- A condition that cannot be read: the line of what is wrong, what is said about it, and how much of
  the text is left behind it; none if the text has ended. -/
  | condition (line : Nat) (messages : List String) (left : Option Nat)
  /-- A loop that counts without its three parts. -/
  | counting (text : List Char)
  | other (message : String)

/-- A mistake in a script and the line on which it is noticed.  A script may go on behind the line of a
mistake: then there is how much of the text is left behind it. -/
structure Mistake where
  line : Nat
  cause : MistakeCause
  resumes : Option Nat := none

/-- An alias whose text is being read: its name, how much text is left behind it, and whether the word
there may be an alias too. -/
structure Replacing where
  name : String
  left : Nat
  goesOn : Bool

/-- A script that is being read: the text ahead, the number of the line, the lines of here texts to
be counted with the next line break, a token that was looked at but not used, the aliases there are,
those that are being read, and whether the next word may be one in any case; the dialect, whether
patterns may be lists, whether a word may hold a list of values, where the last token starts, what is
doubtful so far, and whether words are kept as they are written. -/
structure Source where
  rest : List Char
  line : Nat
  heldLines : Nat := 0
  pushed : Option Token := none
  aliases : List (String × List Char) := []
  replacing : List Replacing := []
  expectsAlias : Bool := false
  dialect : Dialect := .plain
  hasPatternLists : Bool := false
  allowsLists : Bool := false
  tokenStart : List Char := []
  doubts : List (Nat × String) := []
  isVerbatim : Bool := false

namespace Source

/-- A text of its own that starts on a line, inside another one. -/
def inside (source : Source) (text : List Char) (line : Nat) : Source where
  rest := text
  line := line
  aliases := source.aliases
  dialect := source.dialect
  hasPatternLists := source.hasPatternLists
  isVerbatim := source.isVerbatim

/-- Whether the script is in the extended dialect. -/
def isExtended (source : Source) : Bool := source.dialect = .extended

end Source

/-- A reader of some part of a script. -/
abbrev Reader (α : Type) := StateT Source (Except Mistake) α

namespace Reader

/-- Stop at a mistake on the current line. -/
def stop {α : Type} (cause : MistakeCause) : Reader α := do
  throw { line := (← get).line, cause := cause }

/-- Complain about the script at the current line. -/
def complain {α : Type} (message : String) : Reader α := stop (.other message)

/-- The text ahead. -/
def ahead : Reader (List Char) := do return (← get).rest

/-- The next character. -/
def peek : Reader (Option Char) := do return (← get).rest.head?

/-- Go past a number of characters, counting lines. -/
def drop (count : Nat) : Reader Unit :=
  modify fun source =>
    let breaks := (source.rest.take count).count '\n'
    { source with
      rest := source.rest.drop count
      line := source.line + breaks + (if breaks = 0 then 0 else source.heldLines)
      heldLines := if breaks = 0 then source.heldLines else 0 }

/-- Whether the script is in the extended dialect. -/
def isExtended : Reader Bool := return (← get).isExtended

end Reader

open Reader

/-- The reserved words of both dialects. -/
def keywords : List String :=
  ["!", "case", "do", "done", "elif", "else", "esac", "fi", "for", "if", "in", "then", "until",
    "while", "\x7b", "\x7d"]

/-- The reserved words of a dialect. -/
def keywordsOf : Dialect → List String
  | .plain => keywords
  | .extended => "[[" :: "coproc" :: "function" :: "select" :: "time" :: keywords

/-- The keywords and operators behind which a list of commands ends. -/
def listEnds : List String :=
  [")", ";;", ";&", ";;&", "do", "done", "elif", "else", "esac", "fi", "then", "\x7d"]

/-- Whether a character may start a name. -/
def isNameStart (character : Char) : Bool := character.isAlpha || character = '_'

/-- Whether a character may stand in a name. -/
def isNameChar (character : Char) : Bool := character.isAlphanum || character = '_'

/-- Whether characters make up a name. -/
def isName (characters : List Char) : Bool :=
  characters.head?.any isNameStart && characters.all isNameChar

/-- Whether a character is one of the parameters with a mark for a name. -/
def isSpecialParameter (character : Char) : Bool := "@*#?$!-".toList.contains character

/-- How a token is called in a complaint. -/
def Token.shown : Token → String
  | .eof => "end of file"
  | .newline => "newline"
  | .operator text => "\"" ++ text ++ "\""
  | .keyword text => "\"" ++ text ++ "\""
  | .redirection _ => "redirection"
  | .word _ => "word"

/-- How a token is written, given the text from its start to its end. -/
def Token.written (token : Token) (text : List Char) : List Char :=
  match token with
  | .eof => []
  | .newline => "newline".toList
  | .operator text => text.toList
  | .keyword text => text.toList
  | .redirection _ =>
    let digits := text.takeWhile Char.isDigit
    if digits.isEmpty then text.takeWhile fun character => "<>&|".toList.contains character else digits
  | .word _ => text

/-- Complain about the last token that was read, and tell which one should stand there. -/
def unexpected {α : Type} (token : Token) (wanted : Option String) : Reader α := do
  let source ← get
  let text := source.tokenStart.take (source.tokenStart.length - source.rest.length)
  stop (.unexpected token (token.written text) wanted)

namespace Mistake

/-- The wording of the plain dialect. -/
def message (mistake : Mistake) : String :=
  match mistake.cause with
  | .unexpected token _ wanted =>
    let expecting := match wanted with
      | some wanted => " (expecting " ++ wanted ++ ")"
      | none => ""
    token.shown ++ " unexpected" ++ expecting
  | .unclosed _ _ message => message
  | .condition _ _ _ => "word unexpected"
  | .counting _ => "word unexpected"
  | .other message => message

/-- The line of a text with a number, counted from the number of its first line. -/
def lineOf (text : List Char) (first number : Nat) : List Char :=
  let behind := (List.range (number - first)).foldl (fun rest _ =>
    (rest.dropWhile (· ≠ '\n')).drop 1) text
  behind.takeWhile (· ≠ '\n')

/-- The line on which a text that starts on some line ends. -/
def lastLine (text : List Char) (first : Nat) : Nat :=
  first + text.count '\n' + if text.getLast? = some '\n' || text.isEmpty then 0 else 1

/-- The line of a text that has been read so far, with its number, counted from that of the first line;
a line break belongs to the line that it ends. -/
def currentLine (text : List Char) (first read : Nat) : Nat × List Char × List Char :=
  let before := text.take read
  let whole := if before.getLast? = some '\n' then before.dropLast else before
  let start := read - (before.length - whole.length) - (whole.reverse.takeWhile (· ≠ '\n')).length
  (first + whole.count '\n', (text.drop start).takeWhile (· ≠ '\n'), text.drop start)

/-- The text around a place in a line that seems to be too much. -/
def offending (line : List Char) (place : Nat) : List Char :=
  let isBlank (character : Char) : Bool := character = ' ' || character = '\t' || character = '\n'
  let place := if place ≥ line.length then line.length - 1 else place
  let before := (line.take (place + 1)).reverse.dropWhile isBlank
  let isMark (character : Char) : Bool := ";|&".toList.contains character
  match before with
  | [] => line.take 1
  | last :: _ =>
    if isMark last then [last]
    else
      let word := before.takeWhile fun character => !isMark character && !isBlank character
      ((before.drop word.length).take 1).filter isMark ++ word.reverse

/-- What the extended dialect says about a mistake in a text that starts on a line: each complaint with
its line. -/
def messages (mistake : Mistake) (text : List Char) (first : Nat) : List (Nat × String) :=
  match mistake.cause with
  | .unexpected .eof _ _ => [(lastLine text first, "syntax error: unexpected end of file")]
  | .unexpected token written _ =>
    let line := match token with
      | .newline => mistake.line - 1
      | _ => mistake.line
    [(line, "syntax error near unexpected token \x60" ++ String.ofList written ++ "'"),
      (line, "\x60" ++ String.ofList (lineOf text first line) ++ "'")]
  | .unclosed mark start _ =>
    let line := if start = 0 then lastLine text first else start
    [(line, "unexpected EOF while looking for matching \x60" ++ mark ++ "'")]
  | .condition line messages left =>
    messages.map (line, ·) ++ match left with
      | none => [(lastLine text first, "syntax error: unexpected end of file")]
      | some left =>
        let read := text.length - left
        let (line, shown, rest) := currentLine text first read
        let place := read - (text.length - rest.length)
        let near := String.ofList (offending (shown ++ ['\n']) place)
        [(line, "syntax error near \x60" ++ near ++ "'"),
          (line, "\x60" ++ String.ofList shown ++ "'")]
  | .counting written =>
    [(mistake.line, "syntax error: arithmetic expression required"),
      (mistake.line, "syntax error: \x60((" ++ String.ofList written ++ "))'")]
  | .other message => [(mistake.line, message)]

end Mistake

/-- A text part in front of others, joined with a neighbor of the same kind. -/
def consText (isQuoted : Bool) (characters : List Char) (parts : Word) : Word :=
  match parts with
  | .text same more :: rest =>
    if same = isQuoted then .text isQuoted (characters ++ more) :: rest
    else .text isQuoted characters :: parts
  | _ => .text isQuoted characters :: parts

/-- Parts in order out of parts in reverse, with single characters joined to texts. -/
def joinParts (reversed : List Part) : Word :=
  reversed.foldl (fun parts part => match part with
    | .text isQuoted characters => consText isQuoted characters parts
    | _ => part :: parts) []

/-- Where a run of word parts is being read: as a bare word, between double quotes, inside the
braces of an expansion, as a here text, or inside an arithmetic expression; in the extended dialect also
as a pattern up to a slash, as a number up to a colon, inside the brackets of an element, inside a list
of patterns, or as a regular expression. -/
inductive Place where
  | word
  | quotes
  | braces (isQuoted : Bool)
  | hereText
  | arithmetic
  | slashed
  | sliced
  | subscript
  | patterns
  | regex
  deriving DecidableEq

namespace Place

/-- Whether what stands in a place counts as quoted. -/
def isQuoted : Place → Bool
  | .quotes => true
  | .braces isQuoted => isQuoted
  | .hereText => true
  | .arithmetic => true
  | .sliced => true
  | _ => false

/-- Whether double quotes are a mark in a place. -/
def hasQuotes : Place → Bool
  | .hereText => false
  | .arithmetic => false
  | _ => true

/-- Whether a character ends a bare word. -/
def endsWord (character : Char) : Bool :=
  " \t\n;&|<>()".toList.contains character

/-- Whether a character ends what stands in a place, inside so many marks that are still open. -/
def endsAt (place : Place) (depth : Nat) (character : Char) : Bool :=
  match place with
  | .word => endsWord character
  | .quotes => character = '"'
  | .braces _ => character = '\x7d'
  | .hereText => false
  | .arithmetic => character = ')' && depth = 0
  | .slashed => character = '/' || character = '\x7d'
  | .sliced => character = ':' && depth = 0 || character = '\x7d'
  | .subscript => character = ']' && depth = 0
  | .patterns => character = ')'
  | .regex => depth = 0 && endsWord character && character ≠ '(' && character ≠ '|'

/-- The marks that open and close a level in a place. -/
def levels : Place → List Char
  | .arithmetic => ['(', ')']
  | .sliced => ['(', ')']
  | .regex => ['(', ')']
  | .subscript => ['[', ']']
  | _ => []

/-- What is missing when a text ends in a place: the mark, and the wording of the plain dialect. -/
def missing? : Place → Option (String × String)
  | .word => none
  | .hereText => none
  | .regex => none
  | .quotes => some ("\"", "Unterminated quoted string")
  | .arithmetic => some (")", "Missing '))'")
  | .subscript => some ("]", "Missing ']'")
  | .patterns => some (")", "Missing ')'")
  | _ => some ("\x7d", "Missing '\x7d'")

end Place

/-- Whether a backslash keeps a character from its meaning inside quotes of a place. -/
def isEscapable (place : Place) (character : Char) : Bool :=
  character = '$' || character = '\x60' || character = '\\' ||
    (character = '"' && place ≠ .hereText) || (character = '\x7d' && place = .braces true)

/-- The text of a command in backquotes, with the backslashes resolved that guard it, and the rest
behind the closing backquote. -/
def splitBackquoted? (isQuoted : Bool) (done : List Char) :
    List Char → Option (List Char × List Char)
  | [] => none
  | '\x60' :: rest => some (done.reverse, rest)
  | '\\' :: character :: rest =>
    if character = '\x60' || character = '$' || character = '\\' ||
        (isQuoted && character = '"') then
      splitBackquoted? isQuoted (character :: done) rest
    else splitBackquoted? isQuoted (character :: '\\' :: done) rest
  | character :: rest => splitBackquoted? isQuoted (character :: done) rest

/-- The text up to the closing parenthesis for so many that are open, and the rest behind it.
Parentheses in quotes do not count. -/
def splitParentheses? (done : List Char) : Nat → Nat → List Char → Option (List Char × List Char)
  | 0, _, _ => none
  | fuel + 1, depth, text =>
    match text with
    | [] => none
    | '\\' :: character :: rest => splitParentheses? (character :: '\\' :: done) fuel depth rest
    | '(' :: rest => splitParentheses? ('(' :: done) fuel (depth + 1) rest
    | ')' :: rest =>
      if depth = 0 then some (done.reverse, rest)
      else splitParentheses? (')' :: done) fuel (depth - 1) rest
    | character :: rest =>
      if character = '\'' || character = '"' then
        let quoted := rest.takeWhile (· ≠ character)
        let behind := rest.drop quoted.length
        splitParentheses? (behind.take 1 ++ quoted.reverse ++ character :: done) fuel depth
          (behind.drop 1)
      else splitParentheses? (character :: done) fuel depth rest

/-- The text of a calculation behind two opening parentheses, and the rest behind the two closing ones;
there may be none. -/
def splitCalculation? (text : List Char) : Option (List Char × List Char) :=
  match splitParentheses? [] (text.length + 1) 0 text with
  | some (inner, ')' :: rest) => some (inner, rest)
  | _ => none

/-- The operators of expansions in braces, without their colon. -/
def fallbackOf? : Char → Option Fallback
  | '-' => some .use
  | '=' => some .assign
  | '?' => some .complain
  | '+' => some .replace
  | _ => none

/-- The name of a parameter at the start of a text. -/
def parameterName (text : List Char) : List Char :=
  match text with
  | [] => []
  | first :: _ =>
    if isNameStart first then text.takeWhile isNameChar
    else if first.isDigit then text.takeWhile Char.isDigit
    else if isSpecialParameter first then [first]
    else []

/-- The lines of a here text up to its end mark: the text, how many lines it takes with the mark,
the rest, and whether the mark is there. -/
def splitHereText (mark : List Char) (dropTabs : Bool) :
    Nat → List Char → List Char × Nat × List Char × Bool
  | 0, text => ([], 0, text, false)
  | fuel + 1, text =>
    if text.isEmpty then ([], 0, [], false)
    else
      let raw := text.takeWhile (· ≠ '\n')
      let rest := text.drop raw.length
      let line := if dropTabs then raw.dropWhile (· = '\t') else raw
      if line = mark then ([], 1, rest.drop 1, true)
      else
        let (more, count, after, isEnded) := splitHereText mark dropTabs fuel (rest.drop 1)
        (line ++ rest.take 1 ++ more, count + 1, after, isEnded)

/-- The text of a word that is all text, and whether some of it is quoted. -/
def plainText? (parts : Word) : Option (List Char × Bool) :=
  parts.foldl (fun known part => match known, part with
    | some (characters, isQuoted), .text quoted more => some (characters ++ more, isQuoted || quoted)
    | _, _ => none) (some ([], false))

/-- What opens a redirection, and how many characters write it. -/
def openingOf? (dialect : Dialect) : List Char → Option (Opening × Nat)
  | '<' :: '<' :: '<' :: _ =>
    if dialect = .extended then some (.hereWord, 3) else some (.hereText, 2)
  | '<' :: '<' :: _ => some (.hereText, 2)
  | '<' :: '&' :: _ => some (.duplicate, 2)
  | '<' :: '>' :: _ => some (.readWrite, 2)
  | '<' :: '(' :: _ => if dialect = .extended then none else some (.input, 1)
  | '<' :: _ => some (.input, 1)
  | '>' :: '>' :: _ => some (.append, 2)
  | '>' :: '&' :: _ => some (.duplicate, 2)
  | '>' :: '|' :: _ => some (.clobber, 2)
  | '>' :: '(' :: _ => if dialect = .extended then none else some (.output, 1)
  | '>' :: _ => some (.output, 1)
  | '&' :: '>' :: '>' :: _ => if dialect = .extended then some (.both true, 3) else none
  | '&' :: '>' :: _ => if dialect = .extended then some (.both false, 2) else none
  | _ => none

/-- The operators of command lists, longer ones first. -/
def operatorsOf : Dialect → List String
  | .plain => ["&&", "||", ";;", ";", "&", "|", "(", ")"]
  | .extended => ["&&", "||", ";;&", ";;", ";&", "|&", ";", "&", "|", "(", ")"]

/-- Go past blanks, continued lines and a comment. -/
def skipBlanks : Nat → Reader Unit
  | 0 => pure ()
  | fuel + 1 => do
    match ← ahead with
    | ' ' :: _ | '\t' :: _ => do
      drop 1
      skipBlanks fuel
    | '\\' :: '\n' :: _ => do
      drop 2
      skipBlanks fuel
    | '#' :: rest => drop (rest.takeWhile (· ≠ '\n')).length.succ
    | _ => pure ()

/-- Go past blanks, comments and ends of lines. -/
def skipLines : Nat → Reader Unit
  | 0 => pure ()
  | fuel + 1 => do
    skipBlanks (← ahead).length
    match ← ahead with
    | '\n' :: _ => do
      drop 1
      skipLines fuel
    | _ => pure ()

/-- A name and an equals sign at the start of a word, with what they assign. -/
def assignmentOf? (dialect : Dialect) (parts : Word) : Option Assignment :=
  match parts with
  | [.assigned assignment] => if dialect = .extended then some assignment else none
  | .text false characters :: rest =>
    let start := characters.takeWhile (· ≠ '=')
    let after := characters.drop start.length
    let appends := dialect = .extended && start.getLast? = some '+'
    let name := if appends then start.dropLast else start
    if isName name && !after.isEmpty then
      let value := after.drop 1
      some (.mk (String.ofList name) none appends
        (if value.isEmpty then rest else .text false value :: rest))
    else none
  | _ => none

/-- Whether a word stands where the text of an alias that goes on has ended, given the script before
the word and the text behind it. -/
def isBehindAlias (before : Source) (after : List Char) : Bool :=
  before.replacing.any fun entry =>
    entry.goesOn && entry.left ≤ before.rest.length && after.length < entry.left

/-- Put the text of an alias in the place of its name, which has just been read, where aliases count.
An alias inside its own text stays as it is. -/
def replaceAlias (counts : Bool) (name : String) : Reader Bool := do
  let source ← get
  let active := source.replacing.filter fun entry => entry.left ≤ source.rest.length
  match (if counts then source.aliases.lookup name else none) with
  | some text =>
    if active.any (·.name = name) then return false
    let goesOn := text.getLast?.any fun last => last = ' ' || last = '\t'
    set { source with
      rest := text ++ source.rest
      replacing := ⟨name, source.rest.length, goesOn⟩ :: active }
    return true
  | none => return false

/-! ## Escapes between quotes -/

/-- The digits at the start of a text in a base, so many at most. -/
def digitsAhead (isDigit : Char → Bool) (most : Nat) (text : List Char) : List Char :=
  (text.take most).takeWhile isDigit

/-- Whether a character is a digit of hexadecimal notation. -/
def isHexDigit (character : Char) : Bool :=
  character.isDigit || ('a' ≤ character && character ≤ 'f') || ('A' ≤ character && character ≤ 'F')

/-- The number that digits write in a base. -/
def valueOf (base : Nat) (digits : List Char) : Nat :=
  digits.foldl (fun value digit =>
    let size := if digit.isDigit then digit.toNat - 48
      else if digit.isLower then digit.toNat - 87 else digit.toNat - 55
    base * value + size) 0

/-- A code point where only the first 128 are characters: others are shown by their numbers. -/
def codePointText (value : Nat) : List Char :=
  if value < 128 then [Char.ofNat value]
  else
    let digits := (Nat.toDigits 16 value).map Char.toUpper
    let (mark, width) := if value < 0x10000 then ('u', 4) else ('U', 8)
    '\\' :: mark :: List.replicate (width - digits.length) '0' ++ digits

/-- What the escape behind a backslash stands for, and the rest behind it. -/
def quotedEscape (text : List Char) : List Char × List Char :=
  match text with
  | [] => (['\\'], [])
  | character :: rest =>
    let hex (most : Nat) (make : Nat → List Char) : List Char × List Char :=
      match digitsAhead isHexDigit most rest with
      | [] => (['\\', character], rest)
      | digits => (make (valueOf 16 digits), rest.drop digits.length)
    match character with
    | 'a' => (['\x07'], rest)
    | 'b' => (['\x08'], rest)
    | 'e' => (['\x1b'], rest)
    | 'E' => (['\x1b'], rest)
    | 'f' => (['\x0c'], rest)
    | 'n' => (['\n'], rest)
    | 'r' => (['\r'], rest)
    | 't' => (['\t'], rest)
    | 'v' => (['\x0b'], rest)
    | '\\' => (['\\'], rest)
    | '\'' => (['\''], rest)
    | '"' => (['"'], rest)
    | '?' => (['?'], rest)
    | 'x' => hex 2 fun value => [Char.ofNat (value % 256)]
    | 'u' => hex 4 codePointText
    | 'U' => hex 8 codePointText
    | 'c' =>
      match rest with
      | control :: rest => ([Char.ofNat (control.toUpper.toNat % 32)], rest)
      | [] => (['\\', 'c'], [])
    | _ =>
      let isOctal (digit : Char) : Bool := '0' ≤ digit && digit ≤ '7'
      match digitsAhead isOctal 3 text with
      | [] => (['\\', character], rest)
      | digits => ([Char.ofNat (valueOf 8 digits % 256)], text.drop digits.length)

/-- The text up to a single quote, with its escapes resolved, and the rest behind the quote. -/
def splitEscaped? (done : List Char) : Nat → List Char → Option (List Char × List Char)
  | 0, _ => none
  | fuel + 1, text =>
    match text with
    | [] => none
    | '\'' :: rest => some (done.reverse.takeWhile (· ≠ '\x00'), rest)
    | '\\' :: rest =>
      let (characters, rest) := quotedEscape rest
      splitEscaped? (characters.reverse ++ done) fuel rest
    | character :: rest => splitEscaped? (character :: done) fuel rest

end CorpusJudge.Shell
