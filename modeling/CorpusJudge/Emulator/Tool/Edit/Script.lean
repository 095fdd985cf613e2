import CorpusJudge.Emulator.Tool.Regex

/-!
# Editing scripts

A script is a list of commands, each for some of the lines.  Reading one keeps the text that is
left, so that a mistake is known by how much of the script had been read.
-/

namespace CorpusJudge.Edit

/-- A line, or a condition on lines, that a command is for.  The last two are only used for the end
of a range: so many lines behind its start, and the next line with a number that is a multiple. -/
inductive Address where
  | line (number : Nat)
  | step (first step : Nat)
  | last
  | matching (regex : Option Regex) (foldsCase isByLine : Bool)
  | plus (count : Nat)
  | multiple (step : Nat)

/-- A part of what stands in for a match. -/
inductive Replacement where
  | text (text : Octets)
  | group (number : Nat)
  | change (letter : Char)

/-- What is put in place of which matches, and what happens then. -/
structure Substitution where
  regex : Option Regex
  foldsCase : Bool
  isByLine : Bool
  replacement : List Replacement
  isGlobal : Bool
  first : Nat
  shows : Bool
  executes : Bool
  file : Option Octets

/-- What a command does. -/
inductive Act where
  | block (finish : Nat)
  | nothing
  | showNumber
  | append (text : Octets)
  | insert (text : Octets)
  | replace (text : Octets)
  | jump (target : Option Octets)
  | jumpIfChanged (target : Option Octets)
  | jumpUnlessChanged (target : Option Octets)
  | label (name : Octets)
  | delete
  | deleteFirst
  | execute (command : Octets)
  | showName
  | take
  | takeMore
  | keep
  | keepMore
  | exchange
  | list (width : Option Nat)
  | next
  | nextMore
  | show
  | showFirst
  | quit (status : Nat)
  | quitSilently (status : Nat)
  | readFile (path : Octets)
  | readLine (path : Octets)
  | substitute (substitution : Substitution)
  | write (path : Octets)
  | writeFirst (path : Octets)
  | translate (pairs : List (Char × Char))
  | clear

/-- A command: the first and the last of its lines, whether it is for all others, and what it does. -/
structure Command where
  first : Option Address
  last : Option Address
  isNegated : Bool
  act : Act

/-- A mistake in a script: its wording, and how much of the script was left.  Some are noticed only
at the end, and are at no place; some are late even for that, when all has been read. -/
structure Mistake where
  message : String
  left : Option Nat
  isLate : Bool := false

/-- A reader of scripts.  Its state is the text that is left. -/
abbrev Reader (α : Type) := StateT Octets (Except Mistake) α

namespace Reader

/-- Give up at the place that has been reached. -/
def fail {α : Type} (message : String) : Reader α := do
  throw ⟨message, some (← get).length, false⟩

/-- The next character, if there is one. -/
def next? : Reader (Option Char) := do
  match ← get with
  | [] => return none
  | character :: rest =>
    set rest
    return some character

/-- Put a character back. -/
def back (character : Option Char) : Reader Unit :=
  match character with
  | some character => modify (character :: ·)
  | none => pure ()

/-- Whether a character is a blank. -/
def isBlank (character : Char) : Bool := character = ' ' || character = '\t'

/-- Whether a character is a blank or a break. -/
def isSpace (character : Char) : Bool := Text.liesIn [('\t', '\r'), (' ', ' ')] character

/-- The next character that is no blank. -/
def nextBehindBlanks? : Reader (Option Char) := do
  modify (List.dropWhile isBlank)
  next?

/-- The number that the next digits write. -/
def number : Reader Nat := do
  let digits := (← get).takeWhile Char.isDigit
  modify (List.drop digits.length)
  return (Integer.natural? 10 digits).getD 0

/-- The rest of the line. -/
def restOfLine : Reader Octets := do
  let line := (← get).takeWhile (· ≠ '\n')
  modify fun text => (text.drop line.length).drop 1
  return line

/-- Read the end of a command. -/
def endOfCommand : Reader Unit := do
  match ← nextBehindBlanks? with
  | none => pure ()
  | some '\n' => pure ()
  | some ';' => pure ()
  | some '\x7d' => back (some '\x7d')
  | some '#' => back (some '#')
  | some _ => fail "extra characters after command"

end Reader

/-! ## Delimited texts -/

/-- The rest of a set in brackets, in reverse in front of what was read before, and what follows. -/
def skipSet (read : Octets) : Nat → Octets → Option (Octets × Octets)
  | 0, _ => none
  | fuel + 1, text =>
    match text with
    | [] => none
    | '\n' :: _ => none
    | ']' :: rest => some (']' :: read, rest)
    | '\\' :: 'n' :: rest => skipSet ('\n' :: read) fuel rest
    | '[' :: kind :: rest =>
      if kind = ':' || kind = '.' || kind = '=' then
        let name := rest.takeWhile (· ≠ kind)
        match rest.drop name.length with
        | _ :: ']' :: after =>
          skipSet (']' :: kind :: name.reverse ++ kind :: '[' :: read) fuel after
        | _ => skipSet ('[' :: read) fuel (kind :: rest)
      else skipSet ('[' :: read) fuel (kind :: rest)
    | character :: rest => skipSet (character :: read) fuel rest

/-- The text up to a mark that no backslash guards, and what follows the mark; what was read stands
in reverse.  A mark inside a set of a pattern does not count.  Without the mark, the result is what
is left. -/
def splitAt (mark : Char) (isPattern : Bool) (read : Octets) :
    Nat → Octets → Except Octets (Octets × Octets)
  | 0, text => .error text
  | fuel + 1, text =>
    match text with
    | [] => .error []
    | ['\\'] => .error []
    | '\\' :: character :: rest =>
      let kept := if character = 'n' && isPattern then '\n' :: read
        else if character = '\n' || (character = mark && (isPattern || mark ≠ '&')) then
          character :: read
        else character :: '\\' :: read
      splitAt mark isPattern kept fuel rest
    | character :: rest =>
      if character = mark then .ok (read.reverse, rest)
      else if character = '\n' then .error text
      else if character = '[' && isPattern then
        let (opened, inside) := match rest with
          | '^' :: ']' :: inside => (']' :: '^' :: '[' :: read, inside)
          | '^' :: inside => ('^' :: '[' :: read, inside)
          | ']' :: inside => (']' :: '[' :: read, inside)
          | inside => ('[' :: read, inside)
        match skipSet opened fuel inside with
        | some (read, after) => splitAt mark isPattern read fuel after
        | none => .error []
      else splitAt mark isPattern (character :: read) fuel rest

/-- The text up to a mark. -/
def delimited (mark : Char) (isPattern : Bool) (complaint : String) : Reader Octets := do
  let text ← get
  match splitAt mark isPattern [] (text.length + 1) text with
  | .ok (inside, rest) =>
    set rest
    return inside
  | .error rest =>
    set rest
    Reader.fail complaint

/-! ## Escapes -/

/-- The character with a number that the next digits write, at most so many, and what follows. -/
def numbered? (base most : Nat) (text : Octets) : Option (Char × Octets) :=
  let digits := (text.take most).takeWhile fun digit => (Integer.digitValue? base digit).isSome
  (Integer.natural? base digits).map fun value =>
    (Char.ofNat (value % 256), text.drop digits.length)

/-- The character that an escape stands for, if it stands for one, and what follows. -/
def escape? (text : Octets) : Option (Char × Octets) :=
  match text with
  | 'a' :: rest => some ('\x07', rest)
  | 'f' :: rest => some ('\x0c', rest)
  | 'n' :: rest => some ('\n', rest)
  | 'r' :: rest => some ('\r', rest)
  | 't' :: rest => some ('\t', rest)
  | 'v' :: rest => some ('\x0b', rest)
  | 'd' :: rest => numbered? 10 3 rest
  | 'o' :: rest => numbered? 8 3 rest
  | 'x' :: rest => numbered? 16 2 rest
  | _ => none

/-- The characters that are operators in patterns. -/
def specials : Octets := "^$.*[]\\/+?()|\x7b\x7d".toList

/-- A pattern with the characters in place of their escapes. -/
def plainPattern : Nat → Octets → Octets
  | 0, text => text
  | fuel + 1, text =>
    match text with
    | '\\' :: rest =>
      match escape? rest with
      | some (character, after) =>
        if specials.contains character then '\\' :: character :: plainPattern fuel after
        else character :: plainPattern fuel after
      | none => '\\' :: rest.take 1 ++ plainPattern fuel (rest.drop 1)
    | character :: rest => character :: plainPattern fuel rest
    | [] => []

/-- A text with the characters in place of their escapes, and without other backslashes. -/
def plainText : Nat → Octets → Octets
  | 0, text => text
  | fuel + 1, text =>
    match text with
    | '\\' :: rest =>
      match escape? rest with
      | some (character, after) => character :: plainText fuel after
      | none => rest.take 1 ++ plainText fuel (rest.drop 1)
    | character :: rest => character :: plainText fuel rest
    | [] => []

/-- A character in front of what stands in for a match. -/
def Replacement.cons (character : Char) : List Replacement → List Replacement
  | .text following :: rest => .text (character :: following) :: rest
  | parts => .text [character] :: parts

/-- The parts of what stands in for a match. -/
def replacementOf : Nat → Octets → List Replacement
  | 0, _ => []
  | fuel + 1, text =>
    match text with
    | [] => []
    | '&' :: rest => .group 0 :: replacementOf fuel rest
    | '\\' :: character :: rest =>
      if character.isDigit then .group (character.toNat - 48) :: replacementOf fuel rest
      else if "LUluE".toList.contains character then .change character :: replacementOf fuel rest
      else match escape? (character :: rest) with
        | some (meant, after) => Replacement.cons meant (replacementOf fuel after)
        | none => Replacement.cons character (replacementOf fuel rest)
    | character :: rest => Replacement.cons character (replacementOf fuel rest)

/-! ## Addresses -/

/-- The expression that a pattern writes; an empty pattern stands for the last one used. -/
def regexOf (isExtended : Bool) (pattern : Octets) : Reader (Option Regex) := do
  if pattern.isEmpty then return none
  match Regex.ofText ⟨isExtended, false⟩ (plainPattern pattern.length pattern) with
  | .ok regex => return some regex
  | .error fault => Reader.fail fault.message

/-- The flags behind the pattern of an address: without regard to case, and by line. -/
def addressFlags (foldsCase isByLine : Bool) : Nat → Reader (Bool × Bool)
  | 0 => return (foldsCase, isByLine)
  | fuel + 1 => do
    match ← Reader.nextBehindBlanks? with
    | some 'I' => addressFlags true isByLine fuel
    | some 'M' => addressFlags foldsCase true fuel
    | other =>
      Reader.back other
      return (foldsCase, isByLine)

/-- The address that starts with a character, if one does. -/
def address? (isExtended : Bool) (start : Option Char) : Reader (Option Address) := do
  let matching (mark : Char) : Reader (Option Address) := do
    let pattern ← delimited mark true "unterminated address regex"
    let (foldsCase, isByLine) ← addressFlags false false (← get).length
    return some (.matching (← regexOf isExtended pattern) foldsCase isByLine)
  match start with
  | some '/' => matching '/'
  | some '\\' =>
    match ← Reader.next? with
    | some mark => matching mark
    | none => Reader.fail "unterminated address regex"
  | some '$' => return some .last
  | some '+' => return some (.plus (← Reader.number))
  | some '~' => return some (.multiple (← Reader.number))
  | some digit =>
    if !digit.isDigit then return none
    Reader.back start
    let number ← Reader.number
    match ← Reader.nextBehindBlanks? with
    | some '~' =>
      let step ← Reader.number
      return some (if step = 0 then .line number else .step number step)
    | other =>
      Reader.back other
      return some (.line number)
  | none => return none

/-! ## Commands -/

/-- The name of a label, up to a blank or the end of the command. -/
def labelName (stops : Octets) : Reader Octets := do
  modify (List.dropWhile Reader.isSpace)
  let name := (← get).takeWhile fun character =>
    !Reader.isSpace character && !stops.contains character
  modify (List.drop name.length)
  return name

/-- The name of a file, up to the end of the line. -/
def fileName : Reader Octets := do
  modify (List.dropWhile Reader.isBlank)
  if (← get).head?.all (· = '\n') then Reader.fail "missing filename in r/R/w/W commands"
  Reader.restOfLine

/-- The lines of a text, up to the first break without a backslash, and what follows. -/
def textLines (read : Octets) : Octets → Octets × Octets
  | [] => (read.reverse, [])
  | ['\\'] => (read.reverse, [])
  | '\\' :: character :: rest => textLines (character :: '\\' :: read) rest
  | '\n' :: rest => (read.reverse, rest)
  | character :: rest => textLines (character :: read) rest

/-- The text of a command that adds lines. -/
def textBlock : Reader Octets := do
  let first ← Reader.nextBehindBlanks?
  let isGuarded := first = some '\\' && (← get).isEmpty
  match first with
  | none => Reader.fail "expected \\ after \x60a', \x60c' or \x60i'"
  | some '\\' =>
    let text ← get
    let blanks := text.takeWhile Reader.isBlank
    match text.drop blanks.length with
    | '\n' :: rest => set rest
    | _ => pure ()
  | other => Reader.back other
  let (lines, rest) := textLines [] (← get)
  set rest
  let lines := if lines.head? = some '\\' && (lines.drop 1).head?.any Reader.isBlank then lines.drop 1
    else lines
  if lines.isEmpty && isGuarded then return []
  return plainText lines.length lines ++ ['\n']

/-- The flags of a substitution. -/
def substitutionFlags (found : Substitution) (hasNumber : Bool) : Nat → Reader Substitution
  | 0 => return found
  | fuel + 1 => do
    match ← Reader.next? with
    | none => return found
    | some '\n' => return found
    | some ';' => return found
    | some '\x7d' =>
      Reader.back (some '\x7d')
      return found
    | some '#' =>
      Reader.back (some '#')
      return found
    | some 'g' =>
      if found.isGlobal then Reader.fail "multiple \x60g' options to \x60s' command"
      substitutionFlags { found with isGlobal := true } hasNumber fuel
    | some 'p' =>
      if found.shows then Reader.fail "multiple \x60p' options to \x60s' command"
      substitutionFlags { found with shows := true } hasNumber fuel
    | some 'i' => substitutionFlags { found with foldsCase := true } hasNumber fuel
    | some 'I' => substitutionFlags { found with foldsCase := true } hasNumber fuel
    | some 'm' => substitutionFlags { found with isByLine := true } hasNumber fuel
    | some 'M' => substitutionFlags { found with isByLine := true } hasNumber fuel
    | some 'e' => substitutionFlags { found with executes := true } hasNumber fuel
    | some 'w' => return { found with file := some (← fileName) }
    | some character =>
      if Reader.isBlank character then substitutionFlags found hasNumber fuel
      else if character.isDigit then
        if hasNumber then Reader.fail "multiple number options to \x60s' command"
        Reader.back (some character)
        let number ← Reader.number
        if number = 0 then Reader.fail "number option to \x60s' command may not be zero"
        substitutionFlags { found with first := number } true fuel
      else Reader.fail "unknown option to \x60s'"

/-- The command that replaces matches. -/
def substitution (isExtended : Bool) : Reader Act := do
  let complaint := "unterminated \x60s' command"
  match ← Reader.next? with
  | none => Reader.fail complaint
  | some mark =>
    let pattern ← delimited mark true complaint
    let text ← delimited mark false complaint
    let parts := replacementOf text.length text
    let plain : Substitution := ⟨none, false, false, parts, false, 1, false, false, none⟩
    let found ← substitutionFlags plain false ((← get).length + 1)
    let regex ← regexOf isExtended pattern
    let groups := (regex.map Regex.groupCount).getD 9
    let missing := parts.find? fun part => match part with
      | .group number => groups < number
      | _ => false
    match missing with
    | some (.group number) => Reader.fail s!"invalid reference \\{number} on \x60s' command's RHS"
    | _ => return .substitute { found with regex := regex }

/-- The characters of one side of a translation, with their escapes resolved. -/
def translated : Nat → Octets → Octets
  | 0, text => text
  | fuel + 1, text =>
    match text with
    | '\\' :: '\\' :: rest => '\\' :: translated fuel rest
    | '\\' :: rest =>
      match escape? rest with
      | some (character, after) => character :: translated fuel after
      | none => '\\' :: translated fuel rest
    | character :: rest => character :: translated fuel rest
    | [] => []

/-- The command that replaces characters one by one. -/
def translation : Reader Act := do
  let complaint := "unterminated \x60y' command"
  match ← Reader.next? with
  | none => Reader.fail complaint
  | some mark =>
    let source ← delimited mark false complaint
    let target ← delimited mark false complaint
    let source := translated source.length source
    let target := translated target.length target
    if source.length ≠ target.length then
      Reader.fail "strings for \x60y' command are different lengths"
    Reader.endOfCommand
    return .translate (source.zip target)

/-- The number behind a command, if there is one. -/
def optionalNumber : Reader (Option Nat) := do
  match ← Reader.nextBehindBlanks? with
  | some digit =>
    Reader.back (some digit)
    if digit.isDigit then
      let number ← Reader.number
      return some number
    return none
  | none => return none

/-- The commands that stand alone. -/
def plainAct? : Char → Option Act
  | '=' => some .showNumber
  | 'd' => some .delete
  | 'D' => some .deleteFirst
  | 'F' => some .showName
  | 'g' => some .take
  | 'G' => some .takeMore
  | 'h' => some .keep
  | 'H' => some .keepMore
  | 'n' => some .next
  | 'N' => some .nextMore
  | 'p' => some .show
  | 'P' => some .showFirst
  | 'x' => some .exchange
  | 'z' => some .clear
  | _ => none

/-- What the command with a letter does. -/
def act (isExtended : Bool) (hasLast : Bool) (letter : Char) : Reader Act := do
  let target (jump : Option Octets → Act) : Reader Act := do
    let name ← labelName [';', '\x7d']
    Reader.endOfCommand
    return jump (if name.isEmpty then none else some name)
  let status (quit : Nat → Act) : Reader Act := do
    if hasLast then Reader.fail "command only uses one address"
    let number ← optionalNumber
    Reader.endOfCommand
    return quit (number.getD 0)
  match plainAct? letter with
  | some found =>
    Reader.endOfCommand
    return found
  | none =>
    match letter with
    | 'a' => .append <$> textBlock
    | 'i' => .insert <$> textBlock
    | 'c' => .replace <$> textBlock
    | ':' =>
      let name ← labelName [';']
      if name.isEmpty then Reader.fail "\":\" lacks a label"
      return .label name
    | 'b' => target .jump
    | 't' => target .jumpIfChanged
    | 'T' => target .jumpUnlessChanged
    | 'e' =>
      modify (List.dropWhile Reader.isBlank)
      .execute <$> Reader.restOfLine
    | 'l' =>
      let width ← optionalNumber
      Reader.endOfCommand
      return .list width
    | 'q' => status .quit
    | 'Q' => status .quitSilently
    | 'r' => .readFile <$> fileName
    | 'R' => .readLine <$> fileName
    | 'w' => .write <$> fileName
    | 'W' => .writeFirst <$> fileName
    | 's' => substitution isExtended
    | 'y' => translation
    | 'v' =>
      let _ ← labelName [';']
      Reader.endOfCommand
      return .nothing
    | _ => Reader.fail s!"unknown command: \x60{String.ofList [letter]}'"

/-- The lines that the next command is for, and its letter. -/
def addresses (isExtended : Bool) :
    Reader (Option Address × Option Address × Bool × Option Char) := do
  let start ← Reader.next?
  let first ← address? isExtended start
  let relative := match first with
    | some (.plus _) => true
    | some (.multiple _) => true
    | _ => false
  if relative then Reader.fail "invalid usage of +N or ~N as first address"
  let mut last := none
  let mut letter := start
  if first.isSome then
    letter ← Reader.nextBehindBlanks?
    if letter = some ',' then
      last ← address? isExtended (← Reader.nextBehindBlanks?)
      if last.isNone then Reader.fail "unexpected \x60,'"
      letter ← Reader.nextBehindBlanks?
    let endsAtMatch := match last with
      | some (.matching _ _ _) => true
      | _ => false
    match first with
    | some (.line 0) => if !endsAtMatch then Reader.fail "invalid usage of line address 0"
    | _ => pure ()
  if letter = some '!' then
    letter ← Reader.nextBehindBlanks?
    if letter = some '!' then Reader.fail "multiple \x60!'s"
    return (first, last, true, letter)
  return (first, last, false, letter)

/-- Close the innermost of the blocks that are open, by their places. -/
def closeBlock (commands : Array Command) (opened : Nat) : Array Command :=
  commands.modify opened fun command => { command with act := .block (commands.size + 1) }

/-- Read commands behind those read before, inside the blocks that are open. -/
def commands (isExtended : Bool) (found : Array Command) (blocks : List Nat) :
    Nat → Reader (Array Command)
  | 0 => return found
  | fuel + 1 => do
    modify (List.dropWhile fun character => Reader.isSpace character || character = ';')
    if (← get).isEmpty then
      if blocks.isEmpty then return found else throw ⟨"unmatched \x60\x7b'", none, false⟩
    let (first, last, isNegated, letter) ← addresses isExtended
    match letter with
    | none => Reader.fail "missing command"
    | some '#' =>
      if first.isSome then Reader.fail "comments don't accept any addresses"
      let _ ← Reader.restOfLine
      commands isExtended found blocks fuel
    | some '\x7b' =>
      commands isExtended (found.push ⟨first, last, isNegated, .block 0⟩) (found.size :: blocks) fuel
    | some '\x7d' =>
      match blocks with
      | [] => Reader.fail "unexpected \x60\x7d'"
      | opened :: outer =>
        if first.isSome then Reader.fail "\x7d doesn't want any addresses"
        Reader.endOfCommand
        let found := closeBlock found opened
        commands isExtended (found.push ⟨none, none, false, .nothing⟩) outer fuel
    | some letter =>
      if letter = ':' && first.isSome then Reader.fail ": doesn't want any addresses"
      let act ← act isExtended last.isSome letter
      commands isExtended (found.push ⟨first, last, isNegated, act⟩) blocks fuel

/-- The labels that commands jump to. -/
def targetOf : Act → Option Octets
  | .jump target => target
  | .jumpIfChanged target => target
  | .jumpUnlessChanged target => target
  | _ => none

/-- Read a script. -/
def read (isExtended : Bool) (script : Octets) : Except Mistake (Array Command) := do
  let (found, _) ← (commands isExtended #[] [] (2 * script.length + 2)).run script
  let labels := found.toList.filterMap fun command => match command.act with
    | .label name => some name
    | _ => none
  match (found.toList.filterMap fun command => targetOf command.act).find?
      fun name => !labels.contains name with
  | some name => throw ⟨s!"can't find label for jump to \x60{String.ofList name}'", none, true⟩
  | none => return found

end CorpusJudge.Edit
