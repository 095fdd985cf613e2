import CorpusJudge.Emulator.Shell.Grammar
import CorpusJudge.Emulator.Shell.Quotation
import CorpusJudge.Emulator.Shell.Token

/-!
# Reading shell scripts

A script is read command line by command line, so that everything before a mistake is executed.
Words are read together with the expansions inside them.
-/

namespace CorpusJudge.Shell

open Reader

/-- Whether a word is the name of a command whose arguments may be assignments. -/
def isDeclaring (word : Word) : Bool :=
  match plainText? word with
  | some (name, false) =>
    ["declare", "typeset", "local", "export", "readonly"].contains (String.ofList name)
  | _ => false

/-- The name at the start of a text and what follows, if an element or a list of values is assigned
there: the text behind the name starts with a bracket, or with a parenthesis behind an equals sign. -/
def assignmentAhead? (text : List Char) : Option (List Char × Bool) :=
  let name := text.takeWhile isNameChar
  if !isName name then none
  else match text.drop name.length with
    | '[' :: _ => some (name, true)
    | '=' :: '(' :: _ => some (name, false)
    | '+' :: '=' :: '(' :: _ => some (name, false)
    | _ => none

/-- The operators with one operand in conditions. -/
def testOperators : List String :=
  ["-a", "-b", "-c", "-d", "-e", "-f", "-g", "-h", "-k", "-p", "-r", "-s", "-t", "-u", "-w", "-x",
    "-G", "-L", "-N", "-O", "-S", "-o", "-v", "-z", "-n", "-R"]

/-- The operators with two operands in conditions, apart from those that are marks. -/
def comparisons : List String :=
  ["==", "=", "!=", "=~", "-eq", "-ne", "-lt", "-le", "-gt", "-ge", "-nt", "-ot", "-ef"]

/-- Whether a word, as it is written, is one of some texts. -/
def isWritten (word : Word) (texts : List String) : Option String :=
  match plainText? word with
  | some (text, false) => texts.find? (·.toList = text)
  | _ => none

/-- The rest of a text behind the bracket that closes one which is open, if an assignment follows
there. -/
def behindBrackets? : Nat → Nat → List Char → Option (List Char)
  | 0, _, _ => none
  | fuel + 1, depth, text =>
    match text with
    | [] => none
    | '\\' :: _ :: rest => behindBrackets? fuel depth rest
    | '[' :: rest => behindBrackets? fuel (depth + 1) rest
    | ']' :: rest =>
      if depth = 0 then
        match rest with
        | '=' :: _ => some rest
        | '+' :: '=' :: _ => some rest
        | _ => none
      else behindBrackets? fuel (depth - 1) rest
    | character :: rest =>
      if character = '\'' || character = '"' then
        let quoted := rest.takeWhile (· ≠ character)
        behindBrackets? fuel depth (rest.drop (quoted.length + 1))
      else if character = '\n' || character = ';' then none
      else behindBrackets? fuel depth rest

/-- Whether a text starts with brackets and an assignment behind them. -/
def assignsElement (text : List Char) : Bool :=
  match text with
  | '[' :: rest => (behindBrackets? (rest.length + 1) 0 rest).isSome
  | _ => false

/-- Read something that some mark closes: if the mark is missing, tell where it was opened. -/
def closedBy {α : Type} (mark : String) (reader : Reader α) : Reader α := do
  let line := (← get).line
  tryCatch reader fun mistake =>
    match mistake.cause with
    | .unclosed missing 0 message =>
      if missing = mark then throw { mistake with cause := .unclosed mark line message }
      else throw mistake
    | _ => throw mistake

/-- Read a command that a parenthesis closes: in the extended dialect the end of the script means that the
parenthesis is missing. -/
def closedByParenthesis {α : Type} (reader : Reader α) : Reader α := do
  let isExtended ← isExtended
  tryCatch reader fun mistake =>
    match mistake.cause with
    | .unexpected .eof _ _ =>
      if isExtended then throw { mistake with cause := .unclosed ")" 0 "" } else throw mistake
    | _ => throw mistake

/-- What stands behind a dollar sign, as it is shown, given how it is written and what it is. -/
def writtenDollar (written : List Char) (part : Part) : List Char :=
  match written, part with
  | '(' :: _, .output _ command => '$' :: '(' :: Printing.inline command ++ [')']
  | '\'' :: _, .text true characters => Quotation.single characters
  | _, .text _ [] => []
  | _, _ => '$' :: written

/-- Read something after which a script goes on behind its line if there is a mistake. -/
def resumable {α : Type} (reader : Reader α) : Reader α := do
  let result := reader.run (← get)
  match result with
  | .ok (value, source) =>
    set source
    return value
  | .error mistake => throw { mistake with resumes := mistake.resumes.or (some 0) }

/-- A command whose output is wanted: a file alone is to be shown. -/
def shownCommand (dialect : Dialect) (command : Command) : Command :=
  match dialect, command with
  | .extended, .spoken _ _ (.simple line [] [] [.mk 0 .input target]) =>
    .simple line [] [[.text false "cat".toList]] [.mk 0 .input target]
  | _, _ => command

/-- What a command is that cannot be read. -/
def unreadable (text : List Char) (line : Nat) (mistake : Mistake) : Command :=
  .unreadable (mistake.messages text line)

/-- The line of a command for which it is the one that is executed; others only consist of commands. -/
def lineOf? : Command → Option Nat
  | .simple line _ _ _ => some line
  | .forEach line _ _ _ => some line
  | .menu line _ _ _ => some line
  | .select line _ _ => some line
  | .condition line _ => some line
  | .calculation line _ => some line
  | .counting line _ _ _ _ => some line
  | .redirected line command _ => (lineOf? command).map fun _ => line
  | _ => none

/-- A command with its text, if it is one that is executed itself. -/
def spoken (source : Source) (line : Nat) (text : List Char) (command : Command) : Command :=
  if !source.isExtended || source.isVerbatim then command
  else match command with
    | .subshell _ | .redirected _ (.subshell _) _ => .spoken line text command
    | _ => match lineOf? command with
      | some line => .spoken line text command
      | none => command

/-- What conditions consist of: words as they are written, and marks. -/
inductive TestToken where
  | word (parts : Word) (written : List Char)
  | mark (text : String)

/-- The marks of conditions, longer ones first. -/
def testMarks : List String :=
  ["&&", "||", ";;", ";", "&", "|", "(", ")", "<", ">"]

/-- Stop at a condition that cannot be read. -/
def stopTest {α : Type} (line : Nat) (token : TestToken) (messages : List String) : Reader α := do
  let left := (← get).rest.length
  stop (.condition line messages (match token with
    | .mark "EOF" => none
    | _ => some left))

/-- Stop where an operand of a condition should stand. -/
def stopOperand {α : Type} (line : Nat) (token : TestToken) (kind : String) : Reader α :=
  let text := match token with
    | .mark text => text
    | .word _ written => String.ofList written
  stopTest line token ["unexpected argument \x60" ++ text ++ "' to conditional " ++ kind ++ " operator"]

mutual

/-- The parts of a word up to where its place ends, behind those already read. -/
def readParts (place : Place) (depth : Nat) : Nat → List Part → Reader Word
  | 0, _ => complain "nesting too deep"
  | fuel + 1, reversed => do
    let isQuoted := place.isQuoted
    let source ← get
    match source.rest with
    | [] =>
      match place.missing? with
      | none => return joinParts reversed
      | some (mark, message) => stop (.unclosed mark 0 message)
    | character :: rest =>
      let opensChannel := source.isExtended && place = .word && rest.head? = some '(' &&
        (character = '<' || character = '>')
      if opensChannel then
        drop 2
        let command ← closedByParenthesis (readEnclosed fuel)
        let part := if source.isVerbatim then
            .text false (character :: '(' :: Printing.inline command ++ [')'])
          else .channel (character = '<') command
        readParts place depth fuel (part :: reversed)
      else if place = .arithmetic && character = ')' && depth = 0 && rest.head? ≠ some ')' then
        complain "Missing '))'"
      else if place.endsAt depth character then return joinParts reversed
      else if place.levels.contains character then
        drop 1
        readParts place (if place.levels.head? = some character then depth + 1 else depth - 1) fuel
          (.text isQuoted [character] :: reversed)
      else if character = '\\' then
        match rest with
        | '\n' :: _ =>
          drop 2
          readParts place depth fuel reversed
        | next :: _ =>
          if isQuoted && !isEscapable place next then
            drop 1
            readParts place depth fuel (.text true ['\\'] :: reversed)
          else
            drop 2
            let part := if source.isVerbatim then .text false ['\\', next] else .text true [next]
            readParts place depth fuel (part :: reversed)
        | [] =>
          drop 1
          readParts place depth fuel (.text isQuoted ['\\'] :: reversed)
      else if character = '\'' && !isQuoted then
        let quoted := rest.takeWhile (· ≠ '\'')
        if quoted.length = rest.length then
          stop (.unclosed "'" source.line "Unterminated quoted string")
        else
          drop (quoted.length + 2)
          let part := if source.isVerbatim then .text false ('\'' :: quoted ++ ['\''])
            else .text true quoted
          readParts place depth fuel (part :: reversed)
      else if character = '"' && place.hasQuotes then
        let inside ← closedBy "\"" do
          drop 1
          readParts .quotes 0 fuel []
        drop 1
        if source.isVerbatim then
          let mark := Part.text false ['"']
          readParts place depth fuel (mark :: inside.reverse ++ mark :: reversed)
        else readParts place depth fuel (inside.reverse ++ .text true [] :: reversed)
      else if character = '$' then
        drop 1
        let part ← readDollar isQuoted fuel
        let after ← ahead
        let part := if source.isVerbatim then
            .text false (writtenDollar (rest.take (rest.length - after.length)) part)
          else part
        readParts place depth fuel (part :: reversed)
      else if character = '\x60' then
        match splitBackquoted? isQuoted [] rest with
        | none => stop (.unclosed "\x60" source.line "EOF in backquote substitution")
        | some (inside, after) =>
          let length := rest.length - after.length + 1
          if source.isVerbatim then
            drop length
            readParts place depth fuel (.text false (source.rest.take length) :: reversed)
          else
            let line := if source.isExtended then source.line else 1
            let command ← tryCatch (Prod.fst <$> readNested fuel ((← get).inside inside line))
              fun mistake =>
                if source.isExtended then return unreadable inside line mistake else throw mistake
            drop length
            readParts place depth fuel
              (.output isQuoted (shownCommand source.dialect command) :: reversed)
      else if source.hasPatternLists && !isQuoted && rest.head? = some '(' &&
          "?*+@!".toList.contains character then
        drop 2
        let inside ← readParts .patterns 0 fuel []
        drop 1
        readParts place depth fuel
          (.text false [')'] :: inside.reverse ++ .text false [character, '('] :: reversed)
      else
        drop 1
        readParts place depth fuel (.text isQuoted [character] :: reversed)
termination_by structural fuel _ => fuel

/-- The commands up to a closing parenthesis, and past it. -/
def readEnclosed : Nat → Reader Command
  | 0 => complain "nesting too deep"
  | fuel + 1 => do
    let command ← readList 2 fuel
    match ← readToken true false fuel with
    | .operator ")" => return command
    | token => unexpected token (some "\")\"")
termination_by structural fuel => fuel

/-- The expansion behind a dollar sign; a dollar sign that starts none stands for itself. -/
def readDollar (isQuoted : Bool) : Nat → Reader Part
  | 0 => complain "nesting too deep"
  | fuel + 1 => do
    let source ← get
    let calculation? := match source.rest with
      | '(' :: '(' :: inside => if source.isExtended then splitCalculation? inside else none
      | _ => none
    match calculation?, source.rest with
    | some (inside, after), _ =>
      drop (source.rest.length - after.length)
      let (expression, _) ← readHere fuel (source.inside inside source.line)
      return .arithmetic isQuoted expression
    | none, '(' :: '(' :: inside =>
      if source.isExtended then
        if (splitParentheses? [] (inside.length + 1) 1 inside).isNone then
          stop (.unclosed ")" source.line "")
        drop 1
        return .output isQuoted (← closedByParenthesis (readEnclosed fuel))
      else
        drop 2
        let expression ← readParts .arithmetic 0 fuel []
        drop 2
        return .arithmetic isQuoted expression
    | none, '(' :: _ =>
      drop 1
      let command ← closedByParenthesis (readEnclosed fuel)
      return .output isQuoted (shownCommand source.dialect command)
    | none, '\x7b' :: _ =>
      closedBy "\x7d" do
        drop 1
        if source.isExtended then readReference isQuoted fuel else readBraces isQuoted fuel
    | none, text =>
      let isMark := source.isExtended && !isQuoted
      match text with
      | '\'' :: inside =>
        if !isMark then return .text isQuoted ['$']
        match splitEscaped? [] (inside.length + 1) inside with
        | some (characters, after) =>
          drop (text.length - after.length)
          return .text true characters
        | none => stop (.unclosed "'" source.line "")
      | '"' :: _ => return .text isQuoted (if isMark then [] else ['$'])
      | _ =>
        match parameterName text with
        | [] => return .text isQuoted ['$']
        | name =>
          let name := if name.head?.any Char.isDigit then name.take 1 else name
          drop name.length
          return .parameter isQuoted (String.ofList name) .plain
termination_by structural fuel => fuel

/-- An expansion in braces, behind the opening one. -/
def readBraces (isQuoted : Bool) : Nat → Reader Part
  | 0 => complain "nesting too deep"
  | fuel + 1 => do
    let text ← ahead
    let afterMark := text.drop 1
    let isLength := text.head? = some '#' && afterMark.head?.any fun next =>
      next ≠ '\x7d' && next ≠ ':' && next ≠ '%' &&
        !((parameterName afterMark).isEmpty)
    if isLength then
      let name := parameterName afterMark
      drop (name.length + 1)
      let _ ← readParts (.braces isQuoted) 0 fuel []
      drop 1
      return .parameter isQuoted (String.ofList name) .length
    else
      let name := parameterName text
      drop name.length
      let treatment ← readTreatment isQuoted fuel
      drop 1
      return .parameter isQuoted (String.ofList name) (if name.isEmpty then .invalid [] else treatment)
termination_by structural fuel => fuel

/-- An expansion in braces of the extended dialect, behind the opening one. -/
def readReference (isQuoted : Bool) : Nat → Reader Part
  | 0 => complain "nesting too deep"
  | fuel + 1 => do
    let text ← ahead
    let isMarked (mark : Char) : Bool := text.head? = some mark
    let behind := text.drop 1
    let name := parameterName behind
    let after := behind.drop name.length
    if isMarked '#' && !name.isEmpty && (after.head? = some '\x7d' || after.head? = some '[') then
      drop (name.length + 1)
      let index ← readIndex fuel
      let rest ← readParts (.braces isQuoted) 0 fuel []
      drop 1
      let treatment := if rest.isEmpty then Treatment.length else .invalid text
      return .element isQuoted false (String.ofList name) index treatment
    else if isMarked '!' && !name.isEmpty && (isName name || after.head? ≠ some '\x7d' || name ≠ ['-']) then
      drop (name.length + 1)
      match after with
      | '*' :: '\x7d' :: _ =>
        drop 2
        return .names isQuoted true (String.ofList name)
      | '@' :: '\x7d' :: _ =>
        drop 2
        return .names isQuoted false (String.ofList name)
      | _ =>
        let index ← readIndex fuel
        let treatment ← readTreatment isQuoted fuel
        drop 1
        match index, treatment with
        | .all _, .plain => return .element isQuoted false (String.ofList name) index .keys
        | _, _ => return .element isQuoted true (String.ofList name) index treatment
    else
      let name := parameterName text
      drop name.length
      let index ← if isName name then readIndex fuel else pure .whole
      let treatment ← readTreatment isQuoted fuel
      drop 1
      let written := text.take (text.length - (← ahead).length)
      let treatment : Treatment := match treatment with
        | .invalid _ => .invalid written
        | other => if name.isEmpty then .invalid written else other
      match index, treatment with
      | Index.whole, Treatment.plain => return .parameter isQuoted (String.ofList name) .plain
      | _, _ => return .element isQuoted false (String.ofList name) index treatment
termination_by structural fuel => fuel

/-- The brackets behind a name, if there are some. -/
def readIndex : Nat → Reader Index
  | 0 => complain "nesting too deep"
  | fuel + 1 => do
    match ← ahead with
    | '[' :: '@' :: ']' :: _ =>
      drop 3
      return .all false
    | '[' :: '*' :: ']' :: _ =>
      drop 3
      return .all true
    | '[' :: _ =>
      drop 1
      let expression ← readParts .subscript 0 fuel []
      drop 1
      return .at expression
    | _ => return .whole
termination_by structural fuel => fuel

/-- What follows a parameter's name in braces, up to the closing one. -/
def readTreatment (isQuoted : Bool) : Nat → Reader Treatment
  | 0 => complain "nesting too deep"
  | fuel + 1 => do
    let isExtended ← isExtended
    let colon := (← peek) = some ':'
    let text ← ahead
    let text := if colon then text.drop 1 else text
    match text with
    | [] => stop (.unclosed "\x7d" 0 "Missing '\x7d'")
    | mark :: rest =>
      match fallbackOf? mark with
      | some kind =>
        drop (if colon then 2 else 1)
        return .fallback colon kind (← readParts (.braces isQuoted) 0 fuel [])
      | none =>
        if !colon && mark = '\x7d' then return .plain
        else if !colon && (mark = '%' || mark = '#') then
          let longest := rest.head? = some mark
          drop (if longest then 2 else 1)
          return .strip (mark = '%') longest (← readParts (.braces false) 0 fuel [])
        else if isExtended && colon then
          drop 1
          let offset ← readParts .sliced 0 fuel []
          if (← peek) = some ':' then
            drop 1
            return .slice offset (some (← readParts .sliced 0 fuel []))
          else return .slice offset none
        else if isExtended && mark = '/' then
          let (kind, count) : Replacement × Nat := match rest with
            | '/' :: _ => (.every, 2)
            | '#' :: _ => (.start, 2)
            | '%' :: _ => (.finish, 2)
            | _ => (.first, 1)
          drop count
          let pattern ← readParts .slashed 0 fuel []
          if (← peek) = some '/' then drop 1
          return .replace kind pattern (← readParts (.braces false) 0 fuel [])
        else if isExtended && (mark = '^' || mark = ',') then
          let isEvery := rest.head? = some mark
          drop (if isEvery then 2 else 1)
          return .recase (mark = '^') isEvery (← readParts (.braces false) 0 fuel [])
        else
          match mark, rest with
          | '@', letter :: '\x7d' :: _ =>
            if isExtended then
              drop 2
              return .transform letter
            else
              let _ ← readParts (.braces isQuoted) 0 fuel []
              return .invalid []
          | _, _ =>
            let _ ← readParts (.braces isQuoted) 0 fuel []
            return .invalid []
termination_by structural fuel => fuel

/-- The next token, which may have been looked at before.  Line breaks are passed over where
`skipLines` says so; reserved words and aliases count where `reserved` says so. -/
def readToken (skipLines reserved : Bool) : Nat → Reader Token
  | 0 => complain "nesting too deep"
  | fuel + 1 => do
    let source ← get
    let token ← match source.pushed with
      | some token =>
        set { source with pushed := none }
        pure token
      | none =>
        if reserved then modify fun source => { source with allowsLists := true }
        scanToken fuel
    modify fun source => { source with allowsLists := false }
    match token with
    | .newline => if skipLines then readToken skipLines reserved fuel else return token
    | .word [.text false characters] =>
      let text := String.ofList characters
      if reserved && (keywordsOf source.dialect).contains text then return .keyword text
      let counts := reserved || source.expectsAlias || isBehindAlias source (← ahead)
      modify fun source => { source with expectsAlias := false }
      match ← replaceAlias counts text with
      | true =>
        modify fun source => { source with expectsAlias := true }
        readToken skipLines reserved fuel
      | false => return token
    | _ =>
      modify fun source => { source with expectsAlias := false }
      return token
termination_by structural fuel => fuel

/-- The next token of the text itself. -/
def scanToken : Nat → Reader Token
  | 0 => complain "nesting too deep"
  | fuel + 1 => do
    skipBlanks (← ahead).length
    let source ← get
    let text := source.rest
    set { source with tokenStart := text }
    match text with
    | [] => return .eof
    | '\n' :: _ =>
      drop 1
      return .newline
    | _ =>
      let digits := text.takeWhile Char.isDigit
      let isNumbered := digits.length = 1 || (source.isExtended && !digits.isEmpty)
      match openingOf? source.dialect (if isNumbered then text.drop digits.length else text) with
      | some (opening, count) =>
        let isOutput := (text.drop digits.length).head? ≠ some '<'
        let descriptor := if isNumbered then valueOf 10 digits else if isOutput then 1 else 0
        drop ((if isNumbered then digits.length else 0) + count)
        let token ← readTarget descriptor opening fuel
        modify fun source => { source with tokenStart := text }
        return token
      | none =>
        match (operatorsOf source.dialect).find? fun operator => operator.toList.isPrefixOf text with
        | some operator =>
          drop operator.length
          return .operator operator
        | none =>
          match (if source.isExtended && source.allowsLists then assignmentAhead? text else none) with
          | some (name, isElement) =>
            if !isElement || assignsElement (text.drop name.length) then
              let assignment ← readAssignment name fuel
              modify fun source => { source with tokenStart := text }
              if source.isVerbatim then
                return .word [.text false (Printing.ofAssignment assignment)]
              else return .word [.assigned assignment]
            else
              let parts ← readParts .word 0 fuel []
              modify fun source => { source with tokenStart := text }
              return .word parts
          | none =>
            let parts ← readParts .word 0 fuel []
            modify fun source => { source with tokenStart := text }
            return .word parts
termination_by structural fuel => fuel

/-- An assignment to an element, or of a list of values. -/
def readAssignment (name : List Char) : Nat → Reader Assignment
  | 0 => complain "nesting too deep"
  | fuel + 1 => do
    drop name.length
    let index ← if (← peek) = some '[' then
        drop 1
        let expression ← readParts .subscript 0 fuel []
        drop 1
        pure (some expression)
      else pure none
    let appends := (← peek) = some '+'
    drop (if appends then 2 else 1)
    if (← peek) = some '(' then
      let items ← resumable <| closedBy ")" do
        drop 1
        readItems [] fuel
      return .mk (String.ofList name) index appends [.elements items]
    else return .mk (String.ofList name) index appends (← readParts .word 0 fuel [])
termination_by structural fuel => fuel

/-- The values of a list up to a closing parenthesis, behind those that stand in reverse. -/
def readItems (reversed : List Item) : Nat → Reader (List Item)
  | 0 => complain "nesting too deep"
  | fuel + 1 => do
    skipLines (← ahead).length
    match ← ahead with
    | [] => stop (.unclosed ")" 0 "")
    | ')' :: _ =>
      drop 1
      return reversed.reverse
    | '[' :: inside =>
      if assignsElement ('[' :: inside) then
        drop 1
        let index ← readParts .subscript 0 fuel []
        drop 1
        let appends := (← peek) = some '+'
        drop (if appends then 2 else 1)
        readItems (.mk (some index) appends (← readParts .word 0 fuel []) :: reversed) fuel
      else readItems (.mk none false (← readParts .word 0 fuel []) :: reversed) fuel
    | character :: next :: _ =>
      if Place.endsWord character && next ≠ '(' then
        let token ← scanToken fuel
        let source ← get
        let text := source.tokenStart.take (source.tokenStart.length - source.rest.length)
        throw {
          line := source.line
          cause := .unexpected token (token.written text) none
          resumes := some source.rest.length }
      else readItems (.mk none false (← readParts .word 0 fuel []) :: reversed) fuel
    | [_] => stop (.unclosed ")" 0 "")
termination_by structural fuel => fuel

/-- The target of a redirection.  The text of a here text is taken from the lines below. -/
def readTarget (descriptor : Nat) (opening : Opening) : Nat → Reader Token
  | 0 => complain "nesting too deep"
  | fuel + 1 => do
    let dropTabs := opening = .hereText && (← peek) = some '-'
    if dropTabs then drop 1
    skipBlanks (← ahead).length
    let before ← get
    if before.isExtended then
      if let some (_, count) := openingOf? before.dialect before.rest then
        set { before with tokenStart := before.rest }
        drop count
        unexpected (.operator (String.ofList (before.rest.take count))) none
    modify fun source => { source with isVerbatim := source.isVerbatim && opening ≠ .hereText }
    let token ← readToken false false fuel
    modify fun source => { source with isVerbatim := before.isVerbatim }
    match token with
    | .word parts =>
      if opening ≠ .hereText then return .redirection (.mk descriptor opening parts)
      else
        let (mark, isQuoted) := (plainText? parts).getD ([], false)
        let source ← get
        let written := (before.rest.take (before.rest.length - source.rest.length)).dropWhile
          fun character => character = ' ' || character = '\t'
        let line := source.rest.takeWhile (· ≠ '\n')
        let below := source.rest.drop (line.length + 1)
        let (body, count, after, isEnded) := splitHereText mark dropTabs (below.length + 1) below
        let rest := line ++ (source.rest.drop line.length).take 1 ++ after
        let doubts := if isEnded then []
          else [(source.line + count, s!"warning: here-document at line {source.line} " ++
            "delimited by end-of-file (wanted \x60" ++ String.ofList mark ++ "')")]
        set { source with
          rest := rest, heldLines := source.heldLines + count, doubts := source.doubts ++ doubts }
        if source.isVerbatim then
          let shown := if dropTabs then '-' :: written else written
          return .redirection
            (.mk descriptor opening [.text false shown, .text false (body ++ mark)])
        else if isQuoted then return .redirection (.mk descriptor opening [.text true body])
        else
          let (parts, _) ← readHere fuel (source.inside body (source.line + 1))
          return .redirection (.mk descriptor opening parts)
    | token => unexpected token none
termination_by structural fuel => fuel

/-- The parts of a here text, which is a script text of its own. -/
def readHere : Nat → Source → Reader (Word × Source)
  | 0, _ => complain "nesting too deep"
  | fuel + 1, source => do
    match (readParts .hereText 0 fuel []).run source with
    | .ok result => return result
    | .error mistake => throw mistake
termination_by structural fuel _ => fuel

/-- The commands of a text of its own. -/
def readNested : Nat → Source → Reader (Command × Source)
  | 0, _ => complain "nesting too deep"
  | fuel + 1, source => do
    let inside : Reader Command := do
      let command ← readList 2 fuel
      match ← readToken true false fuel with
      | .eof => return command
      | token => unexpected token none
    match inside.run source with
    | .ok result => return result
    | .error mistake => throw mistake
termination_by structural fuel _ => fuel

/-- A list of commands.  In mode 1 it is one line, in mode 0 it runs up to a token that ends lists
and holds at least one command, in mode 2 it may also be empty. -/
def readList (mode : Nat) : Nat → Reader Command
  | 0 => complain "nesting too deep"
  | fuel + 1 => do
    let isLine := mode == 1
    match ← readToken (!isLine) true fuel with
    | .eof =>
      modify fun source => { source with pushed := some .eof }
      return .nothing
    | .newline => return .nothing
    | token =>
      modify fun source => { source with pushed := some token }
      let ends := match token with
        | .operator text => listEnds.contains text
        | .keyword text => listEnds.contains text
        | _ => false
      if mode = 2 && ends then return .nothing
      else
        let command ← readAndOr fuel
        match ← readToken false false fuel with
        | .operator "&" => readMore isLine (.background command) fuel
        | .operator ";" => readMore isLine command fuel
        | .newline =>
          if isLine then return command else readMore isLine command fuel
        | token =>
          match token with
          | .eof =>
            modify fun source => { source with pushed := some token }
            return command
          | _ =>
            if isLine then unexpected token none
            modify fun source => { source with pushed := some token }
            return command
termination_by structural fuel => fuel

/-- The commands of a list behind one that has been read. -/
def readMore (isLine : Bool) (first : Command) : Nat → Reader Command
  | 0 => complain "nesting too deep"
  | fuel + 1 => do
    if isLine then
      match ← readToken false true fuel with
      | .newline => return first
      | .eof =>
        modify fun source => { source with pushed := some .eof }
        return first
      | token =>
        modify fun source => { source with pushed := some token }
        return .sequence first (← readList 1 fuel)
    else
      match ← readList 2 fuel with
      | .nothing => return first
      | rest => return .sequence first rest
termination_by structural fuel => fuel

/-- Pipelines between the operators for success and failure. -/
def readAndOr : Nat → Reader Command
  | 0 => complain "nesting too deep"
  | fuel + 1 => do
    let first ← readPipeline false fuel
    readAlternatives first fuel
termination_by structural fuel => fuel

/-- The operators for success and failure behind a pipeline, with what follows them. -/
def readAlternatives (first : Command) : Nat → Reader Command
  | 0 => complain "nesting too deep"
  | fuel + 1 => do
    match ← readToken false false fuel with
    | .operator "&&" =>
      let second ← readPipeline true fuel
      readAlternatives (.andThen first second) fuel
    | .operator "||" =>
      let second ← readPipeline true fuel
      readAlternatives (.orElse first second) fuel
    | token =>
      modify fun source => { source with pushed := some token }
      return first
termination_by structural fuel => fuel

/-- A pipeline, perhaps negated. -/
def readPipeline (skipLines : Bool) : Nat → Reader Command
  | 0 => complain "nesting too deep"
  | fuel + 1 => do
    match ← readToken skipLines true fuel with
    | .keyword "!" =>
      if ← isExtended then
        let next ← readToken false true fuel
        modify fun source => { source with pushed := some next }
        let isAlone := match next with
          | .eof | .newline | .operator ";" => true
          | _ => false
        if isAlone then return .pipeline true [.nothing]
        return .pipeline true [← readPipeline false fuel]
      let first ← readCommand false fuel
      return .pipeline true (← readStages [first] fuel)
    | .keyword "time" =>
      let option ← readToken false true fuel
      let isPortable := match option with
        | .word parts => (isWritten parts ["-p"]).isSome
        | _ => false
      let next ← if isPortable then readToken false true fuel else pure option
      modify fun source => { source with pushed := some next }
      let isAlone := match next with
        | .eof | .newline => true
        | .operator text => text ≠ "("
        | _ => false
      if isAlone then return .timed isPortable .nothing
      return .timed isPortable (← readPipeline false fuel)
    | token =>
      modify fun source => { source with pushed := some token }
      let first ← readCommand skipLines fuel
      match ← readStages [first] fuel with
      | [only] => return only
      | stages => return .pipeline false stages
termination_by structural fuel => fuel

/-- The stages of a pipeline behind those that have been read, which stand in reverse. -/
def readStages (reversed : List Command) : Nat → Reader (List Command)
  | 0 => complain "nesting too deep"
  | fuel + 1 => do
    match ← readToken false false fuel with
    | .operator "|" =>
      let stage ← readCommand true fuel
      readStages (stage :: reversed) fuel
    | .operator "|&" =>
      let merged := match reversed with
        | last :: others =>
          .redirected 0 last [.mk 2 .duplicate [.text false ['1']]] :: others
        | [] => []
      let stage ← readCommand true fuel
      readStages (stage :: merged) fuel
    | token =>
      modify fun source => { source with pushed := some token }
      return reversed.reverse
termination_by structural fuel => fuel

/-- A keyword that has to come next. -/
def readKeyword (wanted : String) : Nat → Reader Unit
  | 0 => complain "nesting too deep"
  | fuel + 1 => do
    match ← readToken true true fuel with
    | .keyword text =>
      if text ≠ wanted then unexpected (.keyword text) (some ("\"" ++ wanted ++ "\""))
    | token => unexpected token (some ("\"" ++ wanted ++ "\""))
termination_by structural fuel => fuel

/-- A command. -/
def readCommand (skipLines : Bool) : Nat → Reader Command
  | 0 => complain "nesting too deep"
  | fuel + 1 => do
    let token ← readToken skipLines true fuel
    let source ← get
    return spoken source source.line source.tokenStart (← readCommandFrom token source.line fuel)
termination_by structural fuel => fuel

/-- A command whose first token has been read. -/
def readCommandFrom (token : Token) (line : Nat) : Nat → Reader Command
  | 0 => complain "nesting too deep"
  | fuel + 1 => do
    match token with
    | .keyword "if" =>
      let command ← readChoice fuel
      readRedirections line command [] fuel
    | .keyword "while" =>
      let command ← readLoop false fuel
      readRedirections line command [] fuel
    | .keyword "until" =>
      let command ← readLoop true fuel
      readRedirections line command [] fuel
    | .keyword "for" =>
      let command ← readFor line fuel
      readRedirections line command [] fuel
    | .keyword "case" =>
      let command ← readSelect line fuel
      readRedirections line command [] fuel
    | .keyword "\x7b" =>
      let body ← readList 0 fuel
      readKeyword "\x7d" fuel
      readRedirections line (.group body) [] fuel
    | .operator "(" =>
      match (← isExtended), (← ahead) with
      | true, '(' :: inside =>
        match splitCalculation? inside with
        | some (text, after) =>
          let source ← get
          drop (inside.length + 1 - after.length)
          let expression ← readCalculation (source.inside text source.line) fuel
          readRedirections line (.calculation line expression) [] fuel
        | none =>
          if (splitParentheses? [] (inside.length + 1) 1 inside).isNone then
            stop (.unclosed ")" line "")
          readSubshell line fuel
      | _, _ => readSubshell line fuel
    | .keyword "[[" =>
      let source ← get
      set { source with hasPatternLists := true }
      let test ← readTest fuel
      modify fun after => { after with hasPatternLists := source.hasPatternLists }
      readRedirections line (.condition line test) [] fuel
    | .keyword "function" =>
      match ← readToken false false fuel with
      | .word name =>
        let next ← readToken true true fuel
        match next with
        | .operator "(" =>
          match ← readToken false false fuel with
          | .operator ")" => readBody name none fuel
          | token => unexpected token none
        | _ => readBody name (some next) fuel
      | token => unexpected token none
    | .keyword "coproc" => readCoprocess fuel
    | .keyword "select" =>
      match ← readFor line fuel with
      | .forEach line name words body => readRedirections line (.menu line name words body) [] fuel
      | other => return other
    | .word _ | .redirection _ =>
      modify fun source => { source with pushed := some token }
      readSimple line [] [] [] fuel
    | _ => unexpected token none
termination_by structural fuel => fuel

/-- A command in parentheses, behind the opening one. -/
def readSubshell (line : Nat) : Nat → Reader Command
  | 0 => complain "nesting too deep"
  | fuel + 1 => do
    let body ← readList 0 fuel
    match ← readToken true true fuel with
    | .operator ")" => readRedirections line (.subshell body) [] fuel
    | token => unexpected token (some "\")\"")
termination_by structural fuel => fuel

/-- The body of a function, of which a token may have been read; it is a compound command. -/
def readBody (name : Word) (read : Option Token) : Nat → Reader Command
  | 0 => complain "nesting too deep"
  | fuel + 1 => do
    let token ← match read with
      | some token => pure token
      | none => readToken true true fuel
    match token with
    | .keyword _ | .operator "(" =>
      let source ← get
      let body ← readCommandFrom token source.line fuel
      let body := if source.isVerbatim then body else .spoken source.line source.tokenStart body
      match plainText? name with
      | some (characters, _) => return .define (String.ofList characters) body
      | none => complain "not a valid identifier"
    | _ => unexpected token none
termination_by structural fuel => fuel

/-- The redirections behind a compound command. -/
def readRedirections (line : Nat) (command : Command) (reversed : List Redirection) :
    Nat → Reader Command
  | 0 => complain "nesting too deep"
  | fuel + 1 => do
    match ← readToken false true fuel with
    | .redirection redirection => readRedirections line command (redirection :: reversed) fuel
    | token =>
      modify fun source => { source with pushed := some token }
      return if reversed.isEmpty then command else .redirected line command reversed.reverse
termination_by structural fuel => fuel

/-- A simple command or the definition of a function. -/
def readSimple (line : Nat) (assignments : List Assignment) (words : List Word)
    (redirections : List Redirection) : Nat → Reader Command
  | 0 => complain "nesting too deep"
  | fuel + 1 => do
    let source ← get
    let allowsLists := words.isEmpty || (words.getLast?.any isDeclaring)
    set { source with allowsLists := allowsLists }
    let token ← readToken false false fuel
    let isSecond := source.isExtended && words.length = 1 && assignments.isEmpty &&
      redirections.isEmpty
    let reached := (← get).line
    let line := match token with
      | .newline => line
      | _ => if isSecond then reached else line
    match token with
    | .word parts =>
      match (if words.isEmpty then assignmentOf? source.dialect parts else none) with
      | some assignment => readSimple line (assignment :: assignments) words redirections fuel
      | none =>
        let isReplaced ← match parts with
          | [.text false characters] =>
            replaceAlias (words.isEmpty && !assignments.isEmpty) (String.ofList characters)
          | _ => pure false
        if isReplaced then readSimple line assignments words redirections fuel
        else readSimple line assignments (parts :: words) redirections fuel
    | .redirection redirection =>
      readSimple line assignments words (redirection :: redirections) fuel
    | token =>
      match token, words, assignments, redirections with
      | .operator "(", [name], [], [] =>
        match ← readToken false false fuel with
        | .operator ")" =>
          if source.isExtended then return ← readBody name none fuel
          match plainText? name with
          | some (characters, false) =>
            if isName characters then
              let body ← readCommand true fuel
              return .define (String.ofList characters) body
            else complain "Bad function name"
          | _ => complain "Bad function name"
        | token => unexpected token (some "\")\"")
      | _, _, _, _ =>
        modify fun source => { source with pushed := some token }
        return .simple line assignments.reverse words.reverse redirections.reverse
termination_by structural fuel => fuel

/-- The rest of a choice behind the keyword that starts it or one of its further tests. -/
def readChoice : Nat → Reader Command
  | 0 => complain "nesting too deep"
  | fuel + 1 => do
    let test ← readList 0 fuel
    readKeyword "then" fuel
    let whenTrue ← readList 0 fuel
    match ← readToken true true fuel with
    | .keyword "elif" => return .choice test whenTrue (← readChoice fuel)
    | .keyword "else" =>
      let otherwise ← readList 0 fuel
      readKeyword "fi" fuel
      return .choice test whenTrue otherwise
    | .keyword "fi" => return .choice test whenTrue .nothing
    | token => unexpected token (some "\"fi\"")
termination_by structural fuel => fuel

/-- The rest of a loop with a test. -/
def readLoop (untilTrue : Bool) : Nat → Reader Command
  | 0 => complain "nesting too deep"
  | fuel + 1 => do
    let test ← readList 0 fuel
    readKeyword "do" fuel
    let body ← readList 0 fuel
    readKeyword "done" fuel
    return .loop untilTrue test body
termination_by structural fuel => fuel

/-- The words of a loop over words, up to the end of the line. -/
def readWords (reversed : List Word) : Nat → Reader (List Word)
  | 0 => complain "nesting too deep"
  | fuel + 1 => do
    match ← readToken false false fuel with
    | .word parts => readWords (parts :: reversed) fuel
    | .newline | .operator ";" => return reversed.reverse
    | token => unexpected token none
termination_by structural fuel => fuel

/-- The body of a loop between its keywords, or in the extended dialect between braces. -/
def readLoopBody : Nat → Reader Command
  | 0 => complain "nesting too deep"
  | fuel + 1 => do
    match ← readToken true true fuel with
    | .keyword "do" =>
      let body ← readList 0 fuel
      readKeyword "done" fuel
      return body
    | token =>
      match token, (← isExtended) with
      | .keyword "\x7b", true =>
        let body ← readList 0 fuel
        readKeyword "\x7d" fuel
        return body
      | _, _ => unexpected token (some "\"do\"")
termination_by structural fuel => fuel

/-- The rest of a loop over words. -/
def readFor (line : Nat) : Nat → Reader Command
  | 0 => complain "nesting too deep"
  | fuel + 1 => do
    let isExtended ← isExtended
    let token ← readToken false false fuel
    match token, isExtended, (← ahead) with
    | .operator "(", true, '(' :: inside => readCounting line inside fuel
    | .word parts, _, _ =>
      let source ← get
      let written := source.tokenStart.take (source.tokenStart.length - source.rest.length)
      let name := match parts with
        | [.text false name] => name
        | _ => if isExtended then written else []
      if !isName name && !isExtended then complain "Bad for loop variable"
      let words ← match ← readToken true true fuel with
        | .keyword "in" => some <$> readWords [] fuel
        | .operator ";" => pure none
        | token =>
          modify fun source => { source with pushed := some token }
          pure none
      let body ← readLoopBody fuel
      return .forEach line (String.ofList name) words body
    | _, true, _ => unexpected token none
    | _, false, _ => complain "Bad for loop variable"
termination_by structural fuel => fuel

/-- The rest of a loop that counts, behind its opening parentheses but one. -/
def readCounting (line : Nat) (inside : List Char) : Nat → Reader Command
  | 0 => complain "nesting too deep"
  | fuel + 1 => do
    let source ← get
    match splitCalculation? inside with
    | none => stop (.unclosed ")" line "")
    | some (text, after) =>
      drop (source.rest.length - after.length)
      let pieces := text.splitOn ';'
      match pieces with
      | [start, test, step] =>
        let start ← readCalculation (source.inside start line) fuel
        let test ← readCalculation (source.inside test line) fuel
        let step ← readCalculation (source.inside step line) fuel
        match ← readToken false true fuel with
        | .operator ";" => pure ()
        | token => modify fun source => { source with pushed := some token }
        return .counting line start test step (← readLoopBody fuel)
      | _ =>
        stop (.counting text)
termination_by structural fuel => fuel

/-- The parts of a calculation. -/
def readCalculation (source : Source) : Nat → Reader Word
  | 0 => complain "nesting too deep"
  | fuel + 1 => do
    if source.isVerbatim then return [.text false source.rest]
    else return (← readHere fuel source).1
termination_by structural fuel => fuel

/-- A command that is executed beside the shell.  In front of a compound command there may be a name. -/
def readCoprocess : Nat → Reader Command
  | 0 => complain "nesting too deep"
  | fuel + 1 => do
    let token ← readToken false true fuel
    let first ← get
    match token with
    | .word parts =>
      let next ← readToken false true fuel
      let source ← get
      match next, plainText? parts with
      | .keyword _, some (name, false) | .operator "(", some (name, false) =>
        return .coprocess (String.ofList name) (← readCommandFrom next source.line fuel)
      | _, _ =>
        set { first with pushed := some token }
        return .coprocess "COPROC" (← readCommand false fuel)
    | _ =>
      set { first with pushed := some token }
      return .coprocess "COPROC" (← readCommand false fuel)
termination_by structural fuel => fuel

/-- The rest of a selection. -/
def readSelect (line : Nat) : Nat → Reader Command
  | 0 => complain "nesting too deep"
  | fuel + 1 => do
    match ← readToken false false fuel with
    | .word word =>
      readKeyword "in" fuel
      let branches ← readBranches [] fuel
      return .select line word branches
    | token => unexpected token (some "word")
termination_by structural fuel => fuel

/-- The branches of a selection up to its end, behind those that have been read. -/
def readBranches (reversed : List Branch) : Nat → Reader (List Branch)
  | 0 => complain "nesting too deep"
  | fuel + 1 => do
    match ← readToken true true fuel with
    | .keyword "esac" => return reversed.reverse
    | token =>
      let token ← match token with
        | .operator "(" => readToken false false fuel
        | _ => pure token
      let patterns ← readPatterns token [] fuel
      let body ← readList 2 fuel
      match ← readToken true true fuel with
      | .keyword "esac" => return (.mk patterns body .stop :: reversed).reverse
      | .operator ";;" => readBranches (.mk patterns body .stop :: reversed) fuel
      | .operator ";&" => readBranches (.mk patterns body .next :: reversed) fuel
      | .operator ";;&" => readBranches (.mk patterns body .search :: reversed) fuel
      | token => unexpected token (some "\";;\"")
termination_by structural fuel => fuel

/-- The patterns of a branch, up to the closing parenthesis; the first token has been read. -/
def readPatterns (token : Token) (reversed : List Word) : Nat → Reader (List Word)
  | 0 => complain "nesting too deep"
  | fuel + 1 => do
    let pattern ← match token with
      | .word parts => pure parts
      | .keyword text => pure [Part.text false text.toList]
      | .operator ")" => unexpected token none
      | _ => unexpected token (some "\")\"")
    match ← readToken false false fuel with
    | .operator "|" =>
      let next ← readToken false false fuel
      readPatterns next (pattern :: reversed) fuel
    | .operator ")" => return (pattern :: reversed).reverse
    | token => unexpected token (some "\")\"")
termination_by structural fuel => fuel

/-- The next word or mark of a condition. -/
def readTestToken (place : Place) : Nat → Reader TestToken
  | 0 => complain "nesting too deep"
  | fuel + 1 => do
    skipBlanks (← ahead).length
    let text ← ahead
    match text with
    | [] => return .mark "EOF"
    | '\n' :: _ =>
      drop 1
      return .mark "newline"
    | character :: next =>
      let isWord := (place = .regex && (character = '(' || character = '|')) ||
        ((character = '<' || character = '>') && next.head? = some '(')
      match (if isWord then none else testMarks.find? fun mark => mark.toList.isPrefixOf text) with
      | some mark =>
        drop mark.length
        return .mark mark
      | none =>
        let parts ← readParts place 0 fuel []
        if (isWritten parts ["]]"]).isSome then return .mark "]]"
        return .word parts (text.take (text.length - (← ahead).length))
termination_by structural fuel => fuel

/-- The next word or mark of a condition behind line breaks. -/
def readTestTokenBelow : Nat → Reader TestToken
  | 0 => complain "nesting too deep"
  | fuel + 1 => do
    match ← readTestToken .word fuel with
    | .mark "newline" => readTestTokenBelow fuel
    | token => return token
termination_by structural fuel => fuel

/-- A condition up to its closing brackets. -/
def readTest : Nat → Reader Test
  | 0 => complain "nesting too deep"
  | fuel + 1 => do
    let line := (← get).line
    let (test, next) ← readTestChoice fuel
    match next with
    | .mark "]]" => return test
    | .mark "EOF" => stopTest line next ["unexpected EOF while looking for \x60]]'"]
    | .mark text =>
      stopTest line next ["syntax error in conditional expression: unexpected token \x60" ++ text ++ "'"]
    | .word _ _ => stopTest line next ["syntax error in conditional expression"]
termination_by structural fuel => fuel

/-- A condition that holds when one of its parts does, and what follows it. -/
def readTestChoice : Nat → Reader (Test × TestToken)
  | 0 => complain "nesting too deep"
  | fuel + 1 => do
    let (first, next) ← readTestRow fuel
    match next with
    | .mark "||" =>
      let (second, next) ← readTestChoice fuel
      return (.either first second, next)
    | _ => return (first, next)
termination_by structural fuel => fuel

/-- A condition that holds when each of its parts does, and what follows it. -/
def readTestRow : Nat → Reader (Test × TestToken)
  | 0 => complain "nesting too deep"
  | fuel + 1 => do
    let (first, next) ← readTestTerm fuel
    match next with
    | .mark "&&" =>
      let (second, next) ← readTestRow fuel
      return (.both first second, next)
    | _ => return (first, next)
termination_by structural fuel => fuel

/-- A condition without parts, one that is negated, or one in parentheses, and what follows it. -/
def readTestTerm : Nat → Reader (Test × TestToken)
  | 0 => complain "nesting too deep"
  | fuel + 1 => do
    let token ← readTestTokenBelow fuel
    let line := (← get).line
    match token with
    | .mark "]]" => stopTest line token []
    | .mark "(" =>
      let (test, next) ← readTestChoice fuel
      match next with
      | .mark ")" => return (.enclosed test, ← readTestTokenBelow fuel)
      | .mark text => stopTest line next ["unexpected token \x60" ++ text ++ "', expected \x60)'"]
      | .word _ _ => stopTest line next ["expected \x60)'"]
    | .mark text =>
      stopTest line token ["unexpected token \x60" ++ text ++ "' in conditional command"]
    | .word word _ =>
      if (isWritten word ["!"]).isSome then
        let (test, next) ← readTestTerm fuel
        return (.negation test, next)
      match isWritten word testOperators with
      | some operator =>
        match ← readTestToken .word fuel with
        | .word operand _ => return (.one operator operand, ← readTestTokenBelow fuel)
        | token => stopOperand line token "unary"
      | none => readComparison line word fuel
termination_by structural fuel => fuel

/-- What a word is compared with, if it is, and what follows. -/
def readComparison (line : Nat) (left : Word) : Nat → Reader (Test × TestToken)
  | 0 => complain "nesting too deep"
  | fuel + 1 => do
    let token ← readTestToken .word fuel
    let operator? : Option String := match token with
      | .word word _ => isWritten word comparisons
      | .mark text => if text = "<" || text = ">" then some text else none
    match operator?, token with
    | some operator, _ =>
      match ← readTestToken (if operator = "=~" then .regex else .word) fuel with
      | .word right _ => return (.two operator left right, ← readTestTokenBelow fuel)
      | token => stopOperand line token "binary"
    | none, .mark text =>
      if ["]]", "&&", "||", ")"].contains text then
        return (.one "-n" left, token)
      else
        stopTest line token
          ["unexpected token \x60" ++ text ++ "', conditional binary operator expected"]
    | none, .word _ _ => stopTest line token ["conditional binary operator expected"]
termination_by structural fuel => fuel

end

/-- The commands of the next line of a script, with the script behind it; nothing at the end. -/
def readLine (source : Source) : Except Mistake (Option (Command × Source)) :=
  let fuel := 16 * source.rest.length + 64
  let reader : Reader (Option Command) := do
    match ← readToken false true fuel with
    | .eof => return none
    | token =>
      modify fun source => { source with pushed := some token }
      return some (← readList 1 fuel)
  match reader.run source with
  | .error mistake => .error mistake
  | .ok (none, _) => .ok none
  | .ok (some command, rest) => .ok (some (command, rest))

/-- The command at the start of a text of the extended dialect, with its words as they are written. -/
def writtenCommand (text : List Char) : Command :=
  let source : Source :=
    { rest := text, line := 1, dialect := .extended, hasPatternLists := true, isVerbatim := true }
  match (readCommand false (16 * text.length + 64)).run source with
  | .ok (command, _) => command
  | .error _ => .nothing

/-- A function that has been defined, as the command that defines it. -/
def functionText (name : String) (body : Command) : List Char :=
  Printing.ofFunction name (match body with
    | .spoken _ text _ => writtenCommand text
    | other => other)

end CorpusJudge.Shell
