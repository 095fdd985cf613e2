import CorpusJudge.Yaml.Token.Scalars
import CorpusJudge.Yaml.Token.Tags

/-!
# Scanning YAML

A text becomes a list of tokens.  Two things are known only after the fact.  A node turns out to
be a mapping key when a colon follows it on its line; until then its place in the list is kept as
a candidate, and the key mark is put in front of it when the colon comes.  Blocks end when a line
starts further left; the columns of the open blocks are kept for that.
-/

namespace CorpusJudge.Yaml

/-- A node that becomes a key if a colon follows: its place among the tokens and in the text, and
whether it has to become one. -/
structure Candidate where
  token : Nat
  line : Nat
  index : Nat
  column : Nat
  required : Bool

/-- A scanner at work: the tokens so far, the column of the innermost block and those of the
blocks around it, one place for a candidate per open bracket and one for the blocks, and whether a
key may start here. -/
structure Scanner where
  cursor : Cursor
  tokens : Array Token
  indent : Int
  outer : List Int
  candidates : List (Option Candidate)
  keyAllowed : Bool

namespace Scanner

/-- A scanner in front of a text. -/
def start (text : List Char) : Scanner :=
  ⟨.start text, #[], -1, [], [none], true⟩

/-- Whether the scanner is between brackets or braces. -/
def inFlow (scanner : Scanner) : Bool := 1 < scanner.candidates.length

/-- The column at which the scanner stands. -/
def column (scanner : Scanner) : Int := scanner.cursor.column

/-- One more token. -/
def push (scanner : Scanner) (token : Token) : Scanner :=
  { scanner with tokens := scanner.tokens.push token }

/-- Open a block at a column, unless one is open there already; its mark goes to a given place
among the tokens. -/
def openBlock (scanner : Scanner) (column : Int) (place : Nat) (token : Token) : Scanner :=
  if scanner.inFlow || column ≤ scanner.indent then scanner
  else { scanner with
    outer := scanner.indent :: scanner.outer
    indent := column
    tokens := scanner.tokens.insertIdx! place token }

/-- End the blocks that lie to the right of a column, of those whose columns are given. -/
def closeBlocks (column : Int) : List Int → Scanner → Scanner
  | [], scanner => scanner
  | outer :: rest, scanner =>
    if scanner.indent ≤ column then scanner
    else closeBlocks column rest
      { scanner.push .blockEnd with indent := outer, outer := rest }

/-- End the blocks that lie to the right of a column. -/
def unroll (scanner : Scanner) (column : Int) : Scanner :=
  if scanner.inFlow then scanner else closeBlocks column scanner.outer scanner

/-- Give up the innermost candidate; one that has to become a key cannot be given up. -/
def dropCandidate? (scanner : Scanner) : Option Scanner :=
  match scanner.candidates with
  | some candidate :: rest =>
    if candidate.required then none else some { scanner with candidates := none :: rest }
  | _ => some scanner

/-- Make the next token a candidate where a key may start.  In a block it has to become a key when
it stands at the block's own column. -/
def saveCandidate? (scanner : Scanner) : Option Scanner :=
  if !scanner.keyAllowed then some scanner
  else do
    let scanner ← scanner.dropCandidate?
    let cursor := scanner.cursor
    let required := !scanner.inFlow && scanner.indent = scanner.column
    let candidate : Candidate :=
      ⟨scanner.tokens.size, cursor.line, cursor.index, cursor.column, required⟩
    return { scanner with candidates := some candidate :: scanner.candidates.drop 1 }

/-- Whether a candidate can no longer become a key: its line is over or it has grown too long. -/
def isStale (cursor : Cursor) (candidate : Candidate) : Bool :=
  candidate.line < cursor.line || candidate.index + 1024 < cursor.index

/-- Give up the candidates that can no longer become keys. -/
def dropStale? (scanner : Scanner) : Option Scanner := do
  let stale (candidate : Option Candidate) : Bool := candidate.any (isStale scanner.cursor)
  guard (!scanner.candidates.any fun candidate => stale candidate && candidate.any (·.required))
  let kept := scanner.candidates.map fun candidate => if stale candidate then none else candidate
  return { scanner with candidates := kept }

/-- Move to the next token, past white space, comments and line breaks.  A byte order mark may
start a line and takes a column of it.  Tabs do not count as white space where a key may start. -/
def skipToToken (scanner : Scanner) : Nat → Scanner
  | 0 => scanner
  | fuel + 1 =>
    let cursor := scanner.cursor
    let cursor := if cursor.column = 0 && cursor.atChar '\ufeff' then cursor.skip 1 else cursor
    let tabs := scanner.inFlow || !scanner.keyAllowed
    let cursor := cursor.skipWhile fun character =>
      character = ' ' || (tabs && character = '\t')
    let cursor := if cursor.atChar '#' then cursor.skipLine else cursor
    if cursor.atBreak then
      skipToToken { scanner with
        cursor := cursor.skipBreak
        keyAllowed := scanner.keyAllowed || !scanner.inFlow } fuel
    else { scanner with cursor := cursor }

/-- Go past a mark of some characters and note its token. -/
def takeMark (scanner : Scanner) (count : Nat) (token : Token) : Scanner :=
  { scanner.push token with cursor := scanner.cursor.skip count }

/-- Leave all blocks, as directives and document marks do. -/
def leaveBlocks? (scanner : Scanner) : Option Scanner := do
  let scanner ← (scanner.unroll (-1)).dropCandidate?
  return { scanner with keyAllowed := false }

/-- An opening bracket or brace. -/
def openFlow? (scanner : Scanner) (token : Token) : Option Scanner := do
  let scanner ← scanner.saveCandidate?
  return { scanner.takeMark 1 token with
    candidates := none :: scanner.candidates, keyAllowed := true }

/-- A closing bracket or brace. -/
def closeFlow? (scanner : Scanner) (token : Token) : Option Scanner := do
  let scanner ← scanner.dropCandidate?
  let candidates := if scanner.inFlow then scanner.candidates.drop 1 else scanner.candidates
  return { scanner.takeMark 1 token with candidates := candidates, keyAllowed := false }

/-- A comma between brackets or braces. -/
def flowEntry? (scanner : Scanner) : Option Scanner := do
  let scanner ← scanner.dropCandidate?
  return { scanner.takeMark 1 .flowEntry with keyAllowed := true }

/-- A mark that may start an entry of a block at its column. -/
def blockMark? (scanner : Scanner) (block mark : Token) (keyAllowed : Bool) : Option Scanner := do
  guard (scanner.inFlow || scanner.keyAllowed)
  let scanner := scanner.openBlock scanner.column scanner.tokens.size block
  let scanner ← scanner.dropCandidate?
  return { scanner.takeMark 1 mark with keyAllowed := keyAllowed }

/-- A colon that makes the candidate in front of it a key. -/
def valueOf (scanner : Scanner) (candidate : Candidate) : Scanner :=
  let scanner := { scanner with tokens := scanner.tokens.insertIdx! candidate.token .key }
  let scanner := scanner.openBlock candidate.column candidate.token .blockMappingStart
  { scanner.takeMark 1 .value with
    candidates := none :: scanner.candidates.drop 1, keyAllowed := false }

/-- A colon in front of a value. -/
def value? (scanner : Scanner) : Option Scanner :=
  match scanner.candidates with
  | some candidate :: _ => some (scanner.valueOf candidate)
  | _ => do
    guard (scanner.inFlow || scanner.keyAllowed)
    let scanner := scanner.openBlock scanner.column scanner.tokens.size .blockMappingStart
    return { scanner.takeMark 1 .value with keyAllowed := !scanner.inFlow }

/-- An anchor, alias or tag, read by a function; it may start a key. -/
def property? (scanner : Scanner) (read? : Cursor → Option (Token × Cursor)) :
    Option Scanner := do
  let scanner ← scanner.saveCandidate?
  let (token, cursor) ← read? scanner.cursor
  return { scanner.push token with cursor := cursor, keyAllowed := false }

/-- A block scalar. -/
def blockScalar? (scanner : Scanner) (folds : Bool) : Option Scanner := do
  let scanner ← scanner.dropCandidate?
  let (text, cursor) ← readBlock? folds scanner.indent (scanner.cursor.skip 1)
  let style := if folds then Style.folded else Style.literal
  return { scanner.push (.scalar style (String.ofList text)) with
    cursor := cursor, keyAllowed := true }

/-- A quoted scalar. -/
def quotedScalar? (scanner : Scanner) (double : Bool) : Option Scanner := do
  let scanner ← scanner.saveCandidate?
  let cursor := scanner.cursor.skip 1
  let fuel := cursor.rest.length + 1
  let (text, cursor) ←
    if double then readDoubleQuoted? fuel .empty cursor else readSingleQuoted? fuel .empty cursor
  let style := if double then Style.doubleQuoted else Style.singleQuoted
  return { scanner.push (.scalar style (String.ofList text)) with
    cursor := cursor, keyAllowed := false }

/-- A plain scalar.  When it runs over the end of a line, a key may follow. -/
def plainScalar? (scanner : Scanner) : Option Scanner := do
  let scanner ← scanner.saveCandidate?
  let fuel := scanner.cursor.rest.length + 1
  let (pending, cursor) ←
    readPlain? scanner.inFlow (scanner.indent + 1) fuel .empty scanner.cursor
  return { scanner.push (.scalar .plain (String.ofList pending.reversed.reverse)) with
    cursor := cursor, keyAllowed := pending.gap.crossesLine }

/-- Whether a plain scalar may start here. -/
def startsPlain (scanner : Scanner) : Bool :=
  match scanner.cursor.rest with
  | [] => false
  | first :: _ =>
    if first = '-' then !(scanner.cursor.peek 1).any isBlank
    else if first = '?' || first = ':' then !scanner.inFlow && !scanner.cursor.gapAt 1
    else !(isBlank first || isBreak first || isFlowMark first ||
      "#&*!|>'\"%@\x60".toList.contains first)

/-- Read the next token where one starts. -/
def readToken? (scanner : Scanner) (first : Char) : Option Scanner :=
  let cursor := scanner.cursor
  if cursor.column = 0 && first = '%' then do
    let scanner ← scanner.leaveBlocks?
    let (token, cursor) ← readDirective? cursor
    return { scanner.push token with cursor := cursor }
  else if cursor.atDocumentMark '-' then
    scanner.leaveBlocks?.map (·.takeMark 3 .documentStart)
  else if cursor.atDocumentMark '.' then
    scanner.leaveBlocks?.map (·.takeMark 3 .documentEnd)
  else match first with
    | '[' => scanner.openFlow? .flowSequenceStart
    | '\x7b' => scanner.openFlow? .flowMappingStart
    | ']' => scanner.closeFlow? .flowSequenceEnd
    | '\x7d' => scanner.closeFlow? .flowMappingEnd
    | ',' => scanner.flowEntry?
    | '*' => scanner.property? fun cursor =>
      (readAnchorName? cursor).map fun (name, after) => (.alias name, after)
    | '&' => scanner.property? fun cursor =>
      (readAnchorName? cursor).map fun (name, after) => (.anchor name, after)
    | '!' => scanner.property? (readTag? scanner.inFlow)
    | '\'' => scanner.quotedScalar? false
    | '"' => scanner.quotedScalar? true
    | _ =>
      if first = '-' && cursor.gapAt 1 then
        scanner.blockMark? .blockSequenceStart .blockEntry true
      else if first = '?' && (scanner.inFlow || cursor.gapAt 1) then
        scanner.blockMark? .blockMappingStart .key (!scanner.inFlow)
      else if first = ':' && (scanner.inFlow || cursor.gapAt 1) then scanner.value?
      else if first = '|' && !scanner.inFlow then scanner.blockScalar? false
      else if first = '>' && !scanner.inFlow then scanner.blockScalar? true
      else if scanner.startsPlain then scanner.plainScalar?
      else none

/-- Read tokens up to the end of the text.  Every token takes at least one character. -/
def readAll? : Nat → Scanner → Option (List Token)
  | 0, _ => none
  | fuel + 1, scanner => do
    let scanner ← (scanner.skipToToken (scanner.cursor.rest.length + 1)).dropStale?
    match scanner.cursor.rest with
    | [] =>
      let scanner ← (scanner.unroll (-1)).dropCandidate?
      return scanner.tokens.toList
    | first :: _ =>
      let scanner ← (scanner.unroll scanner.column).readToken? first
      readAll? fuel scanner

end Scanner

/-- The tokens of a text, if it is made of tokens and allowed characters. -/
def tokens? (text : String) : Option (List Token) :=
  let characters := text.toList
  if characters.all isAllowed then Scanner.readAll? (characters.length + 1) (.start characters)
  else none

end CorpusJudge.Yaml
