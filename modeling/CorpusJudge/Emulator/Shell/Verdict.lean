import CorpusJudge.Emulator.Shell.Condition
import CorpusJudge.Emulator.Tool.Regex

/-!
# Verdicts

The conditions of the extended dialect: those that are commands of their own, and those that are the
arguments of a built-in command.  Which reading applies to arguments depends on how many there are.
-/

namespace CorpusJudge.Shell

namespace Verdict

/-- The operators with one operand. -/
def unaryOperators : List String :=
  ["-a", "-b", "-c", "-d", "-e", "-f", "-g", "-h", "-k", "-n", "-o", "-p", "-r", "-s", "-t", "-u",
    "-v", "-w", "-x", "-z", "-G", "-L", "-O", "-S", "-N", "-R"]

/-- The operators with two operands, apart from those that join conditions. -/
def binaryOperators : List String :=
  ["=", "==", "!=", "<", ">", "-eq", "-ne", "-lt", "-le", "-gt", "-ge", "-nt", "-ot", "-ef"]

/-- Whether a word names a variable or an element that has a value. -/
def isSetVariable (shell : State) (word : Octets) : Bool :=
  match spotOf? word with
  | none => false
  | some (name, none) => (shell.parameter? name).isSome
  | some (name, some (.inl _)) => !(shell.entries name).isEmpty
  | some (name, some (.inr text)) =>
    match shell.keyOf? name text with
    | .ok (some key, _) => (shell.element? name key).isSome
    | _ => false

/-- Whether a condition with one operand holds. -/
def holdsForOne (shell : State) (tree : FileTree) (name : String) (word : Octets) : Bool :=
  match name with
  | "-z" => word.isEmpty
  | "-n" => !word.isEmpty
  | "-t" => false
  | "-v" => isSetVariable shell word
  | "-R" => (shell.vars.lookup (String.ofList word)).any (·.marks.contains 'n')
  | "-o" => Switches.isOptionOn shell (String.ofList word)
  | "-N" => false
  | "-a" => Condition.holdsForFile tree "-e" word
  | _ => Condition.holdsForFile tree name word

/-- The relation of numbers that an operator stands for. -/
def relation? : String → Option (Int → Int → Bool)
  | "-eq" => some fun left right => left == right
  | "-ne" => some fun left right => left != right
  | "-lt" => some fun left right => left < right
  | "-le" => some fun left right => left ≤ right
  | "-gt" => some fun left right => right < left
  | "-ge" => some fun left right => right ≤ left
  | _ => none

/-- Whether a condition about two texts or two files holds. -/
def holdsForTexts (tree : FileTree) (name : String) (left right : Octets) : Bool :=
  match Condition.holdsForTwo tree (if name = "==" then "=" else name) left right with
  | .ok truth =>
    if name = "-nt" then truth || (isThere left && !isThere right)
    else if name = "-ot" then truth || (isThere right && !isThere left)
    else truth
  | .error _ => false
where
  isThere (word : Octets) : Bool := (tree.find (pathOf word)).toOption.isSome

/-- The number that a word writes. -/
def number? (word : Octets) : Option Int :=
  let isSpace (character : Char) : Bool := Text.liesIn [('\t', '\r'), (' ', ' ')] character
  let core := ((word.dropWhile isSpace).reverse.dropWhile isSpace).reverse
  (Integer.signed? 10 core).filter Integer.fits

/-- Whether a condition with two operands holds. -/
def holdsForTwo (tree : FileTree) (name : String) (left right : Octets) : Except String Bool :=
  match relation? name with
  | none => .ok (holdsForTexts tree name left right)
  | some relation =>
    match number? left, number? right with
    | some first, some second => .ok (relation first second)
    | none, _ => .error (String.ofList left ++ ": integer expression expected")
    | _, none => .error (String.ofList right ++ ": integer expression expected")

/-- Whether a word is an operator with one operand. -/
def isUnary (word : Octets) : Bool := unaryOperators.contains (String.ofList word)

/-- Whether a word is an operator with two operands. -/
def isBinary (word : Octets) : Bool := binaryOperators.contains (String.ofList word)

/-- Whether a condition of two words holds. -/
def holdsForPair (shell : State) (tree : FileTree) (first second : Octets) : Except String Bool :=
  if first = ['!'] then .ok second.isEmpty
  else if isUnary first then .ok (holdsForOne shell tree (String.ofList first) second)
  else .error (String.ofList first ++ ": unary operator expected")

/-- Whether a condition of three words holds. -/
def holdsForTriple (shell : State) (tree : FileTree) (first second third : Octets) :
    Except String Bool := do
  if isBinary second then holdsForTwo tree (String.ofList second) first third
  else if second = ['-', 'a'] then return !first.isEmpty && !third.isEmpty
  else if second = ['-', 'o'] then return !first.isEmpty || !third.isEmpty
  else if first = ['!'] then return !(← holdsForPair shell tree second third)
  else if first = ['('] && third = [')'] then return !second.isEmpty
  else throw (String.ofList second ++ ": binary operator expected")

mutual

/-- Conditions of which one has to hold, at the start of words, with the words behind them. -/
def readChoice (shell : State) (tree : FileTree) : Nat → List Octets →
    Except String (Bool × List Octets)
  | 0, _ => .error "argument expected"
  | fuel + 1, words => do
    let (first, rest) ← readRow shell tree fuel words
    match rest with
    | ['-', 'o'] :: more =>
      let (second, rest) ← readChoice shell tree fuel more
      return (first || second, rest)
    | _ => return (first, rest)
termination_by structural fuel => fuel

/-- Conditions of which each has to hold. -/
def readRow (shell : State) (tree : FileTree) : Nat → List Octets →
    Except String (Bool × List Octets)
  | 0, _ => .error "argument expected"
  | fuel + 1, words => do
    let (first, rest) ← readTerm shell tree fuel words
    match rest with
    | ['-', 'a'] :: more =>
      let (second, rest) ← readRow shell tree fuel more
      return (first && second, rest)
    | _ => return (first, rest)
termination_by structural fuel => fuel

/-- A single condition. -/
def readTerm (shell : State) (tree : FileTree) : Nat → List Octets →
    Except String (Bool × List Octets)
  | 0, _ => .error "argument expected"
  | fuel + 1, words => do
    match words with
    | [] => throw "argument expected"
    | ['!'] :: rest =>
      let (truth, rest) ← readTerm shell tree fuel rest
      return (!truth, rest)
    | ['('] :: rest =>
      let (truth, rest) ← readChoice shell tree fuel rest
      match rest with
      | [')'] :: rest => return (truth, rest)
      | [] => throw "\x60)' expected"
      | found :: _ => throw ("\x60)' expected, found " ++ String.ofList found)
    | first :: rest =>
      match rest with
      | operator :: right :: more =>
        if isBinary operator then
          return (← holdsForTwo tree (String.ofList operator) first right, more)
      | _ => pure ()
      match first, rest with
      | ['-', _], operand :: more =>
        if isUnary first then return (holdsForOne shell tree (String.ofList first) operand, more)
        else throw (String.ofList first ++ ": unary operator expected")
      | ['-', _], [] => throw "argument expected"
      | _, _ => return (!first.isEmpty, rest)
termination_by structural fuel => fuel

end

/-- Whether the condition that words write holds. -/
def holds (shell : State) (tree : FileTree) (words : List Octets) : Except String Bool := do
  let readAll : Except String Bool := do
    let (truth, rest) ← readChoice shell tree (4 * words.length + 8) words
    if rest.isEmpty then return truth else throw "too many arguments"
  match words with
  | [] => return false
  | [word] => return !word.isEmpty
  | [first, second] => holdsForPair shell tree first second
  | [first, second, third] => holdsForTriple shell tree first second third
  | [first, second, third, fourth] =>
    if first = ['!'] then return !(← holdsForTriple shell tree second third fourth)
    else if first = ['('] && fourth = [')'] then holdsForPair shell tree second third
    else readAll
  | _ => readAll

/-! ## Conditions as commands -/

/-- A regular expression, in which quoted characters stand for themselves. -/
def regexText (glyphs : List Glyph) : Octets :=
  glyphs.flatMap fun glyph => match glyph with
    | .plain character => [character]
    | .result character => [character]
    | .quoted character =>
      if "\\^$.[]|()?*+\x7b\x7d".toList.contains character then ['\\', character] else [character]
    | .boundary => [' ']
    | _ => []

/-- What a condition comes to: whether it holds, or a status that says that it makes no sense. -/
inductive Outcome where
  | truth (holds : Bool)
  | senseless

/-- Match a text against a regular expression, and remember what its groups match. -/
def matchRegex (text expression : Octets) : Expand Outcome := do
  let shell := (← get).shell
  match Regex.ofText ⟨true, false⟩ expression with
  | .error _ => return .senseless
  | .ok regex =>
    let found := regex.search? (shell.switches.contains "nocasematch") text
    let values := match found with
      | some found =>
        found.held :: (List.range regex.groupCount).map fun place =>
          (found.groups.lookup (place + 1)).getD []
      | none => []
    let elements := Elements.ofList values
    modify fun expander =>
      { expander with
        shell := { expander.shell with
          vars := expander.shell.vars.put "BASH_REMATCH" { value := none, elements := some elements } } }
    return .truth found.isSome

/-- Note a condition that is looked at, for those who watch. -/
def note (words : List Octets) : Expand Unit :=
  modify fun expander => { expander with shown := words :: expander.shown }

/-- The value of a calculation in a condition; a mishap is a complaint. -/
def numberOf? (text : Octets) : Expand (Option Int) := do
  match (← get).shell.calculate text with
  | .ok (value, shell) =>
    modify fun expander => { expander with shell := shell }
    return some value
  | .error (.fatal message) => Expand.fail message
  | .error (.line message) =>
    Expand.complain ("[[: " ++ message)
    return none

/-- What a condition comes to. -/
def ofTest (tree : FileTree) : Test → Expand Outcome
  | .one operator operand => do
    let text ← expandText operand
    note [operator.toList, text]
    return .truth (holdsForOne (← get).shell tree operator text)
  | .two operator left right => do
    let text ← expandText left
    let glyphs ← Expand.asWhole (expandWord right)
    let other := textOf glyphs
    note [text, operator.toList, other]
    let shell := (← get).shell
    match operator with
    | "=" | "==" | "!=" =>
      let isMatched := Glob.matchesFolded (shell.switches.contains "nocasematch")
        (Glob.readLists (patternOf glyphs)) text
      return .truth (isMatched != (operator == "!="))
    | "=~" => matchRegex text (regexText glyphs)
    | _ =>
      match relation? operator with
      | none => return .truth (holdsForTexts tree operator text other)
      | some relation =>
        match ← numberOf? text with
        | none => return .truth false
        | some first =>
          match ← numberOf? other with
          | none => return .truth false
          | some second => return .truth (relation first second)
  | .negation test => do
    match ← ofTest tree test with
    | .truth holds => return .truth !holds
    | .senseless => return .senseless
  | .enclosed test => ofTest tree test
  | .both first second => do
    match ← ofTest tree first with
    | .truth true => ofTest tree second
    | other => return other
  | .either first second => do
    match ← ofTest tree first with
    | .truth true => return .truth true
    | _ => ofTest tree second

end Verdict

end CorpusJudge.Shell
