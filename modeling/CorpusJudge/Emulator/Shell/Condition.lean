import CorpusJudge.Files.Tree
import CorpusJudge.Emulator.Shell.Fields

/-!
# Conditions

The conditions that a shell tests: about texts, about numbers and about files.  Reading a condition
keeps the place of the word it has come to, which is also the one that complaints name.
-/

namespace CorpusJudge.Shell

/-- What a word is in a condition. -/
inductive Term where
  | finish
  | operand
  | unary (name : String)
  | binary (name : String)
  | conjunction
  | disjunction
  | negation
  | opening
  | closing
  deriving DecidableEq

namespace Condition

/-- The operators with one operand. -/
def unaryOperators : List String :=
  ["-r", "-w", "-x", "-e", "-f", "-d", "-c", "-b", "-p", "-u", "-g", "-k", "-s", "-t", "-z", "-n",
    "-h", "-O", "-G", "-L", "-S"]

/-- The operators with two operands. -/
def binaryOperators : List String :=
  ["=", "!=", "<", ">", "-eq", "-ne", "-ge", "-gt", "-le", "-lt", "-nt", "-ot", "-ef"]

/-- Whether a word is an operator with two operands. -/
def isBinary (word : Octets) : Bool := binaryOperators.contains (String.ofList word)

/-- What the first of some words is.  An operator with one operand is itself an operand where
nothing, or another operator with an operand, follows. -/
def termOf (words : List Octets) : Term :=
  match words with
  | [] => .finish
  | word :: rest =>
    let name := String.ofList word
    if name = "-a" then .conjunction
    else if name = "-o" then .disjunction
    else if name = "!" then .negation
    else if name = "(" then if rest.isEmpty then .operand else .opening
    else if name = ")" then .closing
    else if binaryOperators.contains name then .binary name
    else if unaryOperators.contains name then
      match rest with
      | [] => .operand
      | next :: _ :: _ => if isBinary next then .operand else .unary name
      | _ => .unary name
    else .operand

/-- The number that a word writes. -/
def number (word : Octets) : Except String Int :=
  let isSpace (character : Char) : Bool := Text.liesIn [('\t', '\r'), (' ', ' ')] character
  let core := ((word.dropWhile isSpace).reverse.dropWhile isSpace).reverse
  match Integer.signed? 10 core with
  | some value => .ok (Integer.clamp value)
  | none => .error s!"Illegal number: {String.ofList word}"

/-- Whether a condition about a file holds. -/
def holdsForFile (tree : FileTree) (name : String) (word : Octets) : Bool :=
  let path := pathOf word
  if name = "-h" || name = "-L" then (tree.findSelf path).toOption.any fun (_, entry) => entry.isLink
  else
    match tree.find path with
    | .error _ => false
    | .ok (place, entry) =>
      let mode := (tree.detail place).mode
      let hasBit (bit : Nat) : Bool := Nat.land mode bit ≠ 0
      match name, entry with
      | "-d", .folder => true
      | "-d", _ => false
      | "-f", _ => entry.isFile
      | "-s", .file content => !content.isEmpty
      | "-s", .device _ => false
      | "-x", .folder => true
      | "-x", _ => mode.isExecutable
      | "-c", .device _ => true
      | "-u", _ => hasBit 0o4000
      | "-g", _ => hasBit 0o2000
      | "-k", _ => hasBit 0o1000
      | "-b", _ | "-c", _ | "-p", _ | "-S", _ => false
      | _, _ => true

/-- Whether a condition with one operand holds. -/
def holdsForOne (tree : FileTree) (name : String) (word : Octets) : Except String Bool :=
  match name with
  | "-z" => .ok word.isEmpty
  | "-n" => .ok !word.isEmpty
  | "-t" => (number word).map fun _ => false
  | _ => .ok (holdsForFile tree name word)

/-- Whether a condition with two operands holds. -/
def holdsForTwo (tree : FileTree) (name : String) (left right : Octets) : Except String Bool :=
  let compare (relation : Int → Int → Bool) : Except String Bool := do
    let first ← number left
    return relation first (← number right)
  let changed (word : Octets) : Option Int :=
    (tree.find (pathOf word)).toOption.map fun (place, _) => (tree.detail place).changed
  let isOlder (left right : Octets) : Bool :=
    match changed left, changed right with
    | some first, some second => first < second
    | _, _ => false
  match name with
  | "=" => .ok (left = right)
  | "!=" => .ok (left ≠ right)
  | "<" => .ok (left < right)
  | ">" => .ok (right < left)
  | "-eq" => compare fun first second => first = second
  | "-ne" => compare fun first second => first ≠ second
  | "-ge" => compare fun first second => first ≥ second
  | "-gt" => compare fun first second => first > second
  | "-le" => compare fun first second => first ≤ second
  | "-lt" => compare fun first second => first < second
  | "-nt" => .ok (isOlder right left)
  | "-ot" => .ok (isOlder left right)
  | _ =>
    match tree.find (pathOf left), tree.find (pathOf right) with
    | .ok (here, _), .ok (there, _) => .ok (here == there)
    | _, _ => .ok false

/-- A reader of conditions: from what the word at its place is and the words from there on to the
truth and the words from the last one that was used on. -/
abbrev ConditionReader := Term → List Octets → Except String (Bool × List Octets)

mutual

/-- One operand, an operator with its operands, or a condition in parentheses. -/
def primary (tree : FileTree) : Nat → ConditionReader
  | 0, _, _ => .error "nesting too deep"
  | fuel + 1, term, words =>
    match term, words with
    | .finish, _ => .ok (false, words)
    | .opening, _ :: inside =>
      match termOf inside with
      | .closing => .ok (false, inside)
      | first => do
        let (truth, rest) ← disjunctions tree false fuel first inside
        match termOf rest.tail with
        | .closing => return (truth, rest.tail)
        | _ => throw "closing paren expected"
    | .unary name, _ :: rest =>
      match rest with
      | [] => .error s!"{name}: argument expected"
      | word :: _ => do
        return (← holdsForOne tree name word, rest)
    | _, left :: rest =>
      match termOf rest, rest with
      | .binary name, _ :: operands =>
        match operands with
        | [] => .error s!"{name}: argument expected"
        | right :: _ => do
          return (← holdsForTwo tree name left right, operands)
      | _, _ => .ok (!left.isEmpty, words)
    | _, [] => .ok (false, [])
termination_by structural fuel => fuel

/-- A condition that may be negated. -/
def negations (tree : FileTree) : Nat → ConditionReader
  | 0, _, _ => .error "nesting too deep"
  | fuel + 1, term, words =>
    match term with
    | .negation => do
      let next := termOf words.tail
      let (truth, rest) ← negations tree fuel next (if next = .finish then words else words.tail)
      return (!truth, rest)
    | _ => primary tree fuel term words
termination_by structural fuel => fuel

/-- A condition that holds when each of its parts does, given whether those before do. -/
def conjunctions (tree : FileTree) (sofar : Bool) : Nat → ConditionReader
  | 0, _, _ => .error "nesting too deep"
  | fuel + 1, term, words => do
    let (truth, rest) ← negations tree fuel term words
    match termOf rest.tail with
    | .conjunction =>
      let next := rest.drop 2
      conjunctions tree (sofar && truth) fuel (termOf next) next
    | _ => return (sofar && truth, rest)
termination_by structural fuel => fuel

/-- A condition that holds when one of its parts does, given whether one before does. -/
def disjunctions (tree : FileTree) (sofar : Bool) : Nat → ConditionReader
  | 0, _, _ => .error "nesting too deep"
  | fuel + 1, term, words => do
    let (truth, rest) ← conjunctions tree true fuel term words
    match termOf rest.tail with
    | .disjunction =>
      let next := rest.drop 2
      disjunctions tree (sofar || truth) fuel (termOf next) next
    | _ => return (sofar || truth, rest)
termination_by structural fuel => fuel

end

/-- Whether the condition that words write holds. -/
def holds (tree : FileTree) : List Octets → Except String Bool
  | [] => .ok false
  | words => do
    let read (term : Term) (words : List Octets) : Except String Bool := do
      let (truth, rest) ← disjunctions tree false (8 * words.length + 16) term words
      match rest with
      | word :: _ :: _ =>
        throw (if word.isEmpty then "unexpected operator"
          else s!"{String.ofList word}: unexpected operator")
      | _ => return truth
    let isBinaryAlone := words.length = 3 && words[1]?.any isBinary
    let isShort := words.length = 3 || words.length = 4
    if isBinaryAlone then read .operand words
    else if isShort && words.head? = some ['('] && words.getLast? = some [')'] then
      let inside := words.tail.dropLast
      read (termOf inside) inside
    else if isShort && words.head? = some ['!'] then
      return !(← holds tree words.tail)
    else read (termOf words) words
termination_by words => words.length
decreasing_by all_goals (cases words <;> simp_all)

end Condition

end CorpusJudge.Shell
