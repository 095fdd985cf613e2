import CorpusJudge.Bytes
import CorpusJudge.Text.Classes
import CorpusJudge.Text.Integer

/-!
# Regular expressions

Expressions that describe texts, in the basic and the extended notation.  A match is the longest one
at the first place where there is one.
-/

namespace CorpusJudge

/-- A condition on the place between two characters. -/
inductive Edge where
  | wordStart
  | wordFinish
  | wordEdge
  | noWordEdge
  | noWordBefore
  | noWordBehind
  | textStart
  | textFinish

/-- A regular expression. -/
inductive Regex where
  | nothing
  | any
  | among (isNegated : Bool) (ranges : List Text.CharRange)
  | start
  | finish
  | edge (edge : Edge)
  | both (first second : Regex)
  | either (first second : Regex)
  | repeated (least : Nat) (most : Option Nat) (regex : Regex)
  | group (number : Nat) (regex : Regex)
  | again (number : Nat)

/-- What is wrong with a text that should be a regular expression. -/
inductive RegexFault where
  | invalid
  | openSet
  | openGroup
  | closedGroup
  | openBounds
  | invalidBounds
  | invalidRange
  | invalidClass
  | invalidCollation
  | nothingToRepeat
  | noSuchGroup
  | trailingBackslash
  | tooBig
  deriving DecidableEq

/-- The wording of the fault. -/
def RegexFault.message : RegexFault → String
  | invalid => "Invalid regular expression"
  | openSet => "Unmatched [, [^, [:, [., or [="
  | openGroup => "Unmatched ( or \\("
  | closedGroup => "Unmatched ) or \\)"
  | openBounds => "Unmatched \\\x7b"
  | invalidBounds => "Invalid content of \\\x7b\\\x7d"
  | invalidRange => "Invalid range end"
  | invalidClass => "Invalid character class name"
  | invalidCollation => "Invalid collation character"
  | nothingToRepeat => "Invalid preceding regular expression"
  | noSuchGroup => "Invalid back reference"
  | trailingBackslash => "Trailing backslash"
  | tooBig => "Regular expression too big"

namespace Regex

/-! ## Reading -/

/-- A notation for regular expressions: whether operators stand without a backslash, and whether
what cannot be an operator where it stands means itself. -/
structure Dialect where
  isExtended : Bool
  isLenient : Bool

/-- The most often that bounds may ask for. -/
def mostRepeats : Nat := 32767

/-- The characters of words. -/
def wordRanges : List Text.CharRange := [('a', 'z'), ('A', 'Z'), ('0', '9'), ('_', '_')]

/-- The characters of blank space. -/
def spaceRanges : List Text.CharRange := [('\t', '\r'), (' ', ' ')]

/-- A mark in a written expression. -/
inductive Mark where
  | literal (character : Char)
  | any
  | set
  | opening
  | closing
  | bar
  | star
  | plus
  | question
  | brace
  | caret
  | dollar
  | again (number : Nat)
  | class (isNegated : Bool) (ranges : List Text.CharRange)
  | edge (edge : Edge)

/-- The operator that a character stands for, if it stands for one where operators may need a
backslash. -/
def operator? : Char → Option Mark
  | '(' => some .opening
  | ')' => some .closing
  | '\x7b' => some .brace
  | '|' => some .bar
  | '+' => some .plus
  | '?' => some .question
  | _ => none

/-- What a character behind a backslash stands for, other than an operator. -/
def guarded (character : Char) : Mark :=
  match character with
  | 'w' => .class false wordRanges
  | 'W' => .class true wordRanges
  | 's' => .class false spaceRanges
  | 'S' => .class true spaceRanges
  | 'b' => .edge .wordEdge
  | 'B' => .edge .noWordEdge
  | '<' => .edge .wordStart
  | '>' => .edge .wordFinish
  | '\x60' => .edge .textStart
  | '\'' => .edge .textFinish
  | _ =>
    if character.isDigit && character ≠ '0' then .again (character.toNat - 48)
    else .literal character

/-- The first mark of a text, and what follows; the failure is a backslash at the end. -/
def mark? (isExtended : Bool) : Octets → Except RegexFault (Option (Mark × Octets))
  | [] => .ok none
  | ['\\'] => .error .trailingBackslash
  | '\\' :: character :: rest =>
    match operator? character with
    | some operator => .ok (some (if isExtended then .literal character else operator, rest))
    | none => .ok (some (guarded character, rest))
  | character :: rest =>
    let plain : Mark := match character with
      | '.' => .any
      | '[' => .set
      | '*' => .star
      | '^' => .caret
      | '$' => .dollar
      | _ => .literal character
    match operator? character with
    | some operator => .ok (some (if isExtended then operator else .literal character, rest))
    | none => .ok (some (plain, rest))

/-- The end of a named member of a set, written as `[:name:]`, behind its first two characters. -/
def named? (kind : Char) (text : Octets) : Except RegexFault (Octets × Octets) :=
  let name := text.takeWhile (· ≠ kind)
  match text.drop name.length with
  | closing :: ']' :: rest => if closing = kind then .ok (name, rest) else .error .openSet
  | _ => .error .openSet

/-- One member of a set, which may be the end of a range, and what follows. -/
def member? : Octets → Except RegexFault (Char × Octets)
  | '[' :: '.' :: rest => do
    match ← named? '.' rest with
    | ([only], rest) => return (only, rest)
    | _ => throw .invalidCollation
  | '[' :: '=' :: rest => do
    match ← named? '=' rest with
    | ([only], rest) => return (only, rest)
    | _ => throw .invalidCollation
  | character :: rest => .ok (character, rest)
  | [] => .error .openSet

/-- The members of a set in brackets, and what follows it. -/
def members? (ranges : List Text.CharRange) (isFirst : Bool) :
    Nat → Octets → Except RegexFault (List Text.CharRange × Octets)
  | 0, _ => .error .openSet
  | fuel + 1, text =>
    match text with
    | [] => .error .openSet
    | '[' :: ':' :: rest => do
      let (name, rest) ← named? ':' rest
      match Text.classRanges? (String.ofList name) with
      | some found => members? (found ++ ranges) false fuel rest
      | none => throw .invalidClass
    | first :: rest => do
      if first = ']' && !isFirst then return (ranges, rest)
      let (first, rest) ← member? text
      match rest with
      | '-' :: ']' :: _ => members? ((first, first) :: ranges) false fuel rest
      | '-' :: upper => do
        let (last, rest) ← member? upper
        if last < first then throw .invalidRange
        else members? ((first, last) :: ranges) false fuel rest
      | _ => members? ((first, first) :: ranges) false fuel rest

/-- A set behind its opening bracket, and what follows it. -/
def set? (text : Octets) : Except RegexFault (Regex × Octets) := do
  let (isNegated, rest) := match text with
    | '^' :: rest => (true, rest)
    | _ => (false, text)
  if rest.isEmpty then throw .invalid
  let (ranges, rest) ← members? [] true (rest.length + 1) rest
  return (.among isNegated ranges, rest)

/-- The bounds of a repetition behind the opening brace, and what follows. -/
def bounds? (isExtended : Bool) (text : Octets) :
    Except RegexFault (Nat × Option Nat × Octets) := do
  let first := text.takeWhile Char.isDigit
  let least := (Integer.natural? 10 first).getD 0
  let rest := text.drop first.length
  let (most, hasComma, rest) := match rest with
    | ',' :: rest =>
      let second := rest.takeWhile Char.isDigit
      (Integer.natural? 10 second, true, rest.drop second.length)
    | _ => (some least, false, rest)
  let after? := match isExtended, rest with
    | true, '\x7d' :: after => some after
    | false, '\\' :: '\x7d' :: after => some after
    | _, _ => none
  match after? with
  | none => throw (if rest.isEmpty then .openBounds else .invalidBounds)
  | some after =>
    if first.isEmpty && !hasComma then throw .invalidBounds
    if most.any (· < least) then throw .invalidBounds
    if mostRepeats < max least (most.getD 0) then throw .tooBig
    return (least, most, after)

/-- What reading part of an expression gives: the expression, the number of groups that have been
opened so far, and what follows. -/
abbrev Reading := Except RegexFault (Regex × Nat × Octets)

/-- Whether a dollar sign with this behind it stands at the end of what it is in. -/
def isAtEnd (isExtended : Bool) (rest : Octets) : Bool :=
  match mark? isExtended rest with
  | .ok none => true
  | .ok (some (.closing, _)) => true
  | .ok (some (.bar, _)) => true
  | _ => false

mutual

/-- Alternatives, up to the end of the text or group. -/
def readEither (dialect : Dialect) (depth : Nat) : Nat → Nat → Octets → Reading
  | 0, _, _ => .error .invalid
  | fuel + 1, groups, text => do
    let (first, groups, rest) ← readBoth dialect depth true fuel groups text
    match ← mark? dialect.isExtended rest with
    | some (.bar, after) =>
      let (second, groups, rest) ← readEither dialect depth fuel groups after
      return (.either first second, groups, rest)
    | _ => return (first, groups, rest)
termination_by structural fuel => fuel

/-- Pieces that follow each other. -/
def readBoth (dialect : Dialect) (depth : Nat) (isFirst : Bool) : Nat → Nat → Octets → Reading
  | 0, _, _ => .error .invalid
  | fuel + 1, groups, text => do
    match ← mark? dialect.isExtended text with
    | none => return (.nothing, groups, text)
    | some (.bar, _) => return (.nothing, groups, text)
    | some (.closing, rest) =>
      if depth = 0 && dialect.isExtended && dialect.isLenient then
        let (piece, rest) ←
          readRepeats dialect fuel (.among false [(')', ')')]) rest
        let (more, groups, rest) ← readBoth dialect depth false fuel groups rest
        return (.both piece more, groups, rest)
      else return (.nothing, groups, text)
    | some (.star, rest) =>
      if isFirst && dialect.isExtended && dialect.isLenient then
        readBoth dialect depth true fuel groups rest
      else readMore dialect depth isFirst fuel groups text
    | some (.plus, rest) =>
      if isFirst && dialect.isLenient then readBoth dialect depth true fuel groups rest
      else readMore dialect depth isFirst fuel groups text
    | some (.question, rest) =>
      if isFirst && dialect.isLenient then readBoth dialect depth true fuel groups rest
      else readMore dialect depth isFirst fuel groups text
    | some _ => readMore dialect depth isFirst fuel groups text
termination_by structural fuel => fuel

/-- A piece and those that follow it. -/
def readMore (dialect : Dialect) (depth : Nat) (isFirst : Bool) : Nat → Nat → Octets → Reading
  | 0, _, _ => .error .invalid
  | fuel + 1, groups, text => do
    let (piece, groups, rest) ← readPiece dialect depth isFirst fuel groups text
    let isAnchor := match piece with
      | .start => true
      | _ => false
    if isAnchor then
      let (more, groups, rest) ← readBoth dialect depth true fuel groups rest
      return (.both piece more, groups, rest)
    let (piece, rest) ← readRepeats dialect fuel piece rest
    let (more, groups, rest) ← readBoth dialect depth false fuel groups rest
    return (.both piece more, groups, rest)
termination_by structural fuel => fuel

/-- One piece. -/
def readPiece (dialect : Dialect) (depth : Nat) (isFirst : Bool) : Nat → Nat → Octets → Reading
  | 0, _, _ => .error .invalid
  | fuel + 1, groups, text => do
    let one (character : Char) : Regex := .among false [(character, character)]
    match ← mark? dialect.isExtended text with
    | none => return (.nothing, groups, text)
    | some (.literal character, rest) => return (one character, groups, rest)
    | some (.any, rest) => return (.any, groups, rest)
    | some (.class isNegated ranges, rest) => return (.among isNegated ranges, groups, rest)
    | some (.edge kind, rest) => return (.edge kind, groups, rest)
    | some (.set, rest) =>
      let (regex, rest) ← set? rest
      return (regex, groups, rest)
    | some (.opening, rest) =>
      let number := groups + 1
      let (inside, groups, rest) ← readEither dialect (depth + 1) fuel number rest
      match ← mark? dialect.isExtended rest with
      | some (.closing, after) => return (.group number inside, groups, after)
      | _ => throw .openGroup
    | some (.caret, rest) =>
      return (if isFirst || dialect.isExtended then .start else one '^', groups, rest)
    | some (.dollar, rest) =>
      let isFinish := dialect.isExtended || isAtEnd dialect.isExtended rest
      return (if isFinish then .finish else one '$', groups, rest)
    | some (.again number, rest) =>
      if number ≤ groups then return (.again number, groups, rest) else throw .noSuchGroup
    | some (.star, rest) =>
      if dialect.isExtended then throw .nothingToRepeat else return (one '*', groups, rest)
    | some (.brace, rest) =>
      if dialect.isLenient then return (one '\x7b', groups, rest) else throw .nothingToRepeat
    | some (.closing, _) => throw .closedGroup
    | some (_, _) => throw .nothingToRepeat
termination_by structural fuel => fuel

/-- A piece with the repetitions behind it. -/
def readRepeats (dialect : Dialect) : Nat → Regex → Octets → Except RegexFault (Regex × Octets)
  | 0, piece, text => .ok (piece, text)
  | fuel + 1, piece, text => do
    match ← mark? dialect.isExtended text with
    | some (.star, rest) => readRepeats dialect fuel (.repeated 0 none piece) rest
    | some (.plus, rest) => readRepeats dialect fuel (.repeated 1 none piece) rest
    | some (.question, rest) => readRepeats dialect fuel (.repeated 0 (some 1) piece) rest
    | some (.brace, rest) =>
      match bounds? dialect.isExtended rest with
      | .ok (least, most, after) => readRepeats dialect fuel (.repeated least most piece) after
      | .error fault =>
        let meansItself := dialect.isExtended && dialect.isLenient &&
          (fault = .openBounds || (fault = .invalidBounds && !rest.contains '\x7d') ||
            !rest.head?.any fun first => first.isDigit || first = ',')
        if meansItself then return (.both piece (.among false [('\x7b', '\x7b')]), rest)
        else throw fault
    | _ => return (piece, text)
termination_by structural fuel => fuel

end

/-- The expression that a text writes. -/
def ofText (dialect : Dialect) (text : Octets) : Except RegexFault Regex := do
  let (regex, _, rest) ← readEither dialect 0 (6 * text.length + 12) 0 text
  if rest.isEmpty then return regex else throw .closedGroup

/-- The expression for a text that stands for itself. -/
def literally (text : Octets) : Regex :=
  text.foldr (fun character rest => .both (.among false [(character, character)]) rest) .nothing

/-- How many groups an expression has. -/
def groupCount : Regex → Nat
  | both first second => max first.groupCount second.groupCount
  | either first second => max first.groupCount second.groupCount
  | repeated _ _ regex => regex.groupCount
  | group number regex => max number regex.groupCount
  | _ => 0

/-- Whether an expression refers to what one of its groups holds. -/
def refersBack : Regex → Bool
  | both first second => first.refersBack || second.refersBack
  | either first second => first.refersBack || second.refersBack
  | repeated _ _ regex => regex.refersBack
  | group _ regex => regex.refersBack
  | again _ => true
  | _ => false

/-! ## Matching -/

/-- A place in a text: what lies ahead, the character before it, how many characters lie behind, and
from where to where the groups go that have been passed. -/
structure Place where
  ahead : Octets
  last : Option Char
  behind : Nat
  groups : List (Nat × Nat × Nat)

/-- The place in front of a text. -/
def Place.atStart (text : Octets) : Place := ⟨text, none, 0, []⟩

/-- Go past one character. -/
def Place.next (place : Place) : Place :=
  match place.ahead with
  | [] => { place with behind := place.behind + 1 }
  | character :: rest =>
    { place with ahead := rest, last := some character, behind := place.behind + 1 }

/-- Go past some characters. -/
def Place.advance (place : Place) : Nat → Place
  | 0 => place
  | count + 1 => place.next.advance count

/-- How a text is matched: without regard to case, line by line, and against which whole text.
Places with the same rest are treated as one when nothing refers back to what a group holds. -/
structure Matching where
  foldsCase : Bool
  isByLine : Bool
  merges : Bool
  text : Octets

/-- Places without those from which the same lies ahead as from one before. -/
def distinct (matching : Matching) (places : List Place) : List Place :=
  match places with
  | [] => []
  | [only] => [only]
  | _ =>
    if matching.merges then
      (places.foldl (fun (found, seen) place =>
        if Nat.testBit seen place.behind then (found, seen)
        else (place :: found, Nat.lor seen (1 <<< place.behind))) (([] : List Place), 0)).1.reverse
    else places

/-- Whether a character is part of a word. -/
def isWordCharacter (character : Char) : Bool :=
  Text.liesIn wordRanges character

/-- Whether a place is at an edge. -/
def Place.isAt (place : Place) (edge : Edge) : Bool :=
  let before := place.last.any isWordCharacter
  let after := place.ahead.head?.any isWordCharacter
  match edge with
  | .wordStart => !before && after
  | .wordFinish => before && !after
  | .wordEdge => before != after
  | .noWordEdge => before == after
  | .noWordBefore => !before
  | .noWordBehind => !after
  | .textStart => place.behind = 0
  | .textFinish => place.ahead.isEmpty

/-- Whether a set has a character. -/
def Matching.admits (matching : Matching) (isNegated : Bool) (ranges : List Text.CharRange)
    (character : Char) : Bool :=
  let lies := Text.liesIn ranges character || (matching.foldsCase &&
    (Text.liesIn ranges character.toLower || Text.liesIn ranges character.toUpper))
  lies != isNegated

/-- The places that are reached by going from place to place again and again, those that take the
most rounds first, and the first places last. -/
def closure (matching : Matching) (onward : Place → List Place) (seen : Nat)
    (found : List (List Place)) : Nat → Option Nat → List Place → List (List Place)
  | 0, _, _ => found
  | fuel + 1, most, places =>
    let fresh := if matching.merges then
        distinct matching (places.filter fun place => !Nat.testBit seen place.behind)
      else places
    if fresh.isEmpty then found
    else if most = some 0 then fresh :: found
    else
      let seen := fresh.foldl (fun seen place => Nat.lor seen (1 <<< place.behind)) seen
      let further := fresh.flatMap fun place =>
        (onward place).filter fun next => next.behind ≠ place.behind
      closure matching onward seen (fresh :: found) fuel (most.map (· - 1)) further

/-- The places that are reached in exactly so many rounds. -/
def rounds (matching : Matching) (onward : Place → List Place) : Nat → List Place → List Place
  | 0, places => places
  | count + 1, places => rounds matching onward count (distinct matching (places.flatMap onward))

/-- The places where a match that starts at a place may end, in the order of preference. -/
def ends (matching : Matching) : Regex → Place → List Place
  | nothing, place => [place]
  | any, place => if place.ahead.isEmpty then [] else [place.next]
  | among isNegated ranges, place =>
    match place.ahead with
    | [] => []
    | character :: _ => if matching.admits isNegated ranges character then [place.next] else []
  | start, place =>
    if place.behind = 0 || (matching.isByLine && place.last = some '\n') then [place] else []
  | finish, place =>
    if place.ahead.isEmpty || (matching.isByLine && place.ahead.head? = some '\n') then [place]
    else []
  | edge kind, place => if place.isAt kind then [place] else []
  | both first second, place =>
    distinct matching ((ends matching first place).flatMap (ends matching second))
  | either first second, place =>
    distinct matching (ends matching first place ++ ends matching second place)
  | repeated least most regex, place =>
    let onward := ends matching regex
    let begun := rounds matching onward least [place]
    (closure matching onward 0 [] (place.ahead.length + 2) (most.map (· - least)) begun).flatten
  | group number regex, place =>
    (ends matching regex place).map fun next =>
      { next with groups := (number, place.behind, next.behind) :: next.groups }
  | again number, place =>
    match place.groups.lookup number with
    | none => []
    | some (first, last) =>
      let held := (matching.text.drop first).take (last - first)
      if held.isPrefixOf place.ahead then [place.advance held.length] else []

/-- A match: where it starts and ends, what it holds, and what its groups hold. -/
structure Match where
  start : Nat
  finish : Nat
  held : Octets
  groups : List (Nat × Octets)

/-- The longest match at the first place where there is one, at or behind a place. -/
def find? (matching : Matching) (regex : Regex) : Nat → Place → Option (Place × Place)
  | 0, _ => none
  | fuel + 1, place =>
    match ends matching regex { place with groups := [] } with
    | first :: others =>
      some (place, others.foldl (fun best next =>
        if best.behind < next.behind then next else best) first)
    | [] => if place.ahead.isEmpty then none else find? matching regex fuel place.next

/-- How an expression is matched against a text. -/
def matchingOf (regex : Regex) (foldsCase isByLine : Bool) (text : Octets) : Matching :=
  ⟨foldsCase, isByLine, !regex.refersBack, text⟩

/-- The match that goes from one place to another. -/
def Match.between (text : Octets) (here there : Place) : Match where
  start := here.behind
  finish := there.behind
  held := here.ahead.take (there.behind - here.behind)
  groups := there.groups.map fun (number, first, last) =>
    (number, (text.drop first).take (last - first))

/-- The first match in a text. -/
def search? (foldsCase : Bool) (regex : Regex) (text : Octets) : Option Match :=
  (find? (matchingOf regex foldsCase false text) regex (text.length + 1) (Place.atStart text)).map
    fun (here, there) => Match.between text here there

/-- Whether there is a match in a text. -/
def occursIn (foldsCase : Bool) (regex : Regex) (text : Octets) : Bool :=
  (find? (matchingOf regex foldsCase false text) regex (text.length + 1)
    (Place.atStart text)).isSome

/-- Whether an expression matches a text as a whole. -/
def matchesAll (foldsCase : Bool) (regex : Regex) (text : Octets) : Bool :=
  (ends (matchingOf regex foldsCase false text) regex (Place.atStart text)).any
    fun place => place.ahead.isEmpty

/-- The matches behind a place.  A match of nothing does not follow another match at once. -/
def allFrom (matching : Matching) (regex : Regex) (lastFinish : Option Nat) :
    Nat → Place → List Match
  | 0, _ => []
  | fuel + 1, place =>
    match find? matching regex (place.ahead.length + 1) place with
    | none => []
    | some (here, there) =>
      let isEmpty := here.behind = there.behind
      if isEmpty && lastFinish = some here.behind then
        if here.ahead.isEmpty then [] else allFrom matching regex none fuel here.next
      else
        let found := Match.between matching.text here there
        if isEmpty then
          found :: if here.ahead.isEmpty then [] else allFrom matching regex none fuel here.next
        else found :: allFrom matching regex (some there.behind) fuel there

/-- All matches in a text, from the left. -/
def all (foldsCase isByLine : Bool) (regex : Regex) (text : Octets) : List Match :=
  allFrom (matchingOf regex foldsCase isByLine text) regex none (2 * text.length + 2)
    (Place.atStart text)

end Regex

end CorpusJudge
