import CorpusJudge.Bytes
import CorpusJudge.Text.Classes

/-!
# Shell patterns

Patterns select file names and branches, and say what is stripped from a value.  A pattern comes
with a mark on each character that says whether the character may have a special meaning.
-/

namespace CorpusJudge.Shell

open Text (CharRange liesIn classRanges?)

/-- A character and whether it may have a special meaning in a pattern. -/
abbrev Marked := Char × Bool

/-- How often one of the patterns of a list has to match, or that none of them may. -/
inductive ListKind where
  | atMostOnce
  | anyTimes
  | atLeastOnce
  | once
  | never

/-- What one piece of a pattern matches. -/
inductive Glob where
  | one (character : Char)
  | any
  | many
  | among (isNegated : Bool) (ranges : List CharRange)
  | lists (kind : ListKind) (patterns : List (List Glob))

namespace Glob

/-- Split the name of a character class from what follows its end. -/
def className? (done : List Char) : List Marked → Option (String × List Marked)
  | (':', _) :: (']', _) :: rest => some (String.ofList done.reverse, rest)
  | (character, _) :: rest => className? (character :: done) rest
  | [] => none

/-- The members of a bracketed set up to its end, and what follows.  A closing bracket in the
first place is a member. -/
def members? (ranges : List CharRange) (isFirst : Bool) :
    Nat → List Marked → Option (List CharRange × List Marked)
  | 0, _ => none
  | fuel + 1, text =>
    match text with
    | [] => none
    | (']', true) :: rest =>
      if isFirst then members? ((']', ']') :: ranges) false fuel rest else some (ranges, rest)
    | ('[', true) :: (':', _) :: rest =>
      match className? [] rest with
      | some (name, after) =>
        members? ((classRanges? name).getD [] ++ ranges) false fuel after
      | none => members? (('[', '[') :: ranges) false fuel ((':', true) :: rest)
    | (first, isActive) :: ('-', true) :: (last, lastActive) :: rest =>
      if last = ']' && lastActive then
        members? ((first, first) :: ranges) false fuel (('-', true) :: (last, lastActive) :: rest)
      else if first = '\\' && isActive then
        members? (('-', '-') :: ranges) false fuel ((last, lastActive) :: rest)
      else members? ((first, last) :: ranges) false fuel rest
    | (character, _) :: rest => members? ((character, character) :: ranges) false fuel rest

/-- The set behind an opening bracket, and what follows it. -/
def set? (text : List Marked) : Option (Glob × List Marked) :=
  let (isNegated, text) := match text with
    | ('!', true) :: rest => (true, rest)
    | ('^', true) :: rest => (true, rest)
    | _ => (false, text)
  (members? [] true (text.length + 1) text).map fun (ranges, rest) => (among isNegated ranges, rest)

/-- The kind of list that a character in front of a parenthesis asks for. -/
def listKind? : Char → Option ListKind
  | '?' => some .atMostOnce
  | '*' => some .anyTimes
  | '+' => some .atLeastOnce
  | '@' => some .once
  | '!' => some .never
  | _ => none

/-- The patterns of a list up to its closing parenthesis, behind those that stand in reverse, and what
follows it. -/
def splitList? (done : List (List Marked)) (current : List Marked) (depth : Nat) :
    List Marked → Option (List (List Marked) × List Marked)
  | [] => none
  | (')', true) :: rest =>
    if depth = 0 then some ((current.reverse :: done).reverse, rest)
    else splitList? done ((')', true) :: current) (depth - 1) rest
  | ('(', true) :: rest => splitList? done (('(', true) :: current) (depth + 1) rest
  | ('|', true) :: rest =>
    if depth = 0 then splitList? (current.reverse :: done) [] 0 rest
    else splitList? done (('|', true) :: current) depth rest
  | marked :: rest => splitList? done (marked :: current) depth rest

/-- The list of patterns at the start of a text, and what follows it. -/
def listAhead? : List Marked → Option (ListKind × List (List Marked) × List Marked)
  | (mark, true) :: ('(', true) :: rest => do
    let kind ← listKind? mark
    let (patterns, after) ← splitList? [] [] 0 rest
    return (kind, patterns, after)
  | _ => none

/-- The pieces of a pattern that may hold lists of patterns. -/
def ofMarkedLists : Nat → List Marked → List Glob
  | 0, _ => []
  | fuel + 1, text =>
    match listAhead? text with
    | some (kind, patterns, after) =>
      lists kind (patterns.map (ofMarkedLists fuel)) :: ofMarkedLists fuel after
    | none =>
      match text with
      | [] => []
      | ('*', true) :: rest => many :: ofMarkedLists fuel rest
      | ('?', true) :: rest => any :: ofMarkedLists fuel rest
      | ('\\', true) :: (character, _) :: rest => one character :: ofMarkedLists fuel rest
      | ('[', true) :: rest =>
        match set? rest with
        | some (set, after) => set :: ofMarkedLists fuel after
        | none => one '[' :: ofMarkedLists fuel rest
      | (character, _) :: rest => one character :: ofMarkedLists fuel rest

/-- The pieces of a pattern. -/
def ofMarked : Nat → List Marked → List Glob
  | 0, _ => []
  | fuel + 1, text =>
    match text with
    | [] => []
    | ('*', true) :: rest => many :: ofMarked fuel rest
    | ('?', true) :: rest => any :: ofMarked fuel rest
    | ('\\', true) :: (character, _) :: rest => one character :: ofMarked fuel rest
    | ('[', true) :: rest =>
      match set? rest with
      | some (set, after) => set :: ofMarked fuel after
      | none => one '[' :: ofMarked fuel rest
    | (character, _) :: rest => one character :: ofMarked fuel rest

/-- The pattern that marked characters write. -/
def read (text : List Marked) : List Glob :=
  ofMarked (text.length + 1) text

/-- The pattern that marked characters write, which may hold lists of patterns. -/
def readLists (text : List Marked) : List Glob :=
  ofMarkedLists (text.length + 1) text

/-- Whether a character is what a piece asks for. -/
def admits (glob : Glob) (character : Char) : Bool :=
  match glob with
  | one wanted => character == wanted
  | any => true
  | many => true
  | among isNegated ranges => liesIn ranges character != isNegated
  | lists _ _ => false

/-- Numbers without those that come again. -/
def distinct (counts : List Nat) : List Nat :=
  counts.foldl (fun found count => if found.contains count then found else found ++ [count]) []

/-- How many characters of a text the pieces of a pattern may take, one after the other, given how many
a single piece may. -/
def lengthsFrom (single : Glob → Octets → List Nat) (text : Octets) (pattern : List Glob) : List Nat :=
  pattern.foldl (fun counts glob =>
    distinct (counts.flatMap fun count => (single glob (text.drop count)).map (count + ·))) [0]

/-- How many characters are taken when something that takes some of them comes again and again. -/
def repeated (once : Nat → List Nat) : Nat → List Nat → List Nat
  | 0, counts => counts
  | fuel + 1, counts =>
    let more := distinct (counts ++ counts.flatMap once)
    if more.length = counts.length then counts else repeated once fuel more

/-- How many characters at the start of a text a piece may take, with lists in each other as far as the
fuel goes. -/
def lengths : Nat → Glob → Octets → List Nat
  | _, many, text => List.range (text.length + 1)
  | 0, _, _ => []
  | fuel + 1, lists kind patterns, text =>
    let once (start : Nat) : List Nat :=
      distinct (patterns.flatMap (lengthsFrom (lengths fuel) (text.drop start))) |>.map (start + ·)
    match kind with
    | .once => once 0
    | .atMostOnce => distinct (0 :: once 0)
    | .anyTimes => repeated once (text.length + 1) [0]
    | .atLeastOnce => repeated once (text.length + 1) (once 0)
    | .never =>
      let taken := once 0
      (List.range (text.length + 1)).filter fun count => !taken.contains count
  | _, glob, text =>
    match text with
    | character :: _ => if glob.admits character then [1] else []
    | [] => []

/-- Whether a pattern holds a list of patterns. -/
def hasLists (pattern : List Glob) : Bool :=
  pattern.any fun glob => match glob with
    | lists _ _ => true
    | _ => false

/-- How deep lists of patterns may stand in each other. -/
def maxDepth : Nat := 64

/-- Whether a pattern without lists matches the whole of a text. -/
def matchesSimply (pattern : List Glob) (text : Octets) : Bool :=
  match pattern, text with
  | [], [] => true
  | [], _ :: _ => false
  | many :: rest, [] => matchesSimply rest []
  | many :: rest, character :: more =>
    matchesSimply rest (character :: more) || matchesSimply (many :: rest) more
  | _ :: _, [] => false
  | glob :: rest, character :: more => glob.admits character && matchesSimply rest more
termination_by text.length + pattern.length

/-- Whether a pattern matches the whole of a text. -/
def matchesAll (pattern : List Glob) (text : Octets) : Bool :=
  if hasLists pattern then (lengthsFrom (lengths maxDepth) text pattern).contains text.length
  else matchesSimply pattern text

/-- A pattern that matches letters of either case, for texts in lower case. -/
def lowered (glob : Glob) : Glob :=
  match glob with
  | one character => one character.toLower
  | among isNegated ranges =>
    let other := ranges.filterMap fun (first, last) =>
      if first.isUpper && last.isUpper then some (first.toLower, last.toLower) else none
    among isNegated (ranges ++ other)
  | _ => glob

/-- Whether a pattern matches the whole of a text, in which the case of letters may not matter. -/
def matchesFolded (foldsCase : Bool) (pattern : List Glob) (text : Octets) : Bool :=
  if foldsCase then matchesAll (pattern.map lowered) (text.map Char.toLower)
  else matchesAll pattern text

/-- Whether each piece of a pattern takes one character. -/
def isEven (pattern : List Glob) : Bool :=
  pattern.all fun glob => match glob with
    | many => false
    | lists _ _ => false
    | _ => true

/-- How many characters a pattern may match in a text of some length, fewest first. -/
def lengthsIn (pattern : List Glob) (length : Nat) : List Nat :=
  if isEven pattern then [pattern.length].filter (· ≤ length) else List.range (length + 1)

/-- How many characters at the start of a text a pattern matches at most. -/
def matchedStart? (pattern : List Glob) (text : Octets) : Option Nat :=
  (lengthsIn pattern text.length).reverse.find? fun count => matchesAll pattern (text.take count)

/-- How many characters in front of the end of a text a pattern matches at most. -/
def matchedEnd? (pattern : List Glob) (text : Octets) : Option Nat :=
  (lengthsIn pattern text.length).reverse.find? fun count =>
    matchesAll pattern (text.drop (text.length - count))

/-- Put another text in the places that a pattern matches, of which there may be so many.  A place holds
at least one character, and as many as possible. -/
def replaceFrom (pattern : List Glob) (replacement : Octets → Octets) :
    Nat → Nat → Octets → Octets
  | 0, _, text => text
  | _, 0, text => text
  | fuel + 1, places + 1, text =>
    match text with
    | [] => []
    | character :: rest =>
      match (matchedStart? pattern text).filter (0 < ·) with
      | some count =>
        replacement (text.take count) ++ replaceFrom pattern replacement fuel places (text.drop count)
      | none => character :: replaceFrom pattern replacement fuel (places + 1) rest

/-- Take the shortest or longest start that a pattern matches off a text. -/
def stripStart (longest : Bool) (pattern : List Glob) (text : Octets) : Octets :=
  let counts := List.range (text.length + 1)
  let counts := if longest then counts.reverse else counts
  match counts.find? fun count => matchesAll pattern (text.take count) with
  | some count => text.drop count
  | none => text

/-- Take the shortest or longest end that a pattern matches off a text. -/
def stripEnd (longest : Bool) (pattern : List Glob) (text : Octets) : Octets :=
  let counts := List.range (text.length + 1)
  let counts := if longest then counts else counts.reverse
  match counts.find? fun count => matchesAll pattern (text.drop count) with
  | some count => text.take count
  | none => text

end Glob

end CorpusJudge.Shell
