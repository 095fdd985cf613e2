import CorpusJudge.Bytes
import CorpusJudge.Emulator.Shell.Token
import CorpusJudge.Text.Integer

/-!
# Braces

In the extended dialect a word with choices in braces stands for several words, one for each choice.  The
choices are parts between commas, or the members of a range.
-/

namespace CorpusJudge.Shell

/-- A piece of a word: a bare character, or a part that is taken as a whole. -/
inductive WordPiece where
  | bare (character : Char)
  | whole (part : Part)

namespace WordPiece

/-- The bare character that a piece is. -/
def bare? : WordPiece → Option Char
  | bare character => some character
  | whole _ => none

/-- The pieces of a word. -/
def ofWord (word : Word) : List WordPiece :=
  word.flatMap fun part => match part with
    | .text false characters => characters.map bare
    | part => [whole part]

/-- The word that pieces make up. -/
def toWord (pieces : List WordPiece) : Word :=
  pieces.foldr (fun piece parts => match piece with
    | bare character => consText false [character] parts
    | whole part => part :: parts) []

/-- The pieces up to the brace that closes one which is open, and those behind it.  A comma or a range has
to stand between them. -/
def splitBraces? (isChoice : Bool) (depth : Nat) (done : List WordPiece) :
    List WordPiece → Option (List WordPiece × List WordPiece)
  | [] => none
  | piece :: rest =>
    match piece.bare? with
    | some '\x7d' =>
      if depth = 0 && isChoice then some (done.reverse, rest)
      else splitBraces? isChoice (depth - 1) (piece :: done) rest
    | some '\x7b' => splitBraces? isChoice (depth + 1) (piece :: done) rest
    | some ',' => splitBraces? (isChoice || depth = 0) depth (piece :: done) rest
    | some '.' =>
      let ahead := (rest.take 2).map bare?
      let isRange := depth = 0 && ahead.head? = some (some '.') && ahead.getLast? ≠ some (some '\x7d')
      splitBraces? (isChoice || isRange) depth (piece :: done) rest
    | _ => splitBraces? isChoice depth (piece :: done) rest

/-- The pieces before the first braces that hold choices, those between them, and those behind them. -/
def findBraces? (before : List WordPiece) :
    List WordPiece → Option (List WordPiece × List WordPiece × List WordPiece)
  | [] => none
  | piece :: rest =>
    let isAlone := before.isEmpty && (rest.isEmpty || (rest.head?.bind bare?) = some '\x7d')
    match (if piece.bare? = some '\x7b' && !isAlone then splitBraces? false 0 [] rest else none) with
    | some (inside, after) => some (before.reverse, inside, after)
    | none => findBraces? (piece :: before) rest

/-- The pieces between the commas of a choice, behind those that stand in reverse. -/
def choices (depth : Nat) (done : List WordPiece) : List WordPiece → List (List WordPiece)
  | [] => [done.reverse]
  | piece :: rest =>
    match piece.bare? with
    | some ',' =>
      if depth = 0 then done.reverse :: choices 0 [] rest else choices depth (piece :: done) rest
    | some '\x7b' => choices (depth + 1) (piece :: done) rest
    | some '\x7d' => choices (depth - 1) (piece :: done) rest
    | _ => choices depth (piece :: done) rest

end WordPiece

/-- An end of a range: a number with its width if it has zeros in front, or a letter. -/
inductive RangeEnd where
  | number (value : Int) (width : Nat) (isFilled : Bool)
  | letter (character : Char)

/-- The end of a range that a text writes. -/
def RangeEnd.read? (text : Octets) : Option RangeEnd :=
  match Integer.signed? 10 text with
  | some value =>
    if !Integer.fits value then none
    else
      let digits := if text.head? = some '-' then text.tail else text
      some (.number value text.length (1 < digits.length && digits.head? = some '0'))
  | none =>
    match text with
    | [character] => if character.isAlpha then some (.letter character) else none
    | _ => none

/-- The numbers from one to another with a distance between them. -/
def numbersBetween (first last distance : Int) : List Int :=
  let size := max 1 distance.natAbs
  let count := (last - first).natAbs / size + 1
  (List.range count).map fun place =>
    let change := Int.ofNat (place * size)
    if first ≤ last then first + change else first - change

/-- A number filled up with zeros to a width. -/
def filledNumber (width : Nat) (value : Int) : Octets :=
  let digits := (toString value.natAbs).toList
  let sign := if value < 0 then ['-'] else []
  sign ++ List.replicate (width - digits.length - sign.length) '0' ++ digits

/-- The members of a range: of numbers or of letters, with the distance between them. -/
def rangeMembers? (text : Octets) : Option (List Octets) := do
  let (first, last, distance) ← match (String.ofList text).splitOn ".." with
    | [first, last] => some (first, last, "1")
    | [first, last, distance] => some (first, last, distance)
    | _ => none
  let distance ← (Integer.signed? 10 distance.toList).filter Integer.fits
  match ← RangeEnd.read? first.toList, ← RangeEnd.read? last.toList with
  | .number first width isFilled, .number last other isOtherFilled =>
    let width := if isFilled || isOtherFilled then max width other else 0
    return (numbersBetween first last distance).map (filledNumber width)
  | .letter first, .letter last =>
    return (numbersBetween first.toNat last.toNat distance).map fun code => [Char.ofNat code.toNat]
  | _, _ => none

namespace WordPiece

/-- The words that pieces stand for, with braces in each other as far as the fuel goes. -/
def expand : Nat → List WordPiece → List (List WordPiece)
  | 0, pieces => [pieces]
  | fuel + 1, pieces =>
    match findBraces? [] pieces with
    | none => [pieces]
    | some (before, inside, after) =>
      let isList := inside.any fun piece => piece.bare? = some ','
      let found : Option (List (List WordPiece)) :=
        if isList then some ((choices 0 [] inside).flatMap (expand fuel))
        else if inside.all fun piece => piece.bare?.isSome then
          (rangeMembers? (inside.filterMap bare?)).map fun members =>
            members.map fun member => member.map bare
        else none
      let found := found.getD [bare '\x7b' :: inside ++ [bare '\x7d']]
      let rests := if after.isEmpty then [[]] else expand fuel after
      found.flatMap fun choice => rests.map fun rest => before ++ choice ++ rest

end WordPiece

/-- The words that a word with choices in braces stands for. -/
def bracedWords (word : Word) : List Word :=
  let pieces := WordPiece.ofWord word
  if pieces.any fun piece => piece.bare? = some '\x7b' then
    (WordPiece.expand (pieces.length + 1) pieces).map WordPiece.toWord
  else [word]

end CorpusJudge.Shell
