import CorpusJudge.Bytes

/-!
# Differences of sequences

Two sequences are compared by looking for a shortest way of taking items out of the one and putting
items of the other in.  The search goes from both ends at once until the ways meet, and then goes on
with the two halves.  Sequences are arrays of numbers, which stand for classes of equal items.
-/

namespace CorpusJudge

/-- Two sequences that are compared. -/
structure Contrast where
  left : Array Nat
  right : Array Nat

/-- Which items of two sequences are not common to them. -/
structure Marks where
  left : Array Bool
  right : Array Bool

/-- Items that stand in the place of others: where they start, and how many there are, in either
sequence. -/
structure Hunk where
  left : Nat
  right : Nat
  deleted : Nat
  inserted : Nat

namespace Contrast

/-- Whether two items are equal. -/
def agree (contrast : Contrast) (x y : Int) : Bool :=
  match contrast.left[x.toNat]?, contrast.right[y.toNat]? with
  | some first, some second => first = second
  | _, _ => false

/-- A part of the two sequences, from some places up to others. -/
structure Window where
  fromX : Int
  toX : Int
  fromY : Int
  toY : Int

/-- How far the ways have come on each diagonal, from one end. -/
structure Front where
  reach : Array Int
  least : Int
  most : Int

namespace Front

/-- How far the way on a diagonal has come; diagonals are numbered from one below the first. -/
def at? (front : Front) (first diagonal : Int) : Int :=
  front.reach.getD (diagonal - first + 1).toNat 0

/-- Note how far the way on a diagonal has come. -/
def note (front : Front) (first diagonal place : Int) : Front :=
  { front with reach := front.reach.setIfInBounds (diagonal - first + 1).toNat place }

/-- Let the ways spread to the diagonals beside them, as far as there are some. -/
def spread (front : Front) (first last unreached : Int) : Front :=
  let front := if first < front.least then
      { front.note first (front.least - 2) unreached with least := front.least - 1 }
    else { front with least := front.least + 1 }
  if front.most < last then
    { front.note first (front.most + 2) unreached with most := front.most + 1 }
  else { front with most := front.most - 1 }

end Front

/-- Follow equal items forward. -/
def slide (contrast : Contrast) (window : Window) (diagonal : Int) : Nat → Int → Int
  | 0, x => x
  | fuel + 1, x =>
    if x < window.toX && x - diagonal < window.toY && contrast.agree x (x - diagonal) then
      slide contrast window diagonal fuel (x + 1)
    else x

/-- Follow equal items backward. -/
def climb (contrast : Contrast) (window : Window) (diagonal : Int) : Nat → Int → Int
  | 0, x => x
  | fuel + 1, x =>
    if window.fromX < x && window.fromY < x - diagonal &&
        contrast.agree (x - 1) (x - diagonal - 1) then
      climb contrast window diagonal fuel (x - 1)
    else x

/-- Go one step further on each diagonal from the greatest one down; the second result is where the
ways from both ends meet, if they do. -/
def advance (contrast : Contrast) (window : Window) (first : Int) (isForward : Bool)
    (meets : Int → Int → Bool) : Nat → Int → Front → Front × Option (Int × Int)
  | 0, _, front => (front, none)
  | fuel + 1, diagonal, front =>
    if diagonal < front.least then (front, none)
    else
      let low := front.at? first (diagonal - 1)
      let high := front.at? first (diagonal + 1)
      let size := contrast.left.size + 1
      let x := if isForward then
          contrast.slide window diagonal size (if low < high then high else low + 1)
        else contrast.climb window diagonal size (if low < high then low else high - 1)
      let front := front.note first diagonal x
      if meets diagonal x then (front, some (x, x - diagonal))
      else advance contrast window first isForward meets fuel (diagonal - 2) front

/-- Where a shortest way through a window has its middle. -/
def middle (contrast : Contrast) (window : Window) : Int × Int :=
  let first := window.fromX - window.toY
  let last := window.toX - window.fromY
  let top := window.fromX - window.fromY
  let bottom := window.toX - window.toY
  let isOdd := (top - bottom) % 2 ≠ 0
  let size := (last - first).toNat + 3
  let far : Int := contrast.left.size + contrast.right.size + 2
  let start (diagonal place : Int) : Front :=
    Front.note ⟨Array.replicate size 0, diagonal, diagonal⟩ first diagonal place
  let rec search : Nat → Front → Front → Int × Int
    | 0, _, _ => (window.toX, window.fromY)
    | fuel + 1, down, up =>
      let down := down.spread first last (-1)
      let meetsUp (diagonal x : Int) : Bool :=
        isOdd && up.least ≤ diagonal && diagonal ≤ up.most && up.at? first diagonal ≤ x
      match contrast.advance window first true meetsUp size down.most down with
      | (_, some found) => found
      | (down, none) =>
        let up := up.spread first last far
        let meetsDown (diagonal x : Int) : Bool :=
          !isOdd && down.least ≤ diagonal && diagonal ≤ down.most && x ≤ down.at? first diagonal
        match contrast.advance window first false meetsDown size up.most up with
        | (_, some found) => found
        | (up, none) => search fuel down up
  search size (start top window.fromX) (start bottom window.toX)

/-- Mark the items from one place up to another. -/
def markRange (marks : Array Bool) (start stop : Int) : Array Bool :=
  (List.range (stop - start).toNat).foldl
    (fun marks offset => marks.setIfInBounds (start.toNat + offset) true) marks

/-- Mark the items of a window that are not common to both sequences. -/
def markIn (contrast : Contrast) : Nat → Window → Marks → Marks
  | 0, _, marks => marks
  | fuel + 1, window, marks =>
    let size := contrast.left.size + 1
    let fromX := contrast.slide window (window.fromX - window.fromY) size window.fromX
    let fromY := window.fromY + (fromX - window.fromX)
    let rest : Window := ⟨fromX, window.toX, fromY, window.toY⟩
    let toX := contrast.climb rest (window.toX - window.toY) size window.toX
    let toY := window.toY - (window.toX - toX)
    if fromX = toX then { marks with right := markRange marks.right fromY toY }
    else if fromY = toY then { marks with left := markRange marks.left fromX toX }
    else
      let window : Window := ⟨fromX, toX, fromY, toY⟩
      let (x, y) := contrast.middle window
      let marks := markIn contrast fuel ⟨fromX, x, fromY, y⟩ marks
      markIn contrast fuel ⟨x, toX, y, toY⟩ marks

/-- The items of two sequences that are not common to them. -/
def marks (contrast : Contrast) : Marks :=
  let left := contrast.left.size
  let right := contrast.right.size
  contrast.markIn (left + right + 1) ⟨0, left, 0, right⟩
    ⟨Array.replicate left false, Array.replicate right false⟩

/-! ## Items that are left aside

Items without an equal one in the other sequence need not be compared.  Items with very many equal
ones are left aside for the time being where they stand among those. -/

/-- What becomes of an item in the comparison. -/
inductive Fate where
  | kept
  | dropped
  | doubtful
  deriving DecidableEq

/-- A power of two, doubled for every fourth part of a size. -/
def doubledFor (start : Nat) : Nat → Nat → Nat
  | 0, _ => start
  | fuel + 1, size =>
    let size := size / 4
    if size = 0 then start else doubledFor (2 * start) fuel size

/-- What becomes of the items of one sequence at first, in view of how often each class stands in the
other one. -/
def firstFates (items : Array Nat) (count : Nat → Nat) : List Fate :=
  let many := doubledFor 5 items.size (items.size / 64)
  items.toList.map fun item =>
    if count item = 0 then .dropped else if many < count item then .doubtful else .kept

/-- Keep doubtful items in a run up to where others are dropped for sure. -/
def settleEdge : Nat → Nat → List Fate → List Fate
  | _, _, [] => []
  | index, dropped, fate :: rest =>
    if 8 ≤ index && fate = .dropped then fate :: rest
    else match fate with
      | .doubtful => .kept :: settleEdge (index + 1) 0 rest
      | .kept => .kept :: settleEdge (index + 1) 0 rest
      | .dropped => if dropped + 1 = 3 then fate :: rest
        else .dropped :: settleEdge (index + 1) (dropped + 1) rest

/-- Keep all doubtful items. -/
def keepDoubtful (fates : List Fate) : List Fate :=
  fates.map fun fate => if fate = .doubtful then .kept else fate

/-- Keep groups of doubtful items in a run that are at least of some size. -/
def keepGroups (least : Nat) (run : List Fate) : List Fate :=
  (run.splitBy (· == ·)).flatMap fun group =>
    if group.head? = some .doubtful && least ≤ group.length then keepDoubtful group else group

/-- What becomes of the items of a run that starts and ends with a dropped one. -/
def settleRun (run : List Fate) : List Fate :=
  if run.length < 4 * run.count .doubtful then keepDoubtful run
  else
    let least := doubledFor 1 run.length (run.length / 4) + 1
    let run := settleEdge 0 0 (keepGroups least run)
    (settleEdge 0 0 run.reverse).reverse

/-- What becomes of items, run by run. -/
def settle : Nat → List Fate → List Fate
  | 0, fates => fates
  | fuel + 1, fates =>
    match fates with
    | [] => []
    | .dropped :: _ =>
      let run := fates.takeWhile (· ≠ .kept)
      let tail := (run.reverse.takeWhile (· = .doubtful)).length
      let core := run.take (run.length - tail)
      settleRun core ++ List.replicate tail .kept ++ settle fuel (fates.drop run.length)
    | _ :: rest => .kept :: settle fuel rest

/-- How often each class stands in a sequence. -/
def countsIn (items : Array Nat) : Array Nat :=
  let most := items.foldl max 0
  items.foldl (fun counts item => counts.modify item (· + 1)) (Array.replicate (most + 1) 0)

/-- Items with their places, as far as they are compared. -/
def compared (items : Array Nat) (fates : List Fate) : List (Nat × Nat) :=
  ((items.toList.zipIdx).zip fates).filterMap fun (item, fate) =>
    if fate = .kept then some item else none

/-- Marks of the items that are compared, put at their places among all items. -/
def placed (size : Nat) (items : List (Nat × Nat)) (marks : Array Bool) : Array Bool :=
  (items.zip marks.toList).foldl
    (fun all ((_, place), isMarked) => all.setIfInBounds place isMarked) (Array.replicate size true)

/-- The items that are not common, when those that cannot be are left aside. -/
def marksOfRest (contrast : Contrast) : Marks :=
  let inLeft := countsIn contrast.left
  let inRight := countsIn contrast.right
  let fatesOf (items counts : Array Nat) : List Fate :=
    settle (items.size + 1) (firstFates items fun item => counts.getD item 0)
  let left := compared contrast.left (fatesOf contrast.left inRight)
  let right := compared contrast.right (fatesOf contrast.right inLeft)
  let rest : Contrast := ⟨(left.map Prod.fst).toArray, (right.map Prod.fst).toArray⟩
  let marks := rest.marks
  ⟨placed contrast.left.size left marks.left, placed contrast.right.size right marks.right⟩

/-! ## Moving runs

A run of marked items can be moved where the item in front of it equals its last one, or the item
behind it equals its first one.  Runs that meet are joined, and a run is put beside one in the other
sequence if possible; otherwise it goes as far to the end as it can. -/

/-- A run that is being moved: from where up to where it reaches, the place in the other sequence, and
up to where it reached when it last stood beside a run there. -/
structure Run where
  marks : Array Bool
  start : Nat
  stop : Nat
  other : Nat
  beside : Nat

/-- Whether the item at a place is marked. -/
def isMarked (marks : Array Bool) (place : Nat) : Bool := marks.getD place false

/-- The first place from another one on that is not marked. -/
def skip (marks : Array Bool) : Nat → Nat → Nat
  | 0, place => place
  | fuel + 1, place => if isMarked marks place then skip marks fuel (place + 1) else place

/-- The place behind the last item before a place that is not marked. -/
def skipBack (marks : Array Bool) : Nat → Nat → Nat
  | 0, place => place
  | fuel + 1, place =>
    if 0 < place && isMarked marks (place - 1) then skipBack marks fuel (place - 1) else place

/-- The place of the last item before a place that is not marked. -/
def stepBack (marks : Array Bool) (place : Nat) : Nat :=
  skipBack marks place place - 1

/-- Move a run back as far as possible. -/
def moveBack (items : Array Nat) (others : Array Bool) : Nat → Run → Run
  | 0, run => run
  | fuel + 1, run =>
    if 0 < run.start && items.getD (run.start - 1) 0 = items.getD (run.stop - 1) 0 then
      let marks := (run.marks.setIfInBounds (run.start - 1) true).setIfInBounds (run.stop - 1) false
      let start := skipBack marks (run.start - 1) (run.start - 1)
      let other := stepBack others run.other
      moveBack items others fuel
        { run with marks := marks, start := start, stop := run.stop - 1, other := other }
    else run

/-- Move a run forward as far as possible. -/
def moveForward (items : Array Nat) (others : Array Bool) : Nat → Run → Run
  | 0, run => run
  | fuel + 1, run =>
    if run.stop < items.size && items.getD run.start 0 = items.getD run.stop 0 then
      let marks := (run.marks.setIfInBounds run.start false).setIfInBounds run.stop true
      let stop := skip marks items.size (run.stop + 1)
      let next := run.other + 1
      let other := skip others others.size next
      moveForward items others fuel
        { run with
          marks := marks
          start := run.start + 1
          stop := stop
          other := other
          beside := if next < other then stop else run.beside }
    else run

/-- Move a run back and forward until it does not grow any more. -/
def grow (items : Array Nat) (others : Array Bool) : Nat → Run → Run
  | 0, run => run
  | fuel + 1, run =>
    let size := run.stop - run.start
    let back := moveBack items others items.size run
    let isBeside := 0 < back.other && isMarked others (back.other - 1)
    let back := { back with beside := if isBeside then back.stop else items.size }
    let moved := moveForward items others items.size back
    if size = moved.stop - moved.start then moved else grow items others fuel moved

/-- Move a run back until it stands where it stood beside another one. -/
def comeBack (others : Array Bool) : Nat → Run → Run
  | 0, run => run
  | fuel + 1, run =>
    if run.beside < run.stop then
      let marks := (run.marks.setIfInBounds (run.start - 1) true).setIfInBounds (run.stop - 1) false
      comeBack others fuel
        { run with
          marks := marks, start := run.start - 1, stop := run.stop - 1
          other := stepBack others run.other }
    else run

/-- Move the runs from a place on, in view of the place in the other sequence. -/
def moveRuns (items : Array Nat) (others : Array Bool) : Nat → Nat → Nat → Array Bool → Array Bool
  | 0, _, _, marks => marks
  | fuel + 1, place, other, marks =>
    if items.size ≤ place then marks
    else if isMarked marks place then
      let stop := skip marks items.size place
      let run : Run := ⟨marks, place, stop, skip others others.size other, items.size⟩
      let run := comeBack others items.size (grow items others items.size run)
      moveRuns items others fuel run.stop run.other run.marks
    else moveRuns items others fuel (place + 1) (skip others others.size other + 1) marks

/-- Marks with their runs moved. -/
def tidied (contrast : Contrast) (marks : Marks) : Marks :=
  let size := contrast.left.size + contrast.right.size + 1
  let left := moveRuns contrast.left marks.right size 0 0 marks.left
  ⟨left, moveRuns contrast.right left size 0 0 marks.right⟩

/-- The hunks that marks make up, from some places on. -/
def hunksFrom (marks : Marks) : Nat → Nat → Nat → List Hunk
  | 0, _, _ => []
  | fuel + 1, left, right =>
    if marks.left.size ≤ left && marks.right.size ≤ right then []
    else
      let left' := skip marks.left marks.left.size left
      let right' := skip marks.right marks.right.size right
      let rest := hunksFrom marks fuel (left' + 1) (right' + 1)
      if left' = left && right' = right then rest
      else ⟨left, right, left' - left, right' - right⟩ :: rest

/-- The hunks in which two sequences differ, in order.  Equal items at the beginning and at the end
are left out of the comparison, except some that stand beside the others. -/
def hunks (contrast : Contrast) (horizon : Nat) (keepsEnd : Bool) : List Hunk :=
  let common (left right : List Nat) : Nat :=
    ((left.zip right).takeWhile fun (first, second) => first = second).length
  let left := contrast.left.toList
  let right := contrast.right.toList
  let front := common left right - horizon
  let room := min left.length right.length - front
  let back := if keepsEnd then 0 else min room (common left.reverse right.reverse) - horizon
  let part (items : List Nat) : Array Nat :=
    ((items.take (items.length - back)).drop front).toArray
  let inner : Contrast := ⟨part left, part right⟩
  let marks := inner.tidied inner.marksOfRest
  (hunksFrom marks (inner.left.size + inner.right.size + 1) 0 0).map fun hunk =>
    { hunk with left := hunk.left + front, right := hunk.right + front }

end Contrast

end CorpusJudge
