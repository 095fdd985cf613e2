import CorpusJudge.Emulator.Tool.Call
import CorpusJudge.Emulator.Tool.Order

/-!
# Files side by side and parts of lines

Tools that read several files line by line at the same time: which lines two sorted files have in
common, which of their lines have the same field, and the lines of files next to each other.
-/

namespace CorpusJudge

/-- The lines of a text that end in a mark. -/
def markedLines (mark : Char) (text : Octets) : List Octets :=
  let pieces := Text.segments mark text
  if pieces.getLast? = some [] then pieces.dropLast else pieces

/-- Whether sorted input is checked: as soon as a line has no partner, from the start on with an end
at the first fault, or not. -/
inductive OrderCheck where
  | onDemand
  | strict
  | none
  deriving DecidableEq

/-- The way in which options ask for sorted input to be checked. -/
def OrderCheck.ofOptions (options : Options) : OrderCheck :=
  match options.last? ["check-order", "nocheck-order"] with
  | some "check-order" => .strict
  | some _ => .none
  | Option.none => .onDemand

/-- Two files of which the lines are taken one after the other.  It is noted whether a line had no
partner, and which files were found to be out of order. -/
structure SideBySide (α : Type) where
  left : List α
  right : List α
  hasUnpaired : Bool := false
  isLeftWrong : Bool := false
  isRightWrong : Bool := false
  outgoing : Outgoing := {}

/-! ## Lines in common -/

/-- How lines are compared with those of another file: which columns are shown, what stands between
them, and the mark at the end of lines. -/
structure CommonPlan where
  columns : Bool × Bool × Bool
  separator : Octets
  mark : Char
  check : OrderCheck

namespace CommonPlan

/-- A line in one of the columns. -/
def row (plan : CommonPlan) (column : Nat) (line : Octets) : Octets :=
  let (first, second, third) := plan.columns
  let gap (isShown : Bool) : Octets := if isShown then plan.separator else []
  match column with
  | 1 => if first then line ++ [plan.mark] else []
  | 2 => if second then gap first ++ line ++ [plan.mark] else []
  | _ => if third then gap first ++ gap second ++ line ++ [plan.mark] else []

/-- Whether the lines at the start of a file are out of order, as far as that is to be checked.  At
the end of the file the two lines before it count. -/
def isWrong (plan : CommonPlan) (hasUnpaired : Bool) (before : Option Octets) (lines : List Octets) :
    Bool :=
  let isAsked := match plan.check with
    | .strict => true
    | .onDemand => hasUnpaired
    | .none => false
  isAsked && match lines, before with
    | first :: second :: _, _ => Octets.order first second = .gt
    | [only], some before => Octets.order before only = .gt
    | _, _ => false

/-- The complaint about a file that is out of order. -/
def complain (plan : CommonPlan) (call : Call) (number : Nat) : List Job :=
  Job.complain call.name s!"file {number} is not in sorted order".toList ::
    (if plan.check = .strict then [.quit 1] else [])

/-- Compare the lines of two files, where `leftBefore` and `rightBefore` stand in front of them, and
count those of each column. -/
def compareLines (plan : CommonPlan) (call : Call) (leftBefore rightBefore : Option Octets)
    (totals : Nat × Nat × Nat) : Nat → SideBySide Octets → SideBySide Octets × (Nat × Nat × Nat)
  | 0, state => (state, totals)
  | fuel + 1, state =>
    let order? := match state.left, state.right with
      | [], [] => none
      | _, [] => some Ordering.lt
      | [], _ => some Ordering.gt
      | left :: _, right :: _ => some (Octets.order left right)
    match order? with
    | none => (state, totals)
    | some order =>
      let (ones, twos, threes) := totals
      let (text, totals) := match order with
        | .lt => (plan.row 1 (state.left.headD []), (ones + 1, twos, threes))
        | .gt => (plan.row 2 (state.right.headD []), (ones, twos + 1, threes))
        | .eq => (plan.row 3 (state.right.headD []), (ones, twos, threes + 1))
      let hasUnpaired := state.hasUnpaired || order ≠ .eq
      let takesLeft := order ≠ .gt
      let takesRight := order ≠ .lt
      let leftFails := takesLeft && !state.isLeftWrong &&
        plan.isWrong hasUnpaired leftBefore state.left
      let rightFails := takesRight && !state.isRightWrong &&
        plan.isWrong hasUnpaired rightBefore state.right
      let outgoing := state.outgoing.say text
      let outgoing := if leftFails then outgoing.addAll (plan.complain call 1) else outgoing
      let outgoing := if rightFails then outgoing.addAll (plan.complain call 2) else outgoing
      compareLines plan call
        (if takesLeft then state.left.head? else leftBefore)
        (if takesRight then state.right.head? else rightBefore) totals fuel
        { left := if takesLeft then state.left.tail else state.left
          right := if takesRight then state.right.tail else state.right
          hasUnpaired := hasUnpaired
          isLeftWrong := state.isLeftWrong || leftFails
          isRightWrong := state.isRightWrong || rightFails
          outgoing := outgoing }

end CommonPlan

/-! ## Lines with the same field -/

/-- A field of a line in a list of what is shown: the one that is compared, or one of a file. -/
inductive ShownField where
  | common
  | field (file number : Nat)

/-- How lines are put together with those of another file. -/
structure JoinPlan where
  fields : Nat × Nat
  showsUnpaired : Bool × Bool
  showsPaired : Bool
  foldsCase : Bool
  separator : Option Char
  filler : Octets
  shown : Option (List ShownField)
  mark : Char
  check : OrderCheck
  names : Octets × Octets

/-- A line with its number and its fields. -/
structure FieldLine where
  number : Nat
  text : Octets
  fields : List Octets

namespace JoinPlan

/-- The fields of a line. -/
def fieldsOf (plan : JoinPlan) (line : Octets) : List Octets :=
  match plan.separator with
  | some separator => if line.isEmpty then [] else Text.segments separator line
  | none =>
    let rec collect : Nat → Octets → List Octets
      | 0, _ => []
      | fuel + 1, text =>
        let word := text.takeWhile fun character => !Octets.isBlank character
        let rest := text.drop word.length
        if rest.isEmpty then [word]
        else word :: collect fuel (rest.dropWhile Octets.isBlank)
    let text := line.dropWhile Octets.isBlank
    if text.isEmpty then [] else collect (text.length + 1) text

/-- The lines of a file with their fields. -/
def linesOf (plan : JoinPlan) (text : Octets) : List FieldLine :=
  (markedLines plan.mark text).zipIdx.map fun (line, index) => ⟨index + 1, line, plan.fieldsOf line⟩

/-- The order of two fields. -/
def keyOrder (plan : JoinPlan) (left right : Octets) : Ordering :=
  if plan.foldsCase then Octets.order (left.map Char.toUpper) (right.map Char.toUpper)
  else Octets.order left right

/-- The field of a line of the first file that counts. -/
def leftKey (plan : JoinPlan) (line : FieldLine) : Octets := line.fields.getD plan.fields.1 []

/-- The field of a line of the second file that counts. -/
def rightKey (plan : JoinPlan) (line : FieldLine) : Octets := line.fields.getD plan.fields.2 []

/-- What is shown for two lines, of which one may be missing. -/
def row (plan : JoinPlan) (left right : Option FieldLine) : Octets :=
  let filled (field : Option Octets) : Octets :=
    match field with
    | some (character :: rest) => character :: rest
    | _ => plan.filler
  let common := filled <| match left, right with
    | some line, _ => line.fields[plan.fields.1]?
    | none, some line => line.fields[plan.fields.2]?
    | none, none => none
  let others (line : Option FieldLine) (skipped : Nat) : List Octets :=
    match line with
    | some line => (line.fields.eraseIdx skipped).map fun field => filled (some field)
    | none => []
  let cells := match plan.shown with
    | some shown => shown.map fun field => match field with
      | .common => common
      | .field 1 number => filled (left.bind fun line => line.fields[number]?)
      | .field _ number => filled (right.bind fun line => line.fields[number]?)
    | none => common :: (others left plan.fields.1 ++ others right plan.fields.2)
  Text.joined (plan.separator.getD ' ') cells ++ [plan.mark]

/-- Work on two files. -/
abbrev Joining (α : Type) := StateM (SideBySide FieldLine) α

/-- Show a line. -/
def say (text : Octets) : Joining Unit :=
  modify fun state => { state with outgoing := state.outgoing.say text }

/-- Complain about a line that stands behind one that it has to precede. -/
def checkLine (plan : JoinPlan) (call : Call) (isLeft : Bool) (before : FieldLine)
    (after : Option FieldLine) : Joining Unit := do
  let state ← get
  let isAsked := match plan.check with
    | .strict => true
    | .onDemand => state.hasUnpaired
    | .none => false
  let key := if isLeft then plan.leftKey else plan.rightKey
  match after with
  | none => pure ()
  | some line =>
    let isKnown := if isLeft then state.isLeftWrong else state.isRightWrong
    if isAsked && !isKnown && plan.keyOrder (key before) (key line) = .gt then
      let name := if isLeft then plan.names.1 else plan.names.2
      let complaint := Job.complain call.name
        (name ++ s!":{line.number}: is not sorted: ".toList ++ line.text)
      modify fun state =>
        { state with
          isLeftWrong := state.isLeftWrong || isLeft
          isRightWrong := state.isRightWrong || !isLeft
          outgoing := state.outgoing.addAll
            (complaint :: if plan.check = .strict then [.quit 1] else []) }

/-- Go on to the next line of a file. -/
def advance (plan : JoinPlan) (call : Call) (isLeft : Bool) : Joining Unit := do
  let state ← get
  match if isLeft then state.left else state.right with
  | [] => pure ()
  | line :: rest =>
    set (if isLeft then { state with left := rest } else { state with right := rest })
    checkLine plan call isLeft line rest.head?

/-- Take all lines of a file from the current one on that have a field in common. -/
def takeGroup (plan : JoinPlan) (call : Call) (isLeft : Bool) (key : Octets) :
    Nat → Joining (List FieldLine)
  | 0 => pure []
  | fuel + 1 => do
    let state ← get
    match if isLeft then state.left else state.right with
    | [] => pure []
    | line :: _ =>
      let own := if isLeft then plan.leftKey line else plan.rightKey line
      if plan.keyOrder own key = .eq then
        advance plan call isLeft
        return line :: (← takeGroup plan call isLeft key fuel)
      else pure []

/-- Show the lines that are left of a file without a partner. -/
def finishSide (plan : JoinPlan) (call : Call) (isLeft : Bool) : Nat → Joining Unit
  | 0 => pure ()
  | fuel + 1 => do
    let state ← get
    match if isLeft then state.left else state.right with
    | [] => pure ()
    | line :: _ =>
      if isLeft && plan.showsUnpaired.1 then say (plan.row (some line) none)
      if !isLeft && plan.showsUnpaired.2 then say (plan.row none (some line))
      advance plan call isLeft
      finishSide plan call isLeft fuel

/-- Put the lines of two files together. -/
def joinLines (plan : JoinPlan) (call : Call) : Nat → Joining Unit
  | 0 => pure ()
  | fuel + 1 => do
    let state ← get
    match state.left, state.right with
    | left :: _, right :: _ =>
      match plan.keyOrder (plan.leftKey left) (plan.rightKey right) with
      | .lt =>
        if plan.showsUnpaired.1 then say (plan.row (some left) none)
        advance plan call true
        modify fun state => { state with hasUnpaired := true }
      | .gt =>
        if plan.showsUnpaired.2 then say (plan.row none (some right))
        advance plan call false
        modify fun state => { state with hasUnpaired := true }
      | .eq =>
        let lefts ← takeGroup plan call true (plan.rightKey right) state.left.length
        let rights ← takeGroup plan call false (plan.leftKey left) state.right.length
        if plan.showsPaired then
          for left in lefts do
            for right in rights do
              say (plan.row (some left) (some right))
      joinLines plan call fuel
    | lefts, rights =>
      if !lefts.isEmpty || !rights.isEmpty then
        finishSide plan call true lefts.length
        finishSide plan call false rights.length

end JoinPlan

namespace Call

/-- Which lines two sorted files have in common. -/
def common (call : Call) : Tool :=
  let table : OptionTable := ⟨"123z", [("zero-terminated", 'z')],
    ["check-order", "nocheck-order", "output-delimiter:", "total"], false⟩
  call.withOptions table 1 fun options =>
    call.withAtMost 2 2 options <|
      let separator := (options.value? "output-delimiter").getD ['\t']
      let plan : CommonPlan := {
        columns := (!options.has "1", !options.has "2", !options.has "3")
        separator := if separator.isEmpty then ['\x00'] else separator
        mark := if options.has "z" then '\x00' else '\n'
        check := .ofOptions options }
      let finish (inputs : List (Octets × Bytes)) : List Job :=
        let lines (index : Nat) : List Octets :=
          ((inputs[index]?).map fun (_, bytes) => markedLines plan.mark (Bytes.octets bytes)).getD []
        let start : SideBySide Octets := { left := lines 0, right := lines 1 }
        let (state, ones, twos, threes) := plan.compareLines call none none (0, 0, 0)
          (start.left.length + start.right.length + 1) start
        let total := if options.has "total" then
            plan.separator.intercalate
              [(toString ones).toList, (toString twos).toList, (toString threes).toList,
                "total".toList] ++ [plan.mark]
          else []
        (state.outgoing.say total).toList ++
          if state.isLeftWrong || state.isRightWrong then
            [.complain call.name "input is not in sorted order".toList, .finish 1]
          else []
      let tool := call.gathering options.operands finish
      { tool with jobs := call.insist options.operands 1 :: tool.jobs }

/-- The fields that a list asks for. -/
def shownFields (text : Octets) : Except Octets (List ShownField) :=
  let words := (text.splitBy fun left right => (left = ',' || left = ' ') == (right = ',' || right = ' ')).filter
    fun word => !word.all fun character => character = ',' || character = ' '
  words.mapM fun word =>
    match word with
    | ['0'] => .ok .common
    | file :: '.' :: digits =>
      if file ≠ '1' && file ≠ '2' then
        .error ("invalid file number in field spec: ".toList ++ quoted word)
      else match Integer.natural? 10 digits with
        | some (number + 1) => .ok (.field (if file = '1' then 1 else 2) number)
        | _ => .error ("invalid field number: ".toList ++ quoted digits)
    | _ => .error ("invalid field specifier: ".toList ++ quoted word)

/-- Lines of two sorted files that have a field in common. -/
def join (call : Call) : Tool :=
  let table : OptionTable := ⟨"a:e:i1:2:j:o:t:v:z", [("ignore-case", 'i'), ("zero-terminated", 'z')],
    ["check-order", "nocheck-order", "header"], false⟩
  call.withOptions table 1 fun options =>
    call.withAtMost 2 2 options <|
      let numberOf (key : String) : Except Octets (Option Nat) :=
        match options.value? key with
        | none => .ok none
        | some text => match Integer.natural? 10 text with
          | some (number + 1) => .ok (some number)
          | _ => .error ("invalid field number: ".toList ++ quoted text)
      let filesOf (key : String) : Except Octets (List Nat) :=
        (options.values key).mapM fun text => match text with
          | ['1'] => .ok 1
          | ['2'] => .ok 2
          | _ => .error ("invalid field number: ".toList ++ quoted text)
      let made : Except Octets (JoinPlan × Bool) := do
        let both ← numberOf "j"
        let left ← numberOf "1"
        let right ← numberOf "2"
        let additional ← filesOf "a"
        let only ← filesOf "v"
        let shown ← (options.values "o").mapM fun text =>
          if text = "auto".toList then .ok [] else shownFields text
        let isAuto := (options.values "o").contains "auto".toList
        let separator ← match options.value? "t" with
          | none => pure none
          | some [] => pure (some '\n')
          | some ['\\', '0'] => pure (some '\x00')
          | some [separator] => pure (some separator)
          | some text => throw ("multi-character tab ".toList ++ quoted text)
        let fileName (index : Nat) : Octets := options.operands.getD index []
        return ({
          fields := ((left.or both).getD 0, (right.or both).getD 0)
          showsUnpaired := (additional.contains 1 || only.contains 1,
            additional.contains 2 || only.contains 2)
          showsPaired := only.isEmpty
          foldsCase := options.has "i"
          separator := separator
          filler := (options.value? "e").getD []
          shown := if shown.isEmpty || isAuto then none else some shown.flatten
          mark := if options.has "z" then '\x00' else '\n'
          check := .ofOptions options
          names := (fileName 0, fileName 1) }, isAuto)
      match made with
      | .error complaint => call.refuse 1 complaint
      | .ok (plan, isAuto) =>
        let finish (inputs : List (Octets × Bytes)) : List Job :=
          let lines (index : Nat) : List FieldLine :=
            ((inputs[index]?).map fun (_, bytes) => plan.linesOf (Bytes.octets bytes)).getD []
          let lefts := lines 0
          let rights := lines 1
          let plan := if isAuto then
              let count (lines : List FieldLine) : Nat :=
                (lines.head?.map fun line => line.fields.length).getD 0
              let places (file skipped count : Nat) : List ShownField :=
                ((List.range count).filter (· ≠ skipped)).map (ShownField.field file)
              { plan with shown := some (ShownField.common ::
                (places 1 plan.fields.1 (count lefts) ++ places 2 plan.fields.2 (count rights))) }
            else plan
          let (header, lefts, rights) := if options.has "header" && !(lefts.isEmpty && rights.isEmpty) then
              ({ plan with fields := plan.fields }.row lefts.head? rights.head?, lefts.drop 1,
                rights.drop 1)
            else ([], lefts, rights)
          let start : SideBySide FieldLine :=
            { left := lefts, right := rights, outgoing := ({} : Outgoing).say header }
          let ((), state) := (plan.joinLines call (lefts.length + rights.length + 1)).run start
          state.outgoing.toList ++
            if state.isLeftWrong || state.isRightWrong then
              [.complain call.name "input is not in sorted order".toList, .finish 1]
            else []
        let tool := call.gathering options.operands finish
        { tool with jobs := call.insist options.operands 1 :: tool.jobs }

/-! ## Lines next to each other -/

/-- The separators that a list names; an empty one may be among them. -/
def separatorsOf : Octets → List Octets
  | '\\' :: letter :: rest =>
    let separator := match letter with
      | '0' => []
      | 'b' => ['\x08']
      | 'f' => ['\x0c']
      | 'n' => ['\n']
      | 'r' => ['\r']
      | 't' => ['\t']
      | 'v' => ['\x0b']
      | other => [other]
    separator :: separatorsOf rest
  | character :: rest => [character] :: separatorsOf rest
  | [] => []

/-- Cells with separators between them, which are taken in turn. -/
def withSeparators (separators : List Octets) (cells : List Octets) : Octets :=
  let size := max separators.length 1
  (cells.zipIdx.map fun (cell, index) =>
    (if index = 0 then [] else (separators[(index - 1) % size]?).getD []) ++ cell).flatten

/-- Every so many lines, from one of them on. -/
def everyNth (count : Nat) (lines : List Octets) (first : Nat) : List Octets :=
  lines.zipIdx.filterMap fun (line, index) => if index % count = first then some line else none

/-- Rows that are filled up to the same number of cells. -/
def rowsOf : Nat → List (List Octets) → List (List Octets)
  | 0, _ => []
  | fuel + 1, columns =>
    if columns.all List.isEmpty then []
    else columns.map (·.headD []) :: rowsOf fuel (columns.map List.tail)

/-- Lines of files next to each other, or the lines of each file as one. -/
def paste (call : Call) : Tool :=
  let table : OptionTable := ⟨"d:sz", [("delimiters", 'd'), ("serial", 's'), ("zero-terminated", 'z')],
    [], false⟩
  call.withOptions table 1 fun options =>
    let mark := if options.has "z" then '\x00' else '\n'
    let separators := separatorsOf ((options.value? "d").getD ['\t'])
    let operands := if options.operands.isEmpty then [['-']] else options.operands
    let isInput (operand : Octets) : Bool := operand = ['-']
    let inputs := (operands.filter fun operand => !isInput operand) ++
      (if operands.any isInput then [['-']] else [])
    let finish (contents : List (Octets × Bytes)) : List Job :=
      let lines (operand : Octets) : Option (List Octets) :=
        (contents.lookup (if isInput operand then [] else operand)).map fun bytes =>
          markedLines mark (Bytes.octets bytes)
      let count := (operands.filter isInput).length
      let rec columns (seen : Nat) : List Octets → List (List Octets)
        | [] => []
        | operand :: rest =>
          if isInput operand then
            let all := (lines operand).getD []
            (if options.has "s" then if seen = 0 then all else []
              else everyNth count all seen) :: columns (seen + 1) rest
          else (lines operand).toList ++ columns seen rest
      let columns := columns 0 operands
      let rows := if options.has "s" then columns
        else rowsOf ((columns.map List.length).foldl max 0) columns
      [.emit 1 (Bytes.ofOctets (rows.flatMap fun row => withSeparators separators row ++ [mark]))]
    let tool := call.gathering inputs finish
    if options.has "s" then tool
    else { tool with jobs := call.insist inputs 1 :: tool.jobs }

end Call

/-! ## Parts of lines

Bytes or fields of each line, chosen by a list of ranges. -/

/-- Places from one number to another one, or without end; the first place is number one. -/
structure PlaceRange where
  first : Nat
  last : Option Nat

namespace PlaceRange

/-- The words for what is counted: fields, or bytes. -/
structure Terms where
  origin : String
  range : String
  value : String
  list : String

/-- The words for fields. -/
def fieldTerms : Terms where
  origin := "fields are numbered from 1"
  range := "invalid field range"
  value := "invalid field value "
  list := "missing list of fields"

/-- The words for bytes. -/
def byteTerms : Terms where
  origin := "byte/character positions are numbered from 1"
  range := "invalid byte or character range"
  value := "invalid byte/character position "
  list := "missing list of byte/character positions"

/-- One range of a list, at whose start `all` stands. -/
def readOne (terms : Terms) (all word : Octets) : Except Octets PlaceRange := do
  let digits := word.takeWhile Char.isDigit
  let rest := word.drop digits.length
  let first := Integer.natural? 10 digits
  match rest with
  | [] =>
    match first with
    | some (number + 1) => return ⟨number + 1, some (number + 1)⟩
    | _ => throw terms.origin.toList
  | '-' :: rest =>
    if first = some 0 then throw terms.origin.toList
    let digits' := rest.takeWhile Char.isDigit
    match rest.drop digits'.length with
    | [] =>
      match first, Integer.natural? 10 digits' with
      | none, none => throw "invalid range with no endpoint: -".toList
      | first, none => return ⟨first.getD 1, none⟩
      | first, some last =>
        if last < first.getD 1 then throw "invalid decreasing range".toList
        return ⟨first.getD 1, some last⟩
    | '-' :: _ => throw terms.range.toList
    | _ => throw (terms.value.toList ++ quoted (all.drop (digits.length + 1 + digits'.length)))
  | _ => throw (terms.value.toList ++ quoted (all.drop digits.length))

/-- The ranges of a list. -/
def readAll (terms : Terms) : Nat → Octets → Except Octets (List PlaceRange)
  | 0, _ => .ok []
  | fuel + 1, text => do
    let isGap (character : Char) : Bool := " ,\t".toList.contains character
    let word := text.takeWhile fun character => !isGap character
    let range ← readOne terms text word
    match text.drop word.length with
    | [] => return [range]
    | _ :: rest => return range :: (← readAll terms fuel rest)

/-- Ranges in order, where those that overlap are one. -/
def merged : List PlaceRange → List PlaceRange
  | first :: second :: rest =>
    if first.last.all (second.first ≤ ·) then
      let last := match first.last, second.last with
        | some one, some other => some (max one other)
        | _, _ => none
      merged (⟨first.first, last⟩ :: rest)
    else first :: merged (second :: rest)
  | ranges => ranges
termination_by ranges => ranges.length

/-- The places from a number on that lie in no range of an ordered list. -/
def complementFrom (start : Nat) : List PlaceRange → List PlaceRange
  | [] => [⟨start, none⟩]
  | range :: rest =>
    (if start < range.first then [⟨start, some (range.first - 1)⟩] else []) ++
      match range.last with
      | some last => complementFrom (last + 1) rest
      | none => []

/-- The ranges that a list asks for, or all others. -/
def read (terms : Terms) (isComplement : Bool) (text : Octets) : Except Octets (List PlaceRange) := do
  let ranges ← readAll terms (text.length + 1) text
  let ordered := merged (ranges.mergeSort fun left right => left.first ≤ right.first)
  return if isComplement then complementFrom 1 ordered else ordered

/-- The members of a list at the places of each range. -/
def pieces {α : Type} (ranges : List PlaceRange) (items : List α) : List (List α) :=
  ranges.map fun range =>
    let behind := items.drop (range.first - 1)
    match range.last with
    | some last => behind.take (last + 1 - range.first)
    | none => behind

end PlaceRange

namespace Call

/-- Parts of each line. -/
def cut (call : Call) : Tool :=
  let table : OptionTable := ⟨"b:c:f:d:nsz", [("bytes", 'b'), ("characters", 'c'), ("fields", 'f'),
    ("delimiter", 'd'), ("only-delimited", 's'), ("zero-terminated", 'z')],
    ["complement", "output-delimiter:"], false⟩
  call.withOptions table 1 fun options =>
    let lists := options.flags.filter fun (key, _) => ["b", "c", "f"].contains key
    let mark := if options.has "z" then '\x00' else '\n'
    match lists with
    | [] => call.misused 1 "you must specify a list of bytes, characters, or fields".toList
    | _ :: _ :: _ => call.misused 1 "only one list may be specified".toList
    | [(key, text)] =>
      let isByField := key = "f"
      let terms := if isByField then PlaceRange.fieldTerms else PlaceRange.byteTerms
      let separator? : Option Octets := options.value? "d"
      if separator?.any fun text => 1 < text.length then
        call.misused 1 "the delimiter must be a single character".toList
      else if separator?.isSome && !isByField then
        call.misused 1 "an input delimiter may be specified only when operating on fields".toList
      else if options.has "s" && !isByField then
        call.misused 1
          "suppressing non-delimited lines makes sense\n\tonly when operating on fields".toList
      else match PlaceRange.read terms (options.has "complement") text with
        | .error complaint => call.misused 1 complaint
        | .ok ranges =>
          let joint := options.value? "output-delimiter"
          let separator := (separator?.elim '\t' fun text => text.headD '\x00')
          let act (_ : Nat) (line : Octets) (_ : Bool) : Octets :=
            if isByField then
              let fields := Text.segments separator line
              if fields.length = 1 then if options.has "s" then [] else line ++ [mark]
              else
                (joint.getD [separator]).intercalate (PlaceRange.pieces ranges fields).flatten ++
                  [mark]
            else
              let pieces := (PlaceRange.pieces ranges line).filter (· ≠ [])
              (joint.getD []).intercalate pieces ++ [mark]
          call.filtering options.operands (.lines mark [] (.each 0 act))

end Call

end CorpusJudge
