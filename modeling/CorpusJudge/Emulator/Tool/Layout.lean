import CorpusJudge.Emulator.Tool.Call

/-!
# The layout of lines

Lines that are broken where they get too long, tabs that stand for blanks and blanks for tabs,
paragraphs in lines of about the same length, and numbers in front of lines.
-/

namespace CorpusJudge

/-- The column behind a character. -/
def columnAfter (column : Nat) (character : Char) : Nat :=
  match character with
  | '\x08' => column - 1
  | '\r' => 0
  | '\t' => column + 8 - column % 8
  | _ => column + 1

/-- Where lines are broken: the most columns, whether bytes are counted instead of them, and whether
a break goes behind a blank. -/
structure FoldPlan where
  width : Nat
  countsBytes : Bool
  atBlanks : Bool

namespace FoldPlan

/-- The column behind a character, as the plan counts. -/
def next (plan : FoldPlan) (column : Nat) (character : Char) : Nat :=
  if plan.countsBytes then column + 1 else columnAfter column character

/-- Break a line, behind a part in reverse that ends in a column. -/
def fold (plan : FoldPlan) (reversed : Octets) (column : Nat) : Nat → Octets → Octets
  | 0, rest => reversed.reverse ++ rest
  | fuel + 1, text =>
    match text with
    | [] => reversed.reverse
    | character :: rest =>
      let after := plan.next column character
      if after ≤ plan.width || reversed.isEmpty then
        fold plan (character :: reversed) after fuel rest
      else
        let behind := reversed.takeWhile fun other => other ≠ ' ' && other ≠ '\t'
        if plan.atBlanks && behind.length < reversed.length then
          (reversed.drop behind.length).reverse ++ '\n' ::
            fold plan behind (behind.reverse.foldl plan.next 0) fuel text
        else reversed.reverse ++ '\n' :: fold plan [] 0 fuel text

/-- Break a line. -/
def apply (plan : FoldPlan) (line : Octets) : Octets :=
  plan.fold [] 0 (4 * line.length + 4) line

end FoldPlan

/-! ## Tabs -/

/-- Where tabs lead: columns in order, and the distance of further ones, from the last column or
from the start of the line. -/
structure TabStops where
  stops : List Nat
  distance : Option Nat
  isFromLast : Bool

namespace TabStops

/-- The next stop behind a column, and whether there is no further one. -/
def next (tabs : TabStops) (column : Nat) : Nat × Bool :=
  match tabs.stops.find? (column < ·), tabs.distance with
  | some stop, _ => (stop, false)
  | none, some distance =>
    let start := if tabs.isFromLast then tabs.stops.getLastD 0 else 0
    (start + ((column - start) / distance + 1) * distance, false)
  | none, none => (column + 1, true)

/-- Read a list of stops. -/
def readWords (sofar : List Nat) : List Octets → Except Octets TabStops
  | [] => .ok ⟨sofar, none, false⟩
  | word :: rest =>
    let invalid (text : Octets) : Octets :=
      "tab size contains invalid character(s): ".toList ++ quoted text
    let mark := word.head?
    let digits := if mark = some '/' || mark = some '+' then word.tail else word
    match Integer.natural? 10 digits with
    | none =>
      .error (invalid (if digits.isEmpty then word else digits.dropWhile Char.isDigit))
    | some value =>
      if mark = some '/' || mark = some '+' then
        if !rest.isEmpty then
          .error ("'".toList ++ mark.toList ++
            "' specifier only allowed with the last value".toList)
        else if value = 0 then .ok ⟨sofar, none, false⟩
        else .ok ⟨sofar, some value, mark = some '+'⟩
      else if value = 0 then .error "tab size cannot be 0".toList
      else if sofar.any fun stop => value ≤ stop then .error "tab sizes must be ascending".toList
      else readWords (sofar ++ [value]) rest

/-- The stops that lists ask for; a single one is a distance. -/
def read (lists : List Octets) : Except Octets TabStops := do
  let isGap (character : Char) : Bool := " ,\t".toList.contains character
  let words := (lists.flatMap fun text => (text.splitBy fun left right => isGap left == isGap right)).filter
    fun word => !word.all isGap
  let tabs ← readWords [] words
  match tabs.stops, tabs.distance with
  | [], none => return ⟨[], some 8, false⟩
  | [only], none => return ⟨[], some only, false⟩
  | _, _ => return tabs

/-- A line with blanks in place of tabs, behind a column; `isInitial` tells whether only blanks stand
before it. -/
def expand (tabs : TabStops) (onlyInitial isInitial : Bool) (column : Nat) : Octets → Octets
  | [] => []
  | character :: rest =>
    if onlyInitial && !isInitial then character :: rest
    else match character with
      | '\t' =>
        let (stop, _) := tabs.next column
        List.replicate (stop - column) ' ' ++ expand tabs onlyInitial isInitial stop rest
      | '\x08' => character :: expand tabs onlyInitial false (column - 1) rest
      | _ =>
        character :: expand tabs onlyInitial (isInitial && character = ' ') (column + 1) rest

/-- How far the work on a line has come that gets tabs in place of blanks: the column, the blanks
that wait, and whether the first of them stood right before a stop. -/
structure Shrinking where
  column : Nat := 0
  isActive : Bool := true
  afterBlank : Bool := true
  waiting : Octets := []
  startsAtStop : Bool := false
  reversed : Octets := []

/-- Take in the next character. -/
def shrinkStep (tabs : TabStops) (everywhere : Bool) (state : Shrinking) (character : Char) :
    Shrinking :=
  if !state.isActive then { state with reversed := character :: state.reversed }
  else
    let isBlank := character = ' ' || character = '\t'
    let settle (state : Shrinking) (character : Char) : Shrinking :=
      let waiting := match state.waiting with
        | first :: second :: rest => (if state.startsAtStop then '\t' else first) :: second :: rest
        | waiting => waiting
      { state with
        waiting := []
        startsAtStop := state.startsAtStop && waiting.isEmpty
        afterBlank := isBlank
        isActive := state.isActive && (everywhere || isBlank)
        reversed := character :: (waiting.reverse ++ state.reversed) }
    let (stop, isLast) := tabs.next state.column
    if isBlank && isLast then settle { state with isActive := false } character
    else if character = '\t' then
      let kept := if state.startsAtStop then ['\t'] else []
      settle { state with column := stop, waiting := kept } '\t'
    else if character = ' ' then
      let column := state.column + 1
      if state.afterBlank && column = stop then
        let kept := if state.startsAtStop then ['\t'] else []
        settle { state with column := column, waiting := kept } '\t'
      else
        { state with
          column := column
          startsAtStop := state.startsAtStop || column = stop
          waiting := state.waiting ++ [' ']
          afterBlank := true }
    else if character = '\x08' then settle { state with column := state.column - 1 } character
    else settle { state with column := state.column + 1 } character

/-- A line with tabs in place of blanks, at its start or everywhere. -/
def shrink (tabs : TabStops) (everywhere : Bool) (line : Octets) : Octets :=
  let state := (line ++ ['\n']).foldl (shrinkStep tabs everywhere) {}
  (state.reversed.drop 1).reverse

end TabStops

/-! ## Paragraphs -/

/-- A word of a paragraph: its text, the blanks behind it, and what can be seen of it. -/
structure SetWord where
  text : Octets
  space : Nat
  isOpening : Bool
  endsInPeriod : Bool
  endsInMark : Bool
  isFinal : Bool

/-- The width that lines have at most, and the one that they should have. -/
structure FillPlan where
  most : Nat
  goal : Nat
  isUniform : Bool
  onlySplits : Bool

/-- The cost of a paragraph from a word on, where its next line starts, and how long its line is. -/
structure FillChoice where
  cost : Int
  next : Nat
  length : Int
  deriving Inhabited

namespace FillPlan

/-- A word with what can be seen of it, in front of so many blanks or the end of its line. -/
def wordOf (plan : FillPlan) (text : Octets) (space : Nat) (isAtEnd : Bool) : SetWord :=
  let core := text.reverse.dropWhile ")]'\"".toList.contains
  let endsInPeriod := core.head?.any ".?!".toList.contains
  let isFinal := endsInPeriod && (isAtEnd || 1 < space)
  let isMark (character : Char) : Bool :=
    Quoting.isPrintable character && !character.isAlphanum && character ≠ ' '
  { text := text
    space := if isAtEnd || plan.isUniform then (if isFinal then 2 else 1) else space
    isOpening := text.head?.any "(['\x60\"".toList.contains
    endsInPeriod := endsInPeriod
    endsInMark := text.getLast?.any isMark
    isFinal := isFinal }

/-- The words of a line without its indentation. -/
def wordsOf (plan : FillPlan) : Nat → Octets → List SetWord
  | 0, _ => []
  | fuel + 1, text =>
    if text.isEmpty then []
    else
      let isSpace (character : Char) : Bool := character = ' ' || character = '\t'
      let word := text.takeWhile fun character => !isSpace character
      let rest := text.drop word.length
      let blanks := rest.takeWhile isSpace
      let rest := rest.drop blanks.length
      plan.wordOf word blanks.length rest.isEmpty :: wordsOf plan fuel rest

/-- The cost of a line that differs from another length. -/
def squared (difference : Int) : Int := difference * difference

/-- The cost of a break in front of a word, whatever the line behind it is like. -/
def baseCost (words : Array SetWord) (index : Nat) : Int :=
  let word? (offset : Nat) : Option SetWord := if offset ≤ index then words[index - offset]? else none
  let size (word : SetWord) : Int := word.text.length
  let before : Int :=
    match (if index = 0 then none else word? 1) with
    | none => 0
    | some last =>
      if last.endsInPeriod then if last.isFinal then -squared 50 else squared 600
      else if last.endsInMark then -squared 40
      else if 1 < index && (word? 2).any SetWord.isFinal then squared 200 / (size last + 2)
      else 0
  let here : Int :=
    match word? 0 with
    | none => 0
    | some word =>
      if word.isOpening then -squared 40
      else if word.isFinal then squared 150 / (size word + 2)
      else 0
  squared 70 + before + here

/-- The cost of a line that ends in front of a word. -/
def lineCost (plan : FillPlan) (choices : Array FillChoice) (count next : Nat) (length : Int) : Int :=
  if next = count then 0
  else
    let short := squared (10 * (Int.ofNat plan.goal - length))
    match choices[next]? with
    | some choice =>
      if choice.next ≠ count then short + squared (10 * (length - choice.length)) / 2 else short
    | none => short

/-- Try to end the line that starts with a word in front of each word that follows. -/
def tryBreaks (plan : FillPlan) (words : Array SetWord) (choices : Array FillChoice) :
    Nat → Nat → Int → Option FillChoice → Option FillChoice
  | 0, _, _, best => best
  | fuel + 1, next, length, best =>
    let cost := plan.lineCost choices words.size next length +
      ((choices[next]?).map FillChoice.cost).getD 0
    let best := if best.all fun choice => cost < choice.cost then some ⟨cost, next, length⟩ else best
    match words[next]?, words[next - 1]? with
    | some word, some last =>
      let length := length + Int.ofNat (last.space + word.text.length)
      if length < Int.ofNat plan.most then tryBreaks plan words choices fuel (next + 1) length best
      else best
    | _, _ => best

/-- The best choice for the line from each word on; `choices` has those behind it. -/
def choicesFrom (plan : FillPlan) (words : Array SetWord) (indent : Nat) :
    Nat → Array FillChoice → Array FillChoice
  | 0, choices => choices
  | index + 1, choices =>
    let length := Int.ofNat (indent + ((words[index]?).map fun word => word.text.length).getD 0)
    let best := plan.tryBreaks words choices words.size (index + 1) length none
    let choice := best.getD ⟨0, words.size, length⟩
    let choice := { choice with cost := choice.cost + baseCost words index }
    choicesFrom plan words indent index (choices.setIfInBounds index choice)

/-- The lines of a paragraph. -/
def linesOf (words : Array SetWord) (choices : Array FillChoice) (indent : Nat) :
    Nat → Nat → List Octets
  | 0, _ => []
  | fuel + 1, index =>
    if words.size ≤ index then []
    else
      let next := max (index + 1) ((choices[index]?).map FillChoice.next |>.getD words.size)
      let line := (words.extract index next).toList
      let text := (line.dropLast.flatMap fun word => word.text ++ List.replicate word.space ' ') ++
        ((line.getLast?).map SetWord.text).getD []
      (List.replicate indent ' ' ++ text) :: linesOf words choices indent fuel next

/-- A paragraph in lines. -/
def fill (plan : FillPlan) (indent : Nat) (words : List SetWord) : List Octets :=
  let words := match words.getLast? with
    | some last => (words.dropLast ++ [{ last with endsInPeriod := true, isFinal := true }])
    | none => words
  let words := words.toArray
  let start := Array.replicate words.size (default : FillChoice)
  let choices := plan.choicesFrom words indent words.size start
  linesOf words choices indent (words.size + 1) 0

/-- Blanks from a column on, with tabs in place of those that they can replace at less expense. -/
def blanksFrom (column count : Nat) : Octets :=
  let target := column + count
  let stop := target / 8 * 8
  if column + 1 < stop then
    List.replicate (stop / 8 - column / 8) '\t' ++ List.replicate (target - stop) ' '
  else List.replicate count ' '

/-- A line with tabs in place of blanks. -/
def tabbed (line : Octets) : Octets :=
  let step (state : Nat × Nat × Octets) (character : Char) : Nat × Nat × Octets :=
    let (column, waiting, reversed) := state
    if character = ' ' then (column, waiting + 1, reversed)
    else (column + waiting + 1, 0, character :: ((blanksFrom column waiting).reverse ++ reversed))
  (line.foldl step (0, 0, [])).2.2.reverse

/-- Lines put into paragraphs of the same indentation.  There are tabs among the blanks of a paragraph
if one has been seen so far, which is known up to the first word behind the paragraph. -/
def paragraphs (plan : FillPlan) (hasTabs : Bool) : Nat → List Octets → List Octets
  | 0, lines => lines
  | fuel + 1, lines =>
    let indentOf (line : Octets) : Nat :=
      (line.takeWhile fun character => character = ' ' || character = '\t').foldl columnAfter 0
    let bodyOf (line : Octets) : Octets :=
      line.dropWhile fun character => character = ' ' || character = '\t'
    match lines with
    | [] => []
    | line :: rest =>
      if (bodyOf line).isEmpty then
        [] :: paragraphs plan (hasTabs || line.contains '\t') fuel rest
      else
        let indent := indentOf line
        let isSame (other : Octets) : Bool := !(bodyOf other).isEmpty && indentOf other = indent
        let others := if plan.onlySplits then [] else rest.takeWhile isSame
        let words := (line :: others).flatMap fun line =>
          plan.wordsOf (line.length + 1) (bodyOf line)
        let hasTabs := hasTabs || (line :: others).any (·.contains '\t')
        let after := rest.drop others.length
        let next := (after.headD []).takeWhile fun character => character = ' ' || character = '\t'
        let filled := plan.fill indent words
        (if hasTabs || next.contains '\t' then filled.map tabbed else filled) ++
          paragraphs plan hasTabs fuel after

end FillPlan

namespace Call

/-- Arguments where digits right behind a dash are the value of an option. -/
def withDigits (letter : Char) (arguments : List Octets) : List Octets :=
  match arguments with
  | ('-' :: digit :: digits) :: rest =>
    if digit.isDigit then ['-', letter] :: (digit :: digits) :: rest else arguments
  | _ => arguments

/-- Lines broken where they get too long. -/
def fold (call : Call) : Tool :=
  let table : OptionTable := ⟨"bsw:", [("bytes", 'b'), ("spaces", 's'), ("width", 'w')], [], false⟩
  (call.withArguments (withDigits 'w' call.arguments)).withOptions table 1 fun options =>
    match boundedNumber "invalid number of columns" 1 ((options.value? "w").getD "80".toList) with
    | .error complaint => call.refuse 1 complaint
    | .ok width =>
      let plan : FoldPlan := ⟨width, options.has "b", options.has "s"⟩
      call.byLine options.operands fun _ line isWhole =>
        plan.apply line ++ if isWhole then ['\n'] else []

/-- Arguments where digits right behind a dash are a list of stops. -/
def withStops (arguments : List Octets) : List Octets :=
  arguments.flatMap fun word => match word with
    | '-' :: digit :: digits =>
      if digit.isDigit && digits.all fun character => character.isDigit || character = ',' then
        [['-', 't'], digit :: digits]
      else [word]
    | _ => [word]

/-- Blanks in place of tabs. -/
def expand (call : Call) : Tool :=
  let table : OptionTable := ⟨"it:", [("initial", 'i'), ("tabs", 't')], [], false⟩
  (call.withArguments (withStops call.arguments)).withOptions table 1 fun options =>
    match TabStops.read (options.values "t") with
    | .error complaint => call.refuse 1 complaint
    | .ok tabs =>
      call.byLine options.operands fun _ line isWhole =>
        tabs.expand (options.has "i") true 0 line ++ if isWhole then ['\n'] else []

/-- Tabs in place of blanks. -/
def unexpand (call : Call) : Tool :=
  let table : OptionTable := ⟨"at:", [("all", 'a'), ("tabs", 't')], ["first-only"], false⟩
  (call.withArguments (withStops call.arguments)).withOptions table 1 fun options =>
    match TabStops.read (options.values "t") with
    | .error complaint => call.refuse 1 complaint
    | .ok tabs =>
      let everywhere := (options.has "a" || options.has "t") && !options.has "first-only"
      call.byLine options.operands fun _ line isWhole =>
        tabs.shrink everywhere line ++ if isWhole then ['\n'] else []

/-- Paragraphs in lines of about the same length. -/
def fillParagraphs (call : Call) : Tool :=
  let table : OptionTable := ⟨"csuw:g:p:t", [("crown-margin", 'c'), ("split-only", 's'),
    ("uniform-spacing", 'u'), ("width", 'w'), ("goal", 'g'), ("prefix", 'p'), ("tagged-paragraph", 't')],
    [], false⟩
  (call.withArguments (withDigits 'w' call.arguments)).withOptions table 1 fun options =>
    let read : Except Octets FillPlan := do
      let width ← (options.value? "w").mapM (boundedNumber "invalid width" 0)
      let goal ← (options.value? "g").mapM (boundedNumber "invalid width" 0)
      match width, goal with
      | some width, some goal => return ⟨width, goal, options.has "u", options.has "s"⟩
      | some width, none => return ⟨width, width * 187 / 200, options.has "u", options.has "s"⟩
      | none, some goal => return ⟨goal + 10, goal, options.has "u", options.has "s"⟩
      | none, none => return ⟨75, 70, options.has "u", options.has "s"⟩
    match read with
    | .error complaint => call.refuse 1 complaint
    | .ok plan =>
      let tool := call.bySource options.operands fun _ bytes =>
        let pieces := Text.segments '\n' (Bytes.octets bytes)
        let lines := if pieces.getLast? = some [] then pieces.dropLast else pieces
        [.emit 1 (Bytes.ofOctets
          ((plan.paragraphs false (lines.length + 1) lines).flatMap (· ++ ['\n'])))]
      { tool with wording := { Wording.quotedOpen with reading := fun _ => "read error".toList } }

/-- Numbers in front of lines. -/
def numberLines (call : Call) : Tool :=
  let table : OptionTable := ⟨"b:d:f:h:i:l:n:ps:v:w:", [("body-numbering", 'b'),
    ("section-delimiter", 'd'), ("footer-numbering", 'f'), ("header-numbering", 'h'),
    ("line-increment", 'i'), ("join-blank-lines", 'l'), ("number-format", 'n'), ("no-renumber", 'p'),
    ("number-separator", 's'), ("starting-line-number", 'v'), ("number-width", 'w')], [], false⟩
  call.withOptions table 1 fun options =>
    let style (part key : String) (usual : NumberedLines) :
        Except (Octets × Bool) NumberedLines :=
      match options.value? key with
      | none => .ok usual
      | some ['a'] => .ok .all
      | some ['t'] => .ok .filled
      | some ['n'] => .ok .none
      | some ('p' :: text) =>
        match Regex.ofText ⟨false, false⟩ text with
        | .ok regex => .ok (.matching regex)
        | .error fault => .error (fault.message.toList, false)
      | some text => .error (s!"invalid {part} numbering style: ".toList ++ quoted text, true)
    let whole (words key : String) (usual : Int) : Except (Octets × Bool) Int :=
      match options.value? key with
      | none => .ok usual
      | some text => match Integer.signed? 10 text with
        | some value => .ok value
        | none => .error (s!"{words}: ".toList ++ quoted text, false)
    let natural (words key : String) (usual : Nat) : Except (Octets × Bool) Nat :=
      match options.value? key with
      | none => .ok usual
      | some text => match boundedNumber words 1 text with
        | .ok value => .ok value
        | .error complaint => .error (complaint, false)
    let read : Except (Octets × Bool) NumberPlan := do
      let body ← style "body" "b" .filled
      let head ← style "header" "h" .none
      let foot ← style "footer" "f" .none
      let format := String.ofList ((options.value? "n").getD "rn".toList)
      if ! ["ln", "rn", "rz"].contains format then
        throw ("invalid line numbering format: ".toList ++ quoted format.toList, true)
      return {
        styles := (head, body, foot)
        delimiter := match options.value? "d" with
          | some [only] => [only, ':']
          | some text => text
          | none => ['\\', ':']
        increment := ← whole "invalid line number increment" "i" 1
        start := ← whole "invalid starting line number" "v" 1
        blankGroup := ← natural "invalid line number of blank lines" "l" 1
        format := format
        separator := (options.value? "s").getD ['\t']
        width := ← natural "invalid line number field width" "w" 6
        isContinued := options.has "p" }
    match read with
    | .error (complaint, true) => call.misused 1 complaint
    | .error (complaint, false) => call.refuse 1 complaint
    | .ok plan =>
      call.filtering options.operands
        (.lines '\n' [] (.numbering plan { next := plan.start }))

end Call

end CorpusJudge
