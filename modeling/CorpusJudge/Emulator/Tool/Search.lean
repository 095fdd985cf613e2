import CorpusJudge.Emulator.Tool.Job
import CorpusJudge.Emulator.Tool.Regex

/-!
# Searching and numbering lines

Lines are selected by an expression and shown with what the caller wants to know about them, perhaps
with the lines around them; or only their number or the names of their sources are shown.
-/

namespace CorpusJudge

/-- What a search shows: lines, the matching parts of them, how many there are, the sources with or
without such lines, or nothing at all. -/
inductive SearchReport where
  | lines
  | parts
  | count
  | sourcesWith
  | sourcesWithout
  | nothing
  deriving DecidableEq

/-- What a search is after and how it shows what it finds. -/
structure SearchPlan where
  tool : String
  regex : Regex
  foldsCase : Bool
  isInverted : Bool
  report : SearchReport
  most : Option Nat
  before : Nat
  after : Nat
  separator : Option Octets
  showsName : Bool
  showsNumber : Bool
  showsOffset : Bool
  endsNameWithNul : Bool
  isText : Bool
  mark : Char
  inputName : Octets

/-- A search at work: what it is after, the source it is at with the number of the line and the
offset behind it, how many lines were selected there, the lines before, with their numbers and
offsets, how many lines are still to be shown behind a selected one, and the line that was shown
last. -/
structure LineSearch where
  plan : SearchPlan
  name : Octets := []
  number : Nat := 0
  offset : Nat := 0
  hits : Nat := 0
  held : List (Nat × Nat × Octets) := []
  pending : Nat := 0
  lastShown : Option Nat := none
  hasShown : Bool := false
  hasFound : Bool := false
  isBinary : Bool := false
  isNoted : Bool := false
  want : Want := .line

namespace LineSearch

/-- The name of the source. -/
def shownName (search : LineSearch) : Octets :=
  if search.name.isEmpty then search.plan.inputName else search.name

/-- What stands in front of something shown, with a mark behind each part of it. -/
def title (search : LineSearch) (mark : Char) (number offset : Nat) : Octets :=
  let plan := search.plan
  (if plan.showsName then
    search.shownName ++ [if plan.endsNameWithNul then '\x00' else mark] else []) ++
  (if plan.showsNumber then (toString number).toList ++ [mark] else []) ++
  (if plan.showsOffset then (toString offset).toList ++ [mark] else [])

/-- The separator in front of a line with a number, if lines were left out before it. -/
def gap (search : LineSearch) (number : Nat) : Octets :=
  match search.plan.separator with
  | none => []
  | some separator =>
    if search.hasShown && search.lastShown ≠ some (number - 1) then separator ++ ['\n'] else []

/-- A line as it is shown among those around a selected one. -/
def contextLine (search : LineSearch) (line : Nat × Nat × Octets) : Octets :=
  if search.plan.report = .lines then
    search.title '-' line.1 line.2.1 ++ line.2.2 ++ [search.plan.mark]
  else []

/-- A selected line as it is shown. -/
def selectedLine (search : LineSearch) (number offset : Nat) (text : Octets) : Octets :=
  match search.plan.report with
  | .lines => search.title ':' number offset ++ text ++ [search.plan.mark]
  | .parts =>
    if search.plan.isInverted then []
    else (search.plan.regex.all search.plan.foldsCase false text).flatMap fun found =>
      if found.held.isEmpty then []
      else search.title ':' number (offset + found.start) ++ found.held ++ [search.plan.mark]
  | _ => []

/-- Whether a line is one to be selected. -/
def selects (search : LineSearch) (text : Octets) : Bool :=
  search.plan.regex.occursIn search.plan.foldsCase text != search.plan.isInverted

/-- The search behind a selected line, and what is shown. -/
def select (search : LineSearch) (number offset : Nat) (text : Octets) : LineSearch × Octets :=
  let plan := search.plan
  let hits := search.hits + 1
  let found := { search with hits := hits, hasFound := true }
  let isLast := plan.most = some hits
  match plan.report with
  | .nothing => ({ found with want := .nothing }, [])
  | .sourcesWith => ({ found with want := .nextSource }, [])
  | .sourcesWithout => ({ found with want := .nextSource }, [])
  | .count => ({ found with want := if isLast then .nextSource else .line }, [])
  | _ =>
    if search.isBinary then
      ({ found with want := .nextSource, hasShown := true, isNoted := true }, [])
    else
      let first := (search.held.getLast?.map Prod.fst).getD number
      let text := search.gap first ++ search.held.reverse.flatMap search.contextLine ++
        search.selectedLine number offset text
      ({ found with
          held := []
          pending := plan.after
          lastShown := some number
          hasShown := true
          want := if isLast && plan.after = 0 then .nextSource else .line }, text)

/-- Take in a line. -/
def line (search : LineSearch) (text : Octets) : LineSearch × Octets :=
  let plan := search.plan
  let number := search.number + 1
  let offset := search.offset
  let isBinary := search.isBinary || (!plan.isText && plan.mark ≠ '\x00' && text.contains '\x00')
  let search := { search with
    number := number, offset := offset + text.length + 1, isBinary := isBinary }
  let isOver := plan.most.any (· ≤ search.hits)
  let isSelected := search.selects text
  if isSelected && !isOver then search.select number offset text
  else if 0 < search.pending && !(isSelected && isOver) then
    let pending := search.pending - 1
    ({ search with
        pending := pending
        lastShown := some number
        want := if isOver && pending = 0 then .nextSource else .line },
      search.contextLine (number, offset, text))
  else if isOver then ({ search with want := .nextSource }, [])
  else ({ search with held := ((number, offset, text) :: search.held).take plan.before }, [])

/-- Start with a source. -/
def opened (search : LineSearch) (name : Octets) : LineSearch :=
  { search with
    name := name
    number := 0
    offset := 0
    hits := 0
    held := []
    pending := 0
    lastShown := none
    isBinary := false
    isNoted := false
    want := if search.want = .nothing then .nothing
      else if search.plan.most = some 0 then .nextSource
      else .line }

/-- Finish with a source. -/
def closed (search : LineSearch) : LineSearch × List Job :=
  let plan := search.plan
  let nameLine := search.shownName ++ [if plan.endsNameWithNul then '\x00' else '\n']
  let text := match plan.report with
    | .count =>
      (if plan.showsName then
        search.shownName ++ [if plan.endsNameWithNul then '\x00' else ':'] else []) ++
        (toString search.hits).toList ++ ['\n']
    | .sourcesWith => if 0 < search.hits then nameLine else []
    | .sourcesWithout => if search.hits = 0 then nameLine else []
    | _ => []
  let hasFound := if plan.report = .sourcesWithout then
      search.hasFound || search.hits = 0
    else search.hasFound
  let note := if search.isNoted then
      [Job.complain plan.tool (search.shownName ++ ": binary file matches".toList)]
    else []
  ({ search with hasFound := hasFound }, .emit 1 (Bytes.ofOctets text) :: note)

/-- The jobs at the end.  A search that shows nothing has succeeded with the first line it selects. -/
def finished (search : LineSearch) : List Job :=
  if search.plan.report = .nothing && search.hasFound then [.quit 0]
  else [.finish (if search.hasFound then 0 else 1)]

end LineSearch

/-! ## Numbers and marks on lines

Lines with numbers in front of them, and lines in which everything can be seen. -/

/-- Which lines get numbers. -/
inductive NumberedLines where
  | all
  | filled
  | none
  | matching (regex : Regex)

/-- How lines are numbered.  There is a style for the head, the body and the foot of a page. -/
structure NumberPlan where
  styles : NumberedLines × NumberedLines × NumberedLines
  delimiter : Octets
  increment : Int
  start : Int
  blankGroup : Nat
  format : String
  separator : Octets
  width : Nat
  isContinued : Bool

/-- How far lines have been numbered: the next number, the part of the page, and how many blank lines
have passed. -/
structure Numbering where
  next : Int
  part : Nat := 1
  blanks : Nat := 0

namespace NumberPlan

/-- A number in its column. -/
def numberText (plan : NumberPlan) (value : Int) : Octets :=
  let digits := (toString value.natAbs).toList
  let sign := if value < 0 then ['-'] else []
  let size := digits.length + sign.length
  match plan.format with
  | "ln" => sign ++ digits ++ List.replicate (plan.width - size) ' '
  | "rz" => sign ++ List.replicate (plan.width - size) '0' ++ digits
  | _ => List.replicate (plan.width - size) ' ' ++ sign ++ digits

/-- A line with its number or the room for it. -/
def line (plan : NumberPlan) (state : Numbering) (text : Octets) : Numbering × Octets :=
  let marks := if text.isEmpty then 0
    else [1, 2, 3].foldl (fun found count =>
      if text = (List.replicate count plan.delimiter).flatten then count else found) 0
  if marks ≠ 0 && !plan.delimiter.isEmpty then
    ({ state with
        part := 3 - marks
        next := if plan.isContinued then state.next else plan.start }, ['\n'])
  else
    let style := match state.part with
      | 0 => plan.styles.1
      | 1 => plan.styles.2.1
      | _ => plan.styles.2.2
    let blanks := if text.isEmpty then state.blanks + 1 else 0
    let isNumbered := match style with
      | .all => !text.isEmpty || plan.blankGroup ≤ blanks
      | .filled => !text.isEmpty
      | .none => false
      | .matching regex => regex.occursIn false text
    let blanks := if isNumbered then 0 else blanks
    if isNumbered then
      ({ state with next := state.next + plan.increment, blanks := blanks },
        plan.numberText state.next ++ plan.separator ++ text ++ ['\n'])
    else
      ({ state with blanks := blanks },
        List.replicate (plan.width + plan.separator.length) ' ' ++ text ++ ['\n'])

end NumberPlan

/-- How lines are shown: with numbers, for all or for those that are not blank; with one blank line in
place of several; with marks at their ends, in place of tabs, and in place of what cannot be
printed. -/
structure DisplayPlan where
  numbersAll : Bool
  numbersFilled : Bool
  joinsBlank : Bool
  marksEnds : Bool
  marksTabs : Bool
  marksOthers : Bool

/-- How far lines have been shown: the last number, whether a line is still open, and whether the line
before was blank. -/
structure Display where
  plan : DisplayPlan
  number : Nat := 0
  isOpen : Bool := false
  afterBlank : Bool := false

namespace Display

/-- A character as it is shown. -/
def shown (plan : DisplayPlan) (character : Char) : Octets :=
  let plain (code : Nat) : Octets :=
    if code < 32 then ['^', Char.ofNat (code + 64)]
    else if code = 127 then ['^', '?']
    else [Char.ofNat code]
  if character = '\t' then if plan.marksTabs then ['^', 'I'] else [character]
  else if !plan.marksOthers then [character]
  else
    let code := character.toNat
    if code < 128 then plain code else 'M' :: '-' :: plain (code - 128)

/-- Show a line. -/
def line (display : Display) (text : Octets) (isWhole : Bool) : Display × Octets :=
  let plan := display.plan
  let isBlank := text.isEmpty && isWhole && !display.isOpen
  if isBlank && display.afterBlank && plan.joinsBlank then (display, [])
  else
    let isNumbered := !display.isOpen &&
      if plan.numbersFilled then !isBlank else plan.numbersAll
    let number := if isNumbered then display.number + 1 else display.number
    let digits := (toString number).toList
    let front := if isNumbered then List.replicate (6 - digits.length) ' ' ++ digits ++ ['\t'] else []
    let body := match text.reverse with
      | '\r' :: rest =>
        if isWhole && plan.marksEnds then rest.reverse.flatMap (shown plan) ++ ['^', 'M']
        else text.flatMap (shown plan)
      | _ => text.flatMap (shown plan)
    let behind := if isWhole then (if plan.marksEnds then ['$'] else []) ++ ['\n'] else []
    ({ display with number := number, isOpen := !isWhole, afterBlank := isBlank },
      front ++ body ++ behind)

end Display

end CorpusJudge
