import CorpusJudge.Emulator.Tool.Calendar
import CorpusJudge.Emulator.Tool.Difference
import CorpusJudge.Emulator.Tool.Dump
import CorpusJudge.Emulator.Tool.FileChanges
import CorpusJudge.Emulator.Tool.Listing
import CorpusJudge.Emulator.Tool.Searching
import Std.Data.HashMap

/-!
# Comparing files

Tools that tell where two files differ: at which byte first, or in which lines.
-/

namespace CorpusJudge

/-- A line of a file, and whether its end is marked. -/
structure FileLine where
  text : Octets
  isWhole : Bool

/-- How differences of lines are shown. -/
inductive DiffStyle where
  | plain
  | unified (context : Nat)
  | context (context : Nat)
  | script
  | counted
  | sideBySide
  deriving DecidableEq

/-- What counts as a difference of lines, and how differences are shown. -/
structure DiffPlan where
  style : DiffStyle
  foldsCase : Bool
  ignoresBlanks : Bool
  joinsBlanks : Bool
  ignoresTrailing : Bool
  ignoresReturns : Bool
  ignoresEmpty : Bool
  ignored : Option Regex
  isText : Bool
  isBrief : Bool
  tellsSame : Bool
  isDeep : Bool
  showsMissing : Bool
  excluded : List Octets
  labels : List Octets
  front : Octets
  width : Nat
  hidesCommon : Bool
  leftOnly : Bool
  zone : TimeZone

/-- A file that is compared: its name, the time of its last change, and its content. -/
structure ComparedFile where
  name : Octets
  changed : Int
  content : Bytes

namespace DiffPlan

/-- The lines of a file. -/
def linesOf (content : Bytes) : List FileLine :=
  let pieces := Text.segments '\n' (Bytes.octets content)
  match pieces.getLast? with
  | some [] => pieces.dropLast.map (⟨·, true⟩)
  | some last => pieces.dropLast.map (⟨·, true⟩) ++ [⟨last, false⟩]
  | none => []

/-- Whether a character is a blank. -/
def isBlank (character : Char) : Bool :=
  character = ' ' || ('\t' ≤ character && character ≤ '\r')

/-- A text without the blanks at its end. -/
def trimmed (text : Octets) : Octets := (text.reverse.dropWhile isBlank).reverse

/-- A text with one blank in place of each run of them. -/
def joined (text : Octets) : Octets :=
  (text.splitBy fun left right => isBlank left == isBlank right).flatMap fun piece =>
    if piece.head?.any isBlank then [' '] else piece

/-- What is compared of a line.  A line without a mark at its end differs from any other one, unless
blanks at the end do not matter. -/
def keyOf (plan : DiffPlan) (line : FileLine) : String :=
  let text := line.text
  let text := if plan.ignoresReturns && text.getLast? = some '\r' then text.dropLast else text
  let text := if plan.ignoresBlanks then text.filter (!isBlank ·)
    else if plan.joinsBlanks then joined (trimmed text)
    else if plan.ignoresTrailing then trimmed text
    else text
  let text := if plan.foldsCase then text.map Char.toLower else text
  let isLoose := plan.ignoresBlanks || plan.joinsBlanks || plan.ignoresTrailing
  String.ofList (if line.isWhole || isLoose then '\n' :: text else text)

/-- Texts as numbers, equal ones as the same number. -/
def numbered (known : Std.HashMap String Nat) (texts : List String) :
    Std.HashMap String Nat × Array Nat :=
  texts.foldl (fun (known, numbers) text =>
    match known[text]? with
    | some number => (known, numbers.push number)
    | none => (known.insert text known.size, numbers.push known.size)) (known, #[])

/-- Whether a line does not matter. -/
def isIgnored (plan : DiffPlan) (line : FileLine) : Bool :=
  let isEmpty := if plan.ignoresBlanks || plan.joinsBlanks || plan.ignoresTrailing then
      line.text.all isBlank
    else line.text.isEmpty
  (plan.ignoresEmpty && isEmpty) || plan.ignored.any (·.occursIn false line.text)

/-- A line of output, with a remark if the end of the line is not marked. -/
def lineText (front : Octets) (line : FileLine) : Octets :=
  front ++ line.text ++ if line.isWhole then ['\n'] else "\n\\ No newline at end of file\n".toList

/-- Some lines, each behind something. -/
def block (front : Octets) (lines : Array FileLine) (start count : Nat) : Octets :=
  (lines.extract start (start + count)).toList.flatMap (lineText front)

/-- A range of lines, of which an empty one is told by the line before it. -/
def rangeText (start count : Nat) : Octets :=
  if count < 2 then (toString (start + count)).toList
  else s!"{start + 1},{start + count}".toList

/-- A range of lines by its first line and its size. -/
def sizedRange (start count : Nat) : Octets :=
  match count with
  | 0 => s!"{start},0".toList
  | 1 => (toString (start + 1)).toList
  | _ => s!"{start + 1},{count}".toList

/-- The letter for a kind of change. -/
def letterOf (hunk : Hunk) : Char :=
  if hunk.inserted = 0 then 'd' else if hunk.deleted = 0 then 'a' else 'c'

/-- A hunk as lines behind marks. -/
def plainHunk (plan : DiffPlan) (left right : Array FileLine) (hunk : Hunk) : Octets :=
  rangeText hunk.left hunk.deleted ++ letterOf hunk :: rangeText hunk.right hunk.inserted ++ ['\n'] ++
    block ('<' :: plan.front) left hunk.left hunk.deleted ++
    (if hunk.deleted ≠ 0 && hunk.inserted ≠ 0 then "---\n".toList else []) ++
    block ('>' :: plan.front) right hunk.right hunk.inserted

/-- Hunks in groups, with at most some lines between the members of a group. -/
def grouped (between : Hunk → Nat) : List Hunk → List (List Hunk)
  | [] => []
  | hunk :: rest =>
    match grouped between rest with
    | (next :: others) :: groups =>
      if next.left < hunk.left + hunk.deleted + between next then
        (hunk :: next :: others) :: groups
      else [hunk] :: (next :: others) :: groups
    | groups => [hunk] :: groups

/-- The range of lines of a group of hunks with some lines around them, in each file. -/
def frame (context : Nat) (left right : Array FileLine) (first last : Hunk) :
    (Nat × Nat) × (Nat × Nat) :=
  let before := min context (min first.left first.right)
  let after := min context (left.size - (last.left + last.deleted))
  let after' := min context (right.size - (last.right + last.inserted))
  ((first.left - before, last.left + last.deleted + after),
    (first.right - before, last.right + last.inserted + after'))

/-- A group of hunks with lines around them, deleted and inserted ones together. -/
def unifiedGroup (plan : DiffPlan) (context : Nat) (left right : Array FileLine)
    (group : List Hunk) : Octets :=
  match group.head?, group.getLast? with
  | some first, some last =>
    let ((start, stop), (start', stop')) := frame context left right first last
    let title := "@@ -".toList ++ sizedRange start (stop - start) ++ " +".toList ++
      sizedRange start' (stop' - start') ++ " @@\n".toList
    let mark (letter : Char) : Octets := if plan.front = ['\t'] then [letter, '\t'] else [letter]
    let common := if plan.front = ['\t'] then ['\t'] else [' ']
    let (text, place) := group.foldl (fun ((text : List Octets), place) hunk =>
      let shown := block common left place (hunk.left - place) ++
        block (mark '-') left hunk.left hunk.deleted ++ block (mark '+') right hunk.right hunk.inserted
      (shown :: text, hunk.left + hunk.deleted)) ([], start)
    title ++ text.reverse.flatten ++ block common left place (stop - place)
  | _, _ => []

/-- One file's side of a group of hunks, with a mark in front of each line. -/
def contextSide (plan : DiffPlan) (lines : Array FileLine) (start stop : Nat)
    (ranges : List (Nat × Nat × Bool)) (mark : Char) : Octets :=
  (List.range (stop - start)).flatMap fun offset =>
    let place := start + offset
    let range := ranges.find? fun (first, size, _) => first ≤ place && place < first + size
    let letter := match range with
      | some (_, _, isReplaced) => if isReplaced then '!' else mark
      | none => ' '
    block (letter :: plan.front) lines place 1

/-- A group of hunks with lines around them, first as they were and then as they are. -/
def contextGroup (plan : DiffPlan) (context : Nat) (left right : Array FileLine)
    (group : List Hunk) : Octets :=
  match group.head?, group.getLast? with
  | some first, some last =>
    let ((start, stop), (start', stop')) := frame context left right first last
    let deleted := group.map fun hunk => (hunk.left, hunk.deleted, hunk.inserted != 0)
    let inserted := group.map fun hunk => (hunk.right, hunk.inserted, hunk.deleted != 0)
    "***************\n*** ".toList ++ rangeText start (stop - start) ++ " ****\n".toList ++
      (if group.any (·.deleted ≠ 0) then contextSide plan left start stop deleted '-' else []) ++
      "--- ".toList ++ rangeText start' (stop' - start') ++ " ----\n".toList ++
      (if group.any (·.inserted ≠ 0) then contextSide plan right start' stop' inserted '+' else [])
  | _, _ => []

/-- A hunk as commands of an editor. -/
def scriptHunk (right : Array FileLine) (hunk : Hunk) : Octets :=
  let step (state : Octets × Bool) (line : FileLine) : Octets × Bool :=
    let front := if state.2 then [] else ['a', '\n']
    if line.text = ['.'] then (state.1 ++ front ++ "..\n.\ns/.//\n".toList, false)
    else (state.1 ++ front ++ line.text ++ ['\n'], true)
  let (text, isOpen) :=
    (right.extract hunk.right (hunk.right + hunk.inserted)).toList.foldl step ([], true)
  rangeText hunk.left hunk.deleted ++ [letterOf hunk, '\n'] ++
    if hunk.inserted = 0 then [] else text ++ if isOpen then ['.', '\n'] else []

/-- A hunk as commands with counts. -/
def countedHunk (right : Array FileLine) (hunk : Hunk) : Octets :=
  (if hunk.deleted = 0 then [] else s!"d{hunk.left + 1} {hunk.deleted}\n".toList) ++
    if hunk.inserted = 0 then []
    else s!"a{hunk.left + hunk.deleted} {hunk.inserted}\n".toList ++
      ((right.extract hunk.right (hunk.right + hunk.inserted)).toList.flatMap fun line =>
        line.text ++ if line.isWhole then ['\n'] else [])

/-! ## Side by side -/

/-- Tabs and blanks from one column up to another. -/
def gapFrom (column goal : Nat) : Octets :=
  let stops := goal / 8 - column / 8
  if stops = 0 then List.replicate (goal - column) ' '
  else List.replicate stops '\t' ++ List.replicate (goal - goal / 8 * 8) ' '

/-- As much of a text as fits into a half, with the column that it ends in. -/
def halfText (start width : Nat) (text : Octets) : Octets × Nat :=
  let step (state : List Char × Nat × Nat) (character : Char) : List Char × Nat × Nat :=
    let (done, inside, outside) := state
    if character = '\t' then
      let next := inside / 8 * 8 + 8
      if inside = outside && next < width then ('\t' :: done, next, next)
      else (done, next, outside)
    else if inside < width then
      if ' ' ≤ character then (character :: done, inside + 1, inside + 1)
      else (character :: done, inside, outside)
    else (done, inside + 1, outside)
  let (done, _, outside) := text.foldl step ([], 0, 0)
  (done.reverse, start + outside)

/-- A row of two halves with a mark between them. -/
def sideRow (plan : DiffPlan) (mark : Char) (left right : Option FileLine) : Octets :=
  let off := plan.width / 2 + 5 + plan.width % 2
  let off := off - off % 8
  let half := min (off - 3) (plan.width - off)
  let (shown, column) := match left with
    | some line => halfText 0 half line.text
    | none => ([], 0)
  let mark := if mark = '|' then
      match left.map FileLine.isWhole, right.map FileLine.isWhole with
      | some true, some false => '/'
      | some false, some true => '\\'
      | _, _ => '|'
    else mark
  let (middle, column) := if mark = ' ' then ([], column)
    else
      let goal := (half + off - 1) / 2
      (gapFrom column goal ++ [mark], goal + 1)
  let other := match right with
    | some line => if line.text.isEmpty then [] else gapFrom column off ++ (halfText off half line.text).1
    | none => []
  let isWhole := left.any FileLine.isWhole || right.any FileLine.isWhole
  shown ++ middle ++ other ++ if isWhole then ['\n'] else []

/-- Two files side by side. -/
def sideBySide (plan : DiffPlan) (left right : Array FileLine) (hunks : List Hunk) : Octets :=
  let common (start start' count : Nat) : Octets :=
    if plan.hidesCommon then []
    else (List.range count).flatMap fun offset =>
      if plan.leftOnly then plan.sideRow '(' left[start + offset]? none
      else plan.sideRow ' ' left[start + offset]? right[start' + offset]?
  let (text, place, place') := hunks.foldl (fun ((text : List Octets), place, place') hunk =>
    let both := min hunk.deleted hunk.inserted
    let shown := common place place' (hunk.left - place) ++
      ((List.range both).flatMap fun offset =>
        plan.sideRow '|' left[hunk.left + offset]? right[hunk.right + offset]?) ++
      ((List.range (hunk.inserted - both)).flatMap fun offset =>
        plan.sideRow '>' none right[hunk.right + both + offset]?) ++
      ((List.range (hunk.deleted - both)).flatMap fun offset =>
        plan.sideRow '<' left[hunk.left + both + offset]? none)
    (shown :: text, hunk.left + hunk.deleted, hunk.right + hunk.inserted)) ([], 0, 0)
  text.reverse.flatten ++ common place place' (left.size - place)

/-! ## Files -/

/-- How many equal lines around the others take part in the comparison. -/
def horizon (plan : DiffPlan) : Nat :=
  match plan.style with
  | .unified context => context
  | .context context => context
  | _ => 0

/-- The name of a file and the time of its last change in a format. -/
def title (plan : DiffPlan) (format : String) (place : Nat) (file : ComparedFile) : Octets :=
  match plan.labels[place]? with
  | some label => label
  | none => file.name ++ '\t' :: (Call.clockTime plan.zone file.changed).text format.toList

/-- The differences of two files in lines; the second result is whether there are any. -/
def differences (plan : DiffPlan) (left right : ComparedFile) : Octets × Bool :=
  let complete (lines : List FileLine) : List FileLine :=
    if plan.style = .script then lines.map fun line => { line with isWhole := true } else lines
  let lines := complete (linesOf left.content)
  let lines' := complete (linesOf right.content)
  let (known, numbers) := numbered {} (lines.map plan.keyOf)
  let (_, numbers') := numbered known (lines'.map plan.keyOf)
  let isWhole (lines : List FileLine) : Bool := lines.getLast?.all FileLine.isWhole
  let hunks := Contrast.hunks ⟨numbers, numbers'⟩ plan.horizon (isWhole lines != isWhole lines')
  let lines := lines.toArray
  let lines' := lines'.toArray
  let matters (hunk : Hunk) : Bool :=
    !(((lines.extract hunk.left (hunk.left + hunk.deleted)).all plan.isIgnored) &&
      ((lines'.extract hunk.right (hunk.right + hunk.inserted)).all plan.isIgnored))
  if !hunks.any matters then
    (if plan.style = .sideBySide then plan.sideBySide lines lines' hunks else [], false)
  else
    let groups (context : Nat) : List (List Hunk) :=
      (grouped (fun hunk => if matters hunk then 2 * context + 1 else context) hunks).filter
        (·.any matters)
    let long := "%Y-%m-%d %H:%M:%S.%N %z"
    let text := match plan.style with
      | .plain => (hunks.filter matters).flatMap (plan.plainHunk lines lines')
      | .unified context =>
        "--- ".toList ++ plan.title long 0 left ++ "\n+++ ".toList ++ plan.title long 1 right ++
          '\n' :: (groups context).flatMap (plan.unifiedGroup context lines lines')
      | .context context =>
        let short := "%a %b %e %T %Y"
        "*** ".toList ++ plan.title short 0 left ++ "\n--- ".toList ++ plan.title short 1 right ++
          '\n' :: (groups context).flatMap (plan.contextGroup context lines lines')
      | .script => (hunks.filter matters).reverse.flatMap (scriptHunk lines')
      | .counted => (hunks.filter matters).flatMap (countedHunk lines')
      | .sideBySide => plan.sideBySide lines lines' hunks
    (text, true)

/-- What is said about two files, behind a header if there is one, and the status. -/
def report (plan : DiffPlan) (header : Octets) (left right : ComparedFile) : List Job :=
  let say (text : Octets) (status : Nat) : List Job :=
    [.emit 1 (Bytes.ofOctets text), .finish status]
  let files (kind ending : String) : Octets :=
    kind.toList ++ left.name ++ " and ".toList ++ right.name ++ ending.toList
  let same := say (if plan.tellsSame then files "Files " " are identical\n" else []) 0
  let isBinary := !plan.isText &&
    ((left.content.take 32768).contains 0 || (right.content.take 32768).contains 0)
  let isEqual := left.content == right.content
  if isBinary then
    if isEqual then same
    else if plan.isBrief then say (files "Files " " differ\n") 1
    else say (files "Binary files " " differ\n") 1
  else if isEqual && plan.style ≠ .sideBySide then same
  else
    let (text, isDifferent) := plan.differences left right
    let complaints := if plan.style ≠ .script then []
      else [left, right].filterMap fun file =>
        if file.content.getLast?.all (· = 10) then none
        else some (Job.complain "diff" (file.name ++ ": No newline at end of file\n".toList))
    complaints ++ (if complaints.isEmpty then [] else [.finish 2]) ++
      if !isDifferent then if text.isEmpty then same else say text 0
      else if plan.isBrief then say (files "Files " " differ\n") 1
      else say (header ++ text) 1

/-- The content of what a path leads to and the time of its last change. -/
def fileAt (tree : FileTree) (place : Location) (entry : Entry) (name : Octets) : ComparedFile :=
  let content := match entry with
    | .file content => content
    | _ => []
  ⟨name, (tree.detail place).changed, content⟩

/-- Compare what lies in two folders, or two files in them. -/
def compareEntries (plan : DiffPlan) (tree : FileTree) (switches : Octets) :
    Nat → Bool → Octets → Octets → List Job
  | 0, _, _, _ => []
  | fuel + 1, isInner, left, right =>
    let header := if isInner then
        "diff".toList ++ switches ++ ' ' :: Quoting.whereNeeded left ++
          ' ' :: Quoting.whereNeeded right ++ ['\n']
      else []
    let found (name : Octets) : Option (Location × Entry) :=
      (tree.find (Shell.pathOf name)).toOption
    let say (text : Octets) : List Job := [.emit 1 (Bytes.ofOctets text), .finish 1]
    let namesIn (found : Option (Location × Entry)) : List Octets :=
      match found with
      | some (place, .folder) =>
        ((tree.children place).map fun (name, _) => Shell.nameOctets name).filter fun name =>
          !plan.excluded.any fun pattern => Call.fitsName pattern name
      | _ => []
    let within (folder name : Octets) : Octets :=
      if folder.getLast? = some '/' then folder ++ name else folder ++ '/' :: name
    match found left, found right with
    | some (place, entry), some (place', entry') =>
      if entry.isFolder && entry'.isFolder then
        let names := namesIn (some (place, entry))
        let names' := namesIn (some (place', entry'))
        let all := ((names ++ names').eraseDups).mergeSort Octets.atMost
        all.flatMap fun name =>
          let inner := within left name
          let inner' := within right name
          match names.contains name, names'.contains name with
          | true, true =>
            let isCommon := tree.isFolder (Shell.pathOf inner) && tree.isFolder (Shell.pathOf inner')
            if isCommon && !plan.isDeep then
              [.emit 1 (Bytes.ofOctets ("Common subdirectories: ".toList ++ inner ++
                " and ".toList ++ inner' ++ ['\n']))]
            else compareEntries plan tree switches fuel true inner inner'
          | true, false =>
            if plan.showsMissing then compareEntries plan tree switches fuel true inner inner'
            else say ("Only in ".toList ++ left ++ ": ".toList ++ name ++ ['\n'])
          | _, _ =>
            if plan.showsMissing then compareEntries plan tree switches fuel true inner inner'
            else say ("Only in ".toList ++ right ++ ": ".toList ++ name ++ ['\n'])
      else if entry.isFolder || entry'.isFolder then
        let kinds := (Call.kindOf entry, Call.kindOf entry')
        say ("File ".toList ++ left ++ s!" is a {kinds.1} while file ".toList ++ right ++
          s!" is a {kinds.2}\n".toList)
      else if place = place' then
        plan.report [] (fileAt tree place entry left) (fileAt tree place entry right)
      else
        plan.report header (fileAt tree place entry left) (fileAt tree place' entry' right)
    | some (place, .folder), none =>
      (namesIn (some (place, .folder))).flatMap fun name =>
        compareEntries plan tree switches fuel true (within left name) (within right name)
    | none, some (place, .folder) =>
      (namesIn (some (place, .folder))).flatMap fun name =>
        compareEntries plan tree switches fuel true (within left name) (within right name)
    | some (place, entry), none =>
      plan.report header (fileAt tree place entry left) ⟨right, 0, []⟩
    | none, some (place, entry) =>
      plan.report header ⟨left, 0, []⟩ (fileAt tree place entry right)
    | none, none => []

end DiffPlan

namespace Call

open Shell (pathOf)

/-- A complaint of a comparing tool about how it is called. -/
def miscalled (call : Call) (message : Octets) : Tool :=
  call.jobs [.complain call.name message,
    .complain call.name s!"Try '{call.name} --help' for more information.".toList, .finish 2]

/-- Options for a comparing tool. -/
def withComparison (call : Call) (table : OptionTable) (make : Options → Tool) : Tool :=
  let known := { table with names := "help" :: table.names }
  match Options.read known call.arguments with
  | .error fault => call.miscalled fault.message
  | .ok options =>
    if options.has "help" then call.say s!"Usage: {call.name} [OPTION]... FILES\n".toList
    else if options.hasAny ["v", "version"] then call.say (call.name.toList ++ ['\n'])
    else make options

/-- Where a source is found: nothing for standard input. -/
def sourceOf (operand : Octets) : Option Octets :=
  if operand = ['-'] then none else some operand

/-- Why a file cannot be compared with another one by bytes. -/
def sourceFault? (files : FileTree) (operand : Octets) : Option String :=
  match sourceOf operand with
  | none => none
  | some path => match files.find (pathOf path) with
    | .ok (_, .folder) => some FileError.isDirectory.reason
    | .ok _ => none
    | .error error => some error.reason

/-- A tool that reads two sources and goes on with what they hold. -/
def withBoth (call : Call) (left right : Octets) (finish : Bytes → Bytes → List Job) : Tool :=
  let isSame := left = right && left = ['-']
  { name := call.name
    wording := .raw
    jobs := .consume (sourceOf left) :: (if isSame then [] else [.consume (sourceOf right)]) ++
      [.conclude]
    filter := .gather [] none fun inputs =>
      let first := (inputs[0]?).map Prod.snd
      let second := if isSame then first else (inputs[1]?).map Prod.snd
      finish (first.getD []) (second.getD [])
    failure := 2 }

/-! ## Byte by byte -/

/-- A byte as it is shown beside its number. -/
def byteText (byte : UInt8) : Octets :=
  let plain (code : Nat) : Octets :=
    if code = 127 then ['^', '?']
    else if code < 32 then ['^', Char.ofNat (code + 64)]
    else [Char.ofNat code]
  if byte < 128 then plain byte.toNat else 'M' :: '-' :: plain (byte.toNat - 128)

/-- How far two byte strings agree: how many bytes, and how many breaks are among them. -/
def agreement (left right : Bytes) : Nat × Nat :=
  ((left.zip right).takeWhile fun (first, second) => first = second).foldl
    (fun (bytes, lines) (byte, _) => (bytes + 1, if byte = 10 then lines + 1 else lines)) (0, 0)

/-- What is said where one of two files ends before the other one. -/
def shorterText (call : Call) (name : Octets) (size lines : Nat) (isWhole showsLine : Bool) : Job :=
  let place := if size = 0 then " which is empty"
    else if !showsLine then s!" after byte {size}"
    else if isWhole then s!" after byte {size}, line {lines}"
    else s!" after byte {size}, in line {lines + 1}"
  .complain call.name ("EOF on ".toList ++ name ++ place.toList)

/-- Compare two files byte by byte. -/
def compareBytes (call : Call) : Tool :=
  let table : OptionTable := ⟨"bci:ln:sv", [("print-bytes", 'b'), ("print-chars", 'c'),
    ("ignore-initial", 'i'), ("verbose", 'l'), ("bytes", 'n'), ("silent", 's'), ("quiet", 's'),
    ("version", 'v')], [], false⟩
  call.withComparison table fun options =>
    let showsBytes := options.hasAny ["b", "c"]
    let skips : Except Octets (Nat × Nat) := do
      let number (option : String) (text : Octets) : Except Octets Nat :=
        match byteCount? text with
        | some count => .ok count
        | none => .error (s!"invalid --{option} value ".toList ++ quoted text)
      let given ← match options.value? "i" with
        | none => pure (0, 0)
        | some text => match Text.segments ':' text with
          | [first, second] =>
            pure (← number "ignore-initial" first, ← number "ignore-initial" second)
          | _ =>
            let both ← number "ignore-initial" text
            pure (both, both)
      match options.operands.drop 2 with
      | [] => return given
      | [first] => return (← number "ignore-initial" first, given.2)
      | first :: second :: _ =>
        return (← number "ignore-initial" first, ← number "ignore-initial" second)
    let most : Except Octets (Option Nat) := match options.value? "n" with
      | none => .ok none
      | some text => match byteCount? text with
        | some count => .ok (some count)
        | none => .error ("invalid --bytes value ".toList ++ quoted text)
    match options.operands, skips, most with
    | [], _, _ => call.miscalled ("missing operand after ".toList ++ quoted call.name.toList)
    | _, .error message, _ => call.miscalled message
    | _, _, .error message => call.miscalled message
    | left :: others, .ok (skip, skip'), .ok most =>
      if options.has "l" && options.has "s" then
        call.miscalled "options -l and -s are incompatible".toList
      else if 4 < options.operands.length then
        call.miscalled ("extra operand ".toList ++ quoted (options.operands.getD 4 []))
      else
        let right := others.headD ['-']
        let files := call.facts.files
        match [left, right].findSome? fun operand =>
            (sourceFault? files operand).map fun reason => (operand, reason) with
        | some (operand, reason) =>
          if options.has "s" && reason ≠ FileError.isDirectory.reason then call.jobs [.finish 2]
          else call.refuse 2 (operand ++ s!": {reason}".toList)
        | none =>
          let sizeOf (operand : Octets) (size : Nat) : Option Nat :=
            match (sourceOf operand).map fun path => files.find (pathOf path) with
            | some (.ok (_, .file _)) => some size
            | _ => none
          call.withBoth left right fun first second =>
            let first := first.drop skip
            let second := second.drop skip'
            let first := (most.map first.take).getD first
            let second := (most.map second.take).getD second
            let shared := min first.length second.length
            let differing := ((first.zip second).zipIdx.filter fun ((byte, other), _) => byte ≠ other)
            let octal (byte : UInt8) : Octets :=
              let digits := Nat.toDigits 8 byte.toNat
              List.replicate (3 - digits.length) ' ' ++ digits
            let (size, lines) := agreement first second
            let ends := if first.length = second.length then []
              else
                let (name, shorter) := if first.length < second.length then (left, first)
                  else (right, second)
                let breaks := shorter.count 10
                [shorterText call name shared breaks (shorter.getLast? = some 10) (!options.has "l"),
                  .finish 1]
            if options.has "s" then [.finish (if first == second then 0 else 1)]
            else if options.has "l" then
              let sizes := [sizeOf left first.length, sizeOf right second.length].filterMap id
              let widest := sizes.foldl min ((most.getD 9223372036854775807))
              let width := (toString widest).length
              let rows := differing.flatMap fun ((byte, other), index) =>
                let number := (toString (index + 1)).toList
                let pair := if showsBytes then
                    let shown := byteText byte
                    octal byte ++ ' ' :: shown ++ List.replicate (4 - shown.length) ' ' ++
                      ' ' :: octal other ++ ' ' :: byteText other
                  else octal byte ++ ' ' :: octal other
                List.replicate (width - number.length) ' ' ++ number ++ ' ' :: pair ++ ['\n']
              [.emit 1 (Bytes.ofOctets rows), .finish (if differing.isEmpty then 0 else 1)] ++ ends
            else match differing with
              | [] => ends
              | ((byte, other), _) :: _ =>
                let noun := if showsBytes then "byte" else "char"
                let place := s!" differ: {noun} {size + 1}, line {lines + 1}".toList
                let bytes := if showsBytes then
                    " is ".toList ++ octal byte ++ ' ' :: byteText byte ++ ' ' :: octal other ++
                      ' ' :: byteText other
                  else []
                [.emit 1 (Bytes.ofOctets (left ++ ' ' :: right ++ place ++ bytes ++ ['\n'])), .finish 1]

/-! ## Line by line -/

/-- The options for comparing lines. -/
def differTable : OptionTable where
  letters := "0123456789abBcC:dD:eEfF:hHiI:lL:nNpPqrsS:tTuU:vwW:x:X:yZ"
  synonyms := [("text", 'a'), ("ignore-space-change", 'b'), ("ignore-blank-lines", 'B'),
    ("minimal", 'd'), ("ifdef", 'D'), ("ed", 'e'), ("ignore-tab-expansion", 'E'),
    ("forward-ed", 'f'), ("show-function-line", 'F'), ("speed-large-files", 'H'), ("ignore-case", 'i'),
    ("ignore-matching-lines", 'I'), ("paginate", 'l'), ("label", 'L'), ("rcs", 'n'),
    ("new-file", 'N'), ("show-c-function", 'p'), ("unidirectional-new-file", 'P'), ("brief", 'q'),
    ("recursive", 'r'), ("report-identical-files", 's'), ("starting-file", 'S'),
    ("expand-tabs", 't'), ("initial-tab", 'T'), ("version", 'v'), ("ignore-all-space", 'w'),
    ("width", 'W'), ("exclude", 'x'), ("exclude-from", 'X'), ("side-by-side", 'y'),
    ("ignore-trailing-space", 'Z')]
  names := ["context::", "unified::", "normal", "strip-trailing-cr", "left-column",
    "suppress-common-lines", "color::", "palette:", "from-file:", "to-file:", "tabsize:",
    "horizon-lines:", "no-dereference", "no-ignore-file-name-case", "ignore-file-name-case",
    "suppress-blank-empty", "line-format:", "binary"]

/-- The style in which options ask for differences to be shown. -/
def styleOf (options : Options) : Except Octets DiffStyle := do
  let context (text : Octets) : Except Octets Nat :=
    match Integer.natural? 10 text with
    | some count => .ok count
    | none => .error ("invalid context length ".toList ++ quoted text)
  let steps ← options.flags.filterMapM fun (key, value) =>
    match key with
    | "u" => return some (DiffStyle.unified 3)
    | "unified" => return some (.unified (← if value.isEmpty then pure 3 else context value))
    | "U" => return some (.unified (← context value))
    | "c" => return some (.context 3)
    | "p" => return some (.context 3)
    | "context" => return some (.context (← if value.isEmpty then pure 3 else context value))
    | "C" => return some (.context (← context value))
    | "e" => return some .script
    | "n" => return some .counted
    | "y" => return some .sideBySide
    | "normal" => return some .plain
    | _ => return none
  let isUnified (style : DiffStyle) : Bool := match style with
    | .unified _ => true
    | _ => false
  let steps := if options.has "p" && steps.any isUnified then steps.filter isUnified else steps
  let size (style : DiffStyle) : Nat := match style with
    | .unified context => context
    | .context context => context
    | _ => 0
  let most := (steps.map size).foldl max 0
  let kind (style : DiffStyle) : DiffStyle := match style with
    | .unified _ => .unified most
    | .context _ => .context most
    | other => other
  match (steps.map kind).eraseDups with
  | [] => return .plain
  | [only] => return only
  | _ => throw "conflicting output style options".toList

/-- The last name of a file, inside a folder. -/
def besides (folder file : Octets) : Octets :=
  (if folder.getLast? = some '/' then folder else folder ++ ['/']) ++ lastName file

/-- Compare two operands. -/
def comparePair (call : Call) (plan : DiffPlan) (switches left right : Octets) : Tool :=
  let files := call.facts.files
  let isFolder (operand : Octets) : Bool := operand ≠ ['-'] && files.isFolder (pathOf operand)
  let fault? (operand : Octets) : Option Job :=
    match (sourceOf operand).map fun path => files.find (pathOf path) with
    | some (.error error) =>
      some (.complain call.name (operand ++ s!": {error.reason}".toList))
    | _ => none
  let faults := [left, right].filterMap fault?
  if !faults.isEmpty && !(plan.showsMissing && faults.length = 1) then
    call.jobs (faults ++ [.finish 2])
  else if isFolder left && isFolder right then
    call.jobs (plan.compareEntries files switches (files.entries.length + 2) false left right)
  else
    let inner := if isFolder left then besides left right else left
    let inner' := if isFolder right then besides right left else right
    match [inner, inner'].filterMap fault? with
    | fault :: more =>
      if plan.showsMissing && more.isEmpty then
        call.jobs (plan.compareEntries files switches (files.entries.length + 2) false inner inner')
      else call.jobs (fault :: more ++ [.finish 2])
    | [] =>
      let changed (operand : Octets) : Int :=
        match (sourceOf operand).map fun path => files.find (pathOf path) with
        | some (.ok (place, _)) => (files.detail place).changed
        | _ => files.clock
      call.withBoth inner inner' fun first second =>
        plan.report [] ⟨inner, changed inner, first⟩ ⟨inner', changed inner', second⟩

/-- Compare files line by line. -/
def compareLines (call : Call) : Tool :=
  call.withComparison differTable fun options =>
    let ignored : Except RegexFault (Option Regex) := match options.values "I" with
      | [] => .ok none
      | patterns => (patternsOf "G" patterns).map some
    match styleOf options, ignored with
    | .error message, _ => call.miscalled message
    | _, .error fault => call.refuse 2 fault.message.toList
    | .ok style, .ok ignored =>
      let plan : DiffPlan := {
        style := style
        foldsCase := options.has "i"
        ignoresBlanks := options.has "w"
        joinsBlanks := options.has "b"
        ignoresTrailing := options.has "Z"
        ignoresReturns := options.has "strip-trailing-cr"
        ignoresEmpty := options.has "B"
        ignored := ignored
        isText := options.has "a"
        isBrief := options.has "q"
        tellsSame := options.has "s"
        isDeep := options.has "r"
        showsMissing := options.has "N"
        excluded := options.values "x"
        labels := options.values "L"
        front := match style, options.has "T" with
          | _, true => ['\t']
          | _, false => [' ']
        width := ((options.value? "W").bind (Integer.natural? 10)).getD 130
        hidesCommon := options.has "suppress-common-lines"
        leftOnly := options.has "left-column"
        zone := call.zone false }
      let isOperand (word : Octets) : Bool := options.operands.contains word
      let switches := (call.arguments.filter (!isOperand ·)).flatMap fun word =>
        ' ' :: Quoting.whereNeeded word
      match options.value? "from-file", options.value? "to-file", options.operands with
      | some file, _, [other] => call.comparePair plan switches file other
      | _, some file, [other] => call.comparePair plan switches other file
      | _, _, [left, right] => call.comparePair plan switches left right
      | _, _, [] => call.miscalled ("missing operand after ".toList ++ quoted
          (call.arguments.getLastD call.name.toList))
      | _, _, [only] => call.miscalled ("missing operand after ".toList ++ quoted only)
      | _, _, _ :: _ :: extra :: _ => call.miscalled ("extra operand ".toList ++ quoted extra)

end Call

end CorpusJudge
