import CorpusJudge.Emulator.Tool.Calendar
import CorpusJudge.Emulator.Tool.Order
import CorpusJudge.Emulator.Tool.Searching

/-!
# Listing files

Files and the contents of folders, in order, with what is known of them.
-/

namespace CorpusJudge

namespace FileTree

/-- How many bytes an entry has; a folder has as many as its table needs. -/
def sizeOf (entry : Entry) : Nat :=
  match entry with
  | .file content => content.length
  | .sealed _ => 0
  | .folder => 4096
  | .link target => target.utf8ByteSize
  | .program _ => 100000
  | .device _ => 0

/-- How many units of 1024 bytes an entry takes. -/
def blocksOf (entry : Entry) : Nat :=
  match entry with
  | .link _ => 0
  | entry => (sizeOf entry + 4095) / 4096 * 4

/-- The letter for what an entry is. -/
def kindLetter (entry : Entry) : Char :=
  match entry with
  | .file _ => '-'
  | .sealed _ => '-'
  | .program _ => '-'
  | .folder => 'd'
  | .link _ => 'l'
  | .device _ => 'c'

/-- How many names lead to an entry: a folder is also known to itself and to its folders. -/
def linkCount (tree : FileTree) (place : Location) (entry : Entry) : Nat :=
  match entry with
  | .folder => 2 + ((tree.children place).filter fun (_, child) => child.isFolder).length
  | _ => 1

end FileTree

/-- A size in units of a power of 1024, or of 1000, with one decimal place as long as it is less than
ten; parts of the last place count as a whole. -/
def roundedSize (base value : Nat) : Octets :=
  let letters := if base = 1000 then "kMGTPEZY".toList else "KMGTPEZY".toList
  let rec grade : Nat → Nat → Nat
    | 0, power => power
    | fuel + 1, power => if Nat.pow base (power + 1) ≤ value then grade fuel (power + 1) else power
  let power := grade 8 0
  let unit := Nat.pow base power
  if power = 0 then (toString value).toList
  else
    let tenths := (value * 10 + unit - 1) / unit
    let whole := (value + unit - 1) / unit
    if tenths < 100 then
      Notation.pointed 1 false tenths ++ [(letters[power - 1]?).getD 'Y']
    else if whole < base then (toString whole).toList ++ [(letters[power - 1]?).getD 'Y']
    else "1.0".toList ++ [(letters[power]?).getD 'Y']

/-- How files are listed. -/
structure ListPlan where
  options : Options
  zone : TimeZone
  now : Int

/-- A file in a list: the name that is shown, and what stands there. -/
structure Listed where
  name : Octets
  place : Location
  entry : Entry
  detail : Detail
  links : Nat
  target : Option Octets
  isBroken : Bool := false
  leadsToFolder : Bool := false

namespace ListPlan

/-- Whether everything about files is shown. -/
def isLong (plan : ListPlan) : Bool :=
  let formats := plan.options.last? ["l", "g", "o", "n", "1", "C", "x", "m", "full-time", "format"]
  match formats with
  | some "1" => plan.options.hasAny ["l", "g", "o", "n", "full-time"]
  | some "format" =>
    (plan.options.value? "format").any fun word => word.isPrefixOf "long".toList ||
      word.isPrefixOf "verbose".toList
  | some key => ["l", "g", "o", "n", "full-time"].contains key
  | none => false

/-- The way in which names stand next to each other. -/
def arrangement (plan : ListPlan) : Char :=
  match plan.options.last? ["1", "C", "x", "m", "format"] with
  | some "C" => 'C'
  | some "x" => 'x'
  | some "m" => 'm'
  | some "format" =>
    let word := (plan.options.value? "format").getD []
    if word.isPrefixOf "across".toList || word.isPrefixOf "horizontal".toList then 'x'
    else if word.isPrefixOf "commas".toList then 'm'
    else if word.isPrefixOf "vertical".toList then 'C'
    else '1'
  | _ => '1'

/-- The mark behind a name. -/
def markOf (plan : ListPlan) (entry : Entry) (mode : Mode) : Octets :=
  let marksAll := plan.options.hasAny ["F", "classify"] &&
    !((plan.options.value? "F").any fun word => word = "never".toList)
  let marksFolders := plan.options.has "p" || marksAll
  let marksTypes := plan.options.has "file-type" || marksAll
  match entry with
  | .folder => if marksFolders || marksTypes then ['/'] else []
  | .link _ => if marksTypes then ['@'] else []
  | .file _ => if marksAll && mode.isExecutable then ['*'] else []
  | .sealed _ => if marksAll && mode.isExecutable then ['*'] else []
  | .program _ => if marksAll then ['*'] else []
  | .device _ => []

/-- A name as it is shown. -/
def shownName (plan : ListPlan) (name : Octets) : Octets :=
  match plan.options.last? ["Q", "N", "b", "q", "quoting-style"] with
  | some "Q" =>
    '"' :: name.flatMap (fun character =>
      if character = '"' || character = '\\' then ['\\', character]
      else if Quoting.isPrintable character then [character]
      else Quoting.escape character) ++ ['"']
  | some "b" =>
    name.flatMap fun character =>
      if character = ' ' || character = '\\' then ['\\', character]
      else if Quoting.isPrintable character then [character]
      else Quoting.escape character
  | some "q" => name.map fun character => if Quoting.isPrintable character then character else '?'
  | some "quoting-style" =>
    match String.ofList ((plan.options.value? "quoting-style").getD []) with
    | "shell" => Quoting.whereNeeded name
    | "shell-escape" => Quoting.whereNeeded name
    | "shell-always" => Quoting.always name
    | "shell-escape-always" => Quoting.always name
    | "c" => '"' :: name ++ ['"']
    | _ => name
  | _ => name

/-- A size as it is shown. -/
def shownSize (plan : ListPlan) (value : Nat) : Octets :=
  match plan.options.last? ["h", "si"] with
  | some "h" => roundedSize 1024 value
  | some _ => roundedSize 1000 value
  | none => (toString value).toList

/-- The blocks of an entry as they are shown. -/
def shownBlocks (plan : ListPlan) (blocks : Nat) : Octets :=
  match plan.options.last? ["h", "si"] with
  | some "h" => roundedSize 1024 (blocks * 1024)
  | some _ => roundedSize 1000 (blocks * 1024)
  | none => (toString blocks).toList

/-- The order of files in a list. -/
def order (plan : ListPlan) (left right : Listed) : Ordering :=
  let byName := Octets.order left.name right.name
  let ending (name : Octets) : Octets :=
    if name.contains '.' then '.' :: (name.reverse.takeWhile (· ≠ '.')).reverse else []
  let byTime := compare right.detail.changed left.detail.changed
  let bySize := compare (FileTree.sizeOf right.entry) (FileTree.sizeOf left.entry)
  let key := match plan.options.last? ["t", "S", "U", "X", "v", "f", "sort"] with
    | some "sort" =>
      let word := (plan.options.value? "sort").getD []
      (["time", "size", "extension", "version", "none", "width", "name"].find? fun name =>
        word.isPrefixOf name.toList).getD "name"
    | some "t" => "time"
    | some "S" => "size"
    | some "X" => "extension"
    | some "v" => "version"
    | some _ => "none"
    | none =>
      if (plan.options.last? ["c", "u"]).isSome && !plan.isLong then "time" else "name"
  let order := match key with
    | "time" => byTime.then byName
    | "size" => bySize.then byName
    | "extension" => (Octets.order (ending left.name) (ending right.name)).then byName
    | "version" => (Octets.versionOrder left.name right.name).then byName
    | "width" => (compare left.name.length right.name.length).then byName
    | "none" => .eq
    | _ => byName
  let order := if plan.options.has "r" && key ≠ "none" then order.swap else order
  if plan.options.has "group-directories-first" then
    (compare right.leadsToFolder left.leadsToFolder).then order
  else order

/-- Files in order. -/
def sorted (plan : ListPlan) (files : List Listed) : List Listed :=
  files.mergeSort fun left right => (plan.order left right).isLE

/-- A text, filled up with blanks on its left. -/
def flushRight (width : Nat) (text : Octets) : Octets :=
  List.replicate (width - text.length) ' ' ++ text

/-- The length of the longest of some texts. -/
def widest (texts : List Octets) : Nat :=
  (texts.map List.length).foldl max 0

/-- The time of the last change of a file as it is shown. -/
def shownTime (plan : ListPlan) (changed : Int) : Octets :=
  let time := Call.clockTime plan.zone changed
  let isRecent := changed ≤ plan.now && plan.now < changed + 15778476 * 1000000
  let usual := if isRecent then "%b %e %H:%M" else "%b %e  %Y"
  let style := if plan.options.has "full-time" then "full-iso".toList
    else (plan.options.value? "time-style").getD []
  let format := match style with
    | '+' :: format =>
      let forms := Text.segments '\n' format
      if isRecent then (forms.getLast?).getD [] else forms.headD []
    | word =>
      match String.ofList word with
      | "full-iso" => "%Y-%m-%d %H:%M:%S.%N %z".toList
      | "long-iso" => "%Y-%m-%d %H:%M".toList
      | "iso" => (if isRecent then "%m-%d %H:%M" else "%Y-%m-%d ").toList
      | _ => usual.toList
  time.text format

/-- What is shown for each of some files, with all that is known of them. -/
def longRows (plan : ListPlan) (files : List Listed) : List Octets :=
  let options := plan.options
  let owner := if options.has "n" then "0" else "root"
  let sizes := files.map fun file => plan.shownSize (FileTree.sizeOf file.entry)
  let sizeWidth := widest sizes
  let linkWidth := widest (files.map fun file => (toString file.links).toList)
  let blocks := files.map fun file => plan.shownBlocks (FileTree.blocksOf file.entry)
  let blockWidth := widest blocks
  files.map fun file =>
    let size := plan.shownSize (FileTree.sizeOf file.entry)
    let name := plan.shownName file.name
    let behind := match file.target with
      | some target => " -> ".toList ++ plan.shownName target
      | none => plan.markOf file.entry file.detail.mode
    (if options.has "i" then (toString (file.place.length + 1000)).toList ++ [' '] else []) ++
    (if options.has "s" then
      flushRight blockWidth (plan.shownBlocks (FileTree.blocksOf file.entry)) ++ [' '] else []) ++
    FileTree.kindLetter file.entry :: Mode.text file.detail.mode ++ [' '] ++
    flushRight linkWidth (toString file.links).toList ++ [' '] ++
    (if options.has "g" then [] else owner.toList ++ [' ']) ++
    (if options.hasAny ["o", "G"] then [] else owner.toList ++ [' ']) ++
    flushRight sizeWidth size ++ ' ' :: plan.shownTime file.detail.changed ++ ' ' :: name ++ behind

/-- Blanks and tabs from one column to another one. -/
def gap : Nat → Nat → Nat → Octets
  | 0, _, _ => []
  | fuel + 1, column, target =>
    if target ≤ column then []
    else if (column + 1) / 8 < target / 8 then
      '\t' :: gap fuel (column + 8 - column % 8) target
    else ' ' :: gap fuel (column + 1) target

/-- The widths of columns if names are put into so many of them, and whether they fit. -/
def columnWidths (byRows : Bool) (width count : Nat) (names : List Octets) : List Nat × Bool :=
  let rows := (names.length + count - 1) / count
  let widths := (List.range count).map fun column =>
    let own := names.zipIdx.filterMap fun (name, index) =>
      let here := if byRows then index % count else index / rows
      if here = column then some (name.length + if column + 1 = count then 0 else 2) else none
    max 3 (own.foldl max 0)
  (widths, widths.foldl (· + ·) 0 < width)

/-- Names in as many columns as there is room for. -/
def inColumns (byRows : Bool) (width : Nat) (names : List Octets) : Octets :=
  let most := max 1 (min names.length (width / 3))
  let counts := (List.range most).map (most - ·)
  let count := (counts.find? fun count => (columnWidths byRows width count names).2).getD 1
  let (widths, _) := columnWidths byRows width count names
  let rows := (names.length + count - 1) / count
  let starts := (List.range count).map fun column => (widths.take column).foldl (· + ·) 0
  let row (index : Nat) : Octets :=
    let cells := (List.range count).filterMap fun column =>
      let place := if byRows then index * count + column else column * rows + index
      (names[place]?).map fun name => ((starts[column]?).getD 0, name)
    (cells.foldl (fun (text, column) (start, name) =>
      (text ++ gap (start - column) column start ++ name, start + name.length))
      (([], 0) : Octets × Nat)).1 ++ ['\n']
  (List.range rows).flatMap row

/-- Names with commas between them, in lines that are not too long. -/
def withCommas (width : Nat) (names : List Octets) : Octets :=
  let (text, _) := names.foldl (fun (text, column) name =>
    if text.isEmpty then (name, name.length)
    else if column + name.length + 2 < width then (text ++ ", ".toList ++ name, column + 2 + name.length)
    else (text ++ ",\n".toList ++ name, name.length)) (([], 0) : Octets × Nat)
  if names.isEmpty then [] else text ++ ['\n']

/-- A list of files. -/
def listing (plan : ListPlan) (files : List Listed) : Octets :=
  let mark := if plan.options.has "zero" then '\x00' else '\n'
  if plan.isLong then (plan.longRows files).flatMap (· ++ [mark])
  else
    let blocks := files.map fun file => plan.shownBlocks (FileTree.blocksOf file.entry)
    let blockWidth := widest blocks
    let names := files.map fun file =>
      (if plan.options.has "i" then (toString (file.place.length + 1000)).toList ++ [' '] else []) ++
      (if plan.options.has "s" then
        flushRight (if plan.arrangement = 'm' then 0 else blockWidth)
          (plan.shownBlocks (FileTree.blocksOf file.entry)) ++ [' '] else []) ++
      (if plan.options.has "Z" then "? ".toList else []) ++
      plan.shownName file.name ++ plan.markOf file.entry file.detail.mode
    let width := match (plan.options.value? "w").bind (Integer.natural? 10) with
      | some 0 => 1000000000
      | some width => width
      | none => 80
    match plan.arrangement with
    | 'C' => inColumns false width names
    | 'x' => inColumns true width names
    | 'm' => withCommas width names
    | _ => names.flatMap (· ++ [mark])

/-- The entry of a path in a list. -/
def listed (tree : FileTree) (follows : Bool) (name : Octets) (place : Location) (entry : Entry) :
    Listed :=
  let target := match entry with
    | .link target => some (Shell.nameOctets target)
    | _ => none
  let found := if entry.isLink then tree.find ⟨"/" ++ "/".intercalate place⟩ else .ok (place, entry)
  let leadsToFolder := found.toOption.any fun (_, other) => other.isFolder
  let itself : Listed :=
    ⟨name, place, entry, tree.detail place, tree.linkCount place entry, target, false, leadsToFolder⟩
  if !follows || !entry.isLink then itself
  else match found with
    | .ok (other, entry) =>
      ⟨name, other, entry, tree.detail other, tree.linkCount other entry, none, false, leadsToFolder⟩
    | .error _ => { itself with isBroken := true }

/-- The files in a folder that are shown. -/
def contents (plan : ListPlan) (tree : FileTree) (folder : Location) : List Listed :=
  let options := plan.options
  let showsDots := options.hasAny ["a", "f"] && (options.last? ["a", "A", "f"]) ≠ some "A"
  let showsHidden := showsDots || options.has "A"
  let follows := options.has "L"
  let children := (tree.children folder).map fun (name, entry) =>
    listed tree follows (Shell.nameOctets name) (folder ++ [name]) entry
  let dots := if showsDots then
      [listed tree false ['.'] folder .folder, listed tree false ['.', '.'] folder.dropLast .folder]
    else []
  let isIgnored (name : Octets) : Bool :=
    (options.values "I").any (fun pattern => Call.fitsName pattern name) ||
      (options.has "B" && name.getLast? = some '~') ||
      (!showsHidden && (options.values "hide").any fun pattern => Call.fitsName pattern name)
  plan.sorted (dots ++ children.filter fun file =>
    (showsHidden || file.name.head? ≠ some '.') && !isIgnored file.name)

/-- What is shown of a folder, with its name in front if that is wanted, and of the folders in it. -/
def folderText (plan : ListPlan) (tree : FileTree) (hasTitle : Bool) :
    Nat → Octets → Location → List Octets
  | 0, _, _ => []
  | fuel + 1, name, folder =>
    let files := plan.contents tree folder
    let total := (files.map fun file => FileTree.blocksOf file.entry).foldl (· + ·) 0
    let text := (if hasTitle then name ++ ":\n".toList else []) ++
      (if plan.isLong || plan.options.has "s" then
        "total ".toList ++ plan.shownBlocks total ++ ['\n'] else []) ++ plan.listing files
    let inner := if plan.options.has "R" then
        files.filter fun file => file.entry.isFolder && file.name ≠ ['.'] && file.name ≠ ['.', '.']
      else []
    text :: inner.flatMap fun file =>
      folderText plan tree hasTitle fuel
        ((if name.getLast? = some '/' then name else name ++ ['/']) ++ file.name) file.place

end ListPlan

namespace Call

/-- The options for listing files. -/
def listTable : OptionTable where
  letters := "aAbBcCdDfF::gGhHiI:klLmnNopqQrRsStT:uUvw:xXZ1"
  synonyms := [("all", 'a'), ("almost-all", 'A'), ("escape", 'b'), ("ignore-backups", 'B'),
    ("directory", 'd'), ("no-group", 'G'), ("human-readable", 'h'), ("inode", 'i'), ("ignore", 'I'),
    ("kibibytes", 'k'), ("dereference", 'L'), ("dereference-command-line", 'H'),
    ("numeric-uid-gid", 'n'), ("literal", 'N'), ("hide-control-chars", 'q'), ("quote-name", 'Q'),
    ("reverse", 'r'), ("recursive", 'R'), ("size", 's'), ("tabsize", 'T'), ("width", 'w'),
    ("context", 'Z')]
  names := ["classify::", "file-type", "format:", "full-time", "group-directories-first", "hide:",
    "hyperlink::", "indicator-style:", "quoting-style:", "show-control-chars", "si", "sort:", "time:",
    "time-style:", "zero", "color::", "block-size:", "author"]

/-- List files and the contents of folders. -/
def list (call : Call) : Tool :=
  call.withOptions listTable 2 fun options =>
    match choice options "sort" ["none", "time", "size", "extension", "version", "width", "name"] with
    | .error _ =>
      call.misused 1 (choiceFault "sort" ((options.value? "sort").getD [])
        ["none", "time", "size", "extension", "version", "width"])
    | .ok _ => call.changing fun tree =>
      let plan : ListPlan := ⟨options, call.zone false, tree.clock⟩
      let operands := if options.operands.isEmpty then [['.']] else options.operands
      let isPlain := options.hasAny ["d"]
      let follows (operand : Octets) : Bool :=
        options.hasAny ["L", "H"] ||
          (!plan.isLong && !options.hasAny ["F", "classify", "d"] && tree.isFolder (Shell.pathOf operand))
      let found := operands.map fun operand =>
        let path := Shell.pathOf operand
        match (if follows operand then tree.find path else tree.findSelf path) with
        | .ok (place, entry) => Except.ok (ListPlan.listed tree (options.has "L") operand place entry)
        | .error error => .error (operand, error)
      let files := found.filterMap Except.toOption
      let complaints := found.filterMap fun result => match result with
        | .error (operand, error) => some (complaintOf call.name
            ("cannot access ".toList ++ Quoting.always operand ++ s!": {error.reason}".toList))
        | .ok _ => none
      let plain := files.filter fun file => isPlain || !file.entry.isFolder
      let folders := plan.sorted (files.filter fun file => !isPlain && file.entry.isFolder)
      let hasTitles := 1 < operands.length || options.has "R"
      let first := plan.listing (plan.sorted plain)
      let texts := folders.flatMap fun file =>
        plan.folderText tree hasTitles (tree.entries.length + 1) file.name file.place
      let pieces := (if plain.isEmpty then [] else [first]) ++ texts
      { files := tree
        said := [(1, Bytes.ofOctets (['\n'].intercalate pieces)), (2, complaints.flatten)]
        status := if complaints.isEmpty then 0 else 2 }

end Call

end CorpusJudge
