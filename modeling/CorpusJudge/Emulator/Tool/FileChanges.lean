import CorpusJudge.Emulator.Tool.Calendar
import CorpusJudge.Emulator.Tool.Words

/-!
# Changing files

The tools that make files, give them other names, modes and times, copy them and take them away.
-/

namespace CorpusJudge

/-- Work on files: requests one after the other, with what is said about them. -/
abbrev Altering (α : Type) := StateM Change α

namespace Altering

/-- Say something on standard output. -/
def report (text : Octets) : Altering Unit :=
  modify (·.say 1 (Bytes.ofOctets (text ++ ['\n'])))

/-- Complain, without having failed. -/
def warn (tool : String) (text : Octets) : Altering Unit :=
  modify (·.say 2 (complaintOf tool text))

/-- Complain about a failure. -/
def complain (tool : String) (text : Octets) : Altering Unit := do
  warn tool text
  modify fun change => { change with status := max change.status 1 }

/-- The files. -/
def files : Altering FileTree := return (← get).files

/-- Have other files. -/
def setFiles (files : FileTree) : Altering Unit :=
  modify fun change => { change with files := files }

/-- Go on with the result of a request, or complain about it; tells whether it succeeded. -/
def attempt (tool : String) (wording : Octets) (result : Except FileError FileTree) :
    Altering Bool := do
  match result with
  | .ok files =>
    setFiles files
    return true
  | .error error =>
    complain tool (wording ++ s!": {error.reason}".toList)
    return false

/-- What comes of work on files. -/
def run (work : Altering Unit) (files : FileTree) : Change :=
  (StateT.run work { files := files }).2

end Altering

namespace Call

open Altering
open Shell (pathOf nameOctets)

/-- A tool that works on files. -/
def altering (call : Call) (work : Altering Unit) : Tool :=
  call.changing work.run

/-- A tool that works on files with the answers that standard input gives. -/
def alteringWith (call : Call) (needsAnswers : Bool) (work : List Octets → Altering Unit) : Tool :=
  if needsAnswers then
    call.gathering [] fun inputs =>
      [.change (work (Text.segments '\n' (Bytes.octets (inputs.flatMap Prod.snd)))).run]
  else call.altering (work [])

/-- Whether an answer means yes. -/
def isYes (answers : List Octets) (index : Nat) : Bool :=
  match (answers[index]?).bind List.head? with
  | some letter => letter = 'y' || letter = 'Y'
  | none => false

/-- A path inside a folder. -/
def inside (folder name : Octets) : Octets :=
  (if folder.getLast? = some '/' then folder else folder ++ ['/']) ++ name

/-- A path without the separators at its end. -/
def withoutSlashes (path : Octets) : Octets :=
  let trimmed := (path.reverse.dropWhile (· = '/')).reverse
  if trimmed.isEmpty then path.take 1 else trimmed

/-- Whether the last name of a path is a dot or two. -/
def endsInDots (path : Octets) : Bool :=
  let name := lastName path
  name = ['.'] || name = ['.', '.']

/-- Whether a path has a separator at its end, behind something else. -/
def endsInSlash (path : Octets) : Bool :=
  path.getLast? = some '/' && path.any (· ≠ '/')

/-- What an entry is. -/
def kindOf (entry : Entry) : String :=
  match entry with
  | .file [] => "regular empty file"
  | .file _ => "regular file"
  | .sealed _ => "regular file"
  | .program _ => "regular file"
  | .folder => "directory"
  | .link _ => "symbolic link"
  | .device _ => "character special file"

/-! ## Taking files away -/

/-- Names in front of a path. -/
def paths (path : Octets) (names : List String) : Octets :=
  names.foldl (fun path name => inside path (nameOctets name)) path

/-- Take a file or folder away and say so for everything that goes. -/
def removeWith (call : Call) (options : Options) (path : Octets) : Altering Unit := do
  let tree ← files
  let wording := "cannot remove ".toList ++ Quoting.always path
  match tree.findSelf (pathOf path) with
  | .error error =>
    if !(options.has "f" && (error = .notFound || error = .notDirectory)) then
      complain call.name (wording ++ s!": {error.reason}".toList)
  | .ok (place, .folder) =>
    let isLink := match tree.findSelf (pathOf (withoutSlashes path)) with
      | .ok (_, .link _) => true
      | _ => false
    if isLink then complain call.name (wording ++ ": Not a directory".toList)
    else if options.hasAny ["r", "R"] then
      let below := (tree.entries.filterMap fun (other, entry) =>
        if place.isPrefixOf other && other ≠ place then some (other.drop place.length, entry)
        else none).reverse
      if options.has "v" then
        for (names, entry) in below do
          let shown := paths path names
          report ((if entry.isFolder then "removed directory ".toList else "removed ".toList) ++
            Quoting.always shown)
      if ← attempt call.name wording (tree.removeTree (pathOf path)) then
        if options.has "v" then report ("removed directory ".toList ++ Quoting.always path)
    else if options.has "d" then
      if ← attempt call.name wording (tree.removeFolder (pathOf path)) then
        if options.has "v" then report ("removed directory ".toList ++ Quoting.always path)
    else complain call.name (wording ++ ": Is a directory".toList)
  | .ok (_, entry) =>
    if endsInSlash path then complain call.name (wording ++ ": Not a directory".toList)
    else
      if ← attempt call.name wording
          (tree.removeFile (pathOf path)) then
        if options.has "v" && !entry.isFolder then report ("removed ".toList ++ Quoting.always path)

/-- Take files away, and folders if options say so. -/
def remove (call : Call) : Tool :=
  let table : OptionTable := ⟨"dfiIrRv", [("dir", 'd'), ("force", 'f'), ("recursive", 'r'),
    ("verbose", 'v')], ["interactive::", "no-preserve-root", "preserve-root::", "one-file-system"],
    false⟩
  call.withOptions table 1 fun options =>
    if options.operands.isEmpty then
      if options.has "f" then call.jobs [] else call.misused 1 "missing operand".toList
    else
      let asks := match options.last? ["i", "f", "I", "interactive"] with
        | some "i" => true
        | some "interactive" =>
          (options.value? "interactive").any fun word => word.isEmpty || word = "always".toList
        | _ => false
      call.alteringWith asks fun answers => do
        for (path, index) in options.operands.zipIdx do
          if endsInDots path && options.hasAny ["r", "R"] then
            complain call.name
              ("refusing to remove '.' or '..' directory: skipping ".toList ++ Quoting.always path)
          else if withoutSlashes path = ['/'] && options.hasAny ["r", "R"] then
            warn call.name "it is dangerous to operate recursively on '/'".toList
            complain call.name "use --no-preserve-root to override this failsafe".toList
          else if asks then
            match (← files).findSelf (pathOf path) with
            | .ok (_, entry) =>
              modify (·.say 2 (Bytes.ofOctets (call.name.toList ++
                s!": remove {kindOf entry} ".toList ++ Quoting.always path ++ "? ".toList)))
              if isYes answers index then removeWith call options path
            | .error _ => removeWith call options path
          else removeWith call options path

/-- Take empty folders away. -/
def removeFolders (call : Call) : Tool :=
  let table : OptionTable := ⟨"pv", [("parents", 'p'), ("verbose", 'v')],
    ["ignore-fail-on-non-empty"], false⟩
  call.withOptions table 1 fun options =>
    call.withOperands options <| call.altering do
      let drop (path : Octets) (isParent : Bool) : Altering Bool := do
        if options.has "v" then report (call.name.toList ++ ": removing directory, ".toList ++ Quoting.always path)
        let tree ← files
        let wording := (if isParent then "failed to remove directory " else "failed to remove ").toList ++
          Quoting.always path
        if lastName path = ['.'] then
          complain call.name (wording ++ ": Invalid argument".toList)
          return false
        let isLink := match tree.findSelf (pathOf (withoutSlashes path)) with
          | .ok (_, .link _) => true
          | _ => false
        if isLink && endsInSlash path && tree.isFolder (pathOf path) then
          complain call.name (wording ++ ": Symbolic link not followed".toList)
          return false
        match tree.removeFolder (pathOf path) with
        | .error .notEmpty =>
          if !options.has "ignore-fail-on-non-empty" then
            complain call.name (wording ++ ": Directory not empty".toList)
          return false
        | result => attempt call.name wording result
      for path in options.operands do
        let isGone ← drop path false
        if options.has "p" && isGone then
          let names := (Text.segments '/' (withoutSlashes path)).length
          let mut path := withoutSlashes path
          let mut goesOn := true
          for _ in List.range names do
            let folder := folderName path
            if goesOn && folder ≠ ['.'] && folder ≠ ['/'] then
              path := folder
              goesOn ← drop path true

/-- Make folders. -/
def makeFolders (call : Call) : Tool :=
  let table : OptionTable := ⟨"m:pvZ", [("mode", 'm'), ("parents", 'p'), ("verbose", 'v')],
    ["context::"], false⟩
  call.withOptions table 1 fun options =>
    call.withOperands options <|
      let usual := Mode.newFolder.without call.facts.files.mask
      match (options.value? "m").map fun text =>
          (text, Mode.changed? call.facts.files.mask true text Mode.newFolder) with
      | some (text, none) => call.refuse 1 ("invalid mode ".toList ++ Quoting.always text)
      | mode => call.altering do
        let mode := ((mode.bind Prod.snd).getD usual)
        let make (path : Octets) (isLast : Bool) : Altering Bool := do
          let tree ← files
          let result := do
            let made ← tree.makeFolder (pathOf path)
            let (place, _) ← made.findSelf (pathOf path)
            return if isLast && options.has "m" then made.setMode place mode else made
          let wording := "cannot create directory ".toList ++ Quoting.always path
          let isMade ← attempt call.name wording result
          if isMade && options.has "v" then
            report (call.name.toList ++ ": created directory ".toList ++ Quoting.always path)
          return isMade
        for path in options.operands do
          if options.has "p" && !path.isEmpty then
            let names := (Text.segments '/' (withoutSlashes path)).zipIdx
            let pieces := Text.segments '/' (withoutSlashes path)
            let mut goesOn := true
            for (name, index) in names do
              let part := Text.joined '/' (pieces.take (index + 1))
              if goesOn && !name.isEmpty then
                match (← files).find (pathOf part) with
                | .ok (_, .folder) => pure ()
                | .ok _ =>
                  let reason := if index + 1 = names.length then "File exists" else "Not a directory"
                  complain call.name ("cannot create directory ".toList ++ Quoting.always part ++
                    s!": {reason}".toList)
                  goesOn := false
                | .error _ => goesOn ← make part (index + 1 = names.length)
          else
            let _ ← make path true

/-! ## Times and modes -/

/-- The time that digits give: month, day, hour and minute, perhaps behind a year and before
seconds. -/
def stampTime? (now : ClockTime) (text : Octets) : Option Int :=
  let digits := text.takeWhile Char.isDigit
  let second? := match text.drop digits.length with
    | [] => some 0
    | '.' :: rest => if rest.length = 2 then Integer.natural? 10 rest else none
    | _ => none
  let two (index : Nat) : Nat := (Integer.natural? 10 ((digits.drop index).take 2)).getD 0
  let parts? : Option (Int × Nat) := match digits.length with
    | 8 => some (now.year, 0)
    | 10 =>
      let year := two 0
      some (if year < 69 then 2000 + year else 1900 + year, 2)
    | 12 => some (Int.ofNat (two 0 * 100 + two 2), 4)
    | _ => none
  match parts?, second? with
  | some (year, start), some second =>
    let month := two start
    let day := two (start + 2)
    let hour := two (start + 4)
    let minute := two (start + 6)
    if month = 0 || 12 < month || day = 0 || Instant.daysInMonth year month < day || 23 < hour ||
        59 < minute || 60 < second then none
    else some (Instant.dayNumber year month day * 86400 +
      Int.ofNat (hour * 3600 + minute * 60 + second) - now.zone.offset)
  | _, _ => none

/-- Give files the time of now or another one, and make those that are missing. -/
def touch (call : Call) : Tool :=
  let table : OptionTable := ⟨"acd:fhmr:t:", [("no-create", 'c'), ("date", 'd'),
    ("no-dereference", 'h'), ("reference", 'r')], ["time:"], false⟩
  call.withOptions table 1 fun options =>
    let tree := call.facts.files
    let now := clockTime (call.zone false) tree.clock
    let invalid (text : Octets) : Octets := "invalid date format ".toList ++ Quoting.always text
    let time : Except Octets (Option Int) :=
      match options.value? "t", options.value? "d", options.value? "r" with
      | some text, _, _ => match stampTime? now text with
        | some seconds => .ok (some (seconds * 1000000))
        | none => .error (invalid text)
      | none, some text, _ => match readTime? now text with
        | some (seconds, nanos) => .ok (some (seconds * 1000000 + Int.ofNat (nanos / 1000)))
        | none => .error (invalid text)
      | none, none, some path => match tree.find (pathOf path) with
        | .ok (place, _) => .ok (some (tree.detail place).changed)
        | .error error => .error ("failed to get attributes of ".toList ++ Quoting.always path ++
            s!": {error.reason}".toList)
      | none, none, none => .ok none
    match time with
    | .error complaint => call.refuse 1 complaint
    | .ok time =>
      if options.operands.isEmpty then call.misused 1 "missing file operand".toList
      else call.altering do
        for path in options.operands do
          let tree ← files
          let isSelf := options.has "h"
          let found := if isSelf then tree.findSelf (pathOf path) else tree.find (pathOf path)
          let stamp (tree : FileTree) (place : Location) : FileTree :=
            if options.has "a" && !options.has "m" then tree
            else tree.setChanged place (time.getD tree.clock)
          match found with
          | .ok (place, entry) =>
            if endsInSlash path && !entry.isFolder then
              complain call.name ("setting times of ".toList ++ Quoting.always path ++
                ": Not a directory".toList)
            else setFiles (stamp tree place)
          | .error .notFound =>
            if !options.hasAny ["c", "h"] then
              if endsInSlash path then
                complain call.name ("setting times of ".toList ++ Quoting.always path ++
                  ": No such file or directory".toList)
              else
                let made := do
                  let made ← tree.write (pathOf path) []
                  let (place, _) ← made.find (pathOf path)
                  return stamp made place
                let _ ← attempt call.name ("cannot touch ".toList ++ Quoting.always path) made
          | .error error =>
            let wording := if endsInSlash path then "setting times of " else "cannot touch "
            complain call.name (wording.toList ++ Quoting.always path ++ s!": {error.reason}".toList)

/-- Everything below a path, the path itself first. -/
def entriesBelow (tree : FileTree) (path : Octets) (place : Location) :
    List (Octets × Location × Entry) :=
  let self := match tree.lookup place with
    | some entry => [(path, place, entry)]
    | none => []
  self ++ tree.entries.filterMap fun (other, entry) =>
    if place.isPrefixOf other && other ≠ place then
      some (paths path (other.drop place.length), other, entry)
    else none

/-- A mode as it is shown in a report. -/
def reportedMode (mode : Mode) : Octets :=
  Mode.octal 4 mode ++ " (".toList ++ Mode.text mode ++ [')']

/-- Give files other modes. -/
def changeModes (call : Call) : Tool :=
  let isModeWord (word : Octets) : Bool :=
    match word with
    | '-' :: letter :: _ => "rwxXstugoa,".toList.contains letter || ('0' ≤ letter && letter ≤ '7')
    | _ => false
  let (early, rest) := call.arguments.span fun word => !isModeWord word
  let (given, arguments) := match rest with
    | word :: rest =>
      if early.all fun word => word.head? = some '-' && word ≠ ['-', '-'] then
        (some word, early ++ rest)
      else (none, call.arguments)
    | [] => (none, call.arguments)
  let table : OptionTable := ⟨"cfRv", [("changes", 'c'), ("silent", 'f'), ("quiet", 'f'),
    ("recursive", 'R'), ("verbose", 'v')], ["reference:", "no-preserve-root", "preserve-root"], false⟩
  (call.withArguments arguments).withOptions table 1 fun options =>
    let tree := call.facts.files
    let (mode?, operands) := match given, options.value? "reference" with
      | some word, _ => (some word, options.operands)
      | none, some _ => (none, options.operands)
      | none, none => (options.operands.head?, options.operands.drop 1)
    let reference := (options.value? "reference").map fun path => (path, tree.find (pathOf path))
    match mode?, reference, operands with
    | none, none, _ => call.misused 1 "missing operand".toList
    | some word, _, [] => call.misused 1 ("missing operand after ".toList ++ quoted word)
    | none, some (path, .error error), _ =>
      call.refuse 1 ("failed to get attributes of ".toList ++ Quoting.always path ++
        s!": {error.reason}".toList)
    | none, some (_, .ok _), [] => call.misused 1 "missing operand".toList
    | _, _, _ =>
      let change (old : Mode) (isFolder : Bool) : Option Mode :=
        match mode?, reference with
        | some word, _ =>
          let digits := word.takeWhile Char.isDigit
          let new := Mode.changed? tree.mask isFolder word old
          if digits.length = word.length && isFolder && digits.length < 5 then
            new.map fun mode => Nat.lor mode (Nat.land old 0o6000)
          else new
        | none, some (_, .ok (place, _)) => some (tree.detail place).mode
        | _, _ => none
      if (change 0 false).isNone then
        call.misused 1 ("invalid mode: ".toList ++ Quoting.always (mode?.getD []))
      else call.altering do
        for path in operands do
          let tree ← files
          match tree.find (pathOf path) with
          | .error error =>
            let isBroken := error = .notFound && (tree.findSelf (pathOf path)).toOption.isSome
            if !options.has "f" then
              complain call.name <| if isBroken then
                  "cannot operate on dangling symlink ".toList ++ Quoting.always path
                else "cannot access ".toList ++ Quoting.always path ++ s!": {error.reason}".toList
            else modify fun change => { change with status := max change.status 1 }
            if options.has "v" then report (Quoting.always path ++ " could not be accessed".toList)
          | .ok (place, _) =>
            let all := entriesBelow tree path place
            for (name, place, entry) in (if options.has "R" then all else all.take 1) do
              let tree ← files
              if entry.isLink then
                if options.has "v" then
                  report ("neither symbolic link ".toList ++ Quoting.always name ++
                    " nor referent has been changed".toList)
              else
                let old := (tree.detail place).mode
                match change old entry.isFolder with
                | none => pure ()
                | some new =>
                  setFiles (tree.setMode place new)
                  if options.has "v" || (options.has "c" && old ≠ new) then
                    report <| if old = new then
                        "mode of ".toList ++ Quoting.always name ++ " retained as ".toList ++
                          reportedMode old
                      else
                        "mode of ".toList ++ Quoting.always name ++ " changed from ".toList ++
                          reportedMode old ++ " to ".toList ++ reportedMode new

/-- Give files to other owners, or other groups.  There is only one of each. -/
def changeOwners (onlyGroup : Bool) (call : Call) : Tool :=
  let table : OptionTable := ⟨"cfhHLPRv", [("changes", 'c'), ("silent", 'f'), ("quiet", 'f'),
    ("no-dereference", 'h'), ("recursive", 'R'), ("verbose", 'v')],
    ["reference:", "from:", "dereference", "no-preserve-root", "preserve-root"], false⟩
  call.withOptions table 1 fun options =>
    let (owner, operands) := if options.has "reference" then (some [], options.operands)
      else (options.operands.head?, options.operands.drop 1)
    match owner, operands with
    | none, _ => call.misused 1 "missing operand".toList
    | some word, [] => call.misused 1 ("missing operand after ".toList ++ quoted word)
    | some word, operands =>
      let names := Text.segments ':' word
      let isKnown (name : Octets) : Bool :=
        name.isEmpty || name = "root".toList || name.all Char.isDigit
      if !(isKnown (names.headD [])) then
        call.refuse 1 (if onlyGroup then "invalid group: ".toList ++ Quoting.always word
          else "invalid user: ".toList ++ Quoting.always word)
      else if !((names.drop 1).all isKnown) then
        call.refuse 1 ("invalid group: ".toList ++ Quoting.always word)
      else call.altering do
        for path in operands do
          match (← files).find (pathOf path) with
          | .ok _ => pure ()
          | .error error =>
            complain call.name ("cannot access ".toList ++ Quoting.always path ++
              s!": {error.reason}".toList)

/-! ## Copies, moves and links -/

/-- The sources among the operands of a tool with the targets they get, or a complaint. -/
def targetsOf (options : Options) (tree : FileTree) :
    Except (Octets × Bool) (List (Octets × Octets)) := do
  let operands := options.operands
  let isFolder (path : Octets) : Bool := tree.isFolder (pathOf path)
  let into (folder : Octets) (sources : List Octets) : List (Octets × Octets) :=
    sources.map fun source =>
      (source, inside folder (if options.has "parents" then source else lastName source))
  let reason (path : Octets) : String :=
    match tree.find (pathOf path) with
    | .ok _ => FileError.notDirectory.reason
    | .error error => error.reason
  match options.value? "t", operands with
  | _, [] => throw ("missing file operand".toList, true)
  | some folder, sources =>
    if isFolder folder then return into folder sources
    else throw ("target directory ".toList ++ Quoting.always folder ++
      s!": {reason folder}".toList, false)
  | none, [only] =>
    throw ("missing destination file operand after ".toList ++ quoted only, true)
  | none, operands =>
    let last := operands.getLastD []
    let sources := operands.dropLast
    if options.has "T" then
      match sources with
      | [source] => return [(source, last)]
      | _ => throw ("extra operand ".toList ++ quoted (operands.getD 2 []), true)
    else if isFolder last then return into last sources
    else match sources with
      | [source] => return [(source, last)]
      | _ => throw ("target ".toList ++ Quoting.always last ++ s!": {reason last}".toList, false)

/-- The number of a numbered copy of a file. -/
def copyNumber? (name other : Octets) : Option Nat :=
  if (name ++ ".~".toList).isPrefixOf other && other.getLast? = some '~' then
    Integer.natural? 10 (other.drop (name.length + 2)).dropLast
  else none

/-- Keep a copy of what stands at a path, if options ask for that. -/
def keepCopy (options : Options) (path : Octets) : Altering Unit := do
  if options.hasAny ["b", "backup"] then
    let tree ← files
    let names : List Octets := match tree.list (pathOf (folderName path)) with
      | .ok found => found.map fun found => nameOctets found.1
      | .error _ => []
    let numbers := names.filterMap (copyNumber? (lastName path))
    let kind := String.ofList ((options.value? "backup").getD [])
    let isNumbered := ["t", "numbered"].contains kind ||
      (! ["never", "simple"].contains kind && !numbers.isEmpty)
    let ending := if isNumbered then s!".~{numbers.foldl max 0 + 1}~".toList
      else (options.value? "S").getD ['~']
    if ! ["none", "off"].contains kind then
      match tree.rename (pathOf path) (pathOf (path ++ ending)) with
      | .ok files => setFiles files
      | .error _ => pure ()

/-- Copy an entry and what lies below it to another place. -/
def copyEntry (tree : FileTree) (keepsDetail : Bool) (source target : Location) (entry : Entry) :
    FileTree :=
  let old := tree.detail source
  let isNew := (tree.lookup target).isNone
  let entry := match entry with
    | .program name => Entry.program name
    | .device _ => Entry.file []
    | entry => entry
  let tree := tree.put target entry
  let tree := if isNew && !entry.isLink then tree.setMode target (old.mode.without tree.mask) else tree
  if keepsDetail then tree.withDetail target old else tree

/-- Copy one file or folder. -/
def copyOne (call : Call) (options : Options) (source target : Octets) (done : List Location) :
    Altering (Option Location) := do
  let tree ← files
  let isDeep := options.hasAny ["r", "R", "a"]
  let keepsLinks := (isDeep || options.hasAny ["P", "d"]) && !options.hasAny ["L"]
  let found := if keepsLinks then tree.findSelf (pathOf source) else tree.find (pathOf source)
  match found with
  | .error error =>
    complain call.name ("cannot stat ".toList ++ Quoting.always source ++ s!": {error.reason}".toList)
    return none
  | .ok (place, .folder) =>
    if !isDeep then
      complain call.name ("-r not specified; omitting directory ".toList ++ Quoting.always source)
      return none
    else match tree.find (pathOf target), tree.locate true (pathOf (withoutSlashes target)) with
      | .ok (_, entry), .ok there =>
        if !entry.isFolder then
          complain call.name ("cannot overwrite non-directory ".toList ++ Quoting.always target ++
            " with directory ".toList ++ Quoting.always source)
          return none
        else copyBelow tree place there
      | .error _, .ok there => copyBelow tree place there
      | _, .error error =>
        complain call.name ("cannot create directory ".toList ++ Quoting.always target ++
          s!": {error.reason}".toList)
        return none
  | .ok (place, entry) =>
    match tree.find (pathOf target) with
    | .ok (_, .folder) =>
      complain call.name ("cannot overwrite directory ".toList ++ Quoting.always target ++
        " with non-directory".toList)
      return none
    | .ok (there, _) =>
      if there = place then
        complain call.name (Quoting.always source ++ " and ".toList ++ Quoting.always target ++
          " are the same file".toList)
        return none
      else if done.contains there then
        complain call.name ("will not overwrite just-created ".toList ++ Quoting.always target ++
          " with ".toList ++ Quoting.always source)
        return none
      else if options.has "n" then return none
      else if options.has "u" && (tree.detail place).changed ≤ (tree.detail there).changed then
        return none
      else if options.hasAny ["s", "l"] then
        complain call.name ((if options.has "s" then "cannot create symbolic link " else
          "cannot create hard link ").toList ++ Quoting.always target ++
          (if options.has "l" then " to ".toList ++ Quoting.always source else []) ++
          ": File exists".toList)
        return none
      else
        keepCopy options target
        put (← files) place entry
    | .error _ => put tree place entry
where
  /-- Copy what lies below a folder. -/
  copyBelow (tree : FileTree) (place there : Location) : Altering (Option Location) := do
    let all := entriesBelow tree source place
    let isInner := place.isPrefixOf there && place ≠ there
    if place = there then
      complain call.name (Quoting.always source ++ " and ".toList ++ Quoting.always target ++
        " are the same file".toList)
      return none
    for (name, other, entry) in all do
      if !there.isPrefixOf other then
        let tree ← files
        let names := other.drop place.length
        let goal := there ++ names
        if options.has "v" then
          report (Quoting.always name ++ " -> ".toList ++
            Quoting.always (paths (withoutSlashes target) names))
        let isThere := tree.lookup goal
        if !(entry.isFolder && isThere = some .folder) then
          setFiles (copyEntry tree (options.hasAny ["a", "p"]) other goal entry)
    if isInner then
      complain call.name ("cannot copy a directory, ".toList ++ Quoting.always source ++
        ", into itself, ".toList ++ Quoting.always target)
    return some there
  /-- Copy something that is no folder. -/
  put (tree : FileTree) (place : Location) (entry : Entry) : Altering (Option Location) := do
    let wording := (if options.has "s" then "cannot create symbolic link "
      else if entry.isLink then "cannot create symbolic link " else "cannot create regular file ").toList ++
        Quoting.always target
    let isBroken := match tree.findSelf (pathOf target), tree.find (pathOf target) with
      | .ok (_, .link _), .error _ => true
      | _, _ => false
    if isBroken && !options.has "remove-destination" then
      complain call.name ("not writing through dangling symlink ".toList ++ Quoting.always target)
      return none
    else
      let result := do
        if endsInSlash target then
          let _ ← tree.locate false (pathOf (withoutSlashes target))
          throw FileError.notDirectory
        let there ← tree.locate true (pathOf target)
        match tree.lookup there with
        | some (.device _) => return (tree, there)
        | _ => return (if options.has "s" then tree.put there (.link (pathOf source).text)
            else copyEntry tree (options.hasAny ["a", "p"]) place there entry, there)
      match result with
      | .ok (files, there) =>
        setFiles files
        if options.has "v" then report (Quoting.always source ++ " -> ".toList ++ Quoting.always target)
        return some there
      | .error error =>
        complain call.name (wording ++ s!": {error.reason}".toList)
        return none

/-- Whether options ask before something is overwritten. -/
def asksFirst (options : Options) : Bool :=
  options.last? ["i", "f", "n"] = some "i"

/-- Go on if nothing is overwritten, or if the answer allows it. -/
def unlessRefused (call : Call) (options : Options) (answers : List Octets) (index : Nat)
    (target : Octets) (act : Altering Unit) : Altering Unit := do
  let isThere := ((← files).find (pathOf target)).toOption.any fun (_, entry) => !entry.isFolder
  if asksFirst options && isThere then
    modify (·.say 2 (Bytes.ofOctets
      (call.name.toList ++ ": overwrite ".toList ++ Quoting.always target ++ "? ".toList)))
    if isYes answers index then act
    else modify fun change => { change with status := max change.status 1 }
  else act

/-- Copy files, and folders if options say so. -/
def copy (call : Call) : Tool :=
  let table : OptionTable := ⟨"abdfHilLnpPrRsS:t:TuvxZ", [("archive", 'a'), ("force", 'f'),
    ("interactive", 'i'), ("link", 'l'), ("dereference", 'L'), ("no-clobber", 'n'),
    ("no-dereference", 'P'), ("recursive", 'r'), ("symbolic-link", 's'), ("suffix", 'S'),
    ("target-directory", 't'), ("no-target-directory", 'T'), ("verbose", 'v'),
    ("one-file-system", 'x')],
    ["backup::", "attributes-only", "copy-contents", "debug", "no-preserve:", "parents", "preserve::",
      "reflink::", "remove-destination", "sparse:", "strip-trailing-slashes", "update::", "context::"],
    false⟩
  call.withOptions table 1 fun options =>
    let options := if options.has "preserve" then { options with flags := ("p", []) :: options.flags }
      else options
    let options := match options.value? "update" with
      | some word =>
        let key := if word = "none".toList then "n" else if word = "all".toList then "" else "u"
        { options with flags := (key, []) :: options.flags }
      | none => options
    match targetsOf options call.facts.files with
    | .error (complaint, true) => call.misused 1 complaint
    | .error (complaint, false) => call.refuse 1 complaint
    | .ok pairs => call.alteringWith (asksFirst options) fun answers => do
      if options.flags.any fun (key, _) => key = "n" then
        if !options.has "update" then
          warn call.name ("warning: behavior of -n is non-portable and may change in future; " ++
            "use --update=none instead").toList
      let mut done : List Location := []
      for ((source, target), index) in pairs.zipIdx do
        if options.has "parents" then
          let folders := (List.range ((Text.segments '/' target).length - 1)).map fun count =>
            Text.joined '/' ((Text.segments '/' target).take (count + 1))
          for folder in folders do
            if !folder.isEmpty && !(← files).isFolder (pathOf folder) then
              match (← files).makeFolder (pathOf folder) with
              | .ok made => setFiles made
              | .error _ => pure ()
        let isThere := ((← files).find (pathOf target)).toOption.any fun (_, entry) => !entry.isFolder
        if asksFirst options && isThere then
          unlessRefused call options answers index target do
            let _ ← copyOne call options source target done
        else
          match ← copyOne call options source target done with
          | some place => done := place :: done
          | none => pure ()

/-- Give one file another path. -/
def moveOne (call : Call) (options : Options) (source target : Octets) : Altering Unit := do
  let tree ← files
  match tree.findSelf (pathOf (withoutSlashes source)) with
  | .error error =>
    complain call.name ("cannot stat ".toList ++ Quoting.always source ++ s!": {error.reason}".toList)
  | .ok (place, entry) =>
    let existing := tree.findSelf (pathOf (withoutSlashes target))
    let finish : Altering Unit := do
      if existing.toOption.isSome then keepCopy options target
      let tree ← files
      let result := if endsInSlash target && !entry.isFolder && existing.toOption.isNone then
          .error .notDirectory
        else tree.rename (pathOf (withoutSlashes source)) (pathOf target)
      match result with
      | .error .invalidArgument =>
        complain call.name ("cannot move ".toList ++ Quoting.always source ++
          " to a subdirectory of itself, ".toList ++ Quoting.always target)
      | .error error =>
        complain call.name <|
          if error = .notEmpty || error = .exists || error = .isDirectory then
            "cannot overwrite ".toList ++ Quoting.always target ++ s!": {error.reason}".toList
          else "cannot move ".toList ++ Quoting.always source ++ " to ".toList ++
            Quoting.always target ++ s!": {error.reason}".toList
      | .ok moved =>
        setFiles moved
        if options.has "v" then
          report ("renamed ".toList ++ Quoting.always source ++ " -> ".toList ++ Quoting.always target)
    match existing with
    | .ok (there, other) =>
      if options.has "n" then
        complain call.name ("not replacing ".toList ++ Quoting.always target)
      else if there = place then
        complain call.name (Quoting.always source ++ " and ".toList ++ Quoting.always target ++
          " are the same file".toList)
      else if entry.isFolder && !other.isFolder then
        complain call.name ("cannot overwrite non-directory ".toList ++ Quoting.always target ++
          " with directory ".toList ++ Quoting.always source)
      else if !entry.isFolder && other.isFolder then
        complain call.name ("cannot overwrite directory ".toList ++ Quoting.always target ++
          " with non-directory".toList)
      else if options.has "u" && (tree.detail place).changed ≤ (tree.detail there).changed then
        pure ()
      else finish
    | .error _ => finish

/-- Give files other paths. -/
def move (call : Call) : Tool :=
  let table : OptionTable := ⟨"bfinS:t:TuvZ", [("force", 'f'), ("interactive", 'i'), ("no-clobber", 'n'),
    ("suffix", 'S'), ("target-directory", 't'), ("no-target-directory", 'T'), ("verbose", 'v')],
    ["backup::", "debug", "strip-trailing-slashes", "update::", "context", "no-copy"], false⟩
  call.withOptions table 1 fun options =>
    match targetsOf options call.facts.files with
    | .error (complaint, true) => call.misused 1 complaint
    | .error (complaint, false) => call.refuse 1 complaint
    | .ok pairs => call.alteringWith (asksFirst options) fun answers => do
      for ((source, target), index) in pairs.zipIdx do
        unlessRefused call options answers index target (moveOne call options source target)

/-- The way from one place to another one. -/
def wayBetween (start goal : Location) : Octets :=
  let rec common : Location → Location → Nat
    | left :: lefts, right :: rights => if left = right then common lefts rights + 1 else 0
    | _, _ => 0
  let shared := common start goal
  let up := List.replicate (start.length - shared) ['.', '.']
  let down := (goal.drop shared).map nameOctets
  if (up ++ down).isEmpty then ['.'] else Text.joined '/' (up ++ down)

/-- Make one link. -/
def linkOne (call : Call) (options : Options) (source target : Octets) : Altering Unit := do
  let tree ← files
  let isSymbolic := options.has "s"
  let kind := if isSymbolic then "failed to create symbolic link " else "failed to create hard link "
  let finish : Altering Unit := do
    if (tree.findSelf (pathOf target)).toOption.isSome then keepCopy options target
    let tree ← files
    let cleared := if options.hasAny ["f", "i"] then
        (tree.removeFile (pathOf target)).toOption.getD tree
      else tree
    let shown := if isSymbolic && options.has "r" then
        match tree.locate true (pathOf source), tree.locate false (pathOf target) with
        | .ok goal, .ok place => wayBetween place.dropLast goal
        | _, _ => source
      else source
    let result := if isSymbolic then
        if source.isEmpty then .error .notFound else cleared.makeLink (pathOf target) (pathOf shown).text
      else do
        let (place, entry) ← tree.findSelf (pathOf source)
        let there ← cleared.locate false (pathOf target)
        if (cleared.lookup there).isSome then throw .exists
        return (cleared.put there entry).withDetail there (tree.detail place)
    let isMade ← match result with
      | .error error => do
        complain call.name (kind.toList ++ Quoting.always target ++
          (if isSymbolic && source.isEmpty then " -> ".toList ++ Quoting.always source else []) ++
          s!": {error.reason}".toList)
        pure false
      | .ok files => do
        setFiles files
        pure true
    if isMade && options.has "v" then
      report (Quoting.always target ++ (if isSymbolic then " -> " else " => ").toList ++
        Quoting.always shown)
  if isSymbolic then
    match tree.findSelf (pathOf source), tree.findSelf (pathOf target) with
    | .ok (one, _), .ok (other, _) =>
      if one = other && options.has "f" then
        complain call.name (Quoting.always source ++ " and ".toList ++ Quoting.always target ++
          " are the same file".toList)
      else finish
    | _, _ => finish
  else
    match tree.findSelf (pathOf source) with
    | .error error =>
      complain call.name ("failed to access ".toList ++ Quoting.always source ++
        s!": {error.reason}".toList)
    | .ok (_, .folder) =>
      complain call.name (source ++ ": hard link not allowed for directory".toList)
    | .ok _ => finish

/-- Make links: symbolic ones, or further names of a file. -/
def link (call : Call) : Tool :=
  let table : OptionTable := ⟨"bdFfiLnPrsS:t:Tv", [("directory", 'd'), ("force", 'f'),
    ("interactive", 'i'), ("logical", 'L'), ("no-dereference", 'n'), ("physical", 'P'),
    ("relative", 'r'), ("symbolic", 's'), ("suffix", 'S'), ("target-directory", 't'),
    ("no-target-directory", 'T'), ("verbose", 'v')], ["backup::"], false⟩
  call.withOptions table 1 fun options =>
    let tree := call.facts.files
    let isTarget (path : Octets) : Bool :=
      tree.isFolder (pathOf path) && !(options.has "n" && match tree.findSelf (pathOf path) with
        | .ok (_, .link _) => true
        | _ => false)
    let pairs : Except (Octets × Bool) (List (Octets × Octets)) :=
      match options.operands with
      | [] => .error ("missing file operand".toList, true)
      | [source] =>
        if options.has "t" then targetsOf options tree
        else if options.has "T" then
          .error ("missing destination file operand after ".toList ++ quoted source, true)
        else .ok [(source, "./".toList ++ lastName source)]
      | [source, target] =>
        if options.has "t" || (isTarget target && !options.has "T") then targetsOf options tree
        else .ok [(source, target)]
      | _ => targetsOf options tree
    match pairs with
    | .error (complaint, true) => call.misused 1 complaint
    | .error (complaint, false) => call.refuse 1 complaint
    | .ok pairs => call.altering do
      for (source, target) in pairs do
        linkOne call options source target

/-- Make one further name of a file. -/
def linkPlainly (call : Call) : Tool :=
  call.withOptions ⟨"", [], [], false⟩ 1 fun options =>
    call.withAtMost 2 2 options <| call.altering do
      let source := options.operands.getD 0 []
      let target := options.operands.getD 1 []
      let tree ← files
      let result := do
        let (place, entry) ← tree.findSelf (pathOf source)
        if entry.isFolder then throw FileError.notPermitted
        let there ← tree.locate false (pathOf target)
        if (tree.lookup there).isSome then throw .exists
        return (tree.put there entry).withDetail there (tree.detail place)
      let _ ← attempt call.name ("cannot create link ".toList ++ Quoting.always target ++
        " to ".toList ++ Quoting.always source) result

/-- Take one name of a file away. -/
def unlinkPlainly (call : Call) : Tool :=
  call.withOptions ⟨"", [], [], false⟩ 1 fun options =>
    call.withAtMost 1 1 options <| call.altering do
      let path := options.operands.getD 0 []
      let _ ← attempt call.name ("cannot unlink ".toList ++ Quoting.always path)
        ((← files).removeFile (pathOf path))

/-! ## Sizes and new names -/

/-- A size that files get: a sign for how it refers to the old one, and a number. -/
def sizeRequest? (text : Octets) : Option (Char × Nat) :=
  let (sign, rest) := match text with
    | first :: rest => if "+-<>/%".toList.contains first then (first, rest) else ('=', text)
    | [] => ('=', [])
  (if rest.head?.any Char.isDigit then scaled rest else none).map (sign, ·)
where
  /-- A number with the letter of a unit. -/
  scaled (text : Octets) : Option Nat :=
    let digits := text.takeWhile Char.isDigit
    let unit? := match text.drop digits.length with
      | [] => some 1
      | letter :: rest =>
        let base? := match rest with
          | [] => some 1024
          | ['i', 'B'] => some 1024
          | ['B'] => some 1000
          | _ => none
        let grade? := if letter = 'k' then some 0 else if letter = 'm' then some 1
          else "KMGTPEZY".toList.findIdx? (· = letter)
        match base?, grade? with
        | some base, some grade => some (Nat.pow base (grade + 1))
        | _, _ => none
    match Integer.natural? 10 digits, unit? with
    | some value, some unit => some (value * unit)
    | _, _ => none

/-- Give files another size. -/
def resize (call : Call) : Tool :=
  let table : OptionTable := ⟨"cor:s:", [("no-create", 'c'), ("io-blocks", 'o'), ("reference", 'r'),
    ("size", 's')], [], false⟩
  call.withOptions table 1 fun options =>
    let tree := call.facts.files
    let request := (options.value? "s").map fun text => (text, sizeRequest? text)
    let reference := (options.value? "r").map fun path => (path, tree.find (pathOf path))
    match request, reference with
    | none, none => call.misused 1 "you must specify either '--size' or '--reference'".toList
    | some (text, none), _ => call.refuse 1 ("Invalid number: ".toList ++ Quoting.always text)
    | some (_, some ('=', _)), some _ =>
      call.misused 1 "you must specify a relative '--size' with '--reference'".toList
    | _, some (path, .error error) =>
      call.refuse 1 ("cannot stat ".toList ++ Quoting.always path ++ s!": {error.reason}".toList)
    | request, reference =>
      if options.operands.isEmpty then call.misused 1 "missing file operand".toList
      else call.altering do
        for path in options.operands do
          let tree ← files
          let old := (tree.read (pathOf path)).toOption.getD []
          let base := match reference with
            | some (_, .ok (_, .file content)) => content.length
            | some _ => 4096
            | none => old.length
          let size := match request.bind Prod.snd with
            | none => base
            | some ('+', value) => base + value
            | some ('-', value) => base - value
            | some ('<', value) => min base value
            | some ('>', value) => max base value
            | some ('/', value) => if value = 0 then base else base / value * value
            | some ('%', value) => if value = 0 then base else (base + value - 1) / value * value
            | some (_, value) => value
          let isMissing := tree.find (pathOf path) matches .error .notFound
          if !(options.has "c" && isMissing) then
            let content := old.take size ++ List.replicate (size - old.length) 0
            let result := do
              match tree.find (pathOf path) with
              | .ok (_, .folder) => throw FileError.isDirectory
              | _ => tree.write (pathOf path) content
            let _ ← attempt call.name ("cannot open ".toList ++ Quoting.always path ++
              " for writing".toList) result

/-- The first of some names that is free, made of marks filled with letters. -/
def freeName (tree : FileTree) (before behind : Octets) (marks : Nat) : Octets :=
  let letters := "abcdefghijklmnopqrstuvwxyzABCDEFGHIJKLMNOPQRSTUVWXYZ0123456789".toList.toArray
  let name (number : Nat) : Octets :=
    let digits := (List.range marks).map fun place =>
      letters.getD ((number * 7919 / Nat.pow 62 place + 13 * place + 5) % 62) 'a'
    before ++ digits ++ behind
  let tries := (List.range 100).map fun index =>
    name (index + tree.entries.length + tree.clock.natAbs / 1000)
  (tries.find? fun path => (tree.findSelf (pathOf path)).toOption.isNone).getD (name 0)

/-- Make a file or a folder with a name that no other one has. -/
def makeTemporary (call : Call) : Tool :=
  let table : OptionTable := ⟨"dp:qtuV", [("directory", 'd'), ("dry-run", 'u'), ("quiet", 'q')],
    ["suffix:", "tmpdir::"], false⟩
  call.withOptions table 1 fun options =>
    match options.operands with
    | _ :: _ :: _ => call.misused 1 "too many templates".toList
    | operands =>
      let isDefault := operands.isEmpty
      let shown := operands.headD "tmp.XXXXXXXXXX".toList
      let suffix? := options.value? "suffix"
      let endMark := (shown.reverse.dropWhile (· ≠ 'X')).reverse
      let behind := suffix?.getD (shown.drop endMark.length)
      let stem := match suffix? with
        | some _ => shown
        | none => endMark
      let marks := (stem.reverse.takeWhile (· = 'X')).length
      let usual := (call.environment.lookup "TMPDIR").getD "/tmp".toList
      let folder? := if options.hasAny ["p", "tmpdir"] then
          let given := ((options.value? "p").or (options.value? "tmpdir")).getD []
          some (if given.isEmpty then usual else given)
        else if isDefault || options.has "t" then some usual
        else none
      if suffix?.isSome && shown.getLast? ≠ some 'X' then
        call.refuse 1 ("with --suffix, template ".toList ++ Quoting.always shown ++
          " must end in X".toList)
      else if behind.contains '/' then
        call.refuse 1 ("invalid suffix ".toList ++ Quoting.always behind ++
          ", contains directory separator".toList)
      else if marks < 3 then
        call.refuse 1 ("too few X's in template ".toList ++ Quoting.always (shown ++ suffix?.getD []))
      else if folder?.isSome && shown.head? = some '/' then
        call.refuse 1 ("invalid template, ".toList ++ Quoting.always shown ++
          (if options.has "t" then "; with -t, it may not be absolute"
            else "; with --tmpdir, it may not be absolute").toList)
      else call.altering do
        let tree ← files
        let start := stem.take (stem.length - marks)
        let before := match folder? with
          | some folder => inside folder start
          | none => start
        let path := freeName tree before behind marks
        let template := match folder? with
          | some folder => inside folder (stem ++ behind)
          | none => stem ++ behind
        let wording := (if options.has "d" then "failed to create directory via template "
          else "failed to create file via template ").toList ++ Quoting.always template
        let result := if options.has "u" then .ok tree
          else if options.has "d" then do
            let made ← tree.makeFolder (pathOf path)
            let (place, _) ← made.find (pathOf path)
            return made.setMode place 0o700
          else do
            let made ← tree.write (pathOf path) []
            let (place, _) ← made.find (pathOf path)
            return made.setMode place 0o600
        match result with
        | .ok made =>
          setFiles made
          report path
        | .error error =>
          if options.has "q" then modify fun change => { change with status := 1 }
          else complain call.name (wording ++ s!": {error.reason}".toList)

/-- Copy files and give them modes, or make folders. -/
def install (call : Call) : Tool :=
  let table : OptionTable := ⟨"bcCdDg:m:o:psS:t:Tv", [("directory", 'd'), ("group", 'g'), ("mode", 'm'),
    ("owner", 'o'), ("preserve-timestamps", 'p'), ("suffix", 'S'), ("target-directory", 't'),
    ("no-target-directory", 'T'), ("verbose", 'v')], ["backup::", "strip", "compare"], false⟩
  call.withOptions table 1 fun options =>
    let mode? := match options.value? "m" with
      | none => some 0o755
      | some text => Mode.changed? 0 (options.has "d") text 0
    match mode? with
    | none =>
      call.refuse 1 ("invalid mode ".toList ++ Quoting.always ((options.value? "m").getD []))
    | some mode =>
      if options.has "d" then
        if options.operands.isEmpty then call.misused 1 "missing file operand".toList
        else call.altering do
          for path in options.operands do
            let tree ← files
            let start := if path.head? = some '/' then [""] else []
            let names := start ++ (pathOf path).segments.filter (· ≠ "")
            let result := do
              let made ← tree.makeFolders names
              let (place, _) ← made.find (pathOf path)
              return made.setMode place mode
            let _ ← attempt call.name ("cannot create directory ".toList ++ Quoting.always path) result
      else
        let options' := { options with flags := options.flags.filter fun (key, _) => key ≠ "D" }
        let tree := call.facts.files
        let tree := if options.has "D" then
            let target := options.operands.getLastD []
            let folder := folderName target
            let start := if folder.head? = some '/' then [""] else []
            (tree.makeFolders (start ++ (pathOf folder).segments.filter (· ≠ ""))).toOption.getD tree
          else tree
        match targetsOf options' tree with
        | .error (complaint, true) => call.misused 1 complaint
        | .error (complaint, false) => call.refuse 1 complaint
        | .ok pairs => call.altering do
          if options.has "D" then setFiles tree
          for (source, target) in pairs do
            if (← files).isFolder (pathOf source) then
              complain call.name ("omitting directory ".toList ++ Quoting.always source)
            else
              match ← copyOne call options source target [] with
              | some place => setFiles ((← files).setMode place mode)
              | none => pure ()

end Call

end CorpusJudge
