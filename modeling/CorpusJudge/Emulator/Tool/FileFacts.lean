import CorpusJudge.Emulator.Shell.Condition
import CorpusJudge.Emulator.Tool.FileChanges
import CorpusJudge.Emulator.Tool.Listing

/-!
# Facts about files

Tools that tell what files are, where paths lead, how much room files take, and whether conditions
hold.
-/

namespace CorpusJudge

/-! ## Conditions -/

namespace Checking

/-- A reader of conditions.  Its state is the words that are left; a failure is a complaint. -/
abbrev Reader (α : Type) := StateT (List Octets) (Except Octets) α

/-- The names of conditions with two operands. -/
def binaryNames : List String :=
  ["=", "==", "!=", "<", ">", "-eq", "-ne", "-lt", "-le", "-gt", "-ge", "-nt", "-ot", "-ef"]

/-- Whether a word is a condition with two operands. -/
def isBinary (word : Octets) : Bool := binaryNames.contains (String.ofList word)

/-- Whether a word may be a condition with one operand. -/
def isUnary (word : Octets) : Bool :=
  match word with
  | ['-', _] => true
  | _ => false

/-- Complain that a word is missing behind the last one. -/
def lacking {α : Type} (last : Octets) : Reader α :=
  throw ("missing argument after ".toList ++ quoted last)

/-- The next word. -/
def next (last : Octets) : Reader Octets := do
  match ← get with
  | [] => lacking last
  | word :: rest =>
    set rest
    return word

/-- The truth of a condition with one operand. -/
def unary (tree : FileTree) (last : Octets) : Reader Bool := do
  let name ← next last
  let known := "bcdefghkLprsStuwxOGzn".toList
  match name with
  | ['-', letter] =>
    if !known.contains letter && letter ≠ 'N' then
      throw (quoted name ++ ": unary operator expected".toList)
    let operand ← next last
    if letter = 't' then
      match Integer.signed? 10 operand with
      | some _ => return false
      | none => throw ("invalid integer ".toList ++ quoted operand)
    else if letter = 'N' then return true
    else
      match Shell.Condition.holdsForOne tree (String.ofList name) operand with
      | .ok truth => return truth
      | .error _ => throw ("invalid integer ".toList ++ quoted operand)
  | _ => throw (quoted name ++ ": unary operator expected".toList)

/-- The truth of a condition with two operands. -/
def binary (tree : FileTree) (last : Octets) : Reader Bool := do
  let left ← next last
  let name := String.ofList (← next last)
  let right ← next last
  let number (word : Octets) : Except Octets Int :=
    let isSpace (character : Char) : Bool := character = ' ' || character = '\t'
    let core := ((word.dropWhile isSpace).reverse.dropWhile isSpace).reverse
    match Integer.signed? 10 core with
    | some value => .ok value
    | none => .error ("invalid integer ".toList ++ quoted word)
  if ["-eq", "-ne", "-lt", "-le", "-gt", "-ge"].contains name then
    let first ← number left
    let second ← number right
    return match name with
      | "-eq" => first == second
      | "-ne" => first != second
      | "-lt" => first < second
      | "-le" => first ≤ second
      | "-gt" => first > second
      | _ => first ≥ second
  else
    let exist (word : Octets) : Bool := (tree.find (Shell.pathOf word)).toOption.isSome
    match name with
    | "==" => return left == right
    | "-nt" =>
      if exist left && !exist right then return true
    | "-ot" =>
      if !exist left && exist right then return true
    | "<" => return !Octets.atMost right left
    | ">" => return !Octets.atMost left right
    | _ => pure ()
    match Shell.Condition.holdsForTwo tree name left right with
    | .ok truth => return truth
    | .error _ => return false

mutual

/-- The truth of an alternative of conditions. -/
def alternatives (tree : FileTree) (last : Octets) (sofar : Bool) : Nat → Reader Bool
  | 0 => return sofar
  | fuel + 1 => do
    let truth ← conjunctions tree last true fuel
    match ← get with
    | ['-', 'o'] :: rest =>
      set rest
      alternatives tree last (sofar || truth) fuel
    | _ => return sofar || truth
termination_by structural fuel => fuel

/-- The truth of conditions together. -/
def conjunctions (tree : FileTree) (last : Octets) (sofar : Bool) : Nat → Reader Bool
  | 0 => return sofar
  | fuel + 1 => do
    let truth ← term tree last fuel
    match ← get with
    | ['-', 'a'] :: rest =>
      set rest
      conjunctions tree last (sofar && truth) fuel
    | _ => return sofar && truth
termination_by structural fuel => fuel

/-- The truth of one condition. -/
def term (tree : FileTree) (last : Octets) : Nat → Reader Bool
  | 0 => return false
  | fuel + 1 => do
    match ← get with
    | [] => lacking last
    | ['!'] :: rest =>
      if rest.isEmpty then lacking last
      set rest
      return !(← term tree last fuel)
    | ['('] :: rest =>
      if rest.isEmpty then lacking last
      set rest
      let inner := rest.takeWhile (· ≠ [')'])
      let size := if inner.length ≤ 4 && inner.length < rest.length then inner.length else rest.length
      let truth ← bySize tree last size fuel
      match ← get with
      | [')'] :: rest =>
        set rest
        return truth
      | [] => throw (quoted [')'] ++ " expected".toList)
      | word :: _ => throw (quoted [')'] ++ " expected, found ".toList ++ quoted word)
    | first :: second :: _ :: _ =>
      if isBinary second then binary tree last
      else if isUnary first then unary tree last
      else return !(← next last).isEmpty
    | first :: _ =>
      if isUnary first then unary tree last
      else return !(← next last).isEmpty
termination_by structural fuel => fuel

/-- The truth of so many words. -/
def bySize (tree : FileTree) (last : Octets) (size : Nat) : Nat → Reader Bool
  | 0 => return false
  | fuel + 1 => do
    match size, ← get with
    | 1, _ => return !(← next last).isEmpty
    | 2, ['!'] :: rest =>
      set rest
      return !(← bySize tree last 1 fuel)
    | 2, first :: _ => if isUnary first then unary tree last else lacking last
    | 3, first :: second :: third :: rest =>
      if isBinary second then binary tree last
      else if first = ['!'] then
        set (second :: third :: rest)
        return !(← bySize tree last 2 fuel)
      else if first = ['('] && third = [')'] then
        set rest
        return !second.isEmpty
      else if second = ['-', 'a'] || second = ['-', 'o'] then alternatives tree last false fuel
      else throw (quoted second ++ ": binary operator expected".toList)
    | 4, ['!'] :: rest =>
      set rest
      return !(← bySize tree last 3 fuel)
    | 4, ['('] :: second :: third :: [')'] :: rest =>
      set (second :: third :: [')'] :: rest)
      let truth ← bySize tree last 2 fuel
      modify fun words => words.drop 1
      return truth
    | _, _ => alternatives tree last false fuel
termination_by structural fuel => fuel

end

/-- The truth of all words. -/
def holds (tree : FileTree) (words : List Octets) : Except Octets Bool :=
  match words.getLast? with
  | none => .ok false
  | some last =>
    match (bySize tree last words.length (4 * words.length + 8)).run words with
    | .error complaint => .error complaint
    | .ok (truth, []) => .ok truth
    | .ok (_, extra :: _) => .error ("extra argument ".toList ++ quoted extra)

end Checking

namespace Call

open Shell (pathOf nameOctets)

/-- Show a condition by the status.  It may have to stand in brackets, of which the name of the tool
is the first. -/
def check (isBracketed : Bool) (call : Call) : Tool :=
  let words? := if isBracketed then
      match call.arguments.reverse with
      | [']'] :: rest => some rest.reverse
      | _ => none
    else some call.arguments
  match words? with
  | none => call.refuse 2 "missing ']'".toList
  | some words =>
    match Checking.holds call.facts.files words with
    | .ok truth => call.jobs [.finish (if truth then 0 else 1)]
    | .error complaint => call.refuse 2 complaint

/-! ## What files are -/

/-- The number that stands for a mode and a kind of entry together. -/
def fullMode (entry : Entry) (mode : Mode) : Nat :=
  mode + match entry with
    | .folder => 0o40000
    | .link _ => 0o120000
    | .device _ => 0o20000
    | _ => 0o100000

/-- What one letter of a format stands for. -/
def statField (tree : FileTree) (zone : TimeZone) (name : Octets) (place : Location) (entry : Entry)
    (letter : Char) : Octets :=
  let detail := tree.detail place
  let number (value : Nat) : Octets := (toString value).toList
  let hex (value : Nat) : Octets := Nat.toDigits 16 value
  let time := clockTime zone detail.changed
  let blocks := FileTree.blocksOf entry * 2
  match letter with
  | 'a' => Mode.octal 1 detail.mode
  | 'A' => FileTree.kindLetter entry :: Mode.text detail.mode
  | 'b' => number blocks
  | 'B' => number 512
  | 'd' => number 64
  | 'D' => hex 64
  | 'f' => hex (fullMode entry detail.mode)
  | 'F' => (kindOf entry).toList
  | 'g' => ['0']
  | 'G' => "root".toList
  | 'h' => number (tree.linkCount place entry)
  | 'i' => number (1000 + place.length)
  | 'm' => ['/']
  | 'n' => name
  | 'N' => match entry with
    | .link target => Quoting.always name ++ " -> ".toList ++ Quoting.always (nameOctets target)
    | _ => Quoting.always name
  | 'o' => number 4096
  | 's' => number (FileTree.sizeOf entry)
  | 't' => if entry matches .device _ then ['1'] else ['0']
  | 'T' => if entry matches .device _ then ['3'] else ['0']
  | 'u' => ['0']
  | 'U' => "root".toList
  | 'w' => time.text "%Y-%m-%d %H:%M:%S.%N %z".toList
  | 'W' => (toString time.seconds).toList
  | 'x' => time.text "%Y-%m-%d %H:%M:%S.%N %z".toList
  | 'y' => time.text "%Y-%m-%d %H:%M:%S.%N %z".toList
  | 'z' => time.text "%Y-%m-%d %H:%M:%S.%N %z".toList
  | 'X' => (toString time.seconds).toList
  | 'Y' => (toString time.seconds).toList
  | 'Z' => (toString time.seconds).toList
  | _ => ['?']

/-- A format with what its letters stand for; escapes are resolved if that is wanted. -/
def statText (field : Char → Octets) (isEscaped : Bool) : Nat → Octets → Octets
  | 0, _ => []
  | fuel + 1, text =>
    match text with
    | '%' :: '%' :: rest => '%' :: statText field isEscaped fuel rest
    | ['%'] => ['%']
    | '%' :: rest =>
      let flags := rest.takeWhile "-+ #0'".toList.contains
      let rest := rest.drop flags.length
      let digits := rest.takeWhile Char.isDigit
      let rest := rest.drop digits.length
      let (precision, rest) := match rest with
        | '.' :: more =>
          let digits := more.takeWhile Char.isDigit
          (Integer.natural? 10 digits, more.drop digits.length)
        | _ => (none, rest)
      match rest with
      | [] => ['%']
      | letter :: rest =>
        let value := field letter
        let value := match precision with
          | some size => if letter = 'n' || letter = 'N' then value.take size else value
          | none => value
        let value := if flags.contains '#' && letter = 'a' && value ≠ ['0'] then '0' :: value else value
        let width := (Integer.natural? 10 digits).getD 0
        let fill := if flags.contains '0' && !flags.contains '-' then '0' else ' '
        let blanks := List.replicate (width - value.length) fill
        (if flags.contains '-' then value ++ blanks else blanks ++ value) ++
          statText field isEscaped fuel rest
    | '\\' :: letter :: rest =>
      if !isEscaped then '\\' :: statText field isEscaped fuel (letter :: rest)
      else
        let digits := ((letter :: rest).take 3).takeWhile fun digit => '0' ≤ digit && digit ≤ '7'
        match Integer.natural? 8 digits with
        | some value =>
          Char.ofNat (value % 256) :: statText field isEscaped fuel ((letter :: rest).drop digits.length)
        | none =>
          let byte := match letter with
            | 'a' => ['\x07']
            | 'b' => ['\x08']
            | 'e' => ['\x1b']
            | 'f' => ['\x0c']
            | 'n' => ['\n']
            | 'r' => ['\r']
            | 't' => ['\t']
            | 'v' => ['\x0b']
            | '"' => ['"']
            | '\\' => ['\\']
            | other => ['\\', other]
          byte ++ statText field isEscaped fuel rest
    | character :: rest => character :: statText field isEscaped fuel rest
    | [] => []

/-- Everything that is known of a file in some lines. -/
def statReport : Octets :=
  ("  File: %N\n  Size: %-10s\tBlocks: %-10b IO Block: %-6o %F\nDevice: %d\tInode: %-11i Links: %h\n" ++
    "Access: (%04a/%10A)  Uid: (%5u/%8U)   Gid: (%5g/%8G)\nAccess: %x\nModify: %y\nChange: %z\n" ++
    " Birth: %w\n").toList

/-- Tell what files are. -/
def describe (call : Call) : Tool :=
  let table : OptionTable := ⟨"c:fLt", [("format", 'c'), ("file-system", 'f'), ("dereference", 'L'),
    ("terse", 't')], ["printf:", "cached:"], false⟩
  call.withOptions table 1 fun options =>
    call.withOperands options <| call.altering do
      for path in options.operands do
        let tree ← Altering.files
        let found := if options.has "L" || options.has "f" then tree.find (pathOf path)
          else if path = ['-'] then (tree.find ⟨"/dev/null"⟩)
          else tree.findSelf (pathOf path)
        match found with
        | .error error =>
          Altering.complain call.name <|
            (if options.has "f" then "cannot read file system information for "
              else "cannot statx ").toList ++ Quoting.always path ++ s!": {error.reason}".toList
        | .ok (place, entry) =>
          let field := if options.has "f" then fun letter =>
              match letter with
              | 'T' => "overlayfs".toList
              | 'n' => path
              | _ => ['0']
            else statField tree (call.zone false) path place entry
          let text := match options.last? ["printf", "c", "t"] with
            | some "printf" =>
              let format := (options.value? "printf").getD []
              statText field true (format.length + 1) format
            | some "c" =>
              let format := (options.value? "c").getD []
              statText field false (format.length + 1) format ++ ['\n']
            | some _ =>
              statText field false 100 "%n %s %b %f %u %g %D %i %h %t %T %X %Y %Z %W %o\n".toList
            | none => statText field false (statReport.length + 1) statReport
          modify (·.say 1 (Bytes.ofOctets text))

/-! ## Where paths lead -/

/-- The path of a place. -/
def placeText (place : Location) : Octets :=
  nameOctets ("/" ++ "/".intercalate place)

/-- Follow a path as far as there is something, and take the rest as it is. -/
def leniently (tree : FileTree) : Nat → Location → List String → Location
  | 0, here, names => here ++ names
  | fuel + 1, here, names =>
    match names with
    | [] => here
    | "" :: rest => leniently tree fuel here rest
    | "." :: rest => leniently tree fuel here rest
    | ".." :: rest => leniently tree fuel here.dropLast rest
    | name :: rest =>
      let place := here ++ [name]
      match tree.lookup place with
      | some (.link target) =>
        let start := if (Path.mk target).isAbsolute then [] else here
        leniently tree fuel start ((Path.mk target).segments ++ rest)
      | _ => leniently tree fuel place rest

/-- The place that a path leads to, where all of it has to be there, all but the last name, or
nothing. -/
def resolved (tree : FileTree) (needs : String) (path : Octets) : Except FileError Location :=
  let path' := pathOf path
  match needs with
  | "all" => (tree.find path').map Prod.fst
  | "none" =>
    if path.isEmpty then .error .notFound
    else .ok (leniently tree 400 (if path'.isAbsolute then [] else tree.base) path'.segments)
  | _ =>
    match tree.locate true path' with
    | .ok place => .ok place
    | .error error =>
      if endsInSlash path && error = .notFound then tree.locate true (pathOf (withoutSlashes path))
      else .error error

/-- Show where links point. -/
def readLinks (call : Call) : Tool :=
  let table : OptionTable := ⟨"efmnqsvz", [("canonicalize", 'f'), ("canonicalize-existing", 'e'),
    ("canonicalize-missing", 'm'), ("no-newline", 'n'), ("quiet", 'q'), ("silent", 's'),
    ("verbose", 'v'), ("zero", 'z')], [], false⟩
  call.withOptions table 1 fun options =>
    call.withOperands options <| call.altering do
      let mark := if options.has "z" then ['\x00'] else ['\n']
      let mark := if options.has "n" && options.operands.length = 1 then [] else mark
      for path in options.operands do
        let tree ← Altering.files
        let result : Except FileError Octets := match options.last? ["e", "f", "m"] with
          | some "e" => (resolved tree "all" path).map placeText
          | some "f" => (resolved tree "folder" path).map placeText
          | some _ => (resolved tree "none" path).map placeText
          | none => match tree.findSelf (pathOf path) with
            | .ok (_, .link target) => .ok (nameOctets target)
            | .ok _ => .error .invalidArgument
            | .error error => .error error
        match result with
        | .ok text =>
          modify (·.say 1 (Bytes.ofOctets (text ++ mark)))
        | .error error =>
          if options.has "v" then
            Altering.complain call.name (Quoting.asName path ++ s!": {error.reason}".toList)
          else modify fun change => { change with status := 1 }

/-- Show where paths lead. -/
def realPaths (call : Call) : Tool :=
  let table : OptionTable := ⟨"eELmPqsz", [("canonicalize-existing", 'e'), ("canonicalize-missing", 'm'),
    ("logical", 'L'), ("physical", 'P'), ("quiet", 'q'), ("strip", 's'), ("no-symlinks", 's'),
    ("zero", 'z')], ["relative-to:", "relative-base:"], false⟩
  call.withOptions table 1 fun options =>
    call.withOperands options <|
      let needs := match options.last? ["e", "m", "E"] with
        | some "e" => "all"
        | some "m" => "none"
        | _ => "folder"
      let tree := call.facts.files
      let plain (path : Octets) : Location :=
        let path' := pathOf path
        (path'.segments).foldl (fun here name =>
          if name = "" || name = "." then here
          else if name = ".." then here.dropLast
          else here ++ [name]) (if path'.isAbsolute then [] else tree.base)
      let find (tree : FileTree) (path : Octets) : Except FileError Location :=
        if path.isEmpty then .error .notFound
        else if options.has "s" then
          let place := plain path
          if needs = "all" && (tree.lookup place).isNone then .error .notFound else .ok place
        else if options.has "L" then
          (resolved tree needs (placeText (plain path)))
        else resolved tree needs path
      let base := (options.value? "relative-base").map (find tree)
      let start := ((options.value? "relative-to").or (options.value? "relative-base")).map (find tree)
      call.altering do
        let mark := if options.has "z" then ['\x00'] else ['\n']
        for path in options.operands do
          match find (← Altering.files) path with
          | .error error =>
            if options.has "q" then modify fun change => { change with status := 1 }
            else Altering.complain call.name (
              (if path.isEmpty then quoted path else Quoting.asName path) ++
                s!": {error.reason}".toList)
          | .ok place =>
            let isInside := match base with
              | some (.ok base) => base.isPrefixOf place
              | _ => true
            let text := match start with
              | some (.ok start) => if isInside then wayBetween start place else placeText place
              | _ => placeText place
            modify (·.say 1 (Bytes.ofOctets (text ++ mark)))

/-! ## How much room files take -/

/-- How much room an entry takes. -/
def usage (isApparent : Bool) (entry : Entry) : Nat :=
  if isApparent then (if entry.isFolder then 0 else FileTree.sizeOf entry)
  else FileTree.blocksOf entry * 1024

/-- Show how much room files take. -/
def diskUsage (call : Call) : Tool :=
  let table : OptionTable := ⟨"0abB:cd:DhHklLmPsSt:xX:", [("null", '0'), ("all", 'a'), ("bytes", 'b'),
    ("block-size", 'B'), ("total", 'c'), ("max-depth", 'd'), ("dereference-args", 'D'),
    ("human-readable", 'h'), ("count-links", 'l'), ("dereference", 'L'), ("no-dereference", 'P'),
    ("summarize", 's'), ("separate-dirs", 'S'), ("threshold", 't'), ("one-file-system", 'x')],
    ["apparent-size", "exclude:", "si", "files0-from:", "inodes", "time::", "time-style:"], false⟩
  call.withOptions table 1 fun options =>
    let isApparent := options.hasAny ["b", "apparent-size"]
    let mark := if options.has "0" then ['\x00'] else ['\n']
    let shown (size : Nat) : Octets :=
      match options.last? ["h", "si", "b", "k", "m", "B"] with
      | some "h" => roundedSize 1024 size
      | some "si" => roundedSize 1000 size
      | some "b" => (toString size).toList
      | some "m" => (toString ((size + 1048575) / 1048576)).toList
      | some "B" =>
        let unit := match (options.value? "B").bind sizeRequest? with
          | some (_, value) => max value 1
          | none => 1024
        (toString ((size + unit - 1) / unit)).toList
      | _ => (toString ((size + 1023) / 1024)).toList
    let depthLimit := if options.has "s" then some 0
      else (options.value? "d").bind (Integer.natural? 10)
    let operands := if options.operands.isEmpty then [['.']] else options.operands
    call.altering do
      let mut total := 0
      for path in operands do
        let tree ← Altering.files
        match tree.findSelf (pathOf path) with
        | .error error =>
          Altering.complain call.name ("cannot access ".toList ++ Quoting.always path ++
            s!": {error.reason}".toList)
        | .ok (place, entry) =>
          let (size, rows) := rowsBelow tree options isApparent (tree.entries.length + 1) path place entry 0
            depthLimit
          total := total + size
          modify (·.say 1 (Bytes.ofOctets
            (rows.flatMap fun (size, name) => shown size ++ '\t' :: name ++ mark)))
      if options.has "c" then
        modify (·.say 1 (Bytes.ofOctets (shown total ++ "\ttotal".toList ++ mark)))
where
  /-- How much room an entry takes with everything below it, and the rows that are shown. -/
  rowsBelow (tree : FileTree) (options : Options) (isApparent : Bool) :
      Nat → Octets → Location → Entry → Nat → Option Nat → Nat × List (Nat × Octets)
    | 0, _, _, _, _, _ => (0, [])
    | fuel + 1, path, place, entry, depth, limit =>
      let own := usage isApparent entry
      let children := if entry.isFolder then tree.children place else []
      let below := children.map fun (name, child) =>
        (child, rowsBelow tree options isApparent fuel (inside path (nameOctets name)) (place ++ [name])
          child (depth + 1) limit)
      let size := own + (below.map fun (_, size, _) => size).foldl (· + ·) 0
      let counted := if options.has "S" then
          own + (below.map fun (child, size, _) => if child.isFolder then 0 else size).foldl (· + ·) 0
        else size
      let rows := below.flatMap fun (_, _, rows) => rows
      let isShown := (entry.isFolder || options.has "a" || depth = 0) && limit.all (depth ≤ ·)
      (size, rows ++ if isShown then [(counted, path)] else [])

end Call

end CorpusJudge
