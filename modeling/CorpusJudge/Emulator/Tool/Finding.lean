import CorpusJudge.Emulator.Tool.FileFacts

/-!
# Finding files

Everything below some paths is looked at; an expression tells what holds of it and what is done with
it.  A part of an expression may start a program and hold if that succeeds, so what comes behind it
is done once the program has ended.
-/

namespace CorpusJudge

/-- A number that a count is compared with: it has to be greater, less, or the same. -/
structure Measure where
  order : Ordering
  value : Nat

/-- Whether a count is as wanted. -/
def Measure.admits (measure : Measure) (count : Int) : Bool :=
  compare count (Int.ofNat measure.value) == measure.order

/-- What has to hold of a file, or is done with it. -/
inductive FindAct where
  | name (pattern : Octets) (foldsCase : Bool)
  | path (pattern : Octets) (foldsCase : Bool)
  | regex (regex : Regex) (foldsCase : Bool)
  | target (pattern : Octets) (foldsCase : Bool)
  | kind (letters : List Char) (followed : Bool)
  | size (measure : Measure) (unit : Nat)
  | empty
  | changedAfter (micros : Int)
  | age (measure : Measure) (unit : Nat)
  | mode (mode : Mode) (manner : Char)
  | links (measure : Measure)
  | owned (isKnown : Bool)
  | place (place : Option Location)
  | executable
  | constant (truth : Bool)
  | show (mark : Char)
  | showFormat (format : Octets)
  | showAll
  | showTo (descriptor : Nat)
  | run (command : List Octets) (isInside : Bool)
  | runTogether (number : Nat) (command : List Octets)
  | ask (command : List Octets)
  | delete
  | prune
  | quit

/-- An expression about files. -/
inductive FindExpr where
  | act (act : FindAct)
  | negation (inner : FindExpr)
  | both (first second : FindExpr)
  | either (first second : FindExpr)
  | list (first second : FindExpr)

/-- What was found out about an expression: the files that it writes to, and whether it does
something or only tells. -/
structure FindPlan where
  isDeep : Bool := false
  isFirst : Bool := false
  least : Nat := 0
  most : Option Nat := none
  follows : Bool := false
  followsStart : Bool := false
  outputs : List (Octets × Nat) := []
  groups : Nat := 0
  acts : Bool := false

/-- A reader of expressions.  Its state is the words that are left and the plan so far. -/
abbrev FindReader (α : Type) := StateT (List Octets × FindPlan) (Except Octets) α

namespace FindReader

/-- The words that are left. -/
def words : FindReader (List Octets) := return (← get).1

/-- Have other words left. -/
def setWords (words : List Octets) : FindReader Unit := modify fun (_, plan) => (words, plan)

/-- Change the plan. -/
def note (change : FindPlan → FindPlan) : FindReader Unit :=
  modify fun (words, plan) => (words, change plan)

/-- The word behind an option. -/
def argument (name : Octets) : FindReader Octets := do
  match ← words with
  | word :: rest =>
    setWords rest
    return word
  | [] => throw ("missing argument to \x60".toList ++ name ++ ['\''])

/-- A number with a sign that tells how it is compared. -/
def measure (name text : Octets) : FindReader Measure := do
  let (order, digits) := match text with
    | '+' :: rest => (Ordering.gt, rest)
    | '-' :: rest => (Ordering.lt, rest)
    | rest => (Ordering.eq, rest)
  match Integer.natural? 10 digits with
  | some value => return ⟨order, value⟩
  | none =>
    throw ("invalid argument \x60".toList ++ text ++ "' to \x60".toList ++ name ++ ['\''])

/-- The words of a command up to its end; tells whether it is for many files together. -/
def command (name : Octets) (sofar : List Octets) : List Octets → FindReader (List Octets × Bool)
  | [] => throw ("missing argument to \x60".toList ++ name ++ ['\''])
  | [';'] :: rest => do
    setWords rest
    if sofar.isEmpty then throw ("missing argument to \x60".toList ++ name ++ ['\''])
    return (sofar.reverse, false)
  | ['+'] :: rest =>
    if sofar.head? = some ['\x7b', '\x7d'] then do
      setWords rest
      return (sofar.tail.reverse, true)
    else command name (['+'] :: sofar) rest
  | word :: rest => command name (word :: sofar) rest

/-- What one word with its arguments means. -/
def act (tree : FileTree) (now : Int) (name : Octets) : FindReader FindExpr := do
  let one (act : FindAct) : FindReader FindExpr := return .act act
  let doing (act : FindAct) : FindReader FindExpr := do
    note fun plan => { plan with acts := true }
    return .act act
  let changedOf (path : Octets) : FindReader Int := do
    match tree.find (Shell.pathOf path) with
    | .ok (place, _) => return (tree.detail place).changed
    | .error error => throw (Quoting.always path ++ s!": {error.reason}".toList)
  let output (path : Octets) : FindReader Nat := do
    let (_, plan) ← get
    match plan.outputs.lookup path with
    | some number => return number
    | none =>
      let number := 130 + plan.outputs.length
      note fun plan => { plan with outputs := plan.outputs ++ [(path, number)] }
      return number
  match String.ofList name with
  | "-name" => one (.name (← argument name) false)
  | "-iname" => one (.name (← argument name) true)
  | "-path" => one (.path (← argument name) false)
  | "-wholename" => one (.path (← argument name) false)
  | "-ipath" => one (.path (← argument name) true)
  | "-iwholename" => one (.path (← argument name) true)
  | "-lname" => one (.target (← argument name) false)
  | "-ilname" => one (.target (← argument name) true)
  | "-regex" =>
    match Regex.ofText ⟨false, true⟩ (← argument name) with
    | .ok regex => one (.regex regex false)
    | .error fault => throw fault.message.toList
  | "-iregex" =>
    match Regex.ofText ⟨false, true⟩ (← argument name) with
    | .ok regex => one (.regex regex true)
    | .error fault => throw fault.message.toList
  | "-regextype" =>
    let _ ← argument name
    one (.constant true)
  | "-type" => kinds name false
  | "-xtype" => kinds name true
  | "-size" =>
    let text ← argument name
    let (digits, unit) := match text.getLast? with
      | some 'c' => (text.dropLast, 1)
      | some 'w' => (text.dropLast, 2)
      | some 'b' => (text.dropLast, 512)
      | some 'k' => (text.dropLast, 1024)
      | some 'M' => (text.dropLast, 1048576)
      | some 'G' => (text.dropLast, 1073741824)
      | _ => (text, 512)
    let digits' := if digits.head?.any fun sign => sign = '+' || sign = '-' then digits.tail else digits
    if (Integer.natural? 10 digits').isNone then
      throw ("Invalid argument \x60".toList ++ text ++ "' to -size".toList)
    one (.size (← measure name digits) unit)
  | "-empty" => one .empty
  | "-newer" => one (.changedAfter (← changedOf (← argument name)))
  | "-anewer" => one (.changedAfter (← changedOf (← argument name)))
  | "-cnewer" => one (.changedAfter (← changedOf (← argument name)))
  | "-mtime" => one (.age (← measure name (← argument name)) 86400)
  | "-atime" => one (.age (← measure name (← argument name)) 86400)
  | "-ctime" => one (.age (← measure name (← argument name)) 86400)
  | "-mmin" => one (.age (← measure name (← argument name)) 60)
  | "-amin" => one (.age (← measure name (← argument name)) 60)
  | "-cmin" => one (.age (← measure name (← argument name)) 60)
  | "-perm" =>
    let text ← argument name
    let (manner, body) := match text with
      | '-' :: rest => ('-', rest)
      | '/' :: rest => ('/', rest)
      | rest => ('=', rest)
    match Mode.changed? 0 false body 0 with
    | some mode => one (.mode mode manner)
    | none => throw ("invalid mode \x60".toList ++ text ++ ['\''])
  | "-links" => one (.links (← measure name (← argument name)))
  | "-user" =>
    let word ← argument name
    if word = "root".toList || word.all Char.isDigit then
      one (.owned (word = "root".toList || word = ['0']))
    else throw (Quoting.always word ++ " is not the name of a known user".toList)
  | "-group" =>
    let word ← argument name
    if word = "root".toList || word.all Char.isDigit then
      one (.owned (word = "root".toList || word = ['0']))
    else throw (Quoting.always word ++
      " is not the name of an existing group".toList)
  | "-uid" =>
    let measure ← measure name (← argument name)
    one (.owned (measure.admits 0))
  | "-gid" =>
    let measure ← measure name (← argument name)
    one (.owned (measure.admits 0))
  | "-nouser" => one (.constant false)
  | "-nogroup" => one (.constant false)
  | "-inum" =>
    let _ ← measure name (← argument name)
    one (.constant false)
  | "-samefile" =>
    let word ← argument name
    match tree.find (Shell.pathOf word) with
    | .ok (place, _) => one (.place (some place))
    | .error error => throw (Quoting.always word ++ s!": {error.reason}".toList)
  | "-readable" => one (.constant true)
  | "-writable" => one (.constant true)
  | "-executable" => one .executable
  | "-true" => one (.constant true)
  | "-false" => one (.constant false)
  | "-print" => doing (.show '\n')
  | "-print0" => doing (.show '\x00')
  | "-printf" => doing (.showFormat (← argument name))
  | "-fprint" =>
    let number ← output (← argument name)
    doing (.showTo number)
  | "-ls" => doing .showAll
  | "-delete" =>
    note fun plan => { plan with isDeep := true }
    doing .delete
  | "-prune" => one .prune
  | "-quit" => one .quit
  | "-exec" => run name false
  | "-execdir" => run name true
  | "-ok" =>
    let (command, _) ← command name [] (← words)
    doing (.ask command)
  | "-okdir" =>
    let (command, _) ← command name [] (← words)
    doing (.ask command)
  | "-depth" =>
    note fun plan => { plan with isDeep := true }
    one (.constant true)
  | "-d" =>
    note fun plan => { plan with isDeep := true }
    one (.constant true)
  | "-follow" =>
    note fun plan => { plan with follows := true, followsStart := true }
    one (.constant true)
  | "-maxdepth" =>
    let limit ← depth
    note fun plan => { plan with most := some limit }
    one (.constant true)
  | "-mindepth" =>
    let limit ← depth
    note fun plan => { plan with least := limit }
    one (.constant true)
  | "-daystart" => one (.constant true)
  | "-mount" => one (.constant true)
  | "-xdev" => one (.constant true)
  | "-noleaf" => one (.constant true)
  | "-ignore_readdir_race" => one (.constant true)
  | "-warn" => one (.constant true)
  | "-nowarn" => one (.constant true)
  | "-newermt" =>
    match readTime? (Call.clockTime {} now) (← argument name) with
    | some (seconds, nanos) => one (.changedAfter (seconds * 1000000 + Int.ofNat (nanos / 1000)))
    | none => throw "I cannot figure out how to interpret that as a date or time".toList
  | _ => throw ("unknown predicate \x60".toList ++ name ++ ['\''])
where
  /-- The kinds of entries that letters name. -/
  kinds (name : Octets) (followed : Bool) : FindReader FindExpr := do
    let text ← argument name
    let letters := text.filter (· ≠ ',')
    match letters.find? fun letter => !"bcdpflsD".toList.contains letter with
    | some letter =>
      throw (s!"Unknown argument to {String.ofList name}: ".toList ++ [letter])
    | none =>
      if letters.isEmpty then
        throw ("Arguments to ".toList ++ name ++
          " should contain at least one letter".toList)
      return .act (.kind letters followed)
  /-- A command for each file, or for many of them. -/
  run (name : Octets) (isInside : Bool) : FindReader FindExpr := do
    let (words, isTogether) ← command name [] (← words)
    note fun plan => { plan with acts := true }
    if isTogether then
      let (_, plan) ← get
      note fun plan => { plan with groups := plan.groups + 1 }
      return .act (.runTogether plan.groups words)
    else return .act (.run words isInside)
  /-- A depth. -/
  depth : FindReader Nat := do
    let name := "-maxdepth".toList
    let text ← argument name
    match Integer.natural? 10 text with
    | some value => return value
    | none =>
      throw ("Expected a positive decimal integer argument to ".toList ++ name ++ ", but got ".toList ++
        Quoting.always text)

mutual

/-- Expressions with commas between them. -/
def lists (tree : FileTree) (now : Int) : Nat → FindReader FindExpr
  | 0 => return .act (.constant true)
  | fuel + 1 => do
    let first ← alternatives tree now fuel
    match ← words with
    | [','] :: rest =>
      setWords rest
      if rest.isEmpty then throw "expected an expression after ','".toList
      return .list first (← lists tree now fuel)
    | _ => return first
termination_by structural fuel => fuel

/-- An alternative of expressions. -/
def alternatives (tree : FileTree) (now : Int) : Nat → FindReader FindExpr
  | 0 => return .act (.constant true)
  | fuel + 1 => do
    let first ← conjunctions tree now fuel
    match ← words with
    | word :: rest =>
      if word = "-o".toList || word = "-or".toList then
        setWords rest
        if rest.isEmpty then throw ("expected an expression after '".toList ++ word ++ ['\''])
        return .either first (← alternatives tree now fuel)
      else return first
    | [] => return first
termination_by structural fuel => fuel

/-- Expressions that all have to hold. -/
def conjunctions (tree : FileTree) (now : Int) : Nat → FindReader FindExpr
  | 0 => return .act (.constant true)
  | fuel + 1 => do
    let first ← term tree now fuel
    match ← words with
    | [] => return first
    | word :: rest =>
      if word = "-o".toList || word = "-or".toList || word = [','] || word = [')'] then return first
      else if word = "-a".toList || word = "-and".toList then
        setWords rest
        if rest.isEmpty then throw ("expected an expression after '".toList ++ word ++ ['\''])
        return .both first (← conjunctions tree now fuel)
      else return .both first (← conjunctions tree now fuel)
termination_by structural fuel => fuel

/-- One expression. -/
def term (tree : FileTree) (now : Int) : Nat → FindReader FindExpr
  | 0 => return .act (.constant true)
  | fuel + 1 => do
    match ← words with
    | [] => return .act (.constant true)
    | ['('] :: rest =>
      setWords rest
      if rest.head? = some [')'] then
        throw "invalid expression; empty parentheses are not allowed.".toList
      let inner ← lists tree now fuel
      match ← words with
      | [')'] :: rest =>
        setWords rest
        return inner
      | _ =>
        throw ("invalid expression; I was expecting to find a ')' somewhere " ++
          "but did not see one.").toList
    | word :: rest =>
      setWords rest
      if word = ['!'] || word = "-not".toList then
        if rest.isEmpty then throw ("expected an expression after '".toList ++ word ++ ['\''])
        return .negation (← term tree now fuel)
      else if word = [')'] then
        throw "invalid expression; you have too many ')'".toList
      else if word = "-o".toList || word = "-or".toList || word = "-a".toList || word = "-and".toList then
        throw ("invalid expression; you have used a binary operator '".toList ++ word ++
          "' with nothing before it.".toList)
      else if word.head? = some '-' then act tree now word
      else throw ("paths must precede expression: \x60".toList ++ word ++ ['\''])
termination_by structural fuel => fuel

end

end FindReader

/-- A file that is looked at: the path by which it was found, the path at the start of the search,
where it lies, and how deep. -/
structure FoundFile where
  path : Octets
  start : Octets
  place : Location
  entry : Entry
  depth : Nat

/-- What is still to be done in a search: look at a file, and perhaps at what is below it before or
after that. -/
inductive FindTask where
  | missing (path : Octets) (error : FileError)
  | visit (file : FoundFile)
  | below (file : FoundFile)
  | judge (file : FoundFile)

/-- How a search stands: files for commands that are run for many of them, and whether what is below
the file is left out, and whether the search is over. -/
structure FindState where
  gathered : List (Nat × List Octets × List Octets) := []
  isPruned : Bool := false
  isOver : Bool := false

namespace FoundFile

/-- The last name of a path. -/
def baseName (file : FoundFile) : Octets := Call.lastName file.path

/-- What an entry is where links are followed or not. -/
def seen (tree : FileTree) (file : FoundFile) (follows : Bool) : Location × Entry :=
  if follows then
    match tree.find ⟨"/" ++ "/".intercalate file.place⟩ with
    | .ok found => found
    | .error _ => (file.place, file.entry)
  else (file.place, file.entry)

/-- A file in a format. -/
def formatted (tree : FileTree) (file : FoundFile) : Nat → Octets → Octets
  | 0, _ => []
  | fuel + 1, text =>
    match text with
    | '%' :: '%' :: rest => '%' :: formatted tree file fuel rest
    | '%' :: rest =>
      let flags := rest.takeWhile "-+ #0".toList.contains
      let rest := rest.drop flags.length
      let digits := rest.takeWhile Char.isDigit
      let rest := rest.drop digits.length
      let pad (value : Octets) : Octets :=
        let width := (Integer.natural? 10 digits).getD 0
        let blanks := List.replicate (width - value.length) (if flags.contains '0' then '0' else ' ')
        if flags.contains '-' then value ++ blanks else blanks ++ value
      let time := Call.clockTime {} (tree.detail file.place).changed
      let number (value : Nat) : Octets := (toString value).toList
      let plain (letter : Char) : Octets :=
        let relative := (file.path.drop file.start.length).dropWhile (· = '/')
        match letter with
        | 'p' => file.path
        | 'f' => file.baseName
        | 'h' =>
          let folder := (file.path.reverse.dropWhile (· ≠ '/')).drop 1 |>.reverse
          if file.path.contains '/' then (if folder.isEmpty then ['/'] else folder) else ['.']
        | 'P' => relative
        | 'H' => file.start
        | 'd' => number file.depth
        | 's' => number (FileTree.sizeOf file.entry)
        | 'k' => number (FileTree.blocksOf file.entry)
        | 'b' => number (FileTree.blocksOf file.entry * 2)
        | 'm' => Mode.octal 1 (tree.detail file.place).mode
        | 'M' => FileTree.kindLetter file.entry :: Mode.text (tree.detail file.place).mode
        | 'n' => number (tree.linkCount file.place file.entry)
        | 'l' => match file.entry with
          | .link target => Shell.nameOctets target
          | _ => []
        | 'u' => "root".toList
        | 'g' => "root".toList
        | 'U' => ['0']
        | 'G' => ['0']
        | 'i' => number (1000 + file.place.length)
        | 'y' => if FileTree.kindLetter file.entry = '-' then ['f'] else [FileTree.kindLetter file.entry]
        | 'Y' =>
          let letter := FileTree.kindLetter (file.seen tree true).2
          if letter = '-' then ['f'] else if letter = 'l' then ['N'] else [letter]
        | 't' => time.text "%a %b %e %H:%M:%S.%N0 %Y".toList
        | 'a' => time.text "%a %b %e %H:%M:%S.%N0 %Y".toList
        | 'c' => time.text "%a %b %e %H:%M:%S.%N0 %Y".toList
        | 'S' => ['1']
        | 'F' => "overlay".toList
        | 'D' => "64".toList
        | other => ['%', other]
      match rest with
      | [] => ['%']
      | 'T' :: '@' :: rest =>
        pad (time.text "%s.%N0".toList) ++ formatted tree file fuel rest
      | kind :: letter :: more =>
        if "TAC".toList.contains kind then
          pad (if letter = '@' then time.text "%s.%N0".toList else time.text ['%', letter]) ++
            formatted tree file fuel more
        else pad (plain kind) ++ formatted tree file fuel (letter :: more)
      | [letter] => pad (plain letter)
    | '\\' :: 'c' :: _ => []
    | '\\' :: letter :: rest =>
      let digits := ((letter :: rest).take 3).takeWhile fun digit => '0' ≤ digit && digit ≤ '7'
      match Integer.natural? 8 digits with
      | some value =>
        Char.ofNat (value % 256) :: formatted tree file fuel ((letter :: rest).drop digits.length)
      | none =>
        let byte := match letter with
          | 'a' => ['\x07']
          | 'b' => ['\x08']
          | 'f' => ['\x0c']
          | 'n' => ['\n']
          | 'r' => ['\r']
          | 't' => ['\t']
          | 'v' => ['\x0b']
          | '\\' => ['\\']
          | other => ['\\', other]
        byte ++ formatted tree file fuel rest
    | character :: rest => character :: formatted tree file fuel rest
    | [] => []

/-- A command in which a pair of braces stands for the path of the file. -/
def filledIn (path : Octets) (word : Octets) : Octets :=
  let rec fill : Nat → Octets → Octets
    | 0, _ => []
    | fuel + 1, text =>
      match text with
      | '\x7b' :: '\x7d' :: rest => path ++ fill fuel rest
      | character :: rest => character :: fill fuel rest
      | [] => []
  fill (word.length + 1) word

end FoundFile

namespace Call

open Shell (pathOf nameOctets)

/-- Whether a name fits a pattern, whatever the case if that is wanted. -/
def fitsFolded (foldsCase : Bool) (pattern text : Octets) : Bool :=
  if foldsCase then fitsName (pattern.map Char.toLower) (text.map Char.toLower)
  else fitsName pattern text

/-- Whether something holds of a file, for what does nothing. -/
def findHolds (tree : FileTree) (plan : FindPlan) (file : FoundFile) : FindAct → Bool
  | .name pattern foldsCase =>
    let name := file.baseName
    fitsFolded foldsCase pattern (if name.isEmpty then ['/'] else name)
  | .path pattern foldsCase => fitsFolded foldsCase pattern file.path
  | .regex regex foldsCase => regex.matchesAll foldsCase file.path
  | .target pattern foldsCase => match file.entry with
    | .link target => fitsFolded foldsCase pattern (nameOctets target)
    | _ => false
  | .kind letters followed =>
    let (_, entry) := file.seen tree (followed != plan.follows)
    let letter := FileTree.kindLetter (if followed then entry else file.entry)
    letters.contains (if letter = '-' then 'f' else letter)
  | .size measure unit =>
    let size := FileTree.sizeOf file.entry
    measure.admits (Int.ofNat ((size + unit - 1) / unit))
  | .empty => match file.entry with
    | .file content => content.isEmpty
    | .folder => (tree.children file.place).isEmpty
    | _ => false
  | .changedAfter micros => micros < (tree.detail file.place).changed
  | .age measure unit =>
    let age := (tree.clock - (tree.detail file.place).changed) / 1000000
    measure.admits (age / Int.ofNat unit)
  | .mode mode manner =>
    let own := (tree.detail file.place).mode
    match manner with
    | '-' => Nat.land own mode = mode
    | '/' => mode = 0 || Nat.land own mode ≠ 0
    | _ => own = mode
  | .links measure => measure.admits (Int.ofNat (tree.linkCount file.place file.entry))
  | .owned isKnown => isKnown
  | .place place => place = some file.place
  | .executable => match file.entry with
    | .folder => true
    | _ => (tree.detail file.place).mode.isExecutable
  | .constant truth => truth
  | _ => true

/-- Carry out what is to be done with a file, and go on in view of whether it holds. -/
def findAct (call : Call) (tree : FileTree) (plan : FindPlan) (file : FoundFile) (state : FindState)
    (act : FindAct) (next : Bool → FindState → List Job) : List Job :=
  let say (text : Octets) : List Job := .emit 1 (Bytes.ofOctets text) :: next true state
  match act with
  | .show mark => say (file.path ++ [mark])
  | .showFormat format => say (file.formatted tree (format.length + 1) format)
  | .showAll => say (file.formatted tree 100
      "%7i %6k %M %3n %-8u %-8g %8s %Tb %Te %TH:%TM %p\n".toList)
  | .showTo descriptor =>
    .emit descriptor (Bytes.ofOctets (file.path ++ ['\n'])) :: next true state
  | .run command isInside =>
    let path := if isInside then "./".toList ++ file.baseName else file.path
    let words := command.map (FoundFile.filledIn path)
    let words := if isInside then
        ["sh".toList, "-c".toList, "cd \"$0\" && exec \"$@\"".toList, folderName file.path] ++ words
      else words
    [.flush, .launch { command := words, environment := call.environment } fun outcome =>
      match outcome.ending with
      | .ok ending => next (ending.status = 0) state
      | .error error =>
        .complain call.name (Quoting.always (words.headD []) ++ s!": {error.reason}".toList) ::
          next false state]
  | .runTogether number command =>
    let known := state.gathered.find? fun (other, _) => other = number
    let gathered := match known with
      | some _ => state.gathered.map fun (other, words, paths) =>
          (other, words, if other = number then paths ++ [file.path] else paths)
      | none => state.gathered ++ [(number, command, [file.path])]
    next true { state with gathered := gathered }
  | .ask command =>
    .emit 2 (Bytes.ofOctets ("< ".toList ++ command.headD [] ++ " ... ".toList ++ file.path ++
      " > ? ".toList)) :: next false state
  | .delete =>
    if file.path = ['.'] then next true state
    else
      let remove (tree : FileTree) : Except FileError FileTree :=
        if file.entry.isFolder then tree.removeFolder (pathOf file.path)
        else tree.removeFile (pathOf file.path)
      [.look fun facts =>
        match remove facts.files with
        | .ok _ => .change (fun files => { files := (remove files).toOption.getD files }) :: next true state
        | .error error =>
          [.complain call.name ("cannot delete ".toList ++ Quoting.always file.path ++
            s!": {error.reason}".toList), .finish 1] ++ next false state]
  | .prune => next true { state with isPruned := true }
  | .quit => next true { state with isOver := true }
  | other => next (findHolds tree plan file other) state

/-- Judge a file by an expression. -/
def findJudge (call : Call) (tree : FileTree) (plan : FindPlan) (file : FoundFile) :
    FindExpr → FindState → (Bool → FindState → List Job) → List Job
  | .act act, state, next => findAct call tree plan file state act next
  | .negation inner, state, next =>
    findJudge call tree plan file inner state fun truth state =>
      if state.isOver then next truth state else next (!truth) state
  | .both first second, state, next =>
    findJudge call tree plan file first state fun truth state =>
      if truth && !state.isOver then findJudge call tree plan file second state next
      else next truth state
  | .either first second, state, next =>
    findJudge call tree plan file first state fun truth state =>
      if truth || state.isOver then next truth state
      else findJudge call tree plan file second state next
  | .list first second, state, next =>
    findJudge call tree plan file first state fun truth state =>
      if state.isOver then next truth state
      else findJudge call tree plan file second state next

/-- The files directly below a file. -/
def findBelow (tree : FileTree) (plan : FindPlan) (file : FoundFile) : List FindTask :=
  if plan.most.any (· ≤ file.depth) then []
  else
    let (place, entry) := file.seen tree (plan.follows || (plan.followsStart && file.depth = 0) ||
      (endsInSlash file.path && file.depth = 0))
    if !entry.isFolder then []
    else (tree.children place).map fun (name, child) =>
      let here : FoundFile := ⟨inside file.path (nameOctets name), file.start, place ++ [name], child,
        file.depth + 1⟩
      let (place, entry) := here.seen tree plan.follows
      .visit { here with place := place, entry := entry }

/-- Do what is still to be done in a search. -/
def findTasks (call : Call) (tree : FileTree) (plan : FindPlan) (expr : FindExpr) :
    Nat → List FindTask → FindState → List Job
  | 0, _, _ => []
  | fuel + 1, tasks, state =>
    match tasks with
    | [] =>
      state.gathered.flatMap fun (_, command, paths) =>
        [.flush, .launch { command := command ++ paths, environment := call.environment } fun outcome =>
          match outcome.ending with
          | .ok ending => [.finish (if ending.status = 0 then 0 else 1)]
          | .error error =>
            [.complain call.name (Quoting.always (command.headD []) ++ s!": {error.reason}".toList),
              .finish 1]]
    | .missing path error :: rest =>
      .complain call.name (Quoting.always path ++ s!": {error.reason}".toList) :: .finish 1 ::
        findTasks call tree plan expr fuel rest state
    | .visit file :: rest =>
      let tasks := if plan.isDeep then findBelow tree plan file ++ .judge file :: rest
        else .judge file :: .below file :: rest
      findTasks call tree plan expr fuel tasks { state with isPruned := false }
    | .below file :: rest =>
      let tasks := if state.isPruned then rest else findBelow tree plan file ++ rest
      findTasks call tree plan expr fuel tasks { state with isPruned := false }
    | .judge file :: rest =>
      if file.depth < plan.least then findTasks call tree plan expr fuel rest state
      else
        findJudge call tree plan file expr { state with isPruned := false } fun _ state =>
          if state.isOver then findTasks call tree plan expr fuel [] state
          else findTasks call tree plan expr fuel rest state

/-- Find files. -/
def find (call : Call) : Tool :=
  let (flags, rest) := call.arguments.span fun word =>
    ["-H", "-L", "-P"].contains (String.ofList word)
  let isStart (word : Octets) : Bool :=
    !(word.head? = some '-' && 1 < word.length) && word ≠ ['('] && word ≠ ['!'] && word ≠ [',']
  let paths := rest.takeWhile isStart
  let words := rest.drop paths.length
  let tree := call.facts.files
  let flag := flags.getLastD []
  let start : FindPlan := {
    follows := flag = "-L".toList
    followsStart := flag = "-L".toList || flag = "-H".toList }
  let read : Except Octets (FindExpr × FindPlan) := do
    if words.isEmpty then return (.act (.constant true), start)
    let (expr, rest, plan) ←
      (FindReader.lists tree tree.clock (4 * words.length + 8)).run (words, start)
    match rest with
    | [] => return (expr, plan)
    | _ => throw "invalid expression; you have too many ')'".toList
  match read with
  | .error complaint => call.refuse 1 complaint
  | .ok (expr, plan) =>
    let expr := if plan.acts then expr else .both expr (.act (.show '\n'))
    let paths := if paths.isEmpty then [['.']] else paths
    let opening := plan.outputs.map fun (path, number) => Job.openOutput number path false
    let tool := call.jobs (opening ++ [.look fun facts =>
      let tree := facts.files
      let found (path : Octets) : Except FileError FoundFile := do
        let (place, entry) ← if plan.followsStart then
            match tree.find (pathOf path) with
            | .ok found => pure found
            | .error _ => tree.findSelf (pathOf path)
          else tree.findSelf (pathOf path)
        return ⟨path, path, place, entry, 0⟩
      let fuel := 4 * (tree.entries.length + 4) * (paths.length + 1)
      let tasks := paths.map fun path => match found path with
        | .ok file => FindTask.visit file
        | .error error => .missing path error
      findTasks call tree plan expr fuel tasks {}])
    tool

end Call

end CorpusJudge
