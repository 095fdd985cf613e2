import CorpusJudge.Emulator.Tool.Call
import CorpusJudge.Emulator.Tool.Order

/-!
# Sorting and other orders

Lines in order.  Keys tell which part of a line counts and how it is compared; lines with the same
keys are ordered byte by byte unless that is not wanted.
-/

namespace CorpusJudge

/-- The part of a line that is compared: from a field and an offset in it, or from the start of the
line, to a field and a number of characters in it, or to the end; and letters for how the ends are
found and what is compared. -/
structure SortKey where
  start : Option (Nat × Nat)
  finish : Option (Nat × Nat)
  startLetters : List Char
  finishLetters : List Char

/-- What is compared of a line. -/
inductive SortValue where
  | text (text : Octets)
  | number (number : Octets.Decimal)
  | sized (grade : Int) (number : Octets.Decimal)
  | general (quantity : Option Quantity)
  | month (number : Nat)
  | version (text : Octets)

/-- How lines are sorted.  Without a separator, fields start where blanks do. -/
structure SortPlan where
  keys : List SortKey
  separator : Option Char
  isReversed : Bool
  isUnique : Bool
  isStable : Bool
  mark : Char

namespace SortKey

/-- The letters for how keys are compared. -/
def letters : List Char := "bdfghiMnRrV".toList

/-- All letters of a key. -/
def has (key : SortKey) (letter : Char) : Bool :=
  key.startLetters.contains letter || key.finishLetters.contains letter

/-- A number in a key, and what follows it. -/
def readCount (problem : String) (text : Octets) : Except Octets (Nat × Octets) :=
  let digits := text.takeWhile Char.isDigit
  match Integer.natural? 10 digits with
  | some value => .ok (value, text.drop digits.length)
  | none => .error (s!"{problem}: invalid count at start of ".toList ++ quoted text)

/-- A key as it is written. -/
def read (text : Octets) : Except Octets SortKey := do
  let wrong (problem : String) : Octets :=
    s!"{problem}: invalid field specification ".toList ++ quoted text
  let (field, rest) ← readCount "invalid number at field start" text
  if field = 0 then throw (wrong "field number is zero")
  let (offset, rest) ← match rest with
    | '.' :: rest => do
      let (offset, rest) ← readCount "invalid number after '.'" rest
      if offset = 0 then throw (wrong "character offset is zero")
      pure (offset - 1, rest)
    | _ => pure (0, rest)
  let start := if field = 1 && offset = 0 then none else some (field - 1, offset)
  let startLetters := rest.takeWhile letters.contains
  match rest.drop startLetters.length with
  | [] => return ⟨start, none, startLetters, []⟩
  | ',' :: rest =>
    let (field, rest) ← readCount "invalid number after ','" rest
    if field = 0 then throw (wrong "field number is zero")
    let (size, rest) ← match rest with
      | '.' :: rest => readCount "invalid number after '.'" rest
      | _ => pure (0, rest)
    let finishLetters := rest.takeWhile letters.contains
    if rest.length ≠ finishLetters.length then throw (wrong "stray character in field spec")
    return ⟨start, some (field - 1, size), startLetters, finishLetters⟩
  | _ => throw (wrong "stray character in field spec")

/-- A text without so many fields at its start. -/
def withoutFields (separator : Option Char) (keepsLast : Bool) : Nat → Octets → Octets
  | 0, text => text
  | count + 1, text =>
    match separator with
    | some separator =>
      let rest := text.dropWhile (· ≠ separator)
      withoutFields (some separator) keepsLast count
        (if count = 0 && keepsLast then rest else rest.drop 1)
    | none =>
      withoutFields none keepsLast count
        ((text.dropWhile Octets.isBlank).dropWhile fun character => !Octets.isBlank character)

/-- What a key takes of a line. -/
def part (key : SortKey) (separator : Option Char) (line : Octets) : Octets :=
  let behind := match key.start with
    | some (fields, _) => withoutFields separator false fields line
    | none => line
  let behind := if key.startLetters.contains 'b' then behind.dropWhile Octets.isBlank else behind
  let behind := behind.drop ((key.start.map Prod.snd).getD 0)
  let after := match key.finish with
    | none => []
    | some (fields, 0) => withoutFields separator true (fields + 1) line
    | some (fields, size) =>
      let text := withoutFields separator false fields line
      let text := if key.finishLetters.contains 'b' then text.dropWhile Octets.isBlank else text
      text.drop size
  behind.take (behind.length - after.length)

/-- What counts of a text. -/
def value (key : SortKey) (text : Octets) : SortValue :=
  let text :=
    if key.has 'd' then
      text.filter fun character => character.isAlphanum || Octets.isBlank character
    else if key.has 'i' then text.filter Quoting.isPrintable
    else text
  let text := if key.has 'f' then text.map Char.toUpper else text
  if key.has 'n' then .number (Octets.decimal text).1
  else if key.has 'g' then
    .general ((Quantity.read? .extended text).map fun (quantity, _, _) => quantity)
  else if key.has 'h' then .sized (Octets.unitGrade text) (Octets.decimal text).1
  else if key.has 'M' then .month (Octets.monthNumber text)
  else if key.has 'V' then .version text
  else .text text

/-- Letters of a key that do not go together, if there are some. -/
def conflict? (key : SortKey) : Option Octets :=
  let kinds := ("nghM".toList.filter key.has).length +
    (if "dRVi".toList.any key.has then 1 else 0)
  let shown := "dfghiMnRV".toList.filter fun letter =>
    key.has letter && !(letter = 'i' && key.has 'd')
  if 1 < kinds then some shown else none

end SortKey

/-- The order of what is compared. -/
def SortValue.order : SortValue → SortValue → Ordering
  | .text left, .text right => Octets.order left right
  | .number left, .number right => left.order right
  | .sized grade left, .sized grade' right => (compare grade grade').then (left.order right)
  | .general left, .general right => Octets.generalOrder left right
  | .month left, .month right => compare left right
  | .version left, .version right => Octets.versionOrder left right
  | _, _ => .eq

namespace SortPlan

/-- A line with what is compared of it. -/
abbrev Line := Octets × List SortValue

/-- Find what is compared of a line. -/
def line (plan : SortPlan) (text : Octets) : Line :=
  (text, plan.keys.map fun key => key.value (key.part plan.separator text))

/-- The order of lines by their keys. -/
def keyOrder : List SortKey → List SortValue → List SortValue → Ordering
  | key :: keys, left :: lefts, right :: rights =>
    let order := left.order right
    (if key.has 'r' then order.swap else order).then (keyOrder keys lefts rights)
  | _, _, _ => .eq

/-- The order of lines. -/
def order (plan : SortPlan) (left right : Line) : Ordering :=
  let byKeys := keyOrder plan.keys left.2 right.2
  if !plan.keys.isEmpty && (plan.isUnique || plan.isStable) then byKeys
  else
    let whole := Octets.order left.1 right.1
    byKeys.then (if plan.isReversed then whole.swap else whole)

/-- Whether a line may stand in front of another one. -/
def atMost (plan : SortPlan) (left right : Line) : Bool :=
  (plan.order left right).isLE

/-- The lines of a text. -/
def linesOf (plan : SortPlan) (text : Octets) : List Line :=
  let pieces := Text.segments plan.mark text
  (if pieces.getLast? = some [] then pieces.dropLast else pieces).map plan.line

/-- Lines of which each is another one than the line in front of it. -/
def distinct (plan : SortPlan) : List Line → List Line
  | first :: second :: rest =>
    if plan.order first second = .eq then distinct plan (first :: rest)
    else first :: distinct plan (second :: rest)
  | lines => lines
termination_by lines => lines.length

/-- The text of sorted lines. -/
def render (plan : SortPlan) (lines : List Line) : Octets :=
  (if plan.isUnique then plan.distinct lines else lines).flatMap fun line => line.1 ++ [plan.mark]

/-- The first line that does not stand where it has to, with its number. -/
def disorder? (plan : SortPlan) (number : Nat) : List Line → Option (Nat × Line)
  | first :: second :: rest =>
    let order := plan.order first second
    if order = .gt || (plan.isUnique && order = .eq) then some (number + 1, second)
    else disorder? plan (number + 1) (second :: rest)
  | _ => none

end SortPlan

namespace Call

/-- The keys and the separator that options ask for. -/
def sortPlanOf (options : Options) : Except Octets SortPlan := do
  let byName (word : Octets) : Except Octets (List Char) :=
    let kinds := [("general-numeric", 'g'), ("human-numeric", 'h'), ("month", 'M'),
      ("numeric", 'n'), ("random", 'R'), ("version", 'V')]
    match kinds.filter fun (name, _) => word.isPrefixOf name.toList with
    | [(_, letter)] => .ok [letter]
    | _ => .error ("invalid argument ".toList ++ quoted word ++ " for '--sort'".toList)
  let named ← (options.values "sort").mapM byName
  let general := SortKey.letters.filter (fun letter => options.has (String.ofList [letter])) ++
    named.flatten
  let separators ← (options.values "t").mapM fun text => match text with
    | [] => throw "empty tab".toList
    | [separator] => pure separator
    | ['\\', '0'] => pure '\x00'
    | _ => throw ("multi-character tab ".toList ++ quoted text)
  let separator := separators.head?
  if separators.any fun other => some other ≠ separator then throw "incompatible tabs".toList
  let given ← (options.values "k").mapM SortKey.read
  let whole : SortKey := ⟨none, none, general, general⟩
  let keys := given.map fun key =>
    if key.startLetters.isEmpty && key.finishLetters.isEmpty then
      { key with startLetters := general, finishLetters := general }
    else key
  let keys := if keys.isEmpty && general.any (· ≠ 'r') then [whole] else keys
  match (whole :: keys).findSome? SortKey.conflict? with
  | some letters => throw ("options '-".toList ++ letters ++ "' are incompatible".toList)
  | none => pure ()
  return {
    keys := keys
    separator := separator
    isReversed := general.contains 'r'
    isUnique := options.has "u"
    isStable := options.has "s"
    mark := if options.has "z" then '\x00' else '\n' }

/-- The options for sorting. -/
def sortTable : OptionTable where
  letters := "bcCdfghik:mMno:rRsS:t:T:uVy:z"
  synonyms := [("ignore-leading-blanks", 'b'), ("dictionary-order", 'd'), ("ignore-case", 'f'),
    ("general-numeric-sort", 'g'), ("human-numeric-sort", 'h'), ("ignore-nonprinting", 'i'),
    ("key", 'k'), ("merge", 'm'), ("month-sort", 'M'), ("numeric-sort", 'n'), ("output", 'o'),
    ("reverse", 'r'), ("random-sort", 'R'), ("stable", 's'), ("buffer-size", 'S'),
    ("field-separator", 't'), ("temporary-directory", 'T'), ("unique", 'u'), ("version-sort", 'V'),
    ("zero-terminated", 'z')]
  names := ["batch-size:", "check::", "compress-program:", "debug", "files0-from:", "parallel:",
    "random-source:", "sort:"]

/-- What can be said about the order of the lines of one input. -/
def checkOrder (call : Call) (plan : SortPlan) (isQuiet : Bool) (name : Octets) (text : Octets) :
    List Job :=
  match plan.disorder? 1 (plan.linesOf text) with
  | none => []
  | some (number, line, _) =>
    let shown := if name.isEmpty then ['-'] else name
    (if isQuiet then []
      else [.complain call.name (shown ++ s!":{number}: disorder: ".toList ++ line)]) ++ [.finish 1]

/-- Lines in order. -/
def sort (call : Call) : Tool :=
  call.withOptions sortTable 2 fun options =>
    match sortPlanOf options with
    | .error complaint => call.refuse 2 complaint
    | .ok plan =>
      let isQuiet := options.has "C" || ["quiet".toList, "silent".toList].any fun word =>
        (options.values "check").any fun value => !value.isEmpty && value.isPrefixOf word
      let isCheck := isQuiet || options.has "c" || options.has "check"
      let operands := options.operands
      let output := options.value? "o"
      match (if isCheck then operands.drop 1 else []), output with
      | extra :: _, _ =>
        call.misused 2 ("extra operand ".toList ++ quoted extra ++ " not allowed with -".toList ++
          [if isQuiet then 'C' else 'c'])
      | [], output =>
        if isCheck && output.isSome then
          call.refuse 2 (if isQuiet then "options '-Co' are incompatible".toList
            else "options '-co' are incompatible".toList)
        else
          let isUnreadable (facts : Facts) (operand : Octets) : Option FileError :=
            if operand = ['-'] then none
            else match facts.files.find (Shell.pathOf operand) with
              | .ok _ => none
              | .error error => some error
          let inspect (facts : Facts) : List Job :=
            let missing := operands.findSome? fun operand =>
              (isUnreadable facts operand).map fun error =>
                [Job.complain call.name
                  ("cannot read: ".toList ++ Quoting.asName operand ++ s!": {error.reason}".toList),
                  .quit 2]
            let closed := output.bind fun path =>
              match facts.files.write (Shell.pathOf path) [] with
              | .ok _ => none
              | .error error => some
                [Job.complain call.name
                  ("open failed: ".toList ++ Quoting.asName path ++ s!": {error.reason}".toList),
                  .quit 2]
            (missing.or closed).getD []
          let finish (inputs : List (Octets × Bytes)) : List Job :=
            let texts := inputs.map fun (name, bytes) => (name, Bytes.octets bytes)
            if isCheck then
              texts.flatMap fun (name, text) => checkOrder call plan isQuiet name text
            else
              let groups := texts.map fun (_, text) => plan.linesOf text
              let sorted := if options.has "m" then
                  groups.foldl (fun merged lines => merged.merge lines plan.atMost) []
                else groups.flatten.mergeSort plan.atMost
              (output.toList.map fun path => Job.openOutput 1 path false) ++
                [.emit 1 (Bytes.ofOctets (plan.render sorted))]
          { name := call.name
            wording := .cannotRead
            jobs := .look inspect :: (reading operands ++ [.conclude])
            filter := .gather [] none finish
            failure := 2 }

end Call

/-! ## Lines in another order

Tools that give back what they read with its lines, characters or words in another order. -/

/-- A text at every place where a separator ends, or where one starts if `isBefore`. -/
def recordsOf (separator : Octets) (isBefore : Bool) (text : Octets) : List Octets :=
  let rec collect (reversed : Octets) : Nat → Octets → List Octets
    | 0, rest => [reversed.reverse ++ rest]
    | fuel + 1, rest =>
      if rest.isEmpty then if reversed.isEmpty then [] else [reversed.reverse]
      else if !separator.isEmpty && separator.isPrefixOf rest then
        let behind := rest.drop separator.length
        if isBefore then
          (if reversed.isEmpty then [] else [reversed.reverse]) ++
            collect separator.reverse fuel behind
        else (reversed.reverse ++ separator) :: collect [] fuel behind
      else match rest with
        | character :: rest => collect (character :: reversed) fuel rest
        | [] => []
  collect [] (text.length + 1) text

/-- A name in an order that is being made: how many others have to stand in front of it and have not
been shown yet, which ones stand behind it, and the next one on a way that leads in a circle. -/
structure OrderedName where
  name : Octets
  waiting : Nat := 0
  behind : List Octets := []
  isShown : Bool := false
  link : Option Octets := none

namespace OrderedName

/-- Names in byte order. -/
abbrev Table := List OrderedName

/-- Change the entry of a name, which is made if it is missing. -/
def update (name : Octets) (change : OrderedName → OrderedName) : Table → Table
  | [] => [change { name := name }]
  | first :: rest =>
    match Octets.order name first.name with
    | .lt => change { name := name } :: first :: rest
    | .eq => change first :: rest
    | .gt => first :: update name change rest

/-- The entry of a name. -/
def entry (table : Table) (name : Octets) : OrderedName :=
  (table.find? (·.name = name)).getD { name := name }

/-- Note that a name stands in front of another one. -/
def relate (table : Table) (first second : Octets) : Table :=
  let table := update second id (update first id table)
  if first = second then table
  else update second (fun entry => { entry with waiting := entry.waiting + 1 })
    (update first (fun entry => { entry with behind := second :: entry.behind }) table)

/-- Show the names of a queue and those that then need not wait any more. -/
def showQueue : Nat → List Octets → Table → List Octets × Table
  | 0, _, table => ([], table)
  | fuel + 1, queue, table =>
    match queue with
    | [] => ([], table)
    | name :: rest =>
      let table := update name (fun entry => { entry with isShown := true }) table
      let (table, freed) := ((entry table name).behind).foldl (fun (table, freed) other =>
        let table := update other (fun entry => { entry with waiting := entry.waiting - 1 }) table
        (table, if (entry table other).waiting = 0 then freed ++ [other] else freed)) (table, [])
      let (shown, table) := showQueue fuel (rest ++ freed) table
      (name :: shown, table)

/-- Follow links from a name on to another one.  The links in between are taken away. -/
def follow (target : Octets) : Nat → Octets → Table → List Octets × Table
  | 0, _, table => ([], table)
  | fuel + 1, name, table =>
    if name = target then ([name], table)
    else
      let next := (entry table name).link
      let table := update name (fun entry => { entry with link := none }) table
      match next with
      | some next =>
        let (names, table) := follow target fuel next table
        (name :: names, table)
      | none => ([name], table)

/-- Look for a circle: the name where the way starts so far, and the circle if it is closed. -/
def seekCircle (start : Option Octets) (table : Table) : List Octets →
    Option Octets × Table × Option (List Octets)
  | [] => (start, table, none)
  | name :: rest =>
    let item := entry table name
    if item.waiting = 0 then seekCircle start table rest
    else match start with
      | none => seekCircle (some name) table rest
      | some first =>
        if !item.behind.contains first then seekCircle start table rest
        else if item.link.isNone then
          seekCircle (some name)
            (update name (fun entry => { entry with link := some first }) table) rest
        else
          let (names, table) := follow name (table.length + 1) first table
          let table := update first (fun entry => { entry with waiting := entry.waiting - 1 }) table
          let table := update name (fun entry =>
            { entry with behind := entry.behind.erase first }) table
          (none, table.map fun entry => { entry with link := none }, some names)

/-- The names of a circle, and the table without one of its relations. -/
def breakCircle : Nat → Option Octets → Table → List Octets × Table
  | 0, _, table => ([], table)
  | fuel + 1, start, table =>
    match seekCircle start table (table.map OrderedName.name) with
    | (_, table, some names) => (names, table)
    | (start, table, none) => breakCircle fuel start table

/-- Show all names in an order that suits their relations. -/
def showAll (call : Call) (source : Octets) : Nat → Table → List Job
  | 0, _ => []
  | fuel + 1, table =>
    let free := (table.filter fun entry => entry.waiting = 0 && !entry.isShown).map OrderedName.name
    let (shown, table) := showQueue (table.length + 1) free table
    let output := Job.emit 1 (Bytes.ofOctets (shown.flatMap (· ++ ['\n'])))
    if table.all OrderedName.isShown then [output]
    else
      let (names, table) := breakCircle (2 * table.length + 2) none table
      [output, .complain call.name (Quoting.asName source ++ ": input contains a loop:".toList)] ++
        names.map (Job.complain call.name) ++ [.finish 1] ++ showAll call source fuel table

end OrderedName

namespace Call

/-- Lines in reverse. -/
def reverseLines (call : Call) : Tool :=
  let table : OptionTable :=
    ⟨"brs:", [("before", 'b'), ("regex", 'r'), ("separator", 's')], [], false⟩
  call.withOptions table 1 fun options =>
    let separator := (options.value? "s").getD ['\n']
    let separator := if separator.isEmpty then ['\x00'] else separator
    let wording : Wording := {
      opening name := "failed to open ".toList ++ Quoting.always name ++ " for reading".toList
      reading name := Quoting.asName name ++ ": read error".toList }
    let tool := call.bySource options.operands fun _ bytes =>
      [.emit 1 (Bytes.ofOctets
        (recordsOf separator (options.has "b") (Bytes.octets bytes)).reverse.flatten)]
    { tool with wording := wording, isHasty := true }

/-- Lines with their characters in reverse. -/
def reverseCharacters (call : Call) : Tool :=
  let call := call.withShortName
  call.withOptions ⟨"0", [("zero", '0')], [], false⟩ 1 fun options =>
    let mark := if options.has "0" then '\x00' else '\n'
    { call.filtering options.operands (.lines mark [] (.each 0 fun _ line isWhole =>
        line.reverse ++ if isWhole then [mark] else [])) with
      wording := .cannotOpen
      isHasty := true }

/-- Lines in any order. -/
def shuffle (call : Call) : Tool :=
  let table : OptionTable :=
    ⟨"ei:n:o:rz", [("echo", 'e'), ("input-range", 'i'), ("head-count", 'n'), ("output", 'o'),
      ("repeat", 'r'), ("zero-terminated", 'z')], ["random-source:"], false⟩
  call.withOptions table 1 fun options =>
    let mark := if options.has "z" then '\x00' else '\n'
    let counts := (options.values "n").map fun text => (text, Integer.readUnsigned? text)
    let limit := (counts.filterMap Prod.snd).foldl
      (fun least count => some (least.elim count (min count))) (none : Option Nat)
    let opening := (options.value? "o").toList.map fun path => Job.openOutput 1 path false
    let showing (size : Nat) (item : Nat → Octets) : Tool :=
      let left := if options.has "r" then limit else some (min size (limit.getD size))
      if options.has "r" && size = 0 && limit ≠ some 0 then
        call.refuse 1 "no lines to repeat".toList
      else if left = some 0 then call.jobs opening
      else
        { name := call.name
          jobs := opening ++ [.proceed]
          filter := .generate (fun index => item (index % size) ++ [mark]) 0 left }
    match counts.find? fun (_, count) => count.isNone with
    | some (text, _) => call.refuse 1 ("invalid line count: ".toList ++ quoted text)
    | none =>
      match options.value? "i" with
      | some range =>
        let first := range.takeWhile (· ≠ '-')
        match Integer.natural? 10 first, Integer.natural? 10 (range.drop (first.length + 1)) with
        | some first, some last =>
          if last + 1 < first then call.refuse 1 ("invalid input range: ".toList ++ quoted range)
          else match options.operands with
            | extra :: _ => call.misused 1 ("extra operand ".toList ++ quoted extra)
            | [] => showing (last + 1 - first) fun index => (toString (first + index)).toList
        | _, _ => call.refuse 1 ("invalid input range: ".toList ++ quoted range)
      | none =>
        if options.has "e" then
          let words := options.operands.toArray
          showing words.size fun index => words.getD index []
        else call.withAtMost 0 1 options <|
          let tool := call.gathering options.operands fun inputs =>
            let pieces := Text.segments mark (Bytes.octets (inputs.flatMap Prod.snd))
            let lines := if pieces.getLast? = some [] then pieces.dropLast else pieces
            let chosen := if options.has "r" then
                (List.replicate (limit.getD 1000) lines).flatten.take (limit.getD 1000)
              else lines.take (limit.getD lines.length)
            if options.has "r" && lines.isEmpty && limit ≠ some 0 then
              [.complain call.name "no lines to repeat".toList, .finish 1]
            else opening ++ [.emit 1 (Bytes.ofOctets (chosen.flatMap (· ++ [mark])))]
          { tool with wording := { reading := fun _ => "read error".toList } }

/-- Words in an order that suits pairs of them. -/
def orderByPairs (call : Call) : Tool :=
  call.withOptions ⟨"", [], [], false⟩ 1 fun options =>
    call.withAtMost 0 1 options <|
      let source := options.operands.headD ['-']
      let isSpace (character : Char) : Bool := " \t\n".toList.contains character
      let rec pairs : List Octets → OrderedName.Table → Option OrderedName.Table
        | [], table => some table
        | [_], _ => none
        | first :: second :: rest, table => pairs rest (OrderedName.relate table first second)
      let tool := call.gathering options.operands fun inputs =>
        let text := Bytes.octets (inputs.flatMap Prod.snd)
        let words := (text.splitBy fun left right => isSpace left == isSpace right).filter fun word =>
          !word.all isSpace
        match pairs words [] with
        | some table => OrderedName.showAll call source (words.length + 1) table
        | none =>
          [.complain call.name (Quoting.asName source ++
            ": input contains an odd number of tokens".toList), .finish 1]
      { tool with wording := { reading := fun name => Quoting.asName name ++ ": read error".toList } }

end Call

end CorpusJudge
