import CorpusJudge.Emulator.Tool.Layout

/-!
# Searching files

The tool that shows the lines of files in which an expression matches.
-/

namespace CorpusJudge.Call

open Shell (pathOf nameOctets)

/-- The options for searching. -/
def searchTable : OptionTable where
  letters := "A:B:C:EFGHILPRTUVZabcd:D:e:f:hilm:noqrsuvwxyz"
  synonyms := [("after-context", 'A'), ("before-context", 'B'), ("context", 'C'),
    ("extended-regexp", 'E'), ("fixed-strings", 'F'), ("basic-regexp", 'G'), ("with-filename", 'H'),
    ("files-without-match", 'L'), ("perl-regexp", 'P'), ("dereference-recursive", 'R'),
    ("initial-tab", 'T'), ("binary", 'U'), ("null", 'Z'), ("text", 'a'), ("byte-offset", 'b'),
    ("count", 'c'), ("directories", 'd'), ("devices", 'D'), ("regexp", 'e'), ("file", 'f'),
    ("no-filename", 'h'), ("ignore-case", 'i'), ("files-with-matches", 'l'), ("max-count", 'm'),
    ("line-number", 'n'), ("only-matching", 'o'), ("quiet", 'q'), ("silent", 'q'),
    ("recursive", 'r'), ("no-messages", 's'), ("invert-match", 'v'), ("word-regexp", 'w'),
    ("line-regexp", 'x'), ("null-data", 'z')]
  names := ["no-ignore-case", "include:", "exclude:", "exclude-dir:", "exclude-from:", "color::",
    "colour::", "line-buffered", "label:", "binary-files:", "group-separator:", "no-group-separator"]

/-- An expression for one of some patterns. -/
def patternsOf (kind : String) (patterns : List Octets) : Except RegexFault Regex := do
  let regexes ← patterns.mapM fun pattern =>
    if kind = "F" then .ok (Regex.literally pattern)
    else
      let pattern := if kind = "P" then
          let rec plain : Octets → Octets
            | '\\' :: 'd' :: rest => "[0-9]".toList ++ plain rest
            | '\\' :: 'D' :: rest => "[^0-9]".toList ++ plain rest
            | '\\' :: 't' :: rest => '\t' :: plain rest
            | '\\' :: other :: rest => '\\' :: other :: plain rest
            | '(' :: '?' :: ':' :: rest => '(' :: plain rest
            | other :: rest => other :: plain rest
            | [] => []
          plain pattern
        else pattern
      Regex.ofText ⟨kind ≠ "G", true⟩ pattern
  match regexes.reverse with
  | [] => return .among false []
  | last :: others => return others.foldl (fun found regex => .either regex found) last

/-- An expression that has to fill whole lines, or whole words. -/
def bounded (isLine isWord : Bool) (regex : Regex) : Regex :=
  if isLine then .both .start (.both regex .finish)
  else if isWord then .both (.edge .noWordBefore) (.both regex (.edge .noWordBehind))
  else regex

/-- Whether a name fits a pattern for names. -/
def fitsName (pattern name : Octets) : Bool :=
  let marked := pattern.foldl (fun (marked, isQuoted) character =>
    if isQuoted then ((character, false) :: marked, false)
    else if character = '\\' then (marked, true)
    else ((character, true) :: marked, false)) (([] : List Shell.Marked), false)
  Shell.Glob.matchesAll (Shell.Glob.read marked.1.reverse) name

/-- The files below a folder with their names, and whether something in between is a folder with one
of some names. -/
def filesBelow (files : FileTree) (folder : Octets) (skipsFolder : Octets → Bool) : List Octets :=
  match files.find (pathOf folder) with
  | .error _ => []
  | .ok (place, _) =>
    files.entries.filterMap fun (other, entry) =>
      let names := other.drop place.length
      if place.isPrefixOf other && entry.isFile && !names.isEmpty &&
          !(names.dropLast.any fun name => skipsFolder (nameOctets name)) then
        some ((if folder.getLast? = some '/' then folder else folder ++ ['/']) ++
          Text.joined '/' (names.map nameOctets))
      else none

/-- The number of lines that an option asks for. -/
def contextOf (options : Options) (key : String) : Except Octets (Option Nat) :=
  match options.value? key with
  | none => .ok none
  | some text => match Integer.natural? 10 text with
    | some value => .ok (some value)
    | none => .error (text ++ ": invalid context length argument".toList)

/-- The jobs of searching an operand. -/
def searchJobs (call : Call) (options : Options) (operand : Octets) : List Job :=
  if operand = ['-'] then [.consume none]
  else
    let isSilent := options.has "s"
    let files := call.facts.files
    let lastName (path : Octets) : Octets := (path.reverse.takeWhile (· ≠ '/')).reverse
    let isIncluded (path : Octets) : Bool :=
      let included := options.values "include"
      (included.isEmpty || included.any fun pattern => fitsName pattern (lastName path)) &&
        !(options.values "exclude").any fun pattern => fitsName pattern (lastName path)
    let skipsFolder (name : Octets) : Bool :=
      (options.values "exclude-dir").any fun pattern => fitsName pattern name
    match files.find (pathOf operand) with
    | .error _ => if isSilent then [.finish 2] else [.consume (some operand)]
    | .ok (_, .folder) =>
      if options.hasAny ["r", "R"] then
        ((filesBelow files operand skipsFolder).filter isIncluded).map fun path => .consume (some path)
      else if isSilent || options.value? "d" = some "skip".toList then []
      else [.consume (some operand)]
    | .ok _ => if isIncluded operand then [.consume (some operand)] else []

/-- The complaint about a call without what is needed. -/
def searchUsage (call : Call) : Tool :=
  call.jobs [.emit 2 (Bytes.ofOctets
    ("Usage: grep [OPTION]... PATTERNS [FILE]...\n".toList ++ call.advice)), .finish 2]

/-- Show the lines in which an expression matches. -/
def searchWith (call : Call) (usualKind : String) (options : Options) : Tool :=
  let kinds := (options.flags.map Prod.fst).filter ["E", "F", "G", "P"].contains
  let kind := kinds.getLastD usualKind
  let files := call.facts.files
  let listed : Except Octets (List Octets) := (options.flags.filter fun (key, _) =>
      key = "e" || key = "f").foldlM (fun found (key, value) =>
    if key = "e" then .ok (found ++ Text.segments '\n' value)
    else
      let path := if value = ['-'] then "/dev/stdin".toList else value
      match files.read (pathOf path) with
      | .ok content =>
        let lines := Text.segments '\n' (Bytes.octets content)
        .ok (found ++ if lines.getLast? = some [] then lines.dropLast else lines)
      | .error error => .error (value ++ s!": {error.reason}".toList)) []
  let isGiven := options.hasAny ["e", "f"]
  match listed, isGiven, options.operands with
  | .error complaint, _, _ => call.refuse 2 complaint
  | .ok _, false, [] => call.searchUsage
  | .ok listed, _, operands =>
    let (patterns, operands) := if isGiven then (listed, operands)
      else (Text.segments '\n' (operands.headD []), operands.tail)
    let most : Except Octets (Option Nat) := match options.value? "m" with
      | none => .ok none
      | some ('-' :: _) => .ok none
      | some text => match Integer.natural? 10 text with
        | some value => .ok (some value)
        | none => .error "invalid max count".toList
    let read : Except Octets (Option Nat × Nat × Nat) := do
      let around ← contextOf options "C"
      let before ← contextOf options "B"
      let after ← contextOf options "A"
      return (← most, (before.or around).getD 0, (after.or around).getD 0)
    match read, patternsOf kind patterns with
    | .error complaint, _ => call.refuse 2 complaint
    | _, .error fault => call.refuse 2 fault.message.toList
    | .ok (most, before, after), .ok regex =>
      let isRecursive := options.hasAny ["r", "R"]
      let operands := if operands.isEmpty && isRecursive then [['.']] else operands
      let names := match options.last? ["h", "H"] with
        | some key => key = "H"
        | none => 1 < operands.length || (isRecursive && operands.any fun operand =>
            files.isFolder (pathOf operand))
      let report : SearchReport :=
        if options.has "q" then .nothing
        else match options.last? ["l", "L"] with
          | some "l" => .sourcesWith
          | some _ => .sourcesWithout
          | none =>
            if options.has "c" then .count else if options.has "o" then .parts else .lines
      let plan : SearchPlan := {
        tool := call.name
        regex := bounded (options.has "x") (options.has "w") regex
        foldsCase := (options.last? ["i", "y", "no-ignore-case"]).any (· ≠ "no-ignore-case")
        isInverted := options.has "v"
        report := report
        most := most
        before := before
        after := after
        separator := if options.has "no-group-separator" || (before = 0 && after = 0) then none
          else some ((options.value? "group-separator").getD ['-', '-'])
        showsName := names
        showsNumber := options.has "n"
        showsOffset := options.has "b"
        endsNameWithNul := options.has "Z"
        isText := options.has "a" || options.has "z" ||
          options.value? "binary-files" = some "text".toList
        mark := if options.has "z" then '\x00' else '\n'
        inputName := (options.value? "label").getD "(standard input)".toList }
      let operands := if operands.isEmpty then [['-']] else operands
      let jobs := operands.flatMap (searchJobs call options)
      { name := call.name
        wording := .raw
        jobs := jobs ++ [.conclude]
        filter := .lines plan.mark [] (.search { plan := plan })
        failure := 2 }

/-- Show the lines in which an expression of some notation matches. -/
def search (kind : String) (call : Call) : Tool :=
  let call := if kind = "G" then call else { call with name := "grep" }
  let arguments := call.arguments.flatMap fun word => match word with
    | '-' :: digit :: digits =>
      if (digit :: digits).all Char.isDigit then [['-', 'C'], digit :: digits] else [word]
    | _ => [word]
  let known := { searchTable with names := "help" :: "version" :: searchTable.names }
  match Options.read known arguments with
  | .error fault =>
    call.jobs [.complain call.name fault.message,
      .emit 2 (Bytes.ofOctets ("Usage: grep [OPTION]... PATTERNS [FILE]...\n".toList ++ call.advice)),
      .finish 2]
  | .ok options =>
    if options.has "help" then call.say "Usage: grep [OPTION]... PATTERNS [FILE]...\n".toList
    else if options.hasAny ["V", "version"] then call.say "grep\n".toList
    else searchWith call kind options

end CorpusJudge.Call
