import CorpusJudge.Emulator.Tool.Layout
import CorpusJudge.Emulator.Tool.Words

/-!
# Passing files on

Tools that give back what they read, all of it, its beginning or its end, count it, or leave out
lines that repeat the line before.
-/

namespace CorpusJudge.Call

/-- Files one after the other. -/
def concatenate (call : Call) : Tool :=
  let table : OptionTable := ⟨"AbeEnstTuv", [("show-all", 'A'), ("number-nonblank", 'b'),
    ("show-ends", 'E'), ("number", 'n'), ("squeeze-blank", 's'), ("show-tabs", 'T'),
    ("show-nonprinting", 'v')], [], false⟩
  call.withOptions table 1 fun options =>
    let plan : DisplayPlan := {
      numbersAll := options.has "n"
      numbersFilled := options.has "b"
      joinsBlank := options.has "s"
      marksEnds := options.hasAny ["A", "e", "E"]
      marksTabs := options.hasAny ["A", "t", "T"]
      marksOthers := options.hasAny ["A", "e", "t", "v"] }
    if options.flags.all fun (key, _) => key = "u" then call.filtering options.operands .copy
    else call.filtering options.operands (.lines '\n' [] (.display { plan := plan }))

/-- The number that digits and the letter of a unit stand for. -/
def scaledNumber? (text : Octets) : Option Nat :=
  let digits := text.takeWhile Char.isDigit
  let unit? : Option Nat := match text.drop digits.length with
    | [] => some 1
    | ['b'] => some 512
    | letter :: rest =>
      let base? := match rest with
        | [] => some 1024
        | ['i', 'B'] => some 1024
        | ['B'] => some 1000
        | _ => none
      let grade? := match letter with
        | 'k' => some 0
        | 'm' => some 1
        | _ => "KMGTPEZYRQ".toList.findIdx? (· = letter)
      match base?, grade? with
      | some base, some grade => some (Nat.pow base (grade + 1))
      | _, _ => none
  let value? := if digits.isEmpty && !text.isEmpty then some 1 else Integer.natural? 10 digits
  match value?, unit? with
  | some value, some unit => some (value * unit)
  | _, _ => none

/-- A count of lines or bytes as options give it, and whether it has a mark in front. -/
def partCount (options : Options) (mark : Char) : Except Octets (Bool × Nat × Bool) :=
  let key := (options.last? ["c", "n"]).getD "n"
  let text := (options.value? key).getD ['1', '0']
  let isMarked := text.head? = some mark
  let body := match text with
    | '+' :: rest => rest
    | '-' :: rest => rest
    | _ => text
  match (if body.head?.any Char.isDigit then scaledNumber? body else none) with
  | some count => .ok (key = "c", count, isMarked)
  | none =>
    let units := if key = "c" then "bytes" else "lines"
    .error (s!"invalid number of {units}: ".toList ++ quoted body)

/-- Arguments where a number behind a dash counts lines, or bytes with a letter behind it. -/
def withCount (sign : Char) (arguments : List Octets) : Except Char (List Octets) :=
  match arguments with
  | (first :: digit :: more) :: rest =>
    if (first = '-' || first = sign) && digit.isDigit then
      let digits := (digit :: more).takeWhile Char.isDigit
      let letters := (digit :: more).drop digits.length
      let value := if first = '+' then '+' :: digits else digits
      let flags := letters.filter fun letter => "qvzf".toList.contains letter
      match letters.find? fun letter => !"bckmlqvzf".toList.contains letter with
      | some letter => .error letter
      | none =>
        let key := if letters.any "bckm".toList.contains then 'c' else 'n'
        let unit := (letters.filter "bkm".toList.contains).take 1
        .ok (['-', key] :: (value ++ unit) ::
          ((if flags.isEmpty then [] else ['-' :: flags]) ++ rest))
    else .ok arguments
  | _ => .ok arguments

/-- The lines of a text with their marks. -/
def wholeLines (mark : UInt8) (bytes : Bytes) : List Bytes :=
  bytes.foldr (fun byte lines =>
    if byte = mark then [byte] :: lines
    else match lines with
      | [] => [[byte]]
      | first :: others => (byte :: first) :: others) []

/-- Parts of sources with their titles. -/
def titledParts (hasTitles : Bool) (part : Bytes → Bytes) : Filter :=
  .bySource {
    opening := fun count name =>
      if hasTitles then [Job.emit 1 (Bytes.ofOctets (Filter.titleOf (count = 0) name))] else []
    closing := fun _ bytes => [.emit 1 (part bytes)] }

/-- The beginning of files. -/
def head (call : Call) : Tool :=
  let table : OptionTable := ⟨"c:n:qvz", [("bytes", 'c'), ("lines", 'n'), ("quiet", 'q'),
    ("silent", 'q'), ("verbose", 'v'), ("zero-terminated", 'z')], [], false⟩
  match withCount '-' call.arguments with
  | .error letter => call.misused 1 ("invalid trailing option -- ".toList ++ [letter])
  | .ok arguments =>
    (call.withArguments arguments).withOptions table 1 fun options =>
      match partCount options '-' with
      | .error complaint => call.refuse 1 complaint
      | .ok (isByByte, count, isFromEnd) =>
        let hasTitles := match options.last? ["q", "v"] with
          | some key => key = "v"
          | none => 1 < options.operands.length
        let mark : UInt8 := if options.has "z" then 0 else 10
        let tool :=
          if isFromEnd then
            call.filtering options.operands <| titledParts hasTitles fun bytes =>
              if isByByte then bytes.take (bytes.length - count)
              else
                let lines := wholeLines mark bytes
                (lines.take (lines.length - count)).flatten
          else call.filtering options.operands (.leading {
            mark := if isByByte then none else some mark
            count := count
            left := count
            hasTitles := hasTitles })
        { tool with wording := .quotedOpen }

/-- The end of files. -/
def tail (call : Call) : Tool :=
  let table : OptionTable := ⟨"c:fFn:qs:vz", [("bytes", 'c'), ("lines", 'n'), ("quiet", 'q'),
    ("silent", 'q'), ("verbose", 'v'), ("zero-terminated", 'z'), ("sleep-interval", 's')],
    ["follow::", "pid:", "retry", "max-unchanged-stats:"], false⟩
  let arguments := if call.arguments.length ≤ 2 then withCount '+' call.arguments
    else .ok call.arguments
  match arguments with
  | .error _ => call.misused 1 ("option used in invalid context -- ".toList ++
      ((call.arguments.headD []).drop 1).take 1)
  | .ok arguments =>
    (call.withArguments arguments).withOptions table 1 fun options =>
      match partCount options '+', (options.value? "s").map duration? with
      | .error complaint, _ => call.refuse 1 complaint
      | _, some none =>
        call.refuse 1 ("invalid number of seconds: ".toList ++ quoted ((options.value? "s").getD []))
      | .ok (isByByte, count, isFromStart), _ =>
        let hasTitles := match options.last? ["q", "v"] with
          | some key => key = "v"
          | none => 1 < options.operands.length
        let mark : UInt8 := if options.has "z" then 0 else 10
        let part (bytes : Bytes) : Bytes :=
          if isByByte then
            bytes.drop (if isFromStart then count - 1 else bytes.length - count)
          else if isFromStart && count ≤ 1 then bytes
          else
            let lines := wholeLines mark bytes
            (lines.drop (if isFromStart then count - 1 else lines.length - count)).flatten
        let follows := options.hasAny ["f", "F", "follow"] && !options.operands.isEmpty
        let tool := call.filtering options.operands (titledParts hasTitles part)
        let isThere (operand : Octets) : Bool :=
          operand = ['-'] || (call.facts.files.find (Shell.pathOf operand)).toOption.isSome
        let wait : List Job := if !follows then []
          else if options.operands.any isThere || options.hasAny ["F", "retry"] then
            [.flush, .pause 1000000000000]
          else [.complain call.name "no files remaining".toList]
        let warn := if options.has "pid" && !follows then
            [Job.complain call.name
              "warning: PID ignored; --pid=PID is useful only when following".toList]
          else []
        { tool with jobs := warn ++ tool.jobs ++ wait, wording := .quotedOpen }

/-- What is read, passed on to files as well. -/
def tee (call : Call) : Tool :=
  let table : OptionTable := ⟨"aip", [("append", 'a'), ("ignore-interrupts", 'i')],
    ["output-error::"], false⟩
  call.withOptions table 1 fun options =>
    match choice options "output-error" ["warn", "warn-nopipe", "exit", "exit-nopipe"] with
    | .error complaint => call.misused 1 complaint
    | .ok _ =>
      let outputs := options.operands.map fun path => Job.alsoTo path (options.has "a")
      call.jobs ((if options.has "i" then [.ignore 2] else []) ++ outputs ++ [.consume none])

/-- Counts of lines, words and bytes. -/
def countParts (call : Call) : Tool :=
  let table : OptionTable := ⟨"clLmw", [("bytes", 'c'), ("lines", 'l'), ("max-line-length", 'L'),
    ("chars", 'm'), ("words", 'w')], ["files0-from:", "total:", "debug"], false⟩
  call.withOptions table 1 fun options =>
    match choice options "total" ["auto", "always", "only", "never"] with
    | .error complaint => call.misused 1 complaint
    | .ok total =>
      let isUsual := !options.hasAny ["c", "l", "L", "m", "w"]
      let files := call.facts.files
      let sizeAt (place : Location) : Option Nat :=
        match files.lookup place with
        | some (.file content) => some content.length
        | some (.program _) => some 100000
        | _ => none
      let size? (operand : Option Octets) : Option (Option Nat) :=
        match operand with
        | none => some ((call.facts.places.lookup 0).bind sizeAt)
        | some path => match files.find (Shell.pathOf path) with
          | .ok (place, _) => some (sizeAt place)
          | .error _ => none
      let sources := if options.operands.isEmpty then [none]
        else options.operands.map fun operand => if operand = ['-'] then none else some operand
      let shown := [isUsual || options.has "l", isUsual || options.has "w", options.has "m",
        isUsual || options.has "c", options.has "L"]
      let sizes := sources.filterMap size?
      let digits := (toString ((sizes.filterMap id).foldl (· + ·) 0)).length
      let width :=
        if total = some "only" || (sources.length = 1 && (shown.filter id).length = 1) then 1
        else if sizes.any Option.isNone then max 7 digits
        else digits
      let plan : TallyPlan := {
        lines := isUsual || options.has "l"
        words := isUsual || options.has "w"
        characters := options.has "m"
        bytes := isUsual || options.has "c"
        longest := options.has "L"
        width := width
        hasParts := total ≠ some "only"
        hasTotal := match total with
          | some "always" => true
          | some "only" => true
          | some "never" => false
          | _ => 1 < sources.length }
      match options.value? "files0-from" with
      | some list =>
        if !options.operands.isEmpty then
          call.misused 1 ("extra operand ".toList ++ quoted (options.operands.headD []) ++
            "\nfile operands cannot be combined with --files0-from".toList)
        else
          let path := if list = ['-'] then "/dev/stdin".toList else list
          match files.read (Shell.pathOf path) with
          | .error error =>
            call.refuse 1 ("cannot open ".toList ++ Quoting.always list ++
              s!" for reading: {error.reason}".toList)
          | .ok content =>
            let names := (Text.segments '\x00' (Bytes.octets content)).filter (· ≠ [])
            call.filtering names (.count { plan := { plan with hasTotal := 1 < names.length } })
      | none =>
        let names := options.operands
        let tool := call.filtering names (.count { plan := plan })
        let jobs := names.map fun name =>
          Job.consume (if name = ['-'] then none else some name)
        if names.isEmpty then tool else { tool with jobs := jobs ++ [.conclude] }

/-- Lines without those that repeat the line before. -/
def distinctLines (call : Call) : Tool :=
  let table : OptionTable := ⟨"cdDf:is:uw:z", [("count", 'c'), ("repeated", 'd'), ("skip-fields", 'f'),
    ("ignore-case", 'i'), ("skip-chars", 's'), ("unique", 'u'), ("check-chars", 'w'),
    ("zero-terminated", 'z')], ["all-repeated::", "group::"], false⟩
  (call.withArguments (withDigits 'f' call.arguments)).withOptions table 1 fun options =>
    let number (key words : String) : Except Octets (Option Nat) :=
      match options.value? key with
      | none => .ok none
      | some text => match Integer.natural? 10 text with
        | some value => .ok (some value)
        | none => .error (text ++ s!": invalid number of {words}".toList)
    let read : Except Octets (Nat × Nat × Option Nat) := do
      return ((← number "f" "fields to skip").getD 0, (← number "s" "bytes to skip").getD 0,
        ← number "w" "bytes to compare")
    let gapsOf (style : String) : RunGaps :=
      match style with
      | "prepend" => ⟨true, true, false⟩
      | "append" => ⟨false, true, true⟩
      | "both" => ⟨true, true, true⟩
      | "none" => ⟨false, false, false⟩
      | _ => ⟨false, true, false⟩
    let repeatsAll := options.hasAny ["D", "all-repeated"]
    match read, choice options "all-repeated" ["none", "prepend", "separate"],
      choice options "group" ["prepend", "append", "separate", "both"] with
    | .error complaint, _, _ => call.refuse 1 complaint
    | _, .error complaint, _ => call.misused 1 complaint
    | _, _, .error complaint => call.misused 1 complaint
    | .ok (fields, characters, compared), .ok repeated, .ok group =>
      if group.isSome && (repeatsAll || options.hasAny ["c", "d", "u"]) then
        call.misused 1 "--group is mutually exclusive with -c/-d/-D/-u".toList
      else if repeatsAll && options.has "c" then
        call.misused 1 "printing all duplicated lines and repeat counts is meaningless".toList
      else call.withAtMost 0 2 options <|
        let report : RunReport := match group with
          | some style => .all true (gapsOf style)
          | none =>
            if repeatsAll then
              let style := (repeated.filter (· ≠ "")).getD "none"
              if options.has "u" then .first false false else .all false (gapsOf style)
            else .first (!options.has "d") (!options.has "u")
        let plan : DistinctPlan := {
          report := report
          showsCount := options.has "c"
          skippedFields := fields
          skippedCharacters := characters
          compared := compared
          foldsCase := options.has "i"
          mark := if options.has "z" then '\x00' else '\n' }
        let tool := call.filtering (options.operands.take 1)
          (.lines plan.mark [] (.distinct { plan := plan }))
        let opening := (options.operands.drop 1).filterMap fun path =>
          if path = ['-'] then none else some (Job.openOutput 1 path false)
        { tool with
          jobs := opening ++ tool.jobs
          wording := { reading := fun name => "error reading ".toList ++ Quoting.always name } }

end CorpusJudge.Call
