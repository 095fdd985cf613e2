import CorpusJudge.Emulator.Signal
import CorpusJudge.Emulator.Tool.Words

/-!
# Tools that start programs

Tools that become another program in changed circumstances, or start programs and wait for them.
-/

namespace CorpusJudge.Call

/-- The status that tells why a program was not started. -/
def refusalStatus (error : FileError) : Nat :=
  if error = .notFound then 127 else 126

/-- Become another program, or complain in some words. -/
def becoming (call : Call) (environment : List (String × Octets)) (command : List Octets)
    (wording : Octets → Octets) : Job :=
  .become environment command fun error =>
    [.complain call.name (wording (command.headD []) ++ s!": {error.reason}".toList),
      .quit (refusalStatus error)]

/-- An environment with a variable set, in its place if it is there. -/
def withSetting (environment : List (String × Octets)) (word : Octets) : List (String × Octets) :=
  let name := String.ofList (word.takeWhile (· ≠ '='))
  let value := (word.dropWhile (· ≠ '=')).drop 1
  if (environment.lookup name).isSome then
    environment.map fun (other, old) => (other, if other = name then value else old)
  else environment ++ [(name, value)]

/-- Start a program in a changed environment, or show the environment. -/
def environmentTool (call : Call) : Tool :=
  let table : OptionTable :=
    ⟨"iu:0C:S:v", [("ignore-environment", 'i'), ("unset", 'u'), ("null", '0'), ("chdir", 'C'),
      ("split-string", 'S'), ("debug", 'v')], [], true⟩
  let arguments := call.arguments.map fun word => if word = ['-'] then ['-', 'i'] else word
  (call.withArguments arguments).withOptions table 125 fun options =>
    let dropped := (options.values "u").map String.ofList
    let start := if options.has "i" then []
      else call.environment.filter fun (name, _) => !dropped.contains name
    let pieces := (options.values "S").flatMap fun text =>
      (Text.segments ' ' text).filter (· ≠ [])
    let words := pieces ++ options.operands
    let settings := words.takeWhile fun word => word.contains '=' && word.head? ≠ some '='
    let environment := settings.foldl withSetting start
    let mark := if options.has "0" then '\x00' else '\n'
    match words.drop settings.length with
    | [] =>
      call.say (environment.flatMap fun (name, value) => name.toList ++ '=' :: value ++ [mark])
    | command =>
      if options.has "0" then
        call.misused 125 "cannot specify --null (-0) with command".toList
      else
        let enter := (options.value? "C").toList.map fun path => Job.enter path 125
        call.jobs (enter ++ [call.becoming environment command Quoting.always])

/-- Start a program that gives way to others more easily, or show how easily. -/
def nice (call : Call) : Tool :=
  let arguments := match call.arguments with
    | ('-' :: digit :: digits) :: rest =>
      if (digit :: digits).all Char.isDigit then ['-', 'n'] :: (digit :: digits) :: rest
      else call.arguments
    | arguments => arguments
  (call.withArguments arguments).withOptions ⟨"n:", [("adjustment", 'n')], [], true⟩ 125
    fun options =>
      let adjustment := (options.value? "n").getD ['1', '0']
      match Integer.signed? 10 adjustment, options.operands with
      | none, _ => call.refuse 125 ("invalid adjustment ".toList ++ quoted adjustment)
      | some _, [] =>
        if options.has "n" then
          call.misused 125 "a command must be given with an adjustment".toList
        else call.jobs [.look fun facts =>
          [.emit 1 (Bytes.ofOctets ((toString facts.niceness).toList ++ ['\n']))]]
      | some count, command =>
        call.jobs [.renice count, call.becoming call.environment command Quoting.always]

/-- Start a program that outlives its terminal. -/
def nohup (call : Call) : Tool :=
  call.withOptions ⟨"", [], [], true⟩ 125 fun options =>
    if options.operands.isEmpty then call.misused 125 "missing operand".toList
    else call.jobs
      [.ignore 1, call.becoming call.environment options.operands fun name =>
        "failed to run command ".toList ++ Quoting.always name]

/-- Start a program in a session of its own. -/
def session (call : Call) : Tool :=
  let table : OptionTable := ⟨"cfw", [("ctty", 'c'), ("fork", 'f'), ("wait", 'w')], [], true⟩
  call.withOptions table 1 fun options =>
    if options.operands.isEmpty then call.misused 1 "no command specified".toList
    else call.jobs [call.becoming call.environment options.operands fun name =>
      "failed to execute ".toList ++ name]

/-- Start a program with other buffers. -/
def buffered (call : Call) : Tool :=
  call.withOptions ⟨"i:o:e:", [("input", 'i'), ("output", 'o'), ("error", 'e')], [], true⟩ 125
    fun options =>
      if options.operands.isEmpty then call.misused 125 "missing operand".toList
      else call.jobs [call.becoming call.environment options.operands fun name =>
        "failed to run command ".toList ++ Quoting.always name]

/-- Start a program and send it a signal when its time is over. -/
def timeLimit (call : Call) : Tool :=
  let table : OptionTable :=
    ⟨"k:s:vfp", [("kill-after", 'k'), ("signal", 's'), ("verbose", 'v'), ("foreground", 'f'),
      ("preserve-status", 'p')], [], true⟩
  call.withOptions table 125 fun options =>
    let signal? := match options.value? "s" with
      | some name => Signal.prefixedNumber? name
      | none => some 15
    let killAfter? := (options.value? "k").map duration?
    match signal?, killAfter?, options.operands with
    | none, _, _ =>
      call.misused 125 (Quoting.always ((options.value? "s").getD []) ++ ": invalid signal".toList)
    | _, some none, _ =>
      call.misused 125 ("invalid time interval ".toList ++ quoted ((options.value? "k").getD []))
    | some signal, killAfter, limit :: name :: arguments =>
      match duration? limit with
      | none => call.misused 125 ("invalid time interval ".toList ++ quoted limit)
      | some micros =>
        let kill := match killAfter with
          | some (some more) => if more = 0 then [] else [(micros + more, 9)]
          | _ => []
        let limits := if micros = 0 then [] else (micros, signal) :: kill
        call.jobs [.launch
          { command := name :: arguments, environment := call.environment, limits := limits }
          fun outcome =>
            match outcome.ending with
            | .error error =>
              [.complain call.name ("failed to run command ".toList ++ Quoting.always name ++
                s!": {error.reason}".toList), .quit (refusalStatus error)]
            | .ok ending =>
              let note := if outcome.isLate && options.has "v" then
                  [Job.complain call.name (s!"sending signal {Signal.nameOf signal} to command ".toList ++
                    Quoting.always name)]
                else []
              note ++ match ending with
                | .signal number =>
                  if !outcome.isLate then [.die number]
                  else if number = 9 then [if options.has "f" then .finish 137 else .die 9]
                  else [.finish (if options.has "p" then ending.status else 124)]
                | .code status =>
                  [.finish (if outcome.isLate && !options.has "p" then 124 else status)]]
    | _, _, _ => call.jobs [.emit 2 (Bytes.ofOctets call.advice), .finish 125]

/-- Where the programs with some names lie. -/
def which (call : Call) : Tool :=
  call.withOptions ⟨"as", [], [], false⟩ 2 fun options =>
    let search := match call.environment.lookup "PATH" with
      | some path => Text.segments ':' path
      | none => []
    let isProgram (path : Octets) : Bool :=
      match call.facts.files.find (Shell.pathOf path) with
      | .ok (place, entry) => entry.isFile && (call.facts.files.detail place).mode.isExecutable
      | .error _ => false
    let found (name : Octets) : List Octets :=
      let paths := if name.contains '/' then [name]
        else search.map fun folder => folder ++ '/' :: name
      let found := paths.filter isProgram
      if options.has "a" then found else found.take 1
    let all := options.operands.map found
    call.say (all.flatten.flatMap (· ++ ['\n']))
      (if all.all (!·.isEmpty) && !all.isEmpty then 0 else 1)

/-- Send signals, or name them. -/
def kill (call : Call) : Tool :=
  let listed (words : List Octets) : Tool :=
    match words with
    | [] => call.say (((" ".intercalate ((List.range 31).map fun index =>
        Signal.nameOf (index + 1))).toList) ++ ['\n'])
    | words =>
      call.say <| words.flatMap fun word =>
        match Integer.natural? 10 word, Signal.prefixedNumber? word with
        | some number, _ => (Signal.nameOf (number % 128)).toList ++ ['\n']
        | none, some number => (toString number).toList ++ ['\n']
        | none, none => []
  let send (signal : Option Nat) (name : Octets) (targets : List Octets) : Tool :=
    match signal with
    | none => call.refuse 1 ("unknown signal name ".toList ++ name)
    | some signal =>
      call.jobs <| targets.flatMap fun target =>
        match Integer.signed? 10 target with
        | some process => [.signal signal process]
        | none => [.complain call.name ("failed to parse argument: '".toList ++ target ++ ['\'']),
            .finish 1]
  match call.arguments with
  | ['-', 'l'] :: rest => listed rest
  | ['-', 's'] :: name :: rest => send (Signal.prefixedNumber? name) name rest
  | ['-', 'n'] :: name :: rest => send (Signal.prefixedNumber? name) name rest
  | ['-', '-'] :: rest => send (some 15) [] rest
  | ('-' :: letter :: name) :: rest =>
    send (Signal.prefixedNumber? (letter :: name)) (letter :: name) rest
  | targets => send (some 15) [] targets

/-! ## Commands from input

Input is read as items between blanks or marks; commands are started with them as arguments, as many
at a time as fit. -/


/-- Items read from input, last one first, with the number of the line each one starts in; and what
was read of an item that has not ended, in reverse, if there is one. -/
structure Items where
  found : List (Octets × Nat) := []
  open? : Option Octets := none
  line : Nat := 0
  endsInBlank : Bool := false

namespace Items

/-- The items with the open one ended. -/
def ended (items : Items) : Items :=
  match items.open? with
  | some text => { items with found := (text.reverse, items.line) :: items.found, open? := none }
  | none => items

/-- The items with a character more in the open one. -/
def withCharacter (items : Items) (character : Char) : Items :=
  { items with open? := some (character :: items.open?.getD []), endsInBlank := false }

/-- Read items between blanks, with quotes and backslashes; the failure is a quote that is not
closed.  With `byLine`, blanks only count in front of an item. -/
def read (byLine : Bool) (items : Items) : Octets → Except String Items
  | [] => .ok items.ended
  | '\\' :: character :: rest => read byLine (items.withCharacter character) rest
  | '\n' :: rest =>
    let continues := items.endsInBlank && !byLine
    let isEmpty := items.open?.isNone && !items.found.any fun (_, line) => line = items.line
    let next := items.ended
    read byLine { next with
      line := if continues || isEmpty then next.line else next.line + 1
      endsInBlank := false } rest
  | character :: rest =>
    if character = '\'' || character = '"' then
      let inside := rest.takeWhile fun other => other ≠ character && other ≠ '\n'
      match h : rest.drop inside.length with
      | closing :: after =>
        if closing = character then
          have : after.length < rest.length + 1 := by
            have := congrArg List.length h
            simp only [List.length_drop, List.length_cons] at this
            omega
          read byLine { items with open? := some (inside.reverse ++ items.open?.getD []) } after
        else .error (if character = '"' then "double" else "single")
      | [] => .error (if character = '"' then "double" else "single")
    else if (character = ' ' || character = '\t') && (!byLine || items.open?.isNone) then
      let next := items.ended
      read byLine { next with endsInBlank := true } rest
    else read byLine (items.withCharacter character) rest
termination_by text => text.length

/-- The items in order, up to one that marks the end. -/
def toList (items : Items) (mark : Option Octets) : List (Octets × Nat) :=
  items.found.reverse.takeWhile fun (text, _) => some text ≠ mark

end Items

/-- A text with each occurrence of another one replaced. -/
def replacedText (wanted image : Octets) : Nat → Octets → Octets
  | 0, text => text
  | fuel + 1, text =>
    if !wanted.isEmpty && wanted.isPrefixOf text then
      image ++ replacedText wanted image fuel (text.drop wanted.length)
    else match text with
      | [] => []
      | character :: rest => character :: replacedText wanted image fuel rest

/-- Items in groups: so many at most, from so many lines at most, and so long at most. -/
def grouped (most lines size : Nat) (group : List (Octets × Nat)) (width : Nat) :
    List (Octets × Nat) → List (List Octets)
  | [] => if group.isEmpty then [] else [group.reverse.map Prod.fst]
  | (item, line) :: rest =>
    let first := (group.getLast?.map Prod.snd).getD line
    let fits := group.length < most && line < first + lines && width + item.length + 1 ≤ size
    if fits || group.isEmpty then
      grouped most lines size ((item, line) :: group) (width + item.length + 1) rest
    else group.reverse.map Prod.fst ::
      grouped most lines size [(item, line)] (item.length + 1) rest

/-- What follows a command that was started for items: the status, and whether no more are. -/
def afterCommand (call : Call) (name : Octets) (outcome : LaunchResult) (rest : List Job) : List Job :=
  match outcome.ending with
  | .error error =>
    [.complain call.name (name ++ s!": {error.reason}".toList), .quit (refusalStatus error)]
  | .ok (.signal number) =>
    [.complain call.name (name ++ s!": terminated by signal {number}".toList), .quit 125]
  | .ok (.code 255) =>
    [.complain call.name (name ++ ": exited with status 255; aborting".toList), .quit 124]
  | .ok (.code 0) => rest
  | .ok (.code _) => .finish 123 :: rest

/-- The jobs of starting commands one after the other. -/
def commandJobs (call : Call) (shows : Bool) : List (List Octets) → List Job
  | [] => []
  | command :: later =>
    (if shows then [.emit 2 (Bytes.ofOctets (spaced command ++ ['\n']))] else []) ++
      [.launch { command := command, environment := call.environment, input := some [] }
        fun outcome =>
          call.afterCommand (command.headD []) outcome (call.commandJobs shows later)]

/-- Start commands with arguments from input. -/
def argumentsFromInput (call : Call) : Tool :=
  let table : OptionTable :=
    ⟨"0a:d:E:e::I:i::L:l::n:P:prs:tx", [("null", '0'), ("arg-file", 'a'), ("delimiter", 'd'),
      ("eof", 'e'), ("replace", 'i'), ("max-lines", 'l'), ("max-args", 'n'), ("max-procs", 'P'),
      ("interactive", 'p'), ("no-run-if-empty", 'r'), ("max-chars", 's'), ("verbose", 't'),
      ("exit", 'x')], [], true⟩
  call.withOptions table 1 fun options =>
    let command := if options.operands.isEmpty then ["echo".toList] else options.operands
    let numbered := ["n", "L", "s", "P"].filterMap fun key =>
      (options.value? key).map fun text => (key, text)
    match numbered.find? fun (_, text) => (Integer.natural? 10 text).isNone with
    | some (key, text) =>
      call.misused 1 ("invalid number \"".toList ++ text ++ s!"\" for -{key} option".toList)
    | none =>
      match numbered.find? fun (key, text) => key ≠ "P" && Integer.natural? 10 text = some 0 with
      | some (key, _) =>
        call.misused 1 s!"value 0 for -{key} option should be >= 1".toList
      | none =>
        let number (key : String) : Option Nat := (options.value? key).bind (Integer.natural? 10)
        let pattern := if options.has "I" then options.value? "I"
          else if options.has "i" then
            some (match options.value? "i" with
              | some [] => "\x7b\x7d".toList
              | some text => text
              | none => [])
          else none
        let lines := (number "L").orElse fun _ =>
          if options.has "l" then some (((options.value? "l").bind (Integer.natural? 10)).getD 1)
          else none
        let mark := (options.value? "E").orElse fun _ => (options.value? "e").filter (· ≠ [])
        let delimiter? := if options.has "0" then some '\x00'
          else (options.value? "d").map fun text => match text with
            | ['\\', 'n'] => '\n'
            | ['\\', 't'] => '\t'
            | ['\\', '0'] => '\x00'
            | other => other.headD '\n'
        let size := (number "s").getD 131072
        let run (text : Octets) : List Job :=
          let items : Except String (List (Octets × Nat)) :=
            match delimiter? with
            | some delimiter =>
              let pieces := Text.segments delimiter text
              let pieces := if pieces.getLast? = some [] then pieces.dropLast else pieces
              .ok pieces.zipIdx
            | none => (Items.read pattern.isSome {} text).map (·.toList mark)
          match items with
          | .error kind =>
            [.complain call.name (s!"unmatched {kind} quote; by default quotes are special to " ++
              "xargs unless you use the -0 option").toList, .quit 1]
          | .ok items =>
            let width := command.foldl (fun width word => width + word.length + 1) 0
            let commands := match pattern with
              | some pattern => items.map fun (item, _) =>
                  command.map fun word => replacedText pattern item word.length word
              | none =>
                let groups := grouped ((number "n").getD 1000000)
                  (lines.getD 100000000) (size - width) [] 0 items
                let groups := if groups.isEmpty && !options.has "r" then [[]] else groups
                groups.map (command ++ ·)
            call.commandJobs (options.has "t") commands
        let sources := (options.value? "a").toList
        call.gathering sources fun inputs => run (Bytes.octets (inputs.flatMap Prod.snd))

end CorpusJudge.Call
