import CorpusJudge.Emulator.Shell.Builtins
import CorpusJudge.Emulator.Shell.Describing
import CorpusJudge.Emulator.Shell.Folders
import CorpusJudge.Emulator.Shell.Input
import CorpusJudge.Emulator.Shell.Running
import CorpusJudge.Emulator.Shell.Verdict
import CorpusJudge.Emulator.Shell.Writing

/-!
# Built-in commands of the extended dialect

What the built-in commands of the extended dialect do, where it is not what those of the plain one do.
-/

namespace CorpusJudge.Shell

/-- Show how a command is used, as a complaint. -/
def Act.showUsage (usage : String) : Act Unit := do
  Act.setStatus 2
  Act.writeNow (Bytes.ofString (usage ++ "\n"))

/-! ## Leaving -/

/-- A number that an argument has to be. -/
def integerOf? (word : Octets) : Option Int :=
  (Integer.signed? 10 word).filter Integer.fits

/-- A number as the status of a program. -/
def statusOf (value : Int) : Nat := (value % 256).toNat

/-- Break out of loops, or go on with their next round. -/
def breakLoopsExtended (name : String) (goesOn : Bool) (arguments : List Octets) : Act Unit := do
  Act.setStatus 0
  let shell ← Act.shell
  let word := arguments.headD ['1']
  match integerOf? word with
  | none => Act.giveUp (some name) (String.ofList word ++ ": numeric argument required")
  | some count =>
    match leaveLoops (max 1 count.toNat) [] shell.frames with
    | none =>
      Act.writeNow (shell.complaint (some name)
        "only meaningful in a \x60for', \x60while', or \x60until' loop")
    | some (cleanups, rest) =>
      if count < 1 then Act.refuse name 1 (String.ofList word ++ ": loop count out of range")
      let goesOn := goesOn && 1 ≤ count
      Act.update fun shell =>
        { shell with frames := cleanups ++ (if goesOn then rest else rest.tail) }

/-- Return from a function or a script that was read. -/
def returnExtended (arguments : List Octets) : Act Unit := do
  let shell ← Act.shell
  match leaveCall [] shell.frames with
  | none =>
    Act.refuse "return" 2 "can only \x60return' from a function or sourced script"
  | some frames =>
    let leave (status : Nat) : Act Unit :=
      Act.update fun shell => { shell with frames := frames, status := status }
    match arguments with
    | [] => leave shell.status
    | [word] =>
      match integerOf? word with
      | some value => leave (statusOf value)
      | none =>
        leave 2
        Act.refuse "return" 2 (String.ofList word ++ ": numeric argument required")
    | _ => Act.refuse "return" 1 "too many arguments"

/-- End the shell. -/
def exitExtended (arguments : List Octets) : Act Unit := do
  match arguments with
  | [] => Act.exit (← Act.shell).status
  | [word] =>
    match integerOf? word with
    | some value => Act.exit (statusOf value)
    | none =>
      Act.refuse "exit" 2 (String.ofList word ++ ": numeric argument required")
      Act.exit 2
  | word :: _ =>
    if (integerOf? word).isNone then
      Act.refuse "exit" 2 (String.ofList word ++ ": numeric argument required")
      Act.exit 2
    else Act.refuse "exit" 1 "too many arguments"

/-- Become another program, or keep the redirections if none is named. -/
def replaceShell (arguments : List Octets) : Act Unit := do
  match Letters.read "cl" "a" arguments with
  | .error letter =>
    Act.refuseOption "exec" (String.ofList ['-', letter])
      "exec [-cl] [-a name] [command [argument ...]] [redirection ...]"
  | .ok options =>
    match options.operands with
    | [] => Act.setStatus 0
    | name :: _ =>
      let here := (← Act.shell).here
      let whole : Octets := if name.head? = some '/' || !name.contains '/' then name
        else nameOctets (tidyPath here (pathOf name)).text
      let failing (status : Nat) (caller : Option String) (message : String) : Act Unit := do
        Act.writeNow ((← Act.shell).complaint caller message)
        Act.exit status
      let level := ((← Act.shell).vars.value? "SHLVL").bind (Integer.signed? 10)
      let lowered := (toString ((level.getD 1) - 1)).toList
      if name.contains '/' then
        match (← Act.files).executableAt (pathOf name) with
        | .ok _ =>
          Act.update (·.assign "SHLVL" lowered)
          becomeProgram none options.operands
        | .error error =>
          let (message, status) := startFailure (← Act.shell) (← Act.files) whole error
          if status = 126 then
            Act.writeNow ((← Act.shell).complaint none message)
            let reason := (message.toList.drop (whole.length + 2))
            failing 126 (some "exec")
              (String.ofList name ++ ": cannot execute: " ++ String.ofList reason)
          else failing status none message
      else match ← programFor name with
        | .ok _ =>
          Act.update (·.assign "SHLVL" lowered)
          becomeProgram none options.operands
        | .error _ => failing 127 (some "exec") (String.ofList name ++ ": not found")

/-! ## Options and arguments -/

/-- How `set` is used. -/
def setUsage : String := "set [-abefhkmnptuvxBCEHPT] [-o option-name] [--] [-] [arg ...]"

/-- Set options, and replace the arguments if there are any. -/
def setOptionsExtended : List Octets → Act Unit
  | [] => pure ()
  | word :: rest => do
    let replace (arguments : List Octets) : Act Unit :=
      Act.update (·.withArguments arguments)
    match word with
    | ['-', '-'] => replace rest
    | ['-'] =>
      Act.update fun shell =>
        Switches.switchLetter (Switches.switchLetter shell 'x' false) 'v' false
      if !rest.isEmpty then replace rest
    | sign :: letter :: letters =>
      if sign ≠ '-' && sign ≠ '+' then replace (word :: rest)
      else
        let isOn := sign = '-'
        let known := "abefhkmnptuvxBCEHPTo".toList
        match (letter :: letters).find? fun letter => !known.contains letter with
        | some unknown =>
          Act.refuseOption "set" (String.ofList [sign, unknown]) setUsage
        | none =>
          for letter in letter :: letters do
            if letter ≠ 'o' then Act.update (Switches.switchLetter · letter isOn)
          if !(letter :: letters).contains 'o' then setOptionsExtended rest
          else
            match rest with
            | [] => Act.say "set" (Switches.optionTable isOn (← Act.shell))
            | name :: more =>
              let option := String.ofList name
              if (Switches.options.lookup option).isNone then
                Act.refuse "set" 2 (option ++ ": invalid option name")
              else
                Act.update (Switches.switchOption · option isOn)
                setOptionsExtended more
    | _ => replace (word :: rest)

/-- Set options and arguments, or list the variables. -/
def setExtended (arguments : List Octets) : Act Unit := do
  Act.setStatus 0
  if arguments.isEmpty then
    let shell ← Act.shell
    let functions := shell.functions.mergeSort fun (left, _) (right, _) => left ≤ right
    Act.say "set" (valueLines shell ++ functions.flatMap fun (name, body) =>
      functionText name body)
  else setOptionsExtended arguments

/-- Switch further behaviour on or off, or show it. -/
def shopt (arguments : List Octets) : Act Unit := do
  let name := "shopt"
  Act.setStatus 0
  match Letters.read "pqsuo" "" arguments with
  | .error letter =>
    Act.refuseOption name (String.ofList ['-', letter]) "shopt [-pqsu] [-o] [optname ...]"
  | .ok options =>
    let isOption := options.has 'o'
    let isOn (shell : State) (target : String) : Bool :=
      if isOption then Switches.isOptionOn shell target else shell.switches.contains target
    let isKnown (target : String) : Bool :=
      if isOption then (Switches.options.lookup target).isSome
      else (Switches.behaviour.lookup target).isSome
    let all := if isOption then Switches.options.map Prod.fst else Switches.behaviour.map Prod.fst
    let switching := options.has 's' || options.has 'u'
    let row (shell : State) (target : String) : Octets :=
      if options.has 'p' then
        if isOption then
          (if isOn shell target then "set -o " else "set +o ").toList ++ target.toList ++ ['\n']
        else Switches.behaviourTable false shell [target]
      else Switches.row target (isOn shell target)
    if options.operands.isEmpty then
      let shell ← Act.shell
      let wanted := if switching then all.filter fun target => isOn shell target = options.has 's'
        else all
      if !options.has 'q' then Act.say name (wanted.flatMap (row shell))
    else
      for word in options.operands do
        let target := String.ofList word
        if !isKnown target then
          Act.refuse name 1 (target ++ ": invalid " ++ (if isOption then "option" else "shell option") ++
            " name")
        else if switching then
          Act.update fun shell =>
            if isOption then Switches.switchOption shell target (options.has 's')
            else Switches.switch shell target (options.has 's')
        else
          let shell ← Act.shell
          if !isOn shell target then Act.setStatus 1
          if !options.has 'q' then Act.sayMore name (row shell target)

/-- Drop arguments. -/
def shiftExtended (arguments : List Octets) : Act Unit := do
  let name := "shift"
  Act.setStatus 0
  let word := arguments.headD ['1']
  match integerOf? word with
  | none => Act.refuse name 1 (String.ofList word ++ ": numeric argument required")
  | some count =>
    if count < 0 then Act.refuse name 1 (String.ofList word ++ ": shift count out of range")
    else if (← Act.shell).arguments.length < count.toNat then Act.setStatus 1
    else
      Act.update fun shell => { shell with arguments := shell.arguments.drop count.toNat }

/-- Go one step through the options among arguments. -/
def getoptsExtended (arguments : List Octets) : Act Unit := do
  match arguments with
  | known :: target :: given =>
    let shell ← Act.shell
    let isQuiet := known.head? = some ':' || shell.vars.value? "OPTERR" = some ['0']
    let found := nextOption known (if given.isEmpty then shell.arguments else given) shell.scan
    let name := String.ofList target
    if !isName target then
      return ← Act.refuse "getopts" 1 ("\x60" ++ name ++ "': not a valid identifier")
    let source := if given.isEmpty then shell.arguments else given
    let isInside : Bool := match found.scan.offset with
      | some offset =>
        (source[found.scan.index - 2]?).any fun argument => offset < argument.length
      | none => false
    let index := if isInside then found.scan.index - 1 else found.scan.index
    Act.update fun shell =>
      let vars := shell.vars.assign "OPTIND" (toString index).toList
      let vars := if found.isOver then vars.putBack "OPTARG" none
        else match found.value with
          | some [] => vars.putBack "OPTARG" none
          | some value => vars.assign "OPTARG" value
          | none => vars.putBack "OPTARG" none
      { shell with
        vars := vars.assign name [found.letter]
        scan := found.scan
        status := if found.isOver then 1 else 0 }
    if found.complaint.isSome && !isQuiet then
      let before := shell.scan
      let letter := match before.offset.bind fun offset =>
          (source[before.index - 2]?).bind fun argument => argument[offset]? with
        | some letter => letter
        | none => ((source[before.index - 1]?).getD []).tail.headD '?'
      let isKnown := (optionKind? letter known).isSome
      let text := if isKnown then "option requires an argument -- " else "illegal option -- "
      Act.writeNow (Bytes.ofOctets (shell.name ++ (": " ++ text).toList ++ [letter, '\n']))
  | _ => Act.showUsage "getopts: usage: getopts optstring name [arg ...]"

/-! ## Scripts and calculations -/

/-- What reads a script, and the path of the script; the failure is a complaint. -/
def findScriptExtended (word : Octets) : Act (Except String (Frame × Octets)) := do
  let files ← Act.files
  let readAt (path : Octets) : Except String (Frame × Octets) :=
    match files.find (pathOf path), files.read (pathOf path) with
    | .ok (_, .device device), _ => .ok (State.scriptFrom device, path)
    | .ok (_, .folder), _ => .error (String.ofList path ++ ": Is a directory")
    | _, .ok content => .ok (.script (State.scriptOf (Bytes.octets content)), path)
    | _, .error error => .error (String.ofList path ++ ": " ++ error.reason)
  if word.contains '/' then return readAt word
  let folders := Computer.searchPath (← Act.shell).vars.environment
  let tries := folders.map fun folder =>
    readAt (nameOctets ((Path.mk folder).join (pathOf word).text).text)
  return match tries.findSome? Except.toOption with
    | some found => .ok found
    | none => readAt word

/-- Read a script and execute it in this shell, perhaps with arguments of its own. -/
def sourceExtended (name : String) (arguments : List Octets) : Act Unit := do
  let arguments := if arguments.head? = some ['-', '-'] then arguments.tail else arguments
  match arguments with
  | [] =>
    Act.refuse name 2 "filename argument required"
    Act.showUsage (name ++ ": usage: " ++ name ++ " filename [arguments]")
  | word :: own =>
    match ← findScriptExtended word with
    | .error message =>
      Act.setStatus 1
      Act.writeNow ((← Act.shell).complaint none message)
    | .ok (reading, path) =>
      let shell ← Act.shell
      let before := if own.isEmpty then none else some (shell.arguments, shell.scan)
      Act.setStatus 0
      Act.push [reading, .within "source", .event State.returnEvent, .sourced shell.title before]
      Act.update fun shell =>
        let shell :=
          { shell with
            title := some path
            callers := ⟨"source", shell.line, shell.title, false⟩ :: shell.callers }
        if own.isEmpty then shell else shell.withArguments own

/-- Execute words as commands. -/
def evaluateWords (arguments : List Octets) : Act Unit := do
  let arguments := if arguments.head? = some ['-', '-'] then arguments.tail else arguments
  Act.setStatus 0
  let text := [' '].intercalate arguments
  let line := (← Act.shell).line
  if !text.isEmpty then
    Act.push [.script { State.scriptOf (State.closedText text) with line := line }, .within "eval"]

/-- Calculate; the status tells whether the last number is zero. -/
def calculateWords (arguments : List Octets) : Act Unit := do
  let name := "let"
  if arguments.isEmpty then return ← Act.refuse name 1 "expression expected"
  let mut last : Int := 0
  let mut isOver := false
  for word in arguments do
    if !isOver then
      match (← Act.shell).calculate word with
      | .ok (value, changed) =>
        Act.update fun _ => changed
        last := value
      | .error (.line message) =>
        Act.refuse name 1 message
        last := 0
        isOver := true
      | .error (.fatal message) =>
        Act.abort none message
        isOver := true
  Act.setStatus (if last = 0 then 1 else 0)

/-! ## Signals and jobs -/

/-- The pseudo signals of traps. -/
def pseudoSignals : List (String × Nat) :=
  [("EXIT", 0), ("DEBUG", State.commandEvent), ("ERR", State.failureEvent),
    ("RETURN", State.returnEvent)]

/-- The number of a signal by its name or number. -/
def signalNumber? (word : Octets) : Option Nat :=
  let name := String.ofList (word.map Char.toUpper)
  match pseudoSignals.lookup name with
  | some number => some number
  | none => Signal.prefixedNumber? word

/-- The name of a signal as traps are listed. -/
def signalTitle (number : Nat) : String :=
  match pseudoSignals.find? fun (_, other) => other = number with
  | some (name, _) => name
  | none =>
    if number = 16 then "SIGSTKFLT" else "SIG" ++ Signal.nameOf number

/-- All signals in a table. -/
def signalTable : Octets :=
  let numbers := ((List.range 65).filter fun number => 0 < number && number ≠ 32 && number ≠ 33)
  let cells := numbers.map fun number =>
    let digits := (toString number).toList
    List.replicate (2 - digits.length) ' ' ++ digits ++ ") ".toList ++ (signalTitle number).toList
  (cells.zipIdx.flatMap fun (cell, place) => cell ++ [if place % 5 = 4 then '\n' else '\t']) ++ ['\n']

/-- The command that sets a trap. -/
def trapLine (signal : Nat) (action : Octets) : Octets :=
  "trap -- ".toList ++ Quotation.single action ++ ' ' :: (signalTitle signal).toList ++ ['\n']

/-- Set what is executed when a signal comes, or list it. -/
def setTrapsExtended (arguments : List Octets) : Act Unit := do
  let name := "trap"
  let usage := "trap [-lp] [[arg] signal_spec ...]"
  Act.setStatus 0
  let shell ← Act.shell
  let ordered := shell.traps.mergeSort fun (left, _) (right, _) => left ≤ right
  let showAll (signals : List (Nat × Octets)) : Act Unit :=
    Act.say name (signals.flatMap fun (signal, action) => trapLine signal action)
  match arguments with
  | [] => showAll ordered
  | ['-', 'l'] :: _ => Act.say name signalTable
  | ['-', 'p'] :: wanted =>
    if wanted.isEmpty then showAll ordered
    else
      for word in wanted do
        match signalNumber? word with
        | none => Act.refuse name 1 (String.ofList word ++ ": invalid signal specification")
        | some signal =>
          if let some action := shell.traps.lookup signal then Act.sayMore name (trapLine signal action)
  | first :: rest =>
    let hasEnd := first = ['-', '-']
    let words := if hasEnd then rest else arguments
    let first := words.headD []
    match first with
    | '-' :: letter :: _ =>
      if !hasEnd then return ← Act.refuseOption name (String.ofList ['-', letter]) usage
    | _ => pure ()
    let isNumber := (Integer.natural? 10 first).isSome
    if words.length = 1 && !isNumber && (signalNumber? first).isNone then
      return ← Act.showUsage ("trap: usage: " ++ usage)
    let isReset := first = ['-'] || words.length = 1 || isNumber
    let signals := if first = ['-'] then words.tail else if isReset then words else words.tail
    for word in signals do
      match signalNumber? word with
      | none => Act.refuse name 1 (String.ofList word ++ ": invalid signal specification")
      | some signal =>
        Act.update fun shell =>
          let others := shell.traps.filter fun (other, _) => other ≠ signal
          { shell with traps := if isReset then others else others ++ [(signal, first)] }

/-- How `kill` is used. -/
def killUsage : String :=
  "kill: usage: kill [-s sigspec | -n signum | -sigspec] pid | jobspec ... or kill -l [sigspec]"

/-- List signals, or turn names and numbers into each other. -/
def listSignalsExtended (arguments : List Octets) : Act Unit := do
  if arguments.isEmpty then Act.say "kill" signalTable
  for word in arguments do
    match Integer.natural? 10 word with
    | some number =>
      let wanted := if 128 < number then number - 128 else number
      if 0 < wanted && wanted < 65 then
        Act.sayMore "kill" ((signalTitle wanted).toList.drop 3 ++ ['\n'])
      else Act.refuse "kill" 1 (String.ofList word ++ ": invalid signal specification")
    | none =>
      match Signal.prefixedNumber? word with
      | some number => Act.sayMore "kill" ((toString number).toList ++ ['\n'])
      | none => Act.refuse "kill" 1 (String.ofList word ++ ": invalid signal specification")

/-- Send a signal to programs. -/
def sendSignal (signal : Nat) (words : List Octets) : Act Unit := do
  if words.isEmpty then return ← Act.showUsage killUsage
  Act.setStatus 0
  for word in words do
    let shell ← Act.shell
    let found : Except String Nat :=
      if word.head? = some '%' then
        match shell.job? word with
        | some process => .ok process
        | none => .error (String.ofList word ++ ": no such job")
      else match integerOf? word with
        | some number => .ok number.natAbs
        | none => .error (String.ofList word ++ ": arguments must be process or job IDs")
    match found with
    | .error message => Act.refuse "kill" 1 message
    | .ok number =>
      match (← get).proc? number with
      | some _ => modify (·.signal number signal)
      | none => Act.refuse "kill" 1 ("(" ++ String.ofList word ++ ") - No such process")

/-- Send a signal, or list signals. -/
def killExtended (arguments : List Octets) : Act Unit := do
  let invalid (word : Octets) : Act Unit :=
    Act.refuse "kill" 1 (String.ofList word ++ ": invalid signal specification")
  match arguments with
  | [] => Act.showUsage killUsage
  | ['-', 'l'] :: rest => listSignalsExtended rest
  | ['-', 'L'] :: rest => listSignalsExtended rest
  | ['-', '-'] :: rest => sendSignal 15 rest
  | option :: rest =>
    if option = ['-', 's'] || option = ['-', 'n'] then
      match rest with
      | [] => Act.refuse "kill" 1 (String.ofList option ++ ": option requires an argument")
      | word :: words =>
        match Signal.prefixedNumber? word with
        | some signal => sendSignal signal words
        | none => invalid word
    else match option with
      | '-' :: name =>
        match Signal.prefixedNumber? name with
        | some signal => sendSignal signal rest
        | none => invalid name
      | _ => sendSignal 15 arguments

/-- Wait for background programs. -/
def waitExtended (arguments : List Octets) : Act Unit := do
  let shell ← Act.shell
  let refuse := Act.refuse "wait"
  let isNext := arguments.head? = some ['-', 'n']
  let words := arguments.filter fun word => word ≠ ['-', 'n'] && word ≠ ['-', 'f']
  Act.setStatus 0
  match words with
  | [] =>
    if isNext then
      match shell.children.find? fun _ => true with
      | some process =>
        Act.update fun shell =>
          { shell.withoutJobs [process] with children := shell.children.filter (· ≠ process) }
        Act.push [.pausing [process] false]
      | none => Act.setStatus 127
    else
      Act.update fun shell => { shell with children := [], jobs := [] }
      Act.push [.pausing shell.children true]
  | _ =>
    let mut processes : List Nat := []
    for word in words do
      if word.head? = some '%' then
        match shell.job? word with
        | some process => processes := processes ++ [process]
        | none => refuse 127 (String.ofList word ++ ": no such job")
      else match Integer.natural? 10 word with
        | none =>
          refuse 1 ("\x60" ++ String.ofList word ++ "': not a pid or valid job spec")
        | some process =>
          if shell.children.contains process then processes := processes ++ [process]
          else refuse 127 s!"pid {process} is not a child of this shell"
    Act.update (·.withoutJobs processes)
    if !processes.isEmpty then Act.push [.pausing processes false]

/-- Show the call that the shell is in. -/
def showCaller (arguments : List Octets) : Act Unit := do
  let shell ← Act.shell
  match shell.callers, arguments with
  | [], [] => Act.say "caller" "0 NULL\n".toList
  | caller :: _, [] =>
    let script := caller.title.getD shell.name
    Act.say "caller" ((toString caller.line).toList ++ ' ' :: script ++ ['\n'])
  | callers, word :: _ =>
    let place := (Integer.natural? 10 word).getD callers.length
    match callers[place]? with
    | some caller =>
      let function := ((callers[place + 1]?).map Caller.name).getD "main"
      let script := caller.title.getD shell.name
      Act.say "caller" ((toString caller.line).toList ++ ' ' :: function.toList ++ ' ' :: script ++ ['\n'])
    | none => Act.setStatus 1

/-! ## Limits -/

/-- Show or set the mask for the modes of new files. -/
def setMaskExtended (arguments : List Octets) : Act Unit := do
  let name := "umask"
  Act.setStatus 0
  match Letters.read "pS" "" arguments with
  | .error letter => Act.refuseOption name (String.ofList ['-', letter]) "umask [-p] [-S] [mode]"
  | .ok options =>
    let mask := (← Act.proc).mask
    match options.operands with
    | [] =>
      let isWordy := options.has 'S'
      let text := if isWordy then Mode.classes (Mode.without 0o777 mask) else Mode.octal 4 mask
      let start := if !options.has 'p' then [] else if isWordy then "umask -S ".toList else "umask ".toList
      Act.say name (start ++ text ++ ['\n'])
    | text :: _ =>
      let isOctal := text.head?.any Char.isDigit
      let wanted := if isOctal then (Mode.changed? 0 false text 0).filter (· ≤ 0o777)
        else (Mode.changed? 0 false text (Mode.without 0o777 mask)).map (Mode.without 0o777 ·)
      match wanted with
      | some mask =>
        Act.updateProc fun proc => { proc with mask := mask }
        if options.has 'S' then
          Act.say name (Mode.classes (Mode.without 0o777 mask) ++ ['\n'])
      | none =>
        if isOctal then Act.refuse name 1 (String.ofList text ++ ": octal number out of range")
        else
          let rest := text.dropWhile "ugoa".toList.contains
          let mark := rest.headD (text.getLast?.getD ' ')
          Act.refuse name 1 ("\x60" ++ String.ofList [mark] ++ "': invalid symbolic mode " ++
            (if "+-=".toList.contains mark then "character" else "operator"))

/-- Show or set a limit for what programs may use. -/
def limitExtended (arguments : List Octets) : Act Unit := do
  let name := "ulimit"
  let flags := arguments.takeWhile fun word => word.head? = some '-'
  let letters := flags.flatMap List.tail
  Act.setStatus 0
  match letters.find? fun letter => !"HSabcdefiklmnpqrstuvxPRT".toList.contains letter with
  | some unknown =>
    Act.refuseOption name (String.ofList ['-', unknown]) "ulimit [-SHabcdefiklmnpqrstuvxPRT] [limit]"
  | none =>
    match arguments.drop flags.length with
    | [] => limit arguments
    | value :: _ =>
      let words := ["unlimited", "hard", "soft"].map String.toList
      if words.contains value || (Integer.natural? 10 value).isSome then limit arguments
      else Act.refuse name 1 (String.ofList value ++ ": invalid number")

/-! ## Input -/

/-- Start reading a line. -/
def readExtended (arguments : List Octets) : Act Unit := do
  let name := "read"
  let usage := "read [-ers] [-a array] [-d delim] [-i text] [-n nchars] [-N nchars] [-p prompt] " ++
    "[-t timeout] [-u fd] [name ...]"
  match Letters.read "ers" "adinNptu" arguments with
  | .error letter =>
    let text := String.ofList ['-', letter]
    if "adinNptu".toList.contains letter then
      Act.refuse name 2 (text ++ ": option requires an argument")
      Act.showUsage ("read: usage: " ++ usage)
    else Act.refuseOption name text usage
  | .ok options =>
    let descriptor := ((options.flags.lookup 'u').bind (Integer.natural? 10)).getD 0
    let names := options.operands.map String.ofList
    let most := ((options.flags.lookup 'N').or (options.flags.lookup 'n')).bind (Integer.natural? 10)
    let list := (options.flags.lookup 'a').map String.ofList
    let mark := (options.flags.lookup 'd').map fun text => text.headD '\x00'
    match (list.toList ++ names).find? fun target => (spotOf? target.toList).isNone ||
        target.toList.head?.any fun first => !isNameStart first with
    | some target => Act.refuse name 1 ("\x60" ++ target ++ "': not a valid identifier")
    | none =>
      if ((← Act.proc).descriptors.lookup descriptor).isNone then
        Act.refuse name 1 (s!"{descriptor}: invalid file descriptor: Bad file descriptor")
      else
        let task : ReadTask :=
          { descriptor := descriptor
            isRaw := options.has 'r'
            mark := mark.getD '\n'
            most := most
            ignoresMark := options.has 'N'
            names := names
            list := list }
        Act.push [.reading task []]

/-- Start reading lines for the elements of a variable. -/
def readLines (name : String) (arguments : List Octets) : Act Unit := do
  let usage :=
    " [-d delim] [-n count] [-O origin] [-s count] [-t] [-u fd] [-C callback] [-c quantum] [array]"
  match Letters.read "t" "dnOsuCc" arguments with
  | .error letter => Act.refuseOption name (String.ofList ['-', letter]) (name ++ usage)
  | .ok options =>
    let number (letter : Char) : Option Nat :=
      (options.flags.lookup letter).bind (Integer.natural? 10)
    let target := String.ofList (options.operands.headD "MAPFILE".toList)
    if !isName target.toList then
      Act.refuse name 1 ("\x60" ++ target ++ "': not a valid identifier")
    else
      let descriptor := (number 'u').getD 0
      if ((← Act.proc).descriptors.lookup descriptor).isNone then
        Act.refuse name 1 (s!"{descriptor}: invalid file descriptor: Bad file descriptor")
      else
        let mark := (options.flags.lookup 'd').map fun text => text.headD '\x00'
        let task : LinesTask :=
          { descriptor := descriptor
            name := target
            isTrimmed := options.has 't'
            mark := mark.getD '\n'
            most := (number 'n').getD 0
            passed := (number 's').getD 0
            origin := number 'O' }
        Act.push [.lines task []]

/-- Show a condition by the status. -/
def testExtended (name : String) (arguments : List Octets) : Act Unit := do
  let files ← Act.files
  let shell ← Act.shell
  let decided := if name ≠ "[" then Verdict.holds shell files arguments
    else if arguments.getLast? = some [']'] then Verdict.holds shell files arguments.dropLast
    else .error "missing \x60]'"
  match decided with
  | .ok truth => Act.setStatus (if truth then 0 else 1)
  | .error message => Act.refuse name 2 message

/-- Execute a built-in command of the extended dialect with its arguments. -/
def runExtendedBuiltin (name : String) (fields : List Field) : Act Unit := do
  let arguments := fields.map (·.text)
  match name with
  | ":" | "true" => Act.setStatus 0
  | "false" => Act.setStatus 1
  | "." | "source" => sourceExtended name arguments
  | "break" => breakLoopsExtended name false arguments
  | "continue" => breakLoopsExtended name true arguments
  | "eval" => evaluateWords arguments
  | "exit" | "logout" => exitExtended arguments
  | "return" => returnExtended arguments
  | "declare" | "typeset" | "local" | "export" | "readonly" =>
    declare name fields
  | "unset" => forget arguments
  | "let" => calculateWords arguments
  | "set" => setExtended arguments
  | "shopt" => shopt arguments
  | "shift" => shiftExtended arguments
  | "trap" => setTrapsExtended arguments
  | "cd" => changeFolderExtended arguments
  | "pwd" => showFolderExtended arguments
  | "pushd" => pushFolder arguments
  | "popd" => popFolder arguments
  | "dirs" => dirs arguments
  | "echo" => echoExtended arguments
  | "printf" => printfExtended arguments
  | "read" => readExtended arguments
  | "mapfile" | "readarray" => readLines name arguments
  | "test" | "[" => testExtended name arguments
  | "kill" => killExtended arguments
  | "wait" => waitExtended arguments
  | "type" => describeType arguments
  | "command" => describeCommand arguments
  | "builtin" =>
    match arguments with
    | [] => Act.setStatus 0
    | word :: _ => Act.refuse name 1 (String.ofList word ++ ": not a shell builtin")
  | "caller" => showCaller arguments
  | "times" =>
    Act.setStatus 0
    Act.say name "0m0.000s 0m0.000s\n0m0.000s 0m0.000s\n".toList
  | "umask" => setMaskExtended arguments
  | "ulimit" => limitExtended arguments
  | "getopts" => getoptsExtended arguments
  | "alias" => setAliasesExtended arguments
  | "unalias" => dropAliasesExtended arguments
  | "fg" | "bg" => Act.refuse name 1 "no job control"
  | "jobs" => listJobs arguments
  | "hash" => hashExtended arguments
  | _ => Act.setStatus 0

end CorpusJudge.Shell
