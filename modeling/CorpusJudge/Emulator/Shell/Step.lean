import CorpusJudge.Emulator.Shell.Simple

/-!
# Shells at work

A turn of a shell takes the topmost frame of what there is to do and does it, or the part of it that
can be done now.
-/

namespace CorpusJudge.Shell

/-! ## Commands -/

/-- Start the stages of a pipeline, each reading what the one before writes; the result is their
numbers, last one first. -/
def startStages (input : Option Nat) (started : List Nat) : List Command → Act (List Nat)
  | [] => return started
  | [stage] => do
    let number ← Act.fork stage fun proc => match input with
      | some channel => proc.bind 0 channel
      | none => proc
    return number :: started
  | stage :: rest => do
    let ((entrance, outlet), machine) := (← get).addPipe
    MonadStateOf.set machine
    let number ← Act.fork stage fun proc =>
      let proc := match input with
        | some channel => proc.bind 0 channel
        | none => proc
      proc.bind 1 entrance
    startStages (some outlet) (number :: started) rest

/-- Execute a command in the background, with no input. -/
def runInBackground (command : Command) : Act Unit := do
  let (channel, machine) := (← get).addChannel (.device .null)
  MonadStateOf.set machine
  let number ← Act.fork command (·.bind 0 channel)
  Act.update fun shell => { shell.withJob number with status := 0 }

/-- Find the branches of a selection that are executed: the first one whose pattern matches, and those
that it goes on with. -/
def chooseBranch (text : Octets) (isReached : Bool) : List Branch → Expand Command
  | [] => return .nothing
  | .mk patterns body ending :: rest => do
    let isChosen ← patterns.foldlM (fun isChosen word => do
      if isChosen then return true
      let glyphs ← expandWord word
      let shell := (← get).shell
      let foldsCase := shell.isExtended && shell.switches.contains "nocasematch"
      return Glob.matchesFolded foldsCase (readPattern shell glyphs) text) isReached
    if !isChosen then chooseBranch text false rest
    else match ending with
      | .stop => return body
      | .next => return .sequence body (← chooseBranch text true rest)
      | .search =>
        match ← chooseBranch text false rest with
        | .nothing => return body
        | more => return .sequence body more

/-- A calculation as a command; the failure is a complaint. -/
def calculateCommand (command : Command) (outputs : List Octets) (expression : List Part) :
    Act Unit := do
  let expansion : Expand Octets := return textOf (← Expand.asWhole (expandParts false expression))
  if let some text ← expanding command outputs expansion then
    Act.trace ["((".toList, text, "))".toList]
    match (← Act.shell).calculate text with
    | .ok (value, changed) =>
      Act.update fun _ => { changed with status := if value = 0 then 1 else 0, stageStatuses := [] }
      Act.push [.checked]
    | .error (.fatal message) => Act.abort none message
    | .error (.line message) =>
      Act.setStatus 1
      Act.update fun shell => { shell with stageStatuses := [] }
      let isPlain := ": readonly variable".toList.isSuffixOf message.toList
      Act.writeNow ((← Act.shell).complaint none (if isPlain then message else "((: " ++ message))
      Act.push [.checked]

/-- Let a loop go through words, or let one of them be chosen in each round. -/
def startWords (command : Command) (outputs : List Octets) (name : String) (words : Option (List Word))
    (frame : List Octets → Frame) : Act Unit := do
  if !isName name.toList then
    Act.setStatus 1
    Act.writeNow ((← Act.shell).complaint none ("\x60" ++ name ++ "': not a valid identifier"))
  else match words with
  | none =>
    Act.setStatus 0
    Act.push [frame (← Act.shell).arguments]
  | some words =>
    if let some fields ← expanding command outputs (expandFields (← Act.files) words) then
      Act.setStatus 0
      Act.push [frame fields]

/-- A calculation with its text, if there is one at all. -/
def calculationOf (line : Nat) (text : List Char) (expression : List Part) : Command :=
  let command := Command.spoken line text (.calculation line expression)
  match expression with
  | [] => .nothing
  | [.text _ characters] => if characters.all Calculating.isBlank then .nothing else command
  | _ => command

/-- Start a command beside the shell, which can write to it and read what it writes. -/
def startCoprocess (name : String) (command : Command) : Act Unit := do
  let ((toInner, fromShell), machine) := (← get).addPipe
  let ((toShell, fromInner), machine) := machine.addPipe
  MonadStateOf.set machine
  let number ← Act.fork command fun proc => (proc.bind 0 fromShell).bind 1 toShell
  let used := (← Act.proc).descriptors.map Prod.fst
  let free := coprocessDescriptors.filter fun descriptor => !used.contains descriptor
  let entrance := free.headD 63
  let outlet := (free.drop 1).headD 60
  Act.bind entrance fromInner
  Act.bind outlet toInner
  Act.update fun shell =>
    let ends := [entrance, outlet].map fun descriptor => (toString descriptor).toList
    let shell := { shell.withJob number with status := 0 }
    { shell with
      vars := (shell.vars.put name { value := none, elements := some (Elements.ofList ends) }).put
        (name ++ "_PID") { value := some (toString number).toList } }

/-- Do what a trap asks for that is set for an event, behind which the status is what it was.  There may be
no trap, and none is executed inside another one. -/
def runEvent (signal : Nat) : Act Unit := do
  let shell ← Act.shell
  match shell.traps.lookup signal with
  | some action =>
    if !action.isEmpty && !shell.isInTrap then
      let title := if signal = State.commandEvent then "debug trap"
        else if signal = State.failureEvent then "error trap" else "return trap"
      let source := { State.scriptOf action with line := shell.line }
      Act.push [.script source, .within title, .status shell.status]
  | none => pure ()

/-- Whether a trap for an event counts where the shell is. -/
def heeds (shell : State) (signal : Nat) : Bool :=
  shell.isExtended && (shell.passesOn signal || shell.callers.all fun caller => !caller.isFunction)

/-- A command without its text. -/
def unspoken : Command → Command
  | .spoken _ _ command => command
  | other => other

/-- Put the trap for commands that other shells are to execute in front of the whole command, if there is a
trap, and tell whether there is.  The status stays what it is. -/
def heedCommands (commands : List Command) (whole : Command) : Act Bool := do
  let shell ← Act.shell
  let isTrapped := heeds shell State.commandEvent && !shell.isInTrap &&
    (shell.traps.lookup State.commandEvent).any (!·.isEmpty)
  let announced := if isTrapped then commands.filterMap fun command => match command with
      | .spoken _ _ (.subshell _) => none
      | .spoken line text _ => some (Frame.run (.spoken line text .nothing) [])
      | _ => none
    else []
  if announced.isEmpty then return false
  Act.update fun shell =>
    { shell with frames := announced ++ .status shell.status :: .run whole [] :: shell.frames }
  return true

/-- Take up a command, with the outputs of the command substitutions that it needed so far. -/
def runCommand (command : Command) (outputs : List Octets) : Act Unit := do
  if (← Act.shell).has 'n' then return
  match command with
  | .nothing => Act.setStatus 0
  | .sequence first second => Act.push [.run first [], .run second []]
  | .andThen first second => Act.push [.run first [], .second true second]
  | .orElse first second => Act.push [.run first [], .second false second]
  | .background inner =>
    if !(← heedCommands [inner] (.background (unspoken inner))) then runInBackground inner
  | .subshell inner =>
    let number ← Act.fork inner id
    Act.push [.await [number], .checked]
  | .pipeline isNegated [stage] =>
    Act.push (.run stage [] :: if isNegated then [.negated] else [])
  | .pipeline isNegated stages =>
    if let some (.spoken line text _) := stages.getLast? then
      Act.update fun shell => { shell with line := line, spoken := text }
    if !(← heedCommands stages (.pipeline isNegated (stages.map unspoken))) then
      let started ← startStages none [] stages
      modify Computer.sweep
      Act.push [.await started.reverse, if isNegated then .negated else .checked]
  | .choice test whenTrue otherwise => Act.push [.run test [], .chosen whenTrue otherwise]
  | .loop untilTrue test body => Act.push [.run test [], .tested untilTrue test body 0]
  | .define name body =>
    Act.update fun shell =>
      { shell with
        functions := (name, body) :: shell.functions.filter (fun (other, _) => other ≠ name)
        homes := if shell.isExtended then
            (name, shell.home) :: shell.homes.filter (fun (other, _) => other ≠ name)
          else shell.homes
        status := 0 }
  | .forEach line name words body =>
    Act.update fun shell => { shell with line := line }
    let shell ← Act.shell
    let written := if shell.isExtended then some (line, shell.spoken) else none
    startWords command outputs name words fun values => .each name values body written
  | .menu line name words body =>
    Act.update fun shell => { shell with line := line }
    startWords command outputs name words fun values => .asked name values body false []
  | .select line word branches =>
    Act.update fun shell => { shell with line := line }
    let choose : Expand Command := do chooseBranch (← expandText word) false branches
    if let some body ← expanding command outputs choose then
      let shell ← Act.shell
      if shell.isExtended && shell.has 'x' then
        match writtenCommand shell.spoken with
        | .select _ word _ | .redirected _ (.select _ word _) _ =>
          Act.trace ["case".toList, Printing.ofWord word, "in".toList]
        | _ => pure ()
      Act.push [.run body []]
  | .redirected line inner redirections =>
    Act.update fun shell => { shell with line := line }
    let expansion := expandRedirections (← Act.files) redirections
    if let some redirects ← expanding command outputs expansion then
      match ← redirect [] redirects with
      | .ok saved => Act.push [.run inner [], .restore saved]
      | .error message =>
        Act.setStatus (if ← Act.isExtended then 1 else 2)
        Act.complain none message
        if ← Act.isExtended then Act.push [.checked]
  | .simple line assignments words redirections =>
    Act.update fun shell =>
      { shell with
        line := line, substituted := if outputs.isEmpty then none else shell.substituted }
    let preparation := prepare (← Act.files) assignments words redirections
    if let some prepared ← expanding command outputs preparation then
      Act.push [.checked]
      runPrepared prepared
  | .condition line test =>
    Act.update fun shell => { shell with line := line }
    if let some outcome ← expanding command outputs (Verdict.ofTest (← Act.files) test) then
      Act.setStatus (match outcome with
        | .truth true => 0
        | .truth false => 1
        | .senseless => 2)
      Act.update fun shell => { shell with stageStatuses := [] }
      Act.push [.checked]
  | .calculation line expression =>
    Act.update fun shell => { shell with line := line }
    calculateCommand command outputs expression
  | .counting line start test step body =>
    let shell ← Act.shell
    let written : List Word := match writtenCommand shell.spoken with
      | .counting _ start test step _ => [start, test, step]
      | .redirected _ (.counting _ start test step _) _ => [start, test, step]
      | _ => []
    let text (place : Nat) : List Char :=
      "((".toList ++ (Printing.ofWord (written[place]?.getD [])).dropWhile (· = ' ') ++ "))".toList
    let test := calculationOf line (text 1) test
    let again := Command.sequence (.orElse (calculationOf line (text 2) step) .nothing) test
    Act.push [.run (.orElse (calculationOf line (text 0) start) .nothing) [],
      .run (.sequence .nothing test) [], .tested false again body 0]
  | .group inner => Act.push [.run inner []]
  | .spoken _ _ inner => Act.push [.run inner outputs]
  | .coprocess name inner => startCoprocess name inner
  | .unreadable complaints =>
    Act.setStatus 2
    for (line, text) in complaints do
      Act.writeNow (Bytes.ofOctets ((← Act.shell).name ++
        s!": command substitution: line {line}: {text}\n".toList))
  | .timed isPortable inner =>
    let text := if isPortable then "real 0.00\nuser 0.00\nsys 0.00\n"
      else "\nreal\t0m0.000s\nuser\t0m0.000s\nsys\t0m0.000s\n"
    Act.push [.run inner [], .say 2 (Bytes.ofString text) ""]

/-! ## Frames -/

/-- Forget programs that have ended: the last one gives the status. -/
def takeStatus (endings : List (Nat × Ending)) : Act Unit := do
  for (number, _) in endings do modify (·.forget number)
  if let some (_, ending) := endings.getLast? then Act.setStatus ending.status

/-- Take the statuses of the stages of a pipeline, of which one that failed may be the one of the whole. -/
def takeStages (endings : List (Nat × Ending)) : Act Unit := do
  takeStatus endings
  let statuses := endings.map fun (_, ending) => ending.status
  Act.update fun shell =>
    let failed := (statuses.filter (· ≠ 0)).getLast?.getD 0
    { shell with
      stageStatuses := if statuses.length = 1 then [] else statuses
      status := if shell.switches.contains "pipefail" then failed else shell.status }

/-- Forget programs that have ended, and tell about those that a signal has ended. -/
def noteEnds (endings : List (Nat × Ending)) : Act Unit := do
  takeStatus endings
  let texts := endings.filterMap fun (_, ending) => match ending with
    | .signal signal => Signal.text? signal
    | .code _ => none
  for text in texts do
    Act.push [.say 2 (Bytes.ofString (text ++ "\n")) ""]

/-- The programs of a list that are there, and those of them that have ended. -/
def endingsOf (numbers : List Nat) : Act (List Nat × List (Nat × Ending)) := do
  let machine ← get
  let found := numbers.filterMap machine.proc?
  return (found.map (·.number),
    found.filterMap fun proc => proc.ending?.map (proc.number, ·))

/-- Wait for programs to end. -/
def await (frame : Frame) (numbers : List Nat) (finish : List (Nat × Ending) → Act Unit) :
    Act Turn := do
  let (found, endings) ← endingsOf numbers
  if found.length = endings.length then
    finish endings
    return .moved
  else
    Act.push [frame]
    return .blocked

/-- Go on writing for a built-in command. -/
def continueSaying (descriptor : Nat) (bytes : Bytes) (name : String) : Act Turn := do
  let isExtended ← Act.isExtended
  let failing (reason : String) : Act Turn := do
    if descriptor ≠ 2 then
      Act.setStatus 1
      Act.complain (some name) (if isExtended then "write error: " ++ reason else s!"{name}: I/O error")
    return .moved
  match (← Act.proc).descriptors.lookup descriptor with
  | none => failing "Bad file descriptor"
  | some channel =>
    let (result, machine) := (← get).write channel (Piece.ofBytes bytes)
    MonadStateOf.set machine
    match result with
    | .taken count =>
      let rest := bytes.drop count
      if !rest.isEmpty then Act.push [.say descriptor rest name]
      return .moved
    | .blocked =>
      Act.push [.say descriptor bytes name]
      return .blocked
    | .broken =>
      if (ignoredSignals (← Act.shell)).contains 13 then failing "Broken pipe"
      else
        let number ← read
        modify (·.signal number 13)
        return .moved
    | .failed reason => failing reason

/-- Gather what a channel gives up to its end, and go on with it. -/
def gatherFrom (descriptor : Nat) (pieces : List Bytes) (frame : List Bytes → Frame)
    (finish : Octets → Act Unit) : Act Turn := do
  let finished : Act Turn := do
    finish (Bytes.octets pieces.reverse.flatten)
    return .moved
  match (← Act.proc).descriptors.lookup descriptor with
  | none => finished
  | some channel =>
    let (result, machine) := (← get).read channel Computer.pieceSize
    MonadStateOf.set machine
    match result with
    | .piece piece =>
      Act.push [frame (piece.bytes :: pieces)]
      return .moved
    | .blocked =>
      Act.push [frame pieces]
      return .blocked
    | _ => finished

/-- Hand the output of a command substitution to the command that needs it. -/
def handOver (output : Octets) (process : Nat) : Act Unit := do
  Act.update fun shell =>
    match shell.frames with
    | .run command outputs :: rest =>
      let output := output.filter (· ≠ '\x00')
      { shell with frames := .settle process :: .run command (outputs ++ [output]) :: rest }
    | frames => { shell with frames := frames }

/-- Show the lines of a script that have been read, if options say so. -/
def showLines (source : Source) (rest : Octets) : Act Unit := do
  if (← Act.shell).has 'v' then
    let text := source.rest.take (source.rest.length - rest.length)
    Act.writeNow (Bytes.ofOctets text)

/-- A script with what the shell knows that matters to reading it.  In the extended dialect its last line
always ends with a line break. -/
def readable (shell : State) (source : Source) : Source :=
  let hasAliases := !shell.isExtended || shell.switches.contains "expand_aliases"
  let isOpen := shell.isExtended && source.rest.getLast?.any (· ≠ '\n')
  { source with
    rest := if isOpen then source.rest ++ ['\n'] else source.rest
    aliases := if hasAliases then shell.aliases else []
    dialect := shell.dialect
    hasPatternLists := shell.isExtended && shell.switches.contains "extglob" }

/-- Complain about a mistake in a script. -/
def refuseScript (source : Source) (mistake : Mistake) : Act Unit := do
  let shell ← Act.shell
  if shell.isExtended then
    let place := match shell.within? with
      | some "source" => ""
      | some name => ": " ++ name
      | none => if shell.has 'c' && shell.title.isNone then ": -c" else ""
    for (line, text) in mistake.messages source.rest source.line do
      Act.writeNow (Bytes.ofOctets ((shell.title.getD shell.name) ++
        (place ++ ": line " ++ toString line ++ ": " ++ text ++ "\n").toList))
    Act.setStatus (if mistake.resumes.isSome then 1 else 2)
    Act.update fun shell => { shell with stageStatuses := [] }
    if let some left := mistake.resumes then
      let rest := (source.rest.drop (source.rest.length - left)).dropWhile (· ≠ '\n')
      let line := source.line + (source.rest.take (source.rest.length - rest.length)).count '\n'
      Act.push [.script { source with rest := rest.drop 1, line := line + 1 }]
  else
    Act.update fun shell => { shell with line := mistake.line }
    Act.abort none s!"Syntax error: {mistake.message}"

/-- Go on with a script. -/
def continueScript (source : Source) : Act Unit := do
  let shell ← Act.shell
  let source := readable shell source
  match readLine source with
  | .error mistake => refuseScript source mistake
  | .ok none => showLines source []
  | .ok (some (command, rest)) =>
    showLines source rest.rest
    if shell.isExtended then
      for (line, text) in rest.doubts do
        Act.writeNow (Bytes.ofOctets ((shell.title.getD shell.name) ++
          (": line " ++ toString line ++ ": " ++ text ++ "\n").toList))
    let rest := { rest with doubts := [] }
    match command with
    | .nothing => Act.push [.script rest]
    | _ =>
      if shell.has 'n' then Act.push [.script rest]
      else Act.push [.run command [], .script rest]

/-- Look at the status of a command where failing may be an error. -/
def checkStatus : Act Unit := do
  let shell ← Act.shell
  if shell.status ≠ 0 && !shell.isLookedAt then
    if shell.has 'e' then Act.exit shell.status
    if heeds shell State.failureEvent then runEvent State.failureEvent

/-- The words of a menu in columns. -/
def menuText (words : List Octets) : Octets :=
  let digits := (toString words.length).length
  let widest := (words.map List.length).foldl max 0 + digits + 2
  let count := words.length
  let columns := max 1 (80 / (widest + 2))
  let rows := max 1 ((count + columns - 1) / columns)
  let columns := (count + rows - 1) / rows
  let (rows, columns) := if rows = 1 then (columns, 1) else (rows, columns)
  let cell (place : Nat) : Octets :=
    let number := (toString (place + 1)).toList
    List.replicate (digits - number.length) ' ' ++ number ++ [')', ' '] ++ (words[place]?.getD [])
  (List.range rows).flatMap fun row =>
    let places := ((List.range columns).map fun column => row + column * rows).filter (· < count)
    let cells := places.map cell
    let padded := cells.dropLast.flatMap fun text =>
      text ++ List.replicate (widest + 2 - text.length) ' '
    padded ++ (cells.getLast?.getD []) ++ ['\n']

/-- Ask which of some words is meant. -/
def ask (name : String) (values : List Octets) (body : Command) (isShown : Bool)
    (gathered : List (Char × Bool)) : Act Turn := do
  if values.isEmpty then return .moved
  if !isShown && gathered.isEmpty then
    Act.writeNow (Bytes.ofOctets (menuText values))
  let prompt := ((← Act.shell).vars.value? "PS3").getD "#? ".toList
  if gathered.isEmpty then Act.writeNow (Bytes.ofOctets prompt)
  Act.push [.reading { isRaw := false, names := [] } [], .answered name values body]
  return .moved

/-- Do what follows an answer: at the end of the input, leave. -/
def takeAnswer (name : String) (values : List Octets) (body : Command) : Act Unit := do
  let shell ← Act.shell
  if shell.status ≠ 0 then
    Act.say "select" ['\n']
    Act.setStatus 1
  else
    let answer := (shell.vars.value? "REPLY").getD []
    if answer.isEmpty then Act.push [.asked name values body false []]
    else
      let chosen := match Integer.natural? 10 answer with
        | some place => if place = 0 then [] else (values[place - 1]?).getD []
        | none => []
      match ← Act.assignAll [(name, chosen)] with
      | .ok () => Act.push [.run body [], .asked name values body true []]
      | .error mishap => Act.mishap none mishap

/-- Take up a command of a script: a trap may come before it. -/
def speak (line : Nat) (text : List Char) (command : Command) (outputs : List Octets) : Act Unit := do
  let shell ← Act.shell
  if outputs.isEmpty then
    Act.update fun shell => { shell with line := line }
    if !shell.isInTrap then
      Act.update fun shell => { shell with spoken := text }
      let isCounted := match command with
        | .forEach _ _ _ _ | .counting _ _ _ _ _ | .subshell _ => true
        | _ => false
      if !isCounted && heeds shell State.commandEvent && (shell.traps.lookup State.commandEvent).isSome then
        Act.push [.run command []]
        return ← runEvent State.commandEvent
  runCommand command outputs

/-- Show the next round of a loop over words, if options say so. -/
def traceRound (name : String) (written : Option (Nat × List Char)) : Act Unit := do
  if let some (line, text) := written then
    Act.update fun shell => { shell with line := line }
    if !(← Act.shell).isInTrap then Act.update fun shell => { shell with spoken := text }
    if (← Act.shell).has 'x' then
      let words := match writtenCommand text with
        | .forEach _ _ words _ | .redirected _ (.forEach _ _ words _) _ => words
        | _ => none
      Act.trace ["for".toList, name.toList, "in".toList, Printing.ofLoopWords words]

/-- Do what a frame asks for. -/
def stepFrame (frame : Frame) : Act Turn := do
  match frame with
  | .run (.spoken line text command) outputs =>
    speak line text command outputs
    return .moved
  | .run command outputs =>
    runCommand command outputs
    return .moved
  | .script source =>
    continueScript source
    return .moved
  | .second afterSuccess command =>
    if ((← Act.shell).status = 0) = afterSuccess then Act.push [.run command []]
    return .moved
  | .negated =>
    Act.update fun shell => { shell with status := if shell.status = 0 then 1 else 0 }
    return .moved
  | .checked =>
    checkStatus
    return .moved
  | .chosen whenTrue otherwise =>
    Act.push [.run (if (← Act.shell).status = 0 then whenTrue else otherwise) []]
    return .moved
  | .tested untilTrue test body status =>
    if ((← Act.shell).status = 0) = untilTrue then Act.setStatus status
    else Act.push [.run body [], .repeated untilTrue test body]
    return .moved
  | .repeated untilTrue test body =>
    Act.push [.run test [], .tested untilTrue test body (← Act.shell).status]
    return .moved
  | .each name values body written =>
    match values with
    | [] => return .moved
    | value :: rest =>
      traceRound name written
      match ← Act.assignAll [(name, value)] with
      | .ok () => Act.push [.run body [], .each name rest body written]
      | .error mishap => Act.mishap none mishap
      if written.isSome && heeds (← Act.shell) State.commandEvent then runEvent State.commandEvent
      return .moved
  | .asked name values body isShown gathered => ask name values body isShown gathered
  | .answered name values body =>
    takeAnswer name values body
    return .moved
  | .restore saved =>
    restoreDescriptors saved
    return .moved
  | .forget saved =>
    Act.update fun shell =>
      { shell with
        vars := saved.foldl (fun vars (name, old) => vars.putBack name old)
          shell.vars }
    return .moved
  | .call arguments scan locals =>
    Act.update fun shell =>
      let saved := (locals.lookup "-").join.bind Variable.value
      { shell with
        arguments := arguments
        scan := scan
        options := saved.getD shell.options
        callers := shell.callers.tail
        line := if shell.isExtended then ((shell.callers.head?).map Caller.line).getD shell.line
          else shell.line
        title := if shell.isExtended then (shell.callers.head?).bind Caller.title else shell.title
        vars := (locals.filter fun (name, _) => name ≠ "-").foldl
          (fun vars (name, old) => vars.putBack name old) shell.vars }
    return .moved
  | .sourced title arguments =>
    Act.update fun shell =>
      let (own, scan) := arguments.getD (shell.arguments, shell.scan)
      let line := ((shell.callers.head?).map Caller.line).getD shell.line
      { shell with
        title := title
        arguments := own
        scan := scan
        line := if shell.isExtended then line else shell.line
        callers := if shell.isExtended then shell.callers.tail else shell.callers }
    return .moved
  | .event signal =>
    runEvent signal
    return .moved
  | .within _ => return .moved
  | .await numbers =>
    let isExtended ← Act.isExtended
    await frame numbers (if isExtended then takeStages else noteEnds)
  | .settle number =>
    await frame [number] fun endings => do
      let status := (← Act.shell).status
      noteEnds endings
      let substituted := (← Act.shell).status
      Act.update fun shell => { shell with status := status, substituted := some substituted }
  | .pausing numbers isAll =>
    match (← Act.shell).caught with
    | signal :: _ =>
      Act.setStatus (128 + signal)
      return .moved
    | [] =>
      await frame numbers fun endings => do
        if isAll then
          takeStatus endings
          Act.setStatus 0
        else noteEnds endings
  | .collect number descriptor pieces =>
    gatherFrom descriptor pieces (.collect number descriptor) fun output => do
      Act.close descriptor
      handOver output number
  | .gather descriptor pieces =>
    gatherFrom descriptor pieces (.gather descriptor) fun text =>
      Act.push [.script (State.scriptOf text)]
  | .say descriptor bytes name => continueSaying descriptor bytes name
  | .reading task gathered => continueReading task gathered
  | .lines task gathered => continueLines task gathered
  | .status status =>
    Act.setStatus status
    return .moved
  | .finish status =>
    let number ← read
    modify (·.finish number (.code (status % 256)))
    return .moved

/-- Whether a shell at a frame can turn to a signal it has caught. -/
def Frame.isInterruptible : Frame → Bool
  | .run _ outputs => outputs.isEmpty
  | .script _ => true
  | .second _ _ => true
  | .checked => true
  | .chosen _ _ => true
  | .tested _ _ _ _ => true
  | .repeated _ _ _ => true
  | .each _ _ _ _ => true
  | .asked _ _ _ _ _ => true
  | .answered _ _ _ => true
  | _ => false

/-- A turn of a shell. -/
def step : Act Turn := do
  let shell ← Act.shell
  match shell.frames with
  | [] =>
    Act.exit shell.status
    return .moved
  | frame :: rest =>
    match shell.caught with
    | signal :: others =>
      if frame.isInterruptible then
        let action := (shell.traps.lookup signal).getD []
        Act.update fun shell => { shell with caught := others }
        Act.push (.script (State.scriptOf action) ::
          (if shell.isExtended then [.within "trap"] else []) ++ [.status shell.status])
        return .moved
    | [] => pure ()
    Act.update fun shell => { shell with frames := rest }
    stepFrame frame

end CorpusJudge.Shell
