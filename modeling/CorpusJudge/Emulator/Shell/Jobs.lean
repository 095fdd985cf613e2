import CorpusJudge.Emulator.Shell.Act
import CorpusJudge.Emulator.Shell.Naming

/-!
# Jobs, signals and limits

The programs that a shell has started in the background are its jobs.  It can list them and wait for
them.
-/

namespace CorpusJudge.Shell

/-- What a list of jobs says about a program. -/
def jobText (proc : Option Proc) : String :=
  match proc.bind Proc.ending? with
  | some (.code 0) => "Done"
  | some (.code status) => s!"Done({status})"
  | some (.signal number) => (Signal.text? number).getD ""
  | none => if proc.isSome then "Running" else "Done"

/-- List jobs, the latest ones first, and forget those that have ended. -/
def listJobs (arguments : List Octets) : Act Unit := do
  Act.setStatus 0
  let shell ← Act.shell
  let machine ← get
  let latest := shell.jobs.reverse
  if arguments.head? = some ['-', 'p'] then
    Act.say "jobs" (latest.flatMap fun (_, process) => (toString process).toList ++ ['\n'])
  else
    let rows := latest.zipIdx.flatMap fun ((number, process), place) =>
      let mark := if place = 0 then '+' else if place = 1 then '-' else ' '
      let text := (jobText (machine.proc? process)).toList
      s!"[{number}] ".toList ++ mark :: ' ' :: text ++
        List.replicate (27 - text.length) ' ' ++ ['\n']
    let ended := shell.jobs.filterMap fun (_, process) =>
      if (machine.proc? process).all Proc.hasEnded then some process else none
    Act.update (·.withoutJobs ended)
    Act.say "jobs" rows

/-- Wait for background programs. -/
def wait (arguments : List Octets) : Act Unit := do
  let shell ← Act.shell
  let fail (message : String) : Act Unit := do
    Act.setStatus 2
    Act.complain (some "wait") message
  Act.setStatus 0
  match arguments with
  | [] => Act.push [.pausing shell.children true]
  | _ =>
    let processOf (word : Octets) : Except String Nat :=
      if word.head? = some '%' then
        match shell.job? word with
        | some process => .ok process
        | none => .error s!"No such job: {String.ofList word}"
      else match Integer.natural? 10 word with
        | some process => .ok process
        | none => .error s!"Illegal number: {String.ofList word}"
    match arguments.mapM processOf with
    | .error message => fail message
    | .ok processes =>
      Act.update (·.withoutJobs processes)
      if !(processes.getLast?.any shell.children.contains) then Act.setStatus 127
      Act.push [.pausing (processes.filter shell.children.contains) false]

/-- Refuse to bring a job to the front or to let it go on behind. -/
def controlJob (name : String) (arguments : List Octets) : Act Unit := do
  Act.setStatus 2
  Act.complain (some name) <|
    match arguments with
    | [] => "No current job"
    | word :: _ => s!"No such job: {String.ofList word}"

/-! ## Signals and traps

Signals are sent by name or number.  A shell executes commands of its own when one comes, if a trap is
set for it. -/

/-- List the names of signals, or name the one that a status or a number stands for. -/
def listSignals (arguments : List Octets) : Act Unit := do
  Act.setStatus 0
  match arguments with
  | [] => Act.say "kill" (Signal.names.flatMap fun name => name.toList ++ ['\n'])
  | word :: _ =>
    match Integer.natural? 10 word with
    | none =>
      Act.setStatus 2
      Act.complain (some "kill") s!"Illegal number: {String.ofList word}"
    | some number =>
      let wanted := if 128 < number then number - 128 else number
      match (Signal.name? wanted).filter fun _ => wanted ≠ 0 with
      | some name => Act.say "kill" (name.toList ++ ['\n'])
      | none =>
        Act.setStatus 2
        Act.complain (some "kill") s!"invalid signal number or exit status: {number}"

/-- Set what is executed when a signal comes, or list it. -/
def setTraps (arguments : List Octets) : Act Unit := do
  let words := if arguments.head? = some ['-', '-'] then arguments.tail else arguments
  Act.setStatus 0
  match words with
  | [] =>
    let shell ← Act.shell
    let ordered := shell.traps.mergeSort fun (left, _) (right, _) => left ≤ right
    Act.say "trap" (ordered.flatMap fun (signal, action) =>
      "trap -- ".toList ++ inQuotes action ++ ' ' ::
        (if signal = 0 then "EXIT" else (Signal.name? signal).getD "").toList ++ ['\n'])
  | first :: rest =>
    if let '-' :: letter :: _ := first then
      if words.length = arguments.length then
        return ← Act.abort (some "trap") s!"Illegal option -{String.ofList [letter]}"
    let isReset := first = ['-'] || rest.isEmpty || (Integer.natural? 10 first).isSome
    let signals := if first = ['-'] then rest else if isReset then words else rest
    for word in signals do
      match Signal.number? word with
      | none =>
        Act.setStatus 1
        Act.push [.say 2 (Bytes.ofOctets ("trap: ".toList ++ word ++ ": bad trap\n".toList)) "trap"]
      | some signal =>
        Act.update fun shell =>
          let others := shell.traps.filter fun (other, _) => other ≠ signal
          { shell with traps := if isReset then others else others ++ [(signal, first)] }

/-- The signal that arguments ask for, and the words behind it; the failure is a complaint. -/
def signalAsked (arguments : List Octets) : Except String (Nat × List Octets) :=
  let letterOf (word : Octets) : String := String.ofList (word.take 1)
  match arguments with
  | ['-', 's'] :: rest =>
    match rest with
    | [] => .error "No arg for -s option"
    | name :: rest =>
      match Signal.number? name with
      | some signal => .ok (signal, rest)
      | none => .error s!"invalid signal number or name: {String.ofList name}"
  | ['-', '-'] :: rest => .ok (15, rest)
  | ('-' :: name) :: rest =>
    if name.isEmpty then .ok (15, arguments)
    else match Signal.number? name with
      | some signal => .ok (signal, rest)
      | none => .error s!"Illegal option -{letterOf name}"
  | _ => .ok (15, arguments)

/-- Send a signal to programs. -/
def kill (arguments : List Octets) : Act Unit := do
  let fail (status : Nat) (message : String) : Act Unit := do
    Act.setStatus status
    Act.complain (some "kill") message
  if let ['-', 'l'] :: rest := arguments then return ← listSignals rest
  match signalAsked arguments with
  | .error message => fail 2 message
  | .ok (signal, programs) =>
    if programs.isEmpty then
      fail 2 ("Usage: kill [-s sigspec | -signum | -sigspec] [pid | job]... or\n" ++
        "kill -l [exitstatus]")
    else
      Act.setStatus 0
      for word in programs do
        if word.head? = some '%' then
          match (← Act.shell).job? word with
          | none => fail 2 s!"No such job: {String.ofList word}"
          | some _ => fail 1 "No such process\n"
        else match Integer.natural? 10 word with
        | none => fail 2 s!"Illegal number: {String.ofList word}"
        | some number =>
          match (← get).proc? number with
          | some _ => modify (·.signal number signal)
          | none => fail 1 "No such process\n"

/-! ## Limits and masks

What a shell lets the programs that it starts use, and which permissions new files do not get. -/

/-- Show or set the mask for the modes of new files. -/
def setMask (arguments : List Octets) : Act Unit := do
  let isWordy := arguments.head? = some ['-', 'S']
  Act.setStatus 0
  let mask := (← Act.proc).mask
  match (if isWordy then arguments.tail else arguments) with
  | [] =>
    Act.say "umask" ((if isWordy then Mode.classes (Mode.without 0o777 mask)
      else Mode.octal 4 mask) ++ ['\n'])
  | text :: _ =>
    let isOctal := text.head?.any Char.isDigit
    let wanted := if isOctal then (Mode.changed? 0 false text 0).filter (· ≤ 0o777)
      else (Mode.changed? 0 false text (Mode.without 0o777 mask)).map (Mode.without 0o777 ·)
    match wanted with
    | some mask => Act.updateProc fun proc => { proc with mask := mask }
    | none =>
      Act.setStatus 2
      Act.complain (some "umask") <|
        if isOctal then s!"Illegal number: {String.ofList text}"
        else s!"Illegal mode: {String.ofList text}"

/-- What the limits of a program usually are. -/
def usualLimit (letter : Char) : Octets :=
  (match letter with
  | 's' => "8192"
  | 'c' => "0"
  | 'l' => "8192"
  | 'n' => "1048576"
  | 'r' => "0"
  | _ => "unlimited").toList

/-- Show or set a limit for what programs may use. -/
def limit (arguments : List Octets) : Act Unit := do
  let flags := arguments.takeWhile fun word => word.head? = some '-'
  let letters := flags.flatMap List.tail
  let letter := (letters.find? fun letter => letter ≠ 'H' && letter ≠ 'S').getD 'f'
  Act.setStatus 0
  match letters.find? fun letter => !"HSatfdscmlpnvwr".toList.contains letter with
  | some unknown =>
    Act.setStatus 2
    Act.complain (some "ulimit") s!"Illegal option -{String.ofList [unknown]}"
  | none =>
    match arguments.drop flags.length with
    | [] =>
      let known := (← Act.shell).limits.lookup letter
      Act.say "ulimit" (known.getD (usualLimit letter) ++ ['\n'])
    | value :: _ =>
      if value = "unlimited".toList || (Integer.natural? 10 value).isSome then
        Act.update fun shell => { shell with limits := (letter, value) :: shell.limits }
      else
        Act.setStatus 2
        Act.complain (some "ulimit") "bad number"

end CorpusJudge.Shell
