import CorpusJudge.Emulator.Shell.Arguments
import CorpusJudge.Emulator.Shell.Jobs
import CorpusJudge.Emulator.Shell.Folders

/-!
# Built-in commands

The commands that a shell executes itself, apart from those that take part in how commands are found
and started.
-/

namespace CorpusJudge.Shell

/-! ## Leaving loops and functions -/

/-- Whether a frame belongs to a loop. -/
def Frame.isLoop : Frame → Bool
  | .each _ _ _ _ => true
  | .asked _ _ _ _ _ => true
  | .answered _ _ _ => true
  | .repeated _ _ _ => true
  | .tested _ _ _ _ => true
  | _ => false

/-- Whether a frame is where a function or a script that was read ends. -/
def Frame.isReturn : Frame → Bool
  | .call _ _ _ => true
  | .sourced _ _ => true
  | .event _ => true
  | _ => false

/-- Whether a frame puts something back. -/
def Frame.isCleanup : Frame → Bool
  | .restore _ => true
  | .forget _ => true
  | _ => false

/-- Leave a number of loops, or all there are: the frames that put things back, and those from the
loop's own one on.  There may be no loop. -/
def leaveLoops (count : Nat) (cleanups : List Frame) : List Frame → Option (List Frame × List Frame)
  | [] => none
  | frame :: rest =>
    if frame.isReturn then none
    else if frame.isLoop then
      let outer := if count ≤ 1 then none else leaveLoops (count - 1) cleanups rest
      some (outer.getD (cleanups, frame :: rest))
    else leaveLoops count (if frame.isCleanup then cleanups ++ [frame] else cleanups) rest

/-- Leave a function or a script that was read. -/
def leaveCall (cleanups : List Frame) : List Frame → Option (List Frame)
  | [] => none
  | frame :: rest =>
    if frame.isReturn then some (cleanups ++ frame :: rest)
    else leaveCall (if frame.isCleanup then cleanups ++ [frame] else cleanups) rest

/-- A number that an argument has to be. -/
def countOf (argument : Octets) : Except String Nat :=
  match Integer.natural? 10 argument with
  | some count => .ok count
  | none => .error s!"Illegal number: {String.ofList argument}"

/-- Break out of loops, or go on with their next round. -/
def breakLoops (name : String) (goesOn : Bool) (arguments : List Octets) : Act Unit := do
  match countOf (arguments.headD ['1']) with
  | .error message => Act.abort (some name) message
  | .ok count =>
    Act.setStatus 0
    match leaveLoops count [] (← Act.shell).frames with
    | some (cleanups, rest) =>
      Act.update fun shell =>
        { shell with frames := cleanups ++ (if goesOn then rest else rest.tail) }
    | none => pure ()

/-- Return from a function or a script that was read; elsewhere, end. -/
def returnFrom (arguments : List Octets) : Act Unit := do
  let shell ← Act.shell
  match arguments.head?.map countOf with
  | some (.error message) => Act.abort (some "return") message
  | some (.ok status) => finish shell status
  | none => finish shell shell.status
where
  finish (shell : State) (status : Nat) : Act Unit :=
    match leaveCall [] shell.frames with
    | some frames => Act.update fun shell => { shell with frames := frames, status := status }
    | none => Act.exit status

/-- End the shell. -/
def exitShell (arguments : List Octets) : Act Unit := do
  match arguments.head?.map countOf with
  | some (.error message) => Act.abort (some "exit") message
  | some (.ok status) => Act.exit (status % 256)
  | none => Act.exit (← Act.shell).status

/-! ## Variables, arguments and options -/

/-- The variables that some mark selects, as commands that set them. -/
def listing (title : String) (vars : Variables) : Octets :=
  let sorted := vars.mergeSort fun (left, _) (right, _) => left ≤ right
  sorted.flatMap fun (name, binding) =>
    match binding.value with
    | some value => title.toList ++ name.toList ++ '=' :: inQuotes value ++ ['\n']
    | none => if title.isEmpty then [] else title.toList ++ name.toList ++ ['\n']

/-- Mark variables, and give values to them. -/
def markVariables (name : String) (mark : Variable → Variable) : List Octets → Act Unit
  | [] => Act.setStatus 0
  | word :: rest => do
    let nameText := word.takeWhile (· ≠ '=')
    let variableName := String.ofList nameText
    let shell ← Act.shell
    if !isName nameText then Act.abort (some name) s!"{String.ofList word}: bad variable name"
    else if word.contains '=' && shell.vars.isReadOnly variableName then
      Act.abort (some name) s!"{variableName}: is read only"
    else
      if word.contains '=' then
        Act.update (·.assign variableName (word.drop (nameText.length + 1)))
      Act.update fun shell =>
        let old := (shell.vars.lookup variableName).getD .blank
        { shell with vars := shell.vars.put variableName (mark old) }
      markVariables name mark rest

/-- Mark variables, or list those with the mark. -/
def markOrList (name : String) (hasMark : Variable → Bool) (mark : Variable → Variable)
    (arguments : List Octets) : Act Unit := do
  if arguments.isEmpty || arguments = [['-', 'p']] then
    let marked := (← Act.shell).vars.filter fun (_, binding) => hasMark binding
    Act.setStatus 0
    Act.say name (listing (name ++ " ") marked)
  else markVariables name mark arguments

/-- Forget variables or functions. -/
def unset (arguments : List Octets) : Act Unit := do
  let isFunction := arguments.head? = some ['-', 'f']
  let names := if isFunction || arguments.head? = some ['-', 'v'] then arguments.tail else arguments
  Act.setStatus 0
  for name in names do
    let name := String.ofList name
    let shell ← Act.shell
    if isFunction then
      Act.update fun shell =>
        { shell with functions := shell.functions.filter fun (other, _) => other ≠ name }
    else if shell.vars.isReadOnly name then
      Act.abort (some "unset") s!"{name}: is read only"
    else Act.update fun shell => { shell with vars := shell.vars.putBack name none }

/-- The letters of options by their names, in the order in which they are listed.  Those without a
letter of their own have a digit. -/
def optionNames : List (String × Char) :=
  [("errexit", 'e'), ("noglob", 'f'), ("ignoreeof", 'I'), ("interactive", 'i'), ("monitor", 'm'),
    ("noexec", 'n'), ("stdin", 's'), ("xtrace", 'x'), ("verbose", 'v'), ("vi", 'V'), ("emacs", 'E'),
    ("noclobber", 'C'), ("allexport", 'a'), ("notify", 'b'), ("nounset", 'u'), ("privileged", 'p'),
    ("nolog", '1'), ("debug", '2')]

/-- The options and whether they are set, as a table or as commands that set them so. -/
def optionListing (isTable : Bool) (shell : State) : Octets :=
  if isTable then
    "Current option settings\n".toList ++ optionNames.flatMap fun (name, letter) =>
      name.toList ++ List.replicate (16 - name.length) ' ' ++
        (if shell.has letter then "on\n" else "off\n").toList
  else optionNames.flatMap fun (name, letter) =>
    (if shell.has letter then "set -o " else "set +o ").toList ++ name.toList ++ ['\n']

/-- Set or clear an option. -/
def setOption (isOn : Bool) (letter : Char) : Act Unit :=
  Act.update fun shell =>
    let others := shell.options.filter (· ≠ letter)
    { shell with options := if isOn then letter :: others else others }

/-- Set options, and replace the arguments if there are any. -/
def setOptions : List Octets → Act Unit
  | [] => pure ()
  | word :: rest => do
    let replace (arguments : List Octets) : Act Unit :=
      Act.update (·.withArguments arguments)
    match word with
    | ['-', '-'] => replace rest
    | ['-'] => if rest.isEmpty then pure () else replace rest
    | sign :: letter :: letters =>
      if sign = '-' || sign = '+' then
        if letter :: letters = ['o'] then
          match rest with
          | [] => Act.say "set" (optionListing (sign = '-') (← Act.shell))
          | name :: more =>
            match optionNames.lookup (String.ofList name) with
            | some letter =>
              setOption (sign = '-') letter
              setOptions more
            | none => Act.abort (some "set") s!"Illegal option -o {String.ofList name}"
        else
          match (letter :: letters).find? fun letter =>
              !(optionNames.any fun (_, known) => known = letter) with
          | some unknown =>
            Act.abort (some "set") s!"Illegal option {String.ofList [sign, unknown]}"
          | none =>
            for letter in letter :: letters do setOption (sign = '-') letter
            setOptions rest
      else replace (word :: rest)
    | _ => replace (word :: rest)

/-- Set options and arguments, or list the variables. -/
def set (arguments : List Octets) : Act Unit := do
  Act.setStatus 0
  if arguments.isEmpty then Act.say "set" (listing "" (← Act.shell).vars)
  else setOptions arguments

/-- Drop arguments. -/
def shift (arguments : List Octets) : Act Unit := do
  match countOf (arguments.headD ['1']) with
  | .error message => Act.abort (some "shift") message
  | .ok count =>
    if (← Act.shell).arguments.length < count then Act.abort (some "shift") "can't shift that many"
    else
      Act.update fun shell => { shell.withArguments (shell.arguments.drop count) with status := 0 }

/-- Make variables of a function its own. -/
def makeLocal (arguments : List Octets) : Act Unit := do
  let shell ← Act.shell
  let isInside := shell.frames.any fun frame => match frame with
    | .call _ _ _ => true
    | _ => false
  if !isInside then Act.abort (some "local") "not in a function"
  else
    Act.setStatus 0
    for word in arguments do
      let name := String.ofList (word.takeWhile (· ≠ '='))
      let note (old : Option Variable) : List Frame → List Frame
        | .call outer scan locals :: rest => .call outer scan ((name, old) :: locals) :: rest
        | frames => frames
      Act.update fun shell =>
        let old := if name = "-" then some { value := some shell.options }
          else shell.vars.lookup name
        let before := shell.frames.takeWhile fun frame => match frame with
          | .call _ _ _ => false
          | _ => true
        let frames := before ++ note old (shell.frames.drop before.length)
        let shell := { shell with frames := frames }
        if word.contains '=' then shell.assign name (word.drop (name.length + 1)) else shell

/-! ## Files -/

/-- Where a script that is to be read lies: at its path, or in the search path. -/
def findScript (word : Octets) : Act (Except String Frame) := do
  let files ← Act.files
  let cannotOpen (error : FileError) : String :=
    s!"cannot open {String.ofList word}: {openReason .input error}"
  if word.contains '/' then
    match files.find (pathOf word), files.read (pathOf word) with
    | .ok (_, .device device), _ => return .ok (State.scriptFrom device)
    | _, .ok content => return .ok (.script (State.scriptOf (Bytes.octets content)))
    | _, .error error => return .error (cannotOpen error)
  else
    let folders := Computer.searchPath (← Act.shell).vars.environment
    let tries := folders.map fun folder =>
      (files.read ((Path.mk folder).join (pathOf word).text)).toOption
    match tries.findSome? id with
    | some content => return .ok (.script (State.scriptOf (Bytes.octets content)))
    | none => return .error s!"{String.ofList word}: not found"

/-- Read a script and execute it in this shell. -/
def source (arguments : List Octets) : Act Unit := do
  match arguments with
  | [] => Act.setStatus 0
  | word :: _ =>
    match ← findScript word with
    | .error message => Act.abort (some ".") message
    | .ok reading =>
      Act.setStatus 0
      Act.push [reading, .sourced none none, .within "."]

/-! ## Input and output -/

/-- Write words. -/
def echo (arguments : List Octets) : Act Unit := do
  Act.setStatus 0
  let isOpen := arguments.head? = some ['-', 'n']
  let text := spaced (if isOpen then arguments.tail else arguments)
  let (text, isCut) := Format.unescapeOperand .plain text
  Act.say "echo" (if isOpen || isCut then text else text ++ ['\n'])

/-- Write operands in a format. -/
def printf (arguments : List Octets) : Act Unit := do
  let fail (message : String) : Act Unit := do
    Act.setStatus 2
    Act.complain (some "printf") message
  match (if arguments.head? = some ['-', '-'] then arguments.tail else arguments) with
  | [] => fail "usage: printf format [arg ...]"
  | format :: operands =>
    match arguments.head?, format with
    | some ('-' :: letter :: _), '-' :: _ :: _ => fail s!"Illegal option -{String.ofList [letter]}"
    | _, _ =>
      let result := Format.apply .plain id format operands
      let faults := result.faults.filter fun fault => !fault.isExcess
      Act.setStatus (if result.isFatal then 2 else if faults.isEmpty then 0 else 1)
      Act.say "printf" result.text
      for fault in faults.reverse do Act.complain (some "printf") fault.message

/-- Start reading a line. -/
def readInput (arguments : List Octets) : Act Unit := do
  let fail (message : String) : Act Unit := do
    Act.setStatus 2
    Act.complain (some "read") message
  match Letters.read "r" "p" arguments with
  | .error letter => fail s!"Illegal option -{String.ofList [letter]}"
  | .ok options =>
    let names := options.operands.map String.ofList
    if names.isEmpty then fail "arg count"
    else match names.find? fun name => !isName name.toList with
      | some name => fail s!"{name}: bad variable name"
      | none => Act.push [.reading { isRaw := options.has 'r', names := names } []]

/-- Show a condition by the status. -/
def test (name : String) (arguments : List Octets) : Act Unit := do
  let files ← Act.files
  let decided := if name ≠ "[" then Condition.holds files arguments
    else if arguments.getLast? = some [']'] then Condition.holds files arguments.dropLast
    else .error "missing ]"
  match decided with
  | .ok truth => Act.setStatus (if truth then 0 else 1)
  | .error message =>
    Act.setStatus 2
    Act.complain (some name) message

/-- Execute a built-in command with its arguments. -/
def runBuiltin (name : String) (arguments : List Octets) : Act Unit := do
  match name with
  | ":" | "true" => Act.setStatus 0
  | "false" => Act.setStatus 1
  | "." => source arguments
  | "break" => breakLoops name false arguments
  | "continue" => breakLoops name true arguments
  | "eval" =>
    Act.setStatus 0
    Act.push [.script (State.scriptOf (spaced arguments)), .within "eval"]
  | "exit" => exitShell arguments
  | "export" =>
    markOrList name (·.isExported) (fun binding => { binding with isExported := true }) arguments
  | "readonly" =>
    markOrList name (·.isReadOnly) (fun binding => { binding with isReadOnly := true }) arguments
  | "return" => returnFrom arguments
  | "set" => set arguments
  | "shift" => shift arguments
  | "trap" => setTraps arguments
  | "unset" => unset arguments
  | "cd" | "chdir" => changeFolder arguments
  | "echo" => echo arguments
  | "printf" => printf arguments
  | "pwd" => showFolder arguments
  | "read" => readInput arguments
  | "test" | "[" => test name arguments
  | "kill" => kill arguments
  | "wait" => wait arguments
  | "local" => makeLocal arguments
  | "type" =>
    Act.setStatus 0
    Act.say name (← describe false arguments)
  | "times" =>
    Act.setStatus 0
    Act.say name "0m0.00s 0m0.00s\n0m0.00s 0m0.00s\n".toList
  | "umask" => setMask arguments
  | "ulimit" => limit arguments
  | "getopts" => getopts arguments
  | "alias" => setAliases arguments
  | "unalias" => dropAliases arguments
  | "fg" | "bg" => controlJob name arguments
  | "jobs" => listJobs arguments
  | "hash" => hash arguments
  | _ => Act.setStatus 0

end CorpusJudge.Shell
