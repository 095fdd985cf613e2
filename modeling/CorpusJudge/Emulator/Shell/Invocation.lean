import CorpusJudge.Emulator.Computer.Channel
import CorpusJudge.Emulator.Shell.Fields

/-!
# How shells are started

A shell is started with options, and with a command in its arguments, with a script in a file, or with one
on standard input.
-/

namespace CorpusJudge.Shell.State

/-- The options that a shell is started with, and the other arguments. -/
structure Invocation where
  letters : List Char
  takesCommand : Bool
  takesInput : Bool
  operands : List Octets

/-- The letters that a shell knows as options. -/
def optionLetters : List Char := "efnuvxabCIiml".toList

/-- Read the arguments that a shell is started with; a failure is a complaint. -/
def invocation (arguments : List Octets) : Except String Invocation :=
  match arguments with
  | ('-' :: letter :: letters) :: rest =>
    if letter :: letters = ['-'] then .ok ⟨[], false, false, rest⟩
    else do
      let more ← invocation rest
      (letter :: letters).foldlM (fun found letter =>
        if letter = 'c' then .ok { found with takesCommand := true }
        else if letter = 's' then .ok { found with takesInput := true }
        else if optionLetters.contains letter then
          .ok { found with letters := letter :: found.letters }
        else .error s!"Illegal option -{String.ofList [letter]}") more
  | ('+' :: _ :: _) :: rest => invocation rest
  | ['-'] :: rest => .ok ⟨[], false, false, rest⟩
  | _ => .ok ⟨[], false, false, arguments⟩

/-- A shell that has nothing to do yet. -/
def idle (dialect : Dialect) (number : Nat) (name : Octets) (environment : List (String × Octets)) :
    State where
  dialect := dialect
  name := name
  arguments := []
  vars := Variables.ofEnvironment dialect environment
  scan := .start
  aliases := []
  limits := []
  functions := []
  traps := []
  options := []
  status := 0
  substituted := none
  root := number
  background := none
  children := []
  jobs := []
  tracked := []
  here := "/"
  line := 0
  isTested := false
  isSubshell := false
  caught := []
  frames := []

/-- A text that is a script although it is no file: a backslash at its end stands for itself. -/
def closedText (text : Octets) : Octets :=
  if (text.reverse.takeWhile (· = '\\')).length % 2 = 1 then text ++ ['\\'] else text

/-- The beginning of a script with some text. -/
def scriptOf (text : Octets) : Source := { rest := text.filter (· ≠ '\x00'), line := 1 }

/-- What reads a script from a device: only a descriptor has one. -/
def scriptFrom (device : Device) : Frame :=
  match device with
  | .descriptor number => .gather number []
  | _ => .script (scriptOf [])

/-- Where a shell works that is started: the path that it was told, if it is right. -/
def startingFolder (tree : FileTree) (vars : Variables) : Octets :=
  let given := pathOf ((vars.value? "PWD").getD [])
  let isHere := given.isAbsolute && (tree.find given).toOption.map Prod.fst = some tree.base
  nameOctets (if isHere then given.text else "/" ++ "/".intercalate tree.base)

/-- A shell at the start of its work: with a command in its arguments, with a script in a file, or
with one on standard input. -/
def started (tree : FileTree) (number : Nat) (name : Octets) (arguments : List Octets)
    (environment : List (String × Octets)) : State :=
  let shell := idle .plain number name environment
  let here := startingFolder tree shell.vars
  let shell := { shell with
    vars := shell.vars.put "PWD" { value := some here, isExported := true }
    here := (pathOf here).text }
  let failing (message : String) : State :=
    { shell with frames := [.say 2 (shell.complaint none message) "sh", .finish 2] }
  match invocation arguments with
  | .error message => failing message
  | .ok found =>
    let shell := { shell with options := found.letters }
    if found.takesCommand then
      match found.operands with
      | [] => failing "-c requires an argument"
      | command :: rest =>
        { shell with
          name := rest.headD name, arguments := rest.tail, line := 1
          frames := [.script (scriptOf command)] }
    else match found.operands with
      | file :: rest =>
        if found.takesInput then
          { shell with arguments := found.operands, frames := [.gather 0 []], line := 1 }
        else
          match tree.openInput (pathOf file), tree.read (pathOf file) with
          | .ok _, .ok content =>
            { shell with
              name := file, arguments := rest, line := 1
              frames := [.script (scriptOf (Bytes.octets content))] }
          | .ok _, .error _ => { shell with name := file }
          | .error error, _ =>
            let reason := if error = .notFound || error = .notDirectory then "No such file"
              else error.reason
            failing s!"cannot open {String.ofList file}: {reason}"
      | [] => { shell with frames := [.gather 0 []], line := 1 }

/-! ## The extended dialect -/

/-- A shell of the extended dialect as its arguments ask for it, with the other arguments; a failure is a
complaint and a status. -/
def configured (shell : State) : Nat → List Octets → Except (String × Nat) (State × List Octets)
  | 0, arguments => .ok (shell, arguments)
  | fuel + 1, arguments =>
    match arguments with
    | ['-', '-'] :: rest => .ok (shell, rest)
    | ['-'] :: rest => .ok (shell, rest)
    | ('-' :: '-' :: name) :: rest =>
      let known := ["norc", "noprofile", "noediting", "login", "posix", "restricted", "verbose"]
      if known.contains (String.ofList name) then configured shell fuel rest
      else .error ("--" ++ String.ofList name ++ ": invalid option", 2)
    | (sign :: letter :: letters) :: rest =>
      if sign ≠ '-' && sign ≠ '+' then .ok (shell, arguments)
      else
        let isOn := sign = '-'
        match letter, letters, rest with
        | 'o', [], name :: rest =>
          let name := String.ofList name
          if (Switches.options.lookup name).isNone then
            .error ("line 0: bash: " ++ name ++ ": invalid option name", 2)
          else configured (Switches.switchOption shell name isOn) fuel rest
        | 'O', [], name :: rest =>
          let name := String.ofList name
          if (Switches.behaviour.lookup name).isNone then
            .error ("line 0: " ++ name ++ ": invalid shell option name", 2)
          else configured (Switches.switch shell name isOn) fuel rest
        | _, _, _ =>
          match (letter :: letters).find? fun letter =>
              !(Switches.letters.contains letter || "ilrD".toList.contains letter) with
          | some unknown => .error (String.ofList [sign, unknown] ++ ": invalid option", 2)
          | none =>
            let shell := (letter :: letters).foldl (fun shell letter =>
              if "ilrD".toList.contains letter then shell
              else Switches.switchLetter shell letter isOn) shell
            configured shell fuel rest
    | _ => .ok (shell, arguments)

/-- The variables that a shell of the extended dialect knows from the start. -/
def initialVariables : List (String × Variable) :=
  let text (name value : String) : String × Variable := (name, { value := some value.toList })
  let number (name : String) (value : Nat) : String × Variable :=
    (name, { value := some (toString value).toList, isReadOnly := true, marks := ['i'] })
  [text "BASH" "/usr/bin/bash", text "BASH_VERSION" "5.2.21(1)-release", text "HOSTTYPE" "x86_64",
    text "MACHTYPE" "x86_64-pc-linux-gnu", text "OSTYPE" "linux-gnu", text "SHELL" "/bin/bash",
    text "TERM" "dumb", number "EUID" 0, number "UID" 0, number "PPID" 1,
    ("BASH_VERSINFO",
      { value := none
        isReadOnly := true
        elements := some (Elements.ofList
          (["5", "2", "21", "1", "release", "x86_64-pc-linux-gnu"].map String.toList)) }),
    ("OLDPWD", { value := none, isExported := true })]

/-- How many shells of the environment are inside each other, with one more. -/
def nextLevel (environment : List (String × Octets)) : Octets :=
  let before := ((environment.lookup "SHLVL").bind (Integer.signed? 10)).getD 0
  (toString (max 0 (before + 1))).toList

/-- A shell of the extended dialect at the start of its work. -/
def startedExtended (tree : FileTree) (number : Nat) (name : Octets) (arguments : List Octets)
    (environment : List (String × Octets)) : State :=
  let shell := idle .extended number name environment
  let here := startingFolder tree shell.vars
  let own := initialVariables.foldl (fun vars (name, binding) =>
    if (vars.lookup name).isSome then vars else vars.put name binding) shell.vars
  let vars := (own.put "PWD" { value := some here, isExported := true }).put "SHLVL"
    { value := some (nextLevel environment), isExported := true }
  let shell := { shell with
    vars := vars.put "_" { value := some "/usr/bin/bash".toList, isExported := true }
    here := (pathOf here).text
    clock := tree.clock
    begun := tree.clock
    options := ['h', 'B']
    switches := Switches.initial }
  let failing (label : Octets) (message : String) (status : Nat) : State :=
    let text := Bytes.ofOctets (label ++ (": " ++ message ++ "\n").toList)
    { shell with frames := [.say 2 text "bash", .finish status] }
  match configured shell (arguments.length + 1) arguments with
  | .error (message, status) => failing name message status
  | .ok (shell, operands) =>
    if shell.has 'c' then
      match operands with
      | [] => failing name "-c: option requires an argument" 2
      | command :: rest =>
        { shell with
          name := rest.headD name, arguments := rest.tail, line := 1
          frames := [.script (scriptOf (closedText command))] }
    else match operands with
      | file :: rest =>
        if shell.has 's' then
          { shell with arguments := operands, frames := [.gather 0 []], line := 1 }
        else
          let shown := String.ofList file
          match tree.openInput (pathOf file), tree.read (pathOf file) with
          | .ok _, .ok content =>
            if content.take 80 |>.contains 0 then
              failing file (shown ++ ": cannot execute binary file") 126
            else
              { shell with
                name := file, arguments := rest, line := 1
                frames := [.script (scriptOf (Bytes.octets content))] }
          | .ok _, .error _ => failing file (shown ++ ": Is a directory") 126
          | .error error, _ =>
            failing name (shown ++ ": " ++ error.reason)
              (if error = .notFound || error = .notDirectory then 127 else 126)
      | [] => { shell with frames := [.gather 0 []], line := 1 }

end CorpusJudge.Shell.State
