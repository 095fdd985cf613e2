import CorpusJudge.Bytes
import CorpusJudge.Emulator.Shell.Elements
import CorpusJudge.Emulator.Shell.Reader
import CorpusJudge.Text.Integer

/-!
# Shell state

What a shell knows and what it still has to do.  The work ahead is a stack of frames, so that a
shell can stop anywhere and go on later.
-/

namespace CorpusJudge.Shell

/-- A variable of a shell; one that is only marked has no value.  In the extended dialect it may hold
several values, and marks may say how its value is understood: as a number, in one case of letters, or as
the name of another variable. -/
structure Variable where
  value : Option Octets
  isExported : Bool := false
  isReadOnly : Bool := false
  elements : Option Elements := none
  marks : List Char := []
  deriving Inhabited

namespace Variable

/-- A variable with nothing to it. -/
def blank : Variable := { value := none }

/-- The mark of a variable for several values that none have been given to. -/
def unsetMark : Char := '?'

/-- The value that a variable has without brackets. -/
def plainValue (binding : Variable) : Option Octets :=
  match binding.elements with
  | some elements => elements.get? ['0']
  | none => binding.value

/-- A value in the case of letters that marks ask for. -/
def cased (binding : Variable) (value : Octets) : Octets :=
  if binding.marks.contains 'u' then value.map Char.toUpper
  else if binding.marks.contains 'l' then value.map Char.toLower
  else value

/-- A variable with a value in place of the one it has without brackets. -/
def withValue (binding : Variable) (value : Octets) : Variable :=
  let value := binding.cased value
  match binding.elements with
  | some elements => { binding with elements := some (elements.put ['0'] value) }
  | none => { binding with value := some value }

/-- All values of a variable by their keys. -/
def entries (binding : Variable) : List (Octets × Octets) :=
  match binding.elements with
  | some elements => elements.entries
  | none => binding.value.toList.map fun value => (['0'], value)

/-- The values of a variable as elements. -/
def toElements (binding : Variable) : Elements :=
  binding.elements.getD (.row (binding.value.toList.map fun value => (0, value)))

end Variable

/-- The variables of a shell by name. -/
abbrev Variables := List (String × Variable)

namespace Variables

/-- The name that a name stands for, along so many variables that only name others. -/
def resolveFrom (vars : Variables) : Nat → String → String
  | 0, name => name
  | fuel + 1, name =>
    match vars.lookup name with
    | some found =>
      if found.marks.contains 'n' then
        match found.value with
        | some (first :: rest) => resolveFrom vars fuel (String.ofList (first :: rest))
        | _ => name
      else name
    | none => name

/-- The name that a name stands for. -/
def resolve (vars : Variables) (name : String) : String := resolveFrom vars 8 name

/-- The variable that a name stands for. -/
def find? (vars : Variables) (name : String) : Option Variable :=
  vars.lookup (vars.resolve name)

/-- The value of a variable that has one. -/
def value? (vars : Variables) (name : String) : Option Octets :=
  (vars.find? name).bind Variable.plainValue

/-- Put a variable in place of the one with its name. -/
def put (vars : Variables) (name : String) (binding : Variable) : Variables :=
  if (vars.lookup name).isSome then
    vars.map fun (other, old) => (other, if other = name then binding else old)
  else vars ++ [(name, binding)]

/-- Give a variable a value and keep its marks. -/
def assign (vars : Variables) (name : String) (value : Octets) : Variables :=
  let name := vars.resolve name
  vars.put name (((vars.lookup name).getD .blank).withValue value)

/-- Whether a variable may not be changed. -/
def isReadOnly (vars : Variables) (name : String) : Bool :=
  (vars.find? name).any Variable.isReadOnly

/-- Put back what a variable was before. -/
def putBack (vars : Variables) (name : String) : Option Variable → Variables
  | some old => vars.put name old
  | none => vars.filter fun (other, _) => other ≠ name

/-- What programs that are started see. -/
def environment (vars : Variables) : List (String × Octets) :=
  vars.filterMap fun (name, binding) =>
    if binding.isExported && binding.elements.isNone then binding.value.map (name, ·) else none

/-- What programs see that are started from the extended dialect, given what started last. -/
def sortedEnvironment (vars : Variables) (last : Octets) : List (String × Octets) :=
  let rank (name : String) : Nat := Elements.drawer name.toList
  let others := vars.environment.filter fun (name, _) => name ≠ "_"
  others.mergeSort (fun (left, _) (right, _) => rank left ≤ rank right) ++ [("_", last)]

/-- The variables of a shell that is started in an environment. -/
def ofEnvironment (dialect : Dialect) (environment : List (String × Octets)) : Variables :=
  let own : List (String × String) := match dialect with
    | .plain => [("IFS", " \t\n"), ("OPTIND", "1"), ("PS1", "# "), ("PS2", "> "), ("PS4", "+ ")]
    | .extended => [("IFS", " \t\n"), ("OPTIND", "1"), ("PS4", "+ "), ("OPTERR", "1")]
  environment.foldl (fun vars (name, value) =>
    vars.put name { value := some value, isExported := true })
    (own.map fun (name, value) => (name, { value := some value.toList }))

end Variables

/-- How far the search for options in arguments has come: the number of the next argument, and how
many characters of the one before it have been looked at, if there are more. -/
structure OptionScan where
  index : Nat
  offset : Option Nat

/-- The descriptors for channels to commands. -/
def channelDescriptors : List Nat := [63, 62, 61, 60]

/-- The descriptors for channels to commands beside the shell. -/
def coprocessDescriptors : List Nat := [63, 60, 62, 61]

/-- A search that has not started. -/
def OptionScan.start : OptionScan := ⟨1, none⟩

/-- What is read into variables: the descriptor, whether backslashes count for nothing, the character that
ends it, how many characters there may be at most and whether the end mark counts then, and the variables,
or the one that gets all fields as its elements. -/
structure ReadTask where
  descriptor : Nat := 0
  isRaw : Bool := false
  mark : Char := '\n'
  most : Option Nat := none
  ignoresMark : Bool := false
  names : List String := []
  list : Option String := none

/-- How lines become elements of a variable: the descriptor, the name, whether the marks that end lines are
left out, the mark, how many lines there may be at most and how many are passed over, and the place of the
first one, unless old elements go away. -/
structure LinesTask where
  descriptor : Nat := 0
  name : String := "MAPFILE"
  isTrimmed : Bool := false
  mark : Char := '\n'
  most : Nat := 0
  passed : Nat := 0
  origin : Option Nat := none

/-- Something to come back to.  Descriptors and processes are known by their numbers. -/
inductive Frame where
  /-- Execute a command; `outputs` are those of its command substitutions so far. -/
  | run (command : Command) (outputs : List Octets)
  /-- Go on with the lines of a script. -/
  | script (source : Source)
  /-- Execute a command if the one before succeeded, or if it failed. -/
  | second (afterSuccess : Bool) (command : Command)
  /-- Turn success and failure around. -/
  | negated
  /-- Stop at a failure if the options say so. -/
  | checked
  /-- Choose by the test that was executed. -/
  | chosen (whenTrue otherwise : Command)
  /-- Execute the body of a loop if its test says so. -/
  | tested (untilTrue : Bool) (test body : Command) (status : Nat)
  /-- Test a loop again after its body. -/
  | repeated (untilTrue : Bool) (test body : Command)
  /-- Go on with the words of a loop, of which there are the line and the text that starts with it. -/
  | each (name : String) (values : List Octets) (body : Command) (written : Option (Nat × List Char))
  /-- Ask which of some words is meant; the text is what has been read of the answer. -/
  | asked (name : String) (values : List Octets) (body : Command) (isShown : Bool)
      (gathered : List (Char × Bool))
  /-- Do what follows an answer. -/
  | answered (name : String) (values : List Octets) (body : Command)
  /-- Put descriptors back. -/
  | restore (saved : List (Nat × Option Nat))
  /-- Put variables back. -/
  | forget (saved : List (String × Option Variable))
  /-- Return from a function. -/
  | call (arguments : List Octets) (scan : OptionScan) (locals : List (String × Option Variable))
  /-- Leave a script that another one reads; the name is how complaints call that one, and the arguments
  are its own if the script had others. -/
  | sourced (title : Option Octets) (arguments : Option (List Octets × OptionScan))
  /-- Leave a built-in command that executes others. -/
  | within (name : String)
  /-- Do what a trap asks for that is set for something else than a signal. -/
  | event (signal : Nat)
  /-- Wait for processes; the last one gives the status. -/
  | await (processes : List Nat)
  /-- Wait for a background process or for all of them, unless a signal comes. -/
  | pausing (processes : List Nat) (isAll : Bool)
  /-- Read the output of a command substitution. -/
  | collect (process descriptor : Nat) (gathered : List Bytes)
  /-- Wait for the process of a command substitution. -/
  | settle (process : Nat)
  /-- Write the output of a built-in command. -/
  | say (descriptor : Nat) (bytes : Bytes) (name : String)
  /-- Read the script itself from a descriptor. -/
  | gather (descriptor : Nat) (gathered : List Bytes)
  /-- Give the lines that are read to a variable as its elements. -/
  | lines (task : LinesTask) (gathered : List Octets)
  /-- Read into variables. -/
  | reading (task : ReadTask) (gathered : List (Char × Bool))
  /-- Put the status back after a trap. -/
  | status (status : Nat)
  /-- End with a status. -/
  | finish (status : Nat)

/-- A call that a shell is in, of a function or of another script: its name, the line it stands on, and how
complaints call the script in which it stands, unless that is the first one. -/
structure Caller where
  name : String
  line : Nat
  title : Option Octets
  isFunction : Bool

/-- A shell.  The last fields serve the extended dialect: the switches that are on, the statuses of the
stages of the last pipeline, the calls it is in, the name of the script that is being read, the folders to
come back to, where random numbers come from, how many subshells it is inside, how many command
substitutions, the text that starts with the command it is at, the scripts in which functions were
defined, the built-in commands that are not used, the functions that other shells get, and the time and when
the shell started, in microseconds. -/
structure State where
  name : Octets
  arguments : List Octets
  scan : OptionScan
  vars : Variables
  aliases : List (String × Octets)
  limits : List (Char × Octets)
  functions : List (String × Command)
  traps : List (Nat × Octets)
  options : List Char
  status : Nat
  substituted : Option Nat
  root : Nat
  background : Option Nat
  children : List Nat
  jobs : List (Nat × Nat)
  tracked : List (String × String)
  here : String
  line : Nat
  isTested : Bool
  isSubshell : Bool
  caught : List Nat
  frames : List Frame
  dialect : Dialect := .plain
  switches : List String := []
  stageStatuses : List Nat := []
  callers : List Caller := []
  title : Option Octets := none
  folders : List String := []
  seed : Nat := 0
  depth : Nat := 0
  level : Nat := 0
  spoken : List Char := []
  homes : List (String × Option Octets) := []
  disabled : List String := []
  sharedFunctions : List String := []
  clock : Int := 0
  begun : Int := 0

namespace State

/-- The traps that are set for something else than a signal: before each command, behind one that fails,
and behind functions and scripts that are read. -/
def commandEvent : Nat := 65

@[inherit_doc commandEvent]
def failureEvent : Nat := 66

@[inherit_doc commandEvent]
def returnEvent : Nat := 67

/-- Whether the shell speaks the extended dialect. -/
def isExtended (shell : State) : Bool := shell.dialect = .extended

/-- Whether an option is set. -/
def has (shell : State) (option : Char) : Bool :=
  shell.options.contains option

/-- A shell with a value for a variable.  Setting where options are looked for starts the search
there again. -/
def assign (shell : State) (name : String) (value : Octets) : State :=
  let scan := if name = "OPTIND" then
      OptionScan.mk (max 1 ((Integer.natural? 10 value).getD 1)) none
    else shell.scan
  { shell with vars := shell.vars.assign name value, scan := scan }

/-- A shell with other arguments. -/
def withArguments (shell : State) (arguments : List Octets) : State :=
  { shell with arguments := arguments, scan := .start }

/-- A shell that has started a program in the background: the program gets the first number for jobs
that is free. -/
def withJob (shell : State) (process : Nat) : State :=
  let number := ((List.range (shell.jobs.length + 1)).map (· + 1)).find? fun number =>
    !(shell.jobs.any fun (other, _) => other = number)
  { shell with
    background := some process
    children := shell.children ++ [process]
    jobs := shell.jobs ++ [(number.getD 1, process)] }

/-- The program that a word names as a job: by its number, or as the current or the previous one. -/
def job? (shell : State) (word : Octets) : Option Nat :=
  match word.tail with
  | ['%'] | ['+'] | [] => shell.jobs.getLast?.map Prod.snd
  | ['-'] => shell.jobs.dropLast.getLast?.map Prod.snd
  | digits => (Integer.natural? 10 digits).bind fun number => shell.jobs.lookup number

/-- A shell that knows nothing of some programs any more. -/
def withoutJobs (shell : State) (processes : List Nat) : State :=
  { shell with jobs := shell.jobs.filter fun (_, process) => !processes.contains process }

/-- Put work on top of what there is to do. -/
def push (shell : State) (frames : List Frame) : State :=
  { shell with frames := frames ++ shell.frames }

/-- The built-in command that executes what the shell is at. -/
def within? (shell : State) : Option String :=
  shell.frames.findSome? fun frame => match frame with
    | .within name => some name
    | _ => none

/-- A complaint of the shell. -/
def complaint (shell : State) (name : Option String) (message : String) : Bytes :=
  let caller := match name.or (if shell.isExtended then none else shell.within?) with
    | some caller => caller ++ ": "
    | none => ""
  let place := if shell.isExtended then "line " else ""
  Bytes.ofOctets (shell.title.getD shell.name) ++
    Bytes.ofOctets s!": {place}{shell.line}: {caller}{message}\n".toList

/-- Whether the status of what is being executed is looked at, so that failing is no error. -/
def isLookedAt (shell : State) : Bool :=
  shell.isTested || shell.frames.any fun frame => match frame with
    | .second _ _ => true
    | .negated => true
    | .chosen _ _ => true
    | .tested _ _ _ _ => true
    | _ => false

/-- How complaints call the script in which a function is defined now: commands in arguments are called
after the environment. -/
def home (shell : State) : Option Octets :=
  if shell.has 'c' then shell.title.or (some "environment".toList) else shell.title

/-- Whether functions and subshells take over a trap. -/
def passesOn (shell : State) (signal : Nat) : Bool :=
  if signal = failureEvent then shell.has 'E'
  else (signal = commandEvent || signal = returnEvent) && shell.has 'T'

/-- Whether the shell executes a trap. -/
def isInTrap (shell : State) : Bool :=
  shell.frames.any fun frame => match frame with
    | .within name => name = "trap" || " trap".toList.isSuffixOf name.toList
    | _ => false

/-- The shell of a subshell that executes a command. -/
def subshell (shell : State) (command : Command) : State :=
  { shell with
    traps := shell.traps.filter fun (signal, action) => action.isEmpty || shell.passesOn signal
    caught := []
    children := []
    jobs := []
    substituted := none
    isTested := shell.isLookedAt
    isSubshell := true
    callers := shell.callers
    depth := shell.depth + 1
    frames := [.run command []] ++
      (match shell.within? with
        | some name => [.within name]
        | none => []) }

end State

end CorpusJudge.Shell
