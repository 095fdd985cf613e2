import CorpusJudge.Emulator.Computer.Launch

/-!
# Acts of a shell

What a shell does in a turn: it looks at and changes itself, its descriptors and the machine it runs
on.
-/

namespace CorpusJudge.Shell

/-- Something that the shell with a number does on its machine. -/
abbrev Act (α : Type) := ReaderT Nat (StateM Computer) α

namespace Act

/-- A shell that does not exist. -/
def absent : Proc where
  number := 0
  parent := 0
  descriptors := []
  folder := []
  wake := 0
  isBlocked := false
  ignored := []
  activity := .ended (.code 0)

/-- The shell as a running program. -/
def proc : Act Proc := do
  return ((← get).proc? (← read)).getD absent

/-- The shell itself. -/
def shell : Act State := do
  match (← proc).activity with
  | .shell shell => return shell
  | _ => return State.idle .plain 0 [] []

/-- Change the shell as a running program. -/
def updateProc (change : Proc → Proc) : Act Unit := do
  let number ← read
  modify (·.update number change)

/-- Change the shell, unless it has ended. -/
def update (change : State → State) : Act Unit :=
  updateProc fun proc => match proc.activity with
    | .shell shell => { proc with activity := .shell (change shell) }
    | _ => proc

/-- Put work on top of what there is to do. -/
def push (frames : List Frame) : Act Unit :=
  update (·.push frames)

/-- Set the status. -/
def setStatus (status : Nat) : Act Unit :=
  update fun shell => { shell with status := status }

/-- The files as the shell sees them. -/
def files : Act FileTree := do
  return (← get).filesOf (← proc)

/-- Write complaints, as the next thing to do. -/
def complain (name : Option String) (message : String) : Act Unit := do
  let shell ← shell
  push [.say 2 (shell.complaint name message) (name.getD "")]

/-- Write output of a built-in command, as the next thing to do. -/
def say (name : String) (text : Octets) : Act Unit :=
  if text.isEmpty then pure () else push [.say 1 (Bytes.ofOctets text) name]

/-- Write more output of a built-in command, behind what it has said already. -/
def sayMore (name : String) (text : Octets) : Act Unit :=
  update fun shell =>
    let said := shell.frames.takeWhile fun frame => match frame with
      | .say _ _ _ => true
      | _ => false
    { shell with
      frames := said ++ .say 1 (Bytes.ofOctets text) name :: shell.frames.drop said.length }

/-- End with a status, after the commands that the shell was asked to execute at its end. -/
def exit (status : Nat) : Act Unit :=
  update fun shell =>
    match shell.traps.lookup 0 with
    | some action =>
      { shell with
        traps := shell.traps.filter fun (signal, _) => signal ≠ 0
        status := status
        caught := []
        frames := .script (State.scriptOf action) ::
          (if shell.isExtended then [.within "exit trap"] else []) ++ [.finish status] }
    | none => { shell with status := status, caught := [], frames := [.finish status] }

/-- Complain and end. -/
def abort (name : Option String) (message : String) : Act Unit := do
  let shell ← shell
  exit (if shell.isExtended then 1 else 2)
  push [.say 2 (shell.complaint name message) (name.getD "")]

/-- Whether the shell speaks the extended dialect. -/
def isExtended : Act Bool := return (← shell).isExtended

/-- Complain and give up the line of the script that is being executed.  Where there is none, the shell
ends. -/
def giveUp (name : Option String) (message : String) : Act Unit := do
  let before ← shell
  let isScript (frame : Frame) : Bool := match frame with
    | .script _ => true
    | _ => false
  let dropped := before.frames.takeWhile fun frame => !isScript frame
  if dropped.length = before.frames.length then exit 1
  else
    let kept := dropped.filter fun frame => match frame with
      | .restore _ => true
      | .forget _ => true
      | .call _ _ _ => true
      | _ => false
    update fun shell =>
      { shell with
        status := 1, stageStatuses := [], frames := kept ++ shell.frames.drop dropped.length }
  push [.say 2 (before.complaint name message) (name.getD "")]

/-- Deal with what has no value. -/
def mishap (name : Option String) : Mishap → Act Unit
  | .line message => giveUp name message
  | .fatal message => abort name message

/-- Write to the descriptor for complaints at once. -/
def writeNow (bytes : Bytes) : Act Unit := do
  if let some channel := (← proc).descriptors.lookup 2 then
    modify fun machine => (machine.write channel (Piece.ofBytes bytes)).2

/-- What stands in front of commands that are shown.  In the extended dialect its first character is
repeated for each level of commands inside others. -/
def tracePrefix : Act Octets := do
  let shell ← shell
  let text := (shell.vars.value? "PS4").getD []
  let source : Source := { rest := text, line := shell.line, dialect := shell.dialect }
  let expanded := match (readHere (16 * text.length + 64) source).run source with
    | .ok ((parts, _), _) =>
      match (expandParts false parts).run { shell := shell, outputs := [] } with
      | .ok (glyphs, _) => textOf glyphs
      | .error _ => text
    | .error _ => text
  let within := (shell.frames.filter fun frame => match frame with
    | .within name => name ≠ "exit trap"
    | _ => false).length
  let level := if shell.isExtended then shell.level + within else 0
  return List.replicate level (expanded.headD '+') ++ expanded

/-- Show the words of a command as it is executed, if options say so. -/
def trace (words : List Octets) : Act Unit := do
  if (← shell).has 'x' then
    writeNow (Bytes.ofOctets ((← tracePrefix) ++ [' '].intercalate words ++ ['\n']))

/-- Assign variables for good. -/
def assignAll : List (String × Octets) → Act (Except Mishap Unit)
  | [] => return .ok ()
  | (name, value) :: rest => do
    let before ← shell
    if before.isExtended then
      match before.set ⟨name, none, false, .one value⟩ with
      | .error mishap => return .error mishap
      | .ok changed => update fun _ => changed
    else
      if before.vars.isReadOnly name then return .error (.fatal s!"{name}: is read only")
      update (·.assign name value)
    update fun shell =>
      if shell.has 'a' then
        let old := (shell.vars.lookup name).getD .blank
        { shell with vars := shell.vars.put name { old with isExported := true } }
      else shell
    assignAll rest

/-- The descriptors from which hidden ones are numbered. -/
def firstHidden : Nat := 10

/-- A descriptor that is not in use. -/
def hiddenDescriptor : Act Nat := do
  let used := (← proc).descriptors.map Prod.fst
  return (used.foldl max (firstHidden - 1)) + 1

/-- Let a descriptor stand for a channel. -/
def bind (descriptor channel : Nat) : Act Unit :=
  updateProc (·.bind descriptor channel)

/-- Close a descriptor. -/
def close (descriptor : Nat) : Act Unit := do
  updateProc (·.close descriptor)
  modify Computer.sweep

/-- Start a subshell that executes a command, with its descriptors changed. -/
def fork (command : Command) (change : Proc → Proc) : Act Nat := do
  let source ← proc
  let shell ← shell
  let machine ← get
  let (number, machine) := machine.fork source (.shell (shell.subshell command))
  set (machine.update number change)
  return number

end Act

end CorpusJudge.Shell
