import CorpusJudge.Emulator.Shell.Naming

/-!
# Running commands

What a shell does to execute a command whose words are known: it calls a function, starts a program, or
becomes one.
-/

namespace CorpusJudge.Shell

/-- The signals that a shell ignores. -/
def ignoredSignals (shell : State) : List Nat :=
  shell.traps.filterMap fun (signal, action) => if action.isEmpty then some signal else none

/-- Why a program with a name cannot be started, in the words of the shell, and the status that tells so. -/
def startFailure (shell : State) (tree : FileTree) (name : Octets) (error : FileError) : String × Nat :=
  let isMissing := error = .notFound || error = .notDirectory
  let status := if isMissing then 127 else 126
  if !shell.isExtended then
    (String.ofList name ++ ": " ++ (if isMissing then "not found" else error.reason), status)
  else if !name.contains '/' && isMissing then (String.ofList name ++ ": command not found", 127)
  else
    match tree.find (pathOf name) with
    | .ok (_, .folder) => (String.ofList name ++ ": Is a directory", 126)
    | .ok (_, .file content) =>
      match (FileTree.interpreterOf? content).bind List.head? with
      | some interpreter =>
        if isMissing then
          (String.ofList name ++ ": " ++ String.ofList interpreter ++ ": bad interpreter: " ++
            error.reason, 126)
        else (String.ofList name ++ ": " ++ error.reason, status)
      | none => (String.ofList name ++ ": " ++ error.reason, status)
    | _ => (String.ofList name ++ ": " ++ error.reason, status)

/-- Whether a program that is started gets a descriptor. -/
def isPassedOn (shell : State) (descriptor : Nat) : Bool :=
  descriptor < Act.firstHidden || (shell.isExtended && channelDescriptors.contains descriptor)

/-- What a program that is started from a path sees. -/
def environmentFor (shell : State) (path : Octets) : List (String × Octets) :=
  if shell.isExtended then shell.vars.sortedEnvironment path else shell.vars.environment

/-- Become another program, or complain that there is none and end. -/
def becomeProgram (caller : Option String) (fields : List Octets) : Act Unit := do
  let shell ← Act.shell
  let number ← read
  let name := fields.headD []
  let path := match (← programFor name).toOption with
    | some (path, _) => nameOctets path.text
    | none => name
  let search := Computer.searchPath (match shell.vars.value? "PATH" with
    | some path => [("PATH", path)]
    | none => [])
  match (← get).become number fields (environmentFor shell path) search (some shell.dialect.program) with
  | .ok machine =>
    MonadStateOf.set <| (machine.update number fun proc =>
      { proc with
        descriptors := proc.descriptors.filter fun (descriptor, _) => isPassedOn shell descriptor
        ignored := ignoredSignals shell }).sweep
  | .error error =>
    let (message, status) := startFailure shell (← Act.files) name error
    Act.exit status
    Act.push [.say 2 (shell.complaint caller message) ""]

/-- Execute a program: in this shell's place if nothing is left to do, or in a new one. -/
def runProgramWhere (isLast : Bool) (fields : List Octets) : Act Unit := do
  let name := fields.headD []
  let missing ← if name.contains '/' then pure none else do
    match ← programFor name with
    | .ok (path, _) =>
      track (String.ofList name) path
      pure none
    | .error error => pure (some error)
  match missing with
  | some error =>
    let (message, status) := startFailure (← Act.shell) (← Act.files) name error
    Act.setStatus (if (← Act.shell).isExtended then status else 127)
    Act.complain none message
  | none =>
    if isLast then becomeProgram none fields
    else
      let source ← Act.proc
      let shell ← Act.shell
      let (number, machine) := (← get).fork source (.shell (shell.subshell .nothing))
      MonadStateOf.set machine
      Act.push [.await [number]]
      fun _ => becomeProgram none fields number

/-- Call a function. -/
def callFunction (name : String) (body : Command) (arguments : List Octets) : Act Unit := do
  let outer ← Act.shell
  let (line, body) := match body with
    | .spoken line _ inner => (line, inner)
    | other => (outer.line, other)
  Act.update fun shell =>
    { shell.withArguments arguments with
      callers := ⟨name, shell.line, shell.title, true⟩ :: shell.callers
      line := line
      title := (shell.homes.lookup name).getD shell.title }
  let leaving := if outer.isExtended && outer.passesOn State.returnEvent then
      [Frame.event State.returnEvent]
    else []
  Act.push (.run body [] :: leaving ++ [.call outer.arguments outer.scan []])

end CorpusJudge.Shell
