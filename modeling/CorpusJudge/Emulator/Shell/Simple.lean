import CorpusJudge.Emulator.Shell.Builtins
import CorpusJudge.Emulator.Shell.Extras

/-!
# Simple commands

A simple command is expanded, redirected, and executed: as a function, as a built-in command, or as a
program.
-/

namespace CorpusJudge.Shell

/-- What an expansion comes to: its result, or that the shell has been given other work. -/
abbrev Expanded (α : Type) := Option α

/-- A program with a change to the shell that it is. -/
def reshaped (proc : Proc) (change : State → State) : Proc :=
  match proc.activity with
  | .shell shell => { proc with activity := .shell (change shell) }
  | _ => proc

/-- Let a command be taken up again when a channel to another one is there. -/
def openChannelTo (command : Command) (outputs : List Octets) (isSource : Bool) (inner : Command)
    (vars : Variables) : Act Unit := do
  let ((entrance, outlet), machine) := (← get).addPipe
  MonadStateOf.set machine
  let used := (← Act.proc).descriptors.map Prod.fst
  let descriptor := (channelDescriptors.find? fun number => !used.contains number).getD 60
  let _ ← Act.fork inner fun proc =>
    let proc := reshaped proc fun shell => { shell with vars := vars, level := shell.level + 1 }
    if isSource then proc.bind 1 entrance else proc.bind 0 outlet
  Act.bind descriptor (if isSource then outlet else entrance)
  let path := s!"/dev/fd/{descriptor}".toList
  Act.push [.run command (outputs ++ [path]), .restore [(descriptor, none)]]

/-- The shell of a command substitution: in the extended dialect failing is no error there, unless a switch
says so. -/
def substituting (shell : State) : State :=
  if shell.isExtended && !shell.switches.contains "inherit_errexit" then
    { shell with options := shell.options.filter (· ≠ 'e'), level := shell.level + 1 }
  else { shell with level := shell.level + 1 }

/-- Expand something for a command.  If the output of another command is needed, that one is started
and the command is taken up again with its output. -/
def expanding {α : Type} (command : Command) (outputs : List Octets) (expansion : Expand α) :
    Act (Expanded α) := do
  let now := (← Act.files).clock
  match expansion.run { shell := { (← Act.shell) with clock := now }, outputs := outputs } with
  | .ok (result, expander) =>
    Act.update fun shell =>
      { shell with
        vars := expander.shell.vars
        seed := expander.shell.seed
        begun := expander.shell.begun }
    for message in expander.complaints.reverse do
      Act.writeNow ((← Act.shell).complaint none message)
    for words in expander.shown.reverse do
      Act.trace [" ".toList.intercalate ("[[".toList :: words ++ ["]]".toList])]
    return some result
  | .error (.failure message) =>
    Act.abort none message
    let shell ← Act.shell
    if shell.isExtended && shell.has 'c' && !shell.isSubshell then
      Act.update fun shell =>
        { shell with
          frames := shell.frames.map fun frame => match frame with
            | .finish _ => .finish 127
            | other => other }
    return none
  | .error (.line message) =>
    Act.giveUp none message
    return none
  | .error (.needsChannel isSource inner vars) =>
    openChannelTo command outputs isSource inner vars
    return none
  | .error (.needs inner vars) =>
    let ((entrance, outlet), machine) := (← get).addPipe
    MonadStateOf.set machine
    let descriptor ← Act.hiddenDescriptor
    let number ← Act.fork inner fun proc =>
      reshaped (proc.bind 1 entrance) fun shell => substituting { shell with vars := vars }
    Act.bind descriptor outlet
    Act.push [.collect number descriptor [], .run command outputs]
    return none

/-- The parts of a simple command after expansion.  Where the assignments have been made already, there is
what the variables were before. -/
structure Prepared where
  fields : List Field
  redirects : List Redirect
  settings : List Setting
  saved : List (String × Option Variable)

/-- The variables after those with some names have been marked for programs that are started. -/
def exported (vars : Variables) (names : List String) : Variables :=
  names.foldl (fun vars name =>
    vars.put name { (vars.lookup name).getD .blank with isExported := true }) vars

/-- Make the assignments of a command of the extended dialect, each in view of those before it. -/
def makeSettings (tree : FileTree) (isBrief : Bool) (assignments : List Assignment) :
    Expand (List Setting × List (String × Option Variable)) := do
  let before := (← get).shell.vars
  let settings ← assignments.mapM fun assignment => do
    let setting ← expandSetting tree assignment
    if isBrief && (← get).shell.vars.isReadOnly setting.name then
      Expand.complain (setting.name ++ ": readonly variable")
      return setting
    Expand.evaluating fun shell => return ((), ← shell.set setting)
    return setting
  let names := (settings.map fun setting => before.resolve setting.name).filter fun name =>
    !(isBrief && before.isReadOnly name)
  if isBrief || (← get).shell.has 'a' then
    modify fun expander =>
      { expander with
        shell := { expander.shell with vars := exported expander.shell.vars names } }
  return (settings, if isBrief then names.reverse.map fun name => (name, before.lookup name) else [])

/-- Expand a simple command: its words, its redirections, and then what it assigns, each assignment
in view of those before it. -/
def prepare (tree : FileTree) (assignments : List Assignment) (words : List Word)
    (redirections : List Redirection) : Expand Prepared := do
  let fields ← expandCommandWords tree words
  let redirects ← expandRedirections tree redirections
  if ← Expand.isExtended then
    let (settings, saved) ← makeSettings tree (!fields.isEmpty) assignments
    return ⟨fields, redirects, settings, saved⟩
  let before := (← get).shell.vars
  let settings ← assignments.mapM fun assignment => do
    let setting ← expandSetting tree assignment
    modify fun expander =>
      { expander with shell := expander.shell.assign setting.name setting.text }
    return setting
  modify fun expander =>
    let vars := settings.foldl (fun vars setting =>
      vars.putBack setting.name (before.lookup setting.name)) expander.shell.vars
    { expander with shell := { expander.shell with vars := vars } }
  return ⟨fields, redirects, settings, []⟩

/-- Whether nothing is left to do for a subshell behind the command it is at. -/
def isLast : Act Bool := do
  let shell ← Act.shell
  return shell.isSubshell && shell.traps.all (fun (_, action) => action.isEmpty) &&
    shell.frames.all fun frame => match frame with
      | .within _ => true
      | .checked => true
      | _ => false

/-- Assign variables while a command is executed; the frame puts them back. -/
def assignBriefly (assignments : List (String × Octets)) : Act (Except Mishap Frame) := do
  let vars := (← Act.shell).vars
  let saved := assignments.reverse.map fun (name, _) => (name, vars.lookup name)
  match ← Act.assignAll assignments with
  | .error mishap => return .error mishap
  | .ok () =>
    Act.update fun shell =>
      { shell with vars := exported shell.vars (assignments.map Prod.fst) }
    return .ok (.forget saved)

/-- Execute a program: in this shell's place if nothing is left to do, or in a new one. -/
def runProgram (fields : List Octets) : Act Unit := do
  runProgramWhere (← isLast) fields

/-- Show a command of the extended dialect as it is executed: lists of values as they are written where they
are assigned, and in front of the command that declares them. -/
def traceExtended (prepared : Prepared) : Act Unit := do
  let written := match writtenCommand (← Act.shell).spoken with
    | .simple _ assignments _ _ => assignments
    | _ => []
  for (setting, place) in prepared.settings.zipIdx do
    match setting.given, written[place]? with
    | .several _, some assignment => Act.trace [Printing.ofAssignment assignment]
    | _, _ => Act.trace [setting.traced]
  let settings := prepared.fields.filterMap Field.setting
  for setting in settings do
    if let .several _ := setting.given then Act.trace [setting.tracedList]
  if !prepared.fields.isEmpty then
    Act.trace (prepared.fields.map fun field => match field.setting with
      | some setting =>
        match setting.given with
        | .several _ => setting.name.toList
        | .one _ => Quotation.shown field.text
      | none => Quotation.shown field.text)
  let command := String.ofList ((prepared.fields.head?.map Field.text).getD [])
  if command = "export" || command = "readonly" then
    for field in prepared.fields.tail do
      let name := field.text.takeWhile (· ≠ '=')
      let value := field.text.drop (name.length + 1)
      if field.setting.isNone && isName name && name.length < field.text.length then
        Act.trace [name ++ '=' :: if value.isEmpty then [] else Quotation.traced value]

/-- Show a command as it is executed, if options say so. -/
def trace (prepared : Prepared) : Act Unit := do
  let shell ← Act.shell
  if shell.has 'x' then
    let fields := prepared.fields.map (·.text)
    if shell.isExtended then traceExtended prepared
    else Act.trace (prepared.settings.map Setting.shown ++ fields)

/-- Execute a command of some kind after its redirections and assignments. -/
def runKind (kind : Kind) (fields : List Field) : Act Unit := do
  let texts := fields.map (·.text)
  match kind with
  | .empty => Act.setStatus ((← Act.shell).substituted.getD 0)
  | .replacing =>
    if ← Act.isExtended then replaceShell texts.tail
    else if texts.length = 1 then Act.setStatus 0
    else becomeProgram (some "exec") texts.tail
  | .function body => callFunction (String.ofList (texts.headD [])) body texts.tail
  | .program => runProgram texts
  | .builtin _ =>
    let name := String.ofList (texts.headD [])
    if ← Act.isExtended then runExtendedBuiltin name fields.tail
    else if name = "command" then
      Act.setStatus 0
      match Letters.read "pvV" "" texts.tail with
      | .error letter =>
        Act.setStatus 2
        Act.complain (some name) s!"Illegal option -{String.ofList [letter]}"
      | .ok options => Act.say name (← describe (!options.has 'V') (options.operands.take 1))
    else runBuiltin name texts.tail

/-- Complain about a redirection that failed. -/
def refuseRedirection (kind : Kind) (message : String) : Act Unit := do
  if ← Act.isExtended then
    Act.setStatus 1
    Act.complain none message
  else if kind.endsScript then Act.abort none message
  else
    Act.setStatus 2
    Act.complain none message

/-- Execute a simple command whose words are expanded. -/
def runPrepared (prepared : Prepared) : Act Unit := do
  trace prepared
  let shell ← Act.shell
  let (isDirect, fields) := directly shell.dialect prepared.fields
  let kind := kindOf shell isDirect (fields.map (·.text))
  let replaces ← match kind with
    | .replacing => pure true
    | .program => isLast
    | _ => pure false
  if shell.isExtended then
    Act.update fun shell =>
      let last := ((fields.getLast?.map (·.text)).getD [])
      { shell with
        stageStatuses := []
        vars := shell.vars.put "_" { value := some last } }
    if !prepared.saved.isEmpty && !replaces then Act.push [.forget prepared.saved]
  match ← redirect [] prepared.redirects with
  | .error message => refuseRedirection kind message
  | .ok saved =>
    if replaces then keepRedirections prepared.redirects saved
    else if !saved.isEmpty then Act.push [.restore saved]
    if shell.isExtended then runKind kind fields
    else
      let assignments := prepared.settings.map fun setting => (setting.name, setting.text)
      if kind.keepsAssignments then
        match ← Act.assignAll assignments with
        | .error mishap => Act.mishap none mishap
        | .ok () => runKind kind fields
      else
        match ← assignBriefly assignments with
        | .error mishap => Act.mishap none mishap
        | .ok frame =>
          if !replaces && !assignments.isEmpty then Act.push [frame]
          runKind kind fields

end CorpusJudge.Shell
