import CorpusJudge.Emulator.Shell.Act

/-!
# Reading input

What a shell reads from its descriptors is split into fields for variables, or becomes the elements of
one.  Reading may take several turns.
-/

namespace CorpusJudge.Shell

/-- Whether a character is one of the blanks that separate fields. -/
def isFieldBlank (separators : Octets) (character : Char × Bool) : Bool :=
  !character.2 && separators.contains character.1 && " \t\n".toList.contains character.1

/-- The rest of a line, without blanks at its ends.  If it is a single field with the mark that ends
it, the mark does not belong to it. -/
def onlyField (separators : Octets) (text : List (Char × Bool)) : List (Char × Bool) :=
  let field := text.takeWhile fun (character, isQuoted) =>
    isQuoted || !separators.contains character
  match (text.drop field.length).dropWhile (isFieldBlank separators) with
  | [(character, isQuoted)] =>
    if !isQuoted && separators.contains character then field else text
  | _ => text

/-- The first field of a line, and the line behind it and what ends it. -/
def firstField (separators : Octets) (line : List (Char × Bool)) : Octets × List (Char × Bool) :=
  let start := line.dropWhile (isFieldBlank separators)
  let field := start.takeWhile fun (character, isQuoted) =>
    isQuoted || !separators.contains character
  let after := (start.drop field.length).dropWhile (isFieldBlank separators)
  let after := match after with
    | (character, isQuoted) :: rest =>
      if !isQuoted && separators.contains character then
        rest.dropWhile (isFieldBlank separators)
      else after
    | [] => []
  (field.map Prod.fst, after)

/-- Give the fields of a line to variables; the last one gets the rest of the line. -/
def assignFields (separators : Octets) : List String → List (Char × Bool) →
    List (String × Octets)
  | [], _ => []
  | [name], line =>
    let start := line.dropWhile (isFieldBlank separators)
    let text := (start.reverse.dropWhile (isFieldBlank separators)).reverse
    [(name, (onlyField separators text).map Prod.fst)]
  | name :: names, line =>
    let (field, after) := firstField separators line
    (name, field) :: assignFields separators names after

/-- All fields of a line, of which there may be so many. -/
def allFields (separators : Octets) : Nat → List (Char × Bool) → List Octets
  | 0, _ => []
  | fuel + 1, line =>
    if (line.dropWhile (isFieldBlank separators)).isEmpty then []
    else
      let (field, after) := firstField separators line
      field :: allFields separators fuel after

/-- Take in more of what is read, which stands in reverse, with its backslashes resolved.  The result tells
whether it has ended. -/
def ReadTask.takeIn (task : ReadTask) (reversed : List (Char × Bool)) :
    Octets → List (Char × Bool) × Bool
  | [] => (reversed, false)
  | character :: rest =>
    let isFull (reversed : List (Char × Bool)) : Bool :=
      task.most.any fun most => most ≤ reversed.length
    match reversed with
    | ('\\', false) :: before =>
      if task.isRaw then
        if character = task.mark && !task.ignoresMark then (reversed, true)
        else
          let longer := (character, false) :: reversed
          if isFull longer then (longer, true) else takeIn task longer rest
      else if character = '\n' then takeIn task before rest
      else
        let longer := (character, true) :: before
        if isFull longer then (longer, true) else takeIn task longer rest
    | _ =>
      if character = task.mark && !task.ignoresMark then (reversed, true)
      else
        let longer := (character, false) :: reversed
        let isPending := !task.isRaw && character = '\\'
        if isFull longer && !isPending then (longer, true) else takeIn task longer rest

/-- The assignments that a line, which stands in reverse, leads to. -/
def ReadTask.assignments (task : ReadTask) (shell : State) (line : List (Char × Bool)) :
    List (String × Octets) :=
  let separators := (shell.vars.value? "IFS").getD " \t\n".toList
  if task.ignoresMark || (task.names.isEmpty && shell.isExtended) then
    let names := if task.names.isEmpty then ["REPLY"] else task.names
    names.zipIdx.map fun (name, place) => (name, if place = 0 then line.map Prod.fst else [])
  else assignFields separators task.names line

/-- Finish reading, with what stands in reverse. -/
def finishReading (task : ReadTask) (reversed : List (Char × Bool)) (status : Nat) : Act Unit := do
  let shell ← Act.shell
  let reversed := match reversed with
    | ('\\', false) :: before => if status = 0 || task.isRaw then reversed else before
    | _ => reversed
  let reversed := reversed.filter fun (character, _) => character ≠ '\x00'
  let line := reversed.reverse
  let separators := (shell.vars.value? "IFS").getD " \t\n".toList
  match task.list with
  | some name =>
    let items := (allFields separators (line.length + 1) line).map fun field => (none, false, field)
    match shell.set ⟨name, none, false, .several items⟩ with
    | .ok changed =>
      Act.update fun _ => changed
      Act.setStatus status
    | .error mishap =>
      Act.setStatus 1
      Act.complain none mishap.message
  | none =>
    match ← Act.assignAll (task.assignments shell line) with
    | .ok () => Act.setStatus status
    | .error mishap =>
      if shell.isExtended then
        Act.setStatus 1
        Act.complain none mishap.message
      else Act.abort (some "read") mishap.message

/-- How many bytes are read next from a channel. -/
def ReadTask.demand (task : ReadTask) (machine : Computer) (channel : Nat) : Nat :=
  if task.most.isSome then 1
  else
    let mark := task.mark.toNat
    ((machine.ahead channel).takeWhile fun byte => byte.toNat ≠ mark).length + 1

/-- Go on reading for variables. -/
def continueReading (task : ReadTask) (gathered : List (Char × Bool)) : Act Turn := do
  match (← Act.proc).descriptors.lookup task.descriptor with
  | none =>
    finishReading task gathered 1
    return .moved
  | some channel =>
    let machine ← get
    match machine.read channel (task.demand machine channel) with
    | (.piece piece, machine) =>
      MonadStateOf.set machine
      let (line, isEnded) := task.takeIn gathered (Bytes.octets piece.bytes)
      if isEnded then finishReading task line 0 else Act.push [.reading task line]
      return .moved
    | (.blocked, _) =>
      Act.push [.reading task gathered]
      return .blocked
    | _ =>
      finishReading task gathered 1
      return .moved

/-- The lines of a text up to their marks, latest first, behind others. -/
def linesInto (mark : Char) (lines : List Octets) (text : Octets) : List Octets :=
  let (current, lines) := text.foldl (fun (current, lines) character =>
    if character = mark then ([], (character :: current).reverse :: lines)
    else (character :: current, lines)) (([] : Octets), lines)
  if current.isEmpty then lines else current.reverse :: lines

/-- Give lines to a variable as its elements. -/
def finishLines (task : LinesTask) (text : Octets) : Act Unit := do
  let lines := ((linesInto task.mark [] text).reverse.drop task.passed)
  let lines := if task.most = 0 then lines else lines.take task.most
  let values := lines.map fun line =>
    if task.isTrimmed && line.getLast? = some task.mark then line.dropLast else line
  let shell ← Act.shell
  let start := task.origin.getD 0
  let items := values.zipIdx.map fun (value, place) =>
    (some (toString (start + place)).toList, false, value)
  match shell.set ⟨task.name, none, task.origin.isSome, .several items⟩ with
  | .ok changed =>
    Act.update fun _ => changed
    Act.setStatus 0
  | .error mishap =>
    Act.setStatus 1
    Act.complain none mishap.message

/-- Go on reading lines for a variable. -/
def continueLines (task : LinesTask) (pieces : List Octets) : Act Turn := do
  let finished : Act Turn := do
    finishLines task pieces.reverse.flatten
    return .moved
  match (← Act.proc).descriptors.lookup task.descriptor with
  | none => finished
  | some channel =>
    let machine ← get
    let length := if task.most = 0 then Computer.pieceSize
      else ((machine.ahead channel).takeWhile fun byte => byte.toNat ≠ task.mark.toNat).length + 1
    let enough := task.most ≠ 0 &&
      task.most + task.passed ≤ (pieces.filter fun piece => piece.getLast? = some task.mark).length
    if enough then finished
    else
      let (result, machine) := machine.read channel length
      MonadStateOf.set machine
      match result with
      | .piece piece =>
        Act.push [.lines task (Bytes.octets piece.bytes :: pieces)]
        return .moved
      | .blocked =>
        Act.push [.lines task pieces]
        return .blocked
      | _ => finished

end CorpusJudge.Shell
