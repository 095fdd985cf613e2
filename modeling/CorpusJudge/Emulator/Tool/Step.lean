import CorpusJudge.Emulator.Computer.Launch
import CorpusJudge.Emulator.Tool.Options

/-!
# Tools at work

A turn of a tool does the next of its jobs, or a part of it.
-/

namespace CorpusJudge

namespace Tool

/-- The descriptor under which a tool reads a file of its own.  Programs that a tool starts have none
of the descriptors from here on. -/
def ownDescriptor : Nat := 100

/-- How much output is kept back. -/
def blockSize : Nat := 4096

/-- How a tool complains that it cannot open a file. -/
def openComplaint (tool : Tool) (path : Octets) (reason : String) : Job :=
  .complain tool.name (tool.wording.opening path ++ s!": {reason}".toList)

/-- How a tool complains that it cannot read what it has opened. -/
def readComplaint (tool : Tool) (name : Octets) (reason : String) : Job :=
  let shown := if name.isEmpty then ['-'] else name
  .complain tool.name (tool.wording.reading shown ++ s!": {reason}".toList)

/-- A tool with these jobs left. -/
def leaving (tool : Tool) (jobs : List Job) : Tool :=
  { tool with jobs := jobs }

/-- A tool that has failed at something. -/
def failing (tool : Tool) (status : Nat) : Tool :=
  { tool with status := max tool.status status }

/-- A tool that has told its filter something and goes on with the answer. -/
def telling (tool : Tool) (notice : Notice) (rest : List Job) : Tool :=
  let (jobs, filter) := tool.filter.respond notice
  { tool with jobs := jobs ++ rest, filter := filter }

/-- A tool that keeps back some output, or writes as many whole blocks as there are. -/
def keeping (tool : Tool) (bytes : Bytes) (rest : List Job) : Tool :=
  let size := tool.keptSize + bytes.length
  if size < blockSize then
    { tool with kept := bytes :: tool.kept, keptSize := size, jobs := rest }
  else
    let all := Piece.ofBytes (bytes :: tool.kept).reverse.flatten
    let written := size / blockSize * blockSize
    { tool with
      kept := [(all.drop written).bytes]
      keptSize := size - written
      jobs := .put 1 (all.take written) :: rest }

/-- A tool that writes what it has kept back. -/
def flushing (tool : Tool) (rest : List Job) : Tool :=
  if tool.keptSize = 0 then tool.leaving rest
  else
    { tool with
      kept := []
      keptSize := 0
      jobs := .put 1 (Piece.ofBytes tool.kept.reverse.flatten) :: rest }

end Tool

namespace Computer

/-- Let a program go on as a tool. -/
def setTool (machine : Computer) (number : Nat) (tool : Tool) : Computer :=
  machine.update number fun proc =>
    if proc.hasEnded then proc else { proc with activity := .tool tool }

/-- Write for a tool, which leaves `rest` to be done behind the bytes that were not taken. -/
def put (machine : Computer) (proc : Proc) (tool : Tool) (descriptor : Nat) (piece : Piece)
    (rest : List Job) : Turn × Computer :=
  let failing (reason : String) (machine : Computer) : Turn × Computer :=
    let jobs := if descriptor = 2 then rest
      else [.complain tool.name s!"write error: {reason}".toList, .finish tool.failure]
    (.moved, machine.setTool proc.number { tool with jobs := jobs, kept := [], keptSize := 0 })
  match proc.descriptors.lookup descriptor with
  | none => failing "Bad file descriptor" machine
  | some channel =>
    match machine.write channel piece with
    | (.taken count, machine) =>
      let jobs := if piece.size ≤ count then rest else .put descriptor (piece.drop count) :: rest
      (.moved, machine.setTool proc.number (tool.leaving jobs))
    | (.blocked, machine) => (.blocked, machine)
    | (.broken, machine) =>
      if proc.ignored.contains 13 then failing "Broken pipe" machine
      else (.moved, machine.finish proc.number (.signal 13))
    | (.failed reason, machine) => failing reason machine

/-- Jobs of a filter as they are done: output goes wherever the tool writes, and bytes are given back
to the descriptor they came from. -/
def directed (outputs : List Nat) (descriptor : Nat) (jobs : List Job) : List Job :=
  jobs.flatMap fun job => match job with
    | .put 1 piece => outputs.map (.put · piece)
    | .unread none count => [.unread (some descriptor) count]
    | other => [other]

/-- Pass on what a descriptor gives. -/
def consume (machine : Computer) (proc : Proc) (tool : Tool) (name : Octets) (descriptor : Nat)
    (rest : List Job) : Turn × Computer :=
  let tell (machine : Computer) (notice : Notice) (rest : List Job) : Turn × Computer :=
    let (jobs, filter) := tool.filter.respond notice
    (.moved, machine.setTool proc.number
      { tool with jobs := directed tool.outputs descriptor jobs ++ rest, filter := filter })
  let close (machine : Computer) : Computer :=
    if descriptor = Tool.ownDescriptor then
      (machine.update proc.number (·.close descriptor)).sweep
    else machine
  let failing (reason : String) (machine : Computer) : Turn × Computer :=
    let (jobs, filter) := tool.filter.respondUnreadable
    (.moved, (close machine).setTool proc.number
      ({ tool with
        jobs := tool.readComplaint name reason :: jobs ++ rest
        filter := filter }.failing tool.failure))
  if tool.filter.isSated then tell (close machine) .closed rest
  else match proc.descriptors.lookup descriptor with
    | none => failing "Bad file descriptor" machine
    | some channel =>
      match machine.read channel tool.filter.request with
      | (.piece piece, machine) => tell machine (.piece piece) (.consuming name descriptor :: rest)
      | (.finished, machine) => tell (close machine) .closed rest
      | (.blocked, machine) => (.blocked, machine)
      | (.failed reason, machine) => failing reason machine

/-- Start a program for a tool.  It has the descriptors of the tool that are not the tool's own. -/
def startFor (machine : Computer) (proc : Proc) (launch : Launch) (change : Proc → Proc) :
    Except FileError (Nat × Computer) := do
  let (child, machine) := machine.fork proc (.ended (.code 0))
  let machine := machine.update child fun proc =>
    change { proc with
      descriptors := proc.descriptors.filter fun (descriptor, _) =>
        descriptor < Tool.ownDescriptor }
  let machine ← machine.become child launch.command launch.environment
    (searchPath launch.environment) (some "sh")
  return (child, machine)

/-- Start a program for a tool and let the tool wait for it. -/
def launch (machine : Computer) (proc : Proc) (tool : Tool) (launch : Launch)
    (after : LaunchResult → List Job) (rest : List Job) : Turn × Computer :=
  let (input, machine) := match launch.input with
    | some bytes =>
      let (number, machine) := machine.addChannel (.supply bytes)
      (some number, machine)
    | none => (none, machine)
  let (pipe, machine) := if launch.isGathered then
      let ends := machine.addPipe
      (some ends.1, ends.2)
    else (none, machine)
  let change (child : Proc) : Proc :=
    let child := match input with
      | some channel => child.bind 0 channel
      | none => child
    match pipe with
    | some (entrance, _) => child.bind 1 entrance
    | none => child
  match machine.startFor proc launch change with
  | .error error =>
    (.moved, machine.sweep.setTool proc.number (tool.leaving (after ⟨.error error, [], false⟩ ++ rest)))
  | .ok (child, machine) =>
    let (descriptor, machine) := match pipe with
      | some (_, outlet) =>
        let own := Tool.ownDescriptor + 1
        (some own, machine.update proc.number (·.bind own outlet))
      | none => (none, machine)
    let limits := launch.limits.map fun (micros, signal) => (machine.clock + micros, signal)
    (.moved, machine.setTool proc.number
      (tool.leaving (.await child descriptor [] limits false after :: rest)))

/-- How long a tool sleeps that waits for a program and has a limit to watch, in microseconds. -/
def watchInterval : Nat := 500

/-- Wait for a program. -/
def awaitFor (machine : Computer) (proc : Proc) (tool : Tool) (child : Nat) (descriptor : Option Nat)
    (pieces : List Bytes) (limits : List (Nat × Nat)) (isLate : Bool)
    (after : LaunchResult → List Job) (rest : List Job) : Turn × Computer :=
  let waiting (machine : Computer) (descriptor : Option Nat) (pieces : List Bytes)
      (limits : List (Nat × Nat)) (isLate : Bool) : Computer :=
    machine.setTool proc.number
      (tool.leaving (.await child descriptor pieces limits isLate after :: rest))
  let settle (machine : Computer) : Turn × Computer :=
    match (machine.proc? child).bind Proc.ending? with
    | some ending =>
      let outcome : LaunchResult := ⟨.ok ending, pieces.reverse.flatten, isLate⟩
      (.moved, (machine.forget child).setTool proc.number (tool.leaving (after outcome ++ rest)))
    | none =>
      match limits with
      | [] => (.blocked, machine)
      | (deadline, signal) :: later =>
        if deadline ≤ machine.clock then
          let machine := (machine.family child).foldl (fun machine number =>
            (machine.signal number signal).signal number goOnSignal) machine
          (.moved, waiting machine descriptor pieces later true)
        else (.pause (min watchInterval (deadline - machine.clock)), machine)
  match descriptor with
  | none => settle machine
  | some own =>
    match proc.descriptors.lookup own with
    | none => settle machine
    | some channel =>
      match machine.read channel pieceSize with
      | (.piece piece, machine) =>
        (.moved, waiting machine descriptor (piece.bytes :: pieces) limits isLate)
      | (.blocked, machine) =>
        if limits.isEmpty then (.blocked, machine) else settle machine
      | (_, machine) =>
        let machine := (machine.update proc.number (·.close own)).sweep
        (.moved, waiting machine none pieces limits isLate)

/-- Open a file for output under a descriptor: for appending, at an offset in what it holds, or after
dropping that. -/
def openFor (machine : Computer) (proc : Proc) (tool : Tool) (path : Octets) (appends : Bool)
    (offset : Option Nat) (bind : Nat → Proc → Proc) (next : Tool) (rest : List Job) : Computer :=
  let opened := do
    let (files, channel) ←
      (machine.filesOf proc).openOutput (Shell.pathOf path) (appends || offset.isSome) appends
    let channel : Channel := match channel, offset with
      | .file place _ appends, some offset => .file place offset appends
      | channel, _ => channel
    (machine.withFiles files).openChannel proc channel
  match opened with
  | .ok (number, machine) =>
    (machine.update proc.number (bind number)).setTool proc.number (next.leaving rest)
  | .error error =>
    machine.setTool proc.number
      ((tool.leaving (tool.openComplaint path error.reason :: rest)).failing tool.failure)

/-- Connect a descriptor of a tool, which is told whether that could be done. -/
def connect (machine : Computer) (proc : Proc) (tool : Tool) (descriptor : Nat)
    (connection : Connection) (rest : List Job) : Turn × Computer :=
  let tell (machine : Computer) (tool : Tool) (reply : Reply) : Turn × Computer :=
    (.moved, machine.setTool proc.number (tool.telling (.answer reply) rest))
  let bound (opened : Except FileError (Nat × Computer)) : Turn × Computer :=
    match opened with
    | .ok (number, machine) =>
      tell (machine.update proc.number (·.bind descriptor number)) tool (.status 0)
    | .error error => tell machine tool (.refused error.reason)
  match connection with
  | .input path =>
    bound do machine.openChannel proc (← (machine.filesOf proc).openInput (Shell.pathOf path))
  | .output path appends =>
    bound do
      let (files, channel) ← (machine.filesOf proc).openOutput (Shell.pathOf path) appends appends
      (machine.withFiles files).openChannel proc channel
  | .reading launch =>
    let ((entrance, outlet), machine) := machine.addPipe
    match machine.startFor proc launch (·.bind 1 entrance) with
    | .ok (child, machine) =>
      tell (machine.update proc.number (·.bind descriptor outlet)).sweep
        { tool with readers := (descriptor, child) :: tool.readers } (.status 0)
    | .error error => tell machine.sweep tool (.refused error.reason)
  | .writing launch =>
    let ((entrance, outlet), machine) := machine.addPipe
    match machine.startFor proc launch (·.bind 0 outlet) with
    | .ok (child, machine) =>
      tell (machine.update proc.number (·.bind descriptor entrance)).sweep
        { tool with readers := (descriptor, child) :: tool.readers } (.status 0)
    | .error error => tell machine.sweep tool (.refused error.reason)

/-- A turn of a tool. -/
def stepTool (machine : Computer) (proc : Proc) (tool : Tool) : Turn × Computer :=
  let continueWith (machine : Computer) (tool : Tool) : Turn × Computer :=
    (.moved, machine.setTool proc.number tool)
  match tool.jobs with
  | [] =>
    if tool.keptSize = 0 then (.moved, machine.finish proc.number (.code (tool.status % 256)))
    else continueWith machine (tool.flushing [])
  | .emit descriptor bytes :: rest =>
    if bytes.isEmpty then continueWith machine (tool.leaving rest)
    else if descriptor = 1 && !tool.isDirect then continueWith machine (tool.keeping bytes rest)
    else if descriptor = 2 && tool.keptSize ≠ 0 && !tool.isHasty then
      continueWith machine (tool.flushing tool.jobs)
    else continueWith machine (tool.leaving (.put descriptor (Piece.ofBytes bytes) :: rest))
  | .put descriptor piece :: rest => machine.put proc tool descriptor piece rest
  | .flush :: rest => continueWith machine (tool.flushing rest)
  | .forever piece :: _ => machine.put proc tool 1 piece tool.jobs
  | .consume none :: rest =>
    continueWith machine (tool.telling (.opened []) (.consuming [] 0 :: rest))
  | .consume (some path) :: rest =>
    let opened := do
      machine.openChannel proc (← (machine.filesOf proc).openInput (Shell.pathOf path))
    match opened with
    | .ok (number, machine) =>
      continueWith (machine.update proc.number (·.bind Tool.ownDescriptor number))
        (tool.telling (.opened path) (.consuming path Tool.ownDescriptor :: rest))
    | .error error =>
      continueWith machine
        ((tool.leaving (tool.openComplaint path error.reason :: rest)).failing tool.failure)
  | .consuming name descriptor :: rest => machine.consume proc tool name descriptor rest
  | .unread (some descriptor) count :: rest =>
    let machine := match proc.descriptors.lookup descriptor with
      | some channel => machine.unread channel count
      | none => machine
    continueWith machine (tool.leaving rest)
  | .unread none _ :: rest => continueWith machine (tool.leaving rest)
  | .enough :: rest =>
    continueWith machine (tool.leaving (rest.dropWhile fun job => match job with
      | .conclude => false
      | _ => true))
  | .conclude :: rest => continueWith machine (tool.telling .ended rest)
  | .proceed :: rest => continueWith (machine.working 10000) (tool.telling .proceed rest)
  | .tell answer :: rest => continueWith machine (tool.telling (.answer answer) rest)
  | .openOutput descriptor path appends :: rest =>
    (.moved, machine.openFor proc tool path appends none (fun number => (·.bind descriptor number))
      tool rest)
  | .openAt descriptor path offset :: rest =>
    (.moved, machine.openFor proc tool path false (some offset)
      (fun number => (·.bind descriptor number)) tool rest)
  | .alsoTo path appends :: rest =>
    let descriptor := Tool.ownDescriptor + 1 + tool.outputs.length
    (.moved, machine.openFor proc tool path appends none (fun number => (·.bind descriptor number))
      { tool with outputs := tool.outputs ++ [descriptor] } rest)
  | .openPipe descriptor launch :: rest =>
    let ((entrance, outlet), machine) := machine.addPipe
    match machine.startFor proc launch (·.bind 0 outlet) with
    | .ok (child, machine) =>
      continueWith ((machine.update proc.number (·.bind descriptor entrance)).sweep)
        { tool with jobs := rest, readers := (descriptor, child) :: tool.readers }
    | .error _ => continueWith machine.sweep (tool.leaving rest)
  | .connect descriptor connection :: rest => machine.connect proc tool descriptor connection rest
  | .fetch descriptor most :: rest =>
    let tell (machine : Computer) (reply : Reply) : Turn × Computer :=
      continueWith machine (tool.telling (.answer reply) rest)
    match proc.descriptors.lookup descriptor with
    | none => tell machine (.refused "Bad file descriptor")
    | some channel =>
      match machine.read channel most with
      | (.piece piece, machine) => tell machine (.text (some piece.bytes))
      | (.finished, machine) => tell machine (.text none)
      | (.blocked, machine) => (.blocked, machine)
      | (.failed reason, machine) => tell machine (.refused reason)
  | .close descriptor after :: rest =>
    let machine := (machine.update proc.number (·.close descriptor)).sweep
    match tool.readers.lookup descriptor with
    | some child =>
      let readers := tool.readers.filter fun (other, _) => other ≠ descriptor
      continueWith machine
        { tool with
          jobs := .await child none [] [] false (fun outcome => after outcome.ending.toOption) :: rest
          readers := readers }
    | none => continueWith machine (tool.leaving (after none ++ rest))
  | .pause micros :: rest =>
    (.pause micros, machine.setTool proc.number (tool.leaving rest))
  | .change act :: rest =>
    let change := act (machine.filesOf proc)
    continueWith (machine.withFiles change.files)
      ((tool.leaving (change.said.reverse.map (fun (descriptor, bytes) => .emit descriptor bytes) ++
        rest)).failing change.status)
  | .look act :: rest =>
    continueWith machine (tool.leaving (act (machine.factsFor proc) ++ rest))
  | .become environment command refusal :: _ =>
    match machine.become proc.number command environment (searchPath environment) (some "sh") with
    | .ok machine => (.moved, machine)
    | .error error => continueWith machine (tool.leaving (refusal error))
  | .signal number process :: rest =>
    match machine.proc? process.toNat with
    | some _ => continueWith (machine.signal process.toNat number) (tool.leaving rest)
    | none =>
      let complaint := Job.complain tool.name s!"({process}) - No such process".toList
      continueWith machine ((tool.leaving (complaint :: rest)).failing 1)
  | .renice adjustment :: rest =>
    continueWith (machine.update proc.number fun proc =>
      { proc with niceness := max (-20) (min 19 (proc.niceness + adjustment)) })
      (tool.leaving rest)
  | .enter path failure :: rest =>
    match (machine.filesOf proc).find (Shell.pathOf path) with
    | .ok (place, .folder) =>
      continueWith (machine.update proc.number fun proc => { proc with folder := place })
        (tool.leaving rest)
    | found =>
      let reason := match found with
        | .ok _ => FileError.notDirectory.reason
        | .error error => error.reason
      continueWith machine <| tool.leaving
        [.complain tool.name ("cannot change directory to ".toList ++ Quoting.always path ++
          s!": {reason}".toList), .quit failure]
  | .ignore number :: rest =>
    continueWith (machine.update proc.number fun proc =>
      { proc with ignored := number :: proc.ignored }) (tool.leaving rest)
  | .launch launch after :: rest => machine.launch proc tool launch after rest
  | .await child descriptor pieces limits isLate after :: rest =>
    machine.awaitFor proc tool child descriptor pieces limits isLate after rest
  | .finish status :: rest => continueWith machine ((tool.leaving rest).failing status)
  | .die signal :: _ => (.moved, machine.finish proc.number (.signal signal))
  | .quit status :: _ => continueWith machine { tool with jobs := [], status := status }

end Computer

end CorpusJudge
