import CorpusJudge.Emulator.Shell.Step
import CorpusJudge.Emulator.Tool.Step
import CorpusJudge.Platform

/-!
# Emulated platforms

The programs of a computer take turns: next is always the one that may go on first.  Every turn takes
at least a microsecond, so a computer comes to any point in time after finitely many turns.  Whoever
starts a program from outside supplies its input and captures its outputs.
-/

namespace CorpusJudge

namespace Computer

/-- Whether a program can take a turn before a point in time. -/
def canMove (horizon : Nat) (proc : Proc) : Bool :=
  !proc.hasEnded && !proc.isBlocked && !proc.isStopped && proc.wake < horizon

/-- The program whose turn it is. -/
def next? (machine : Computer) (horizon : Nat) : Option Proc :=
  (machine.procs.filter (canMove horizon)).foldl (fun best proc =>
    match best with
    | none => some proc
    | some other => if proc.wake < other.wake then some proc else best) none

/-- What a program does in its turn. -/
def act (machine : Computer) (proc : Proc) : Turn × Computer :=
  match proc.activity with
  | .shell _ => (Shell.step.run proc.number).run machine
  | .tool tool => machine.stepTool proc tool
  | .ended _ => (.moved, machine)

/-- How much effort a machine makes before it grows tired. -/
def freshEffort : Nat := 67108864

/-- How many microseconds pass while a machine makes some effort behind an effort that it has made
before.  A fresh machine is quick, and a tired one is slow. -/
def timeFor (before effort : Nat) : Nat :=
  let quick := min effort (freshEffort - before)
  quick / 1024 + (effort - quick) / 4

/-- For how many microseconds a turn keeps a program from the next one. -/
def pauseOf : Turn → Nat
  | .moved => 1
  | .blocked => 0
  | .pause micros => 1 + micros

/-- A turn of a program, after which it goes on when its pause is over. -/
def turn (machine : Computer) (proc : Proc) : Computer :=
  let now := max machine.clock proc.wake
  let (turn, after) := { machine with clock := now }.act proc
  if turn = .blocked then after.update proc.number fun proc => { proc with isBlocked := true }
  else
    let pause := pauseOf turn + timeFor machine.effort (after.effort - machine.effort)
    (after.update proc.number fun proc => { proc with wake := now + pause }).rouse

/-- Run a machine up to a point in time, or until something is the case.  When no program can take
a turn any more, the time passes at once. -/
def runUntil (machine : Computer) (horizon : Nat) (isOver : Computer → Bool) : Computer :=
  if machine.clock < horizon then
    if isOver machine then machine
    else match machine.next? horizon with
      | none => { machine with clock := horizon }
      | some proc =>
        let after := machine.turn proc
        runUntil { after with clock := max (max machine.clock proc.wake) after.clock + 1 } horizon
          isOver
  else machine
termination_by horizon - machine.clock
decreasing_by omega

/-- The folders of a machine. -/
def standardFolders : List Location :=
  [["dev"], ["dev", "fd"], ["dev", "shm"], ["etc"], ["home"], ["mnt"], ["opt"], ["proc"], ["root"],
    ["run"], ["srv"], ["sys"], ["tmp"], ["usr"], ["usr", "bin"], ["usr", "lib"], ["usr", "local"],
    ["usr", "local", "bin"], ["usr", "sbin"], ["usr", "share"], ["var"], ["var", "log"],
    ["var", "tmp"]]

/-- The links of a machine. -/
def standardLinks : List (Location × String) :=
  [(["bin"], "usr/bin"), (["lib"], "usr/lib"), (["sbin"], "usr/sbin"),
    (["usr", "bin", "sh"], "dash")]

/-- The devices of a machine. -/
def standardDevices : List (Location × Device) :=
  [("null", .null), ("zero", .zero), ("full", .full), ("tty", .terminal), ("random", .zero),
    ("urandom", .zero), ("stdin", .descriptor 0), ("stdout", .descriptor 1),
    ("stderr", .descriptor 2)].map (fun (name, device) => (["dev", name], device)) ++
  (List.range 10 ++ Shell.channelDescriptors).map fun number =>
    (["dev", "fd", toString number], .descriptor number)

/-- The files that programs find on a machine, with a folder to work in. -/
def standardFiles (folder : Location) : FileTree :=
  let way := ((List.range folder.length).map fun count => folder.take (count + 1)).filter
    (!standardFolders.contains ·)
  let programs := ("dash", "sh") :: ("bash", "bash") :: Tool.names.map fun name => (name, name)
  { entries := (standardFolders ++ way).map (·, Entry.folder) ++
      standardLinks.map (fun (place, target) => (place, Entry.link target)) ++
      programs.map (fun (name, program) => (["usr", "bin", name], Entry.program program)) ++
      standardDevices.map fun (place, device) => (place, Entry.device device)
    base := folder
    details := [(["tmp"], ⟨0o1777, 0⟩), (["var", "tmp"], ⟨0o1777, 0⟩),
      (["dev", "shm"], ⟨0o1777, 0⟩), (["root"], ⟨0o700, 0⟩)] }

/-- The folder in which the first program of a machine works. -/
def workFolder : Location := ["tmp", "work"]

/-- A machine on which nothing runs. -/
def idle : Computer where
  files := standardFiles workFolder
  clock := 0
  procs := []
  channels := []
  pipes := []
  fresh := 1000
  environment := [("PATH", "/usr/local/bin:/usr/bin:/bin".toList), ("HOME", "/root".toList)]

end Computer

end CorpusJudge

namespace CorpusJudge

/-- What a machine keeps track of if it is a computer. -/
@[reducible] def Processes.kernel : Kernel := ⟨Processes⟩

section

attribute [local instance] Processes.kernel

/-- The machine that a computer is. -/
def Computer.toMachine (computer : Computer) : Machine where
  files := computer.files
  clock := computer.clock
  environment := computer.environment
  kernel := computer.toProcesses

/-- The computer that a machine is. -/
def Machine.toComputer (machine : Machine) : Computer :=
  let processes : Processes := machine.kernel
  { processes with
    files := machine.files, clock := machine.clock, environment := machine.environment }

end

namespace Computer

/-- A program that has been started, and the channels that capture its output. -/
structure Started where
  number : Nat
  stdout : Nat
  stderr : Nat

/-- Start a program with arguments and some input.  There is no shell to fall back on. -/
def spawn (computer : Computer) (command : Command) : Except FileError (Started × Computer) := do
  let (stdin, computer) := computer.addChannel (.supply command.input)
  let (stdout, computer) := computer.addChannel (.capture [])
  let (stderr, computer) := computer.addChannel (.capture [])
  let number := computer.fresh
  let proc : Proc := {
    number := number
    parent := 0
    descriptors := [(0, stdin), (1, stdout), (2, stderr)]
    folder := computer.files.base
    wake := computer.clock
    isBlocked := false
    ignored := []
    activity := .ended (.code 0) }
  let computer := { computer with procs := computer.procs ++ [proc], fresh := number + 1 }
  let words := (command.program :: command.arguments).map fun text => Shell.nameOctets text
  let search := searchPath computer.environment
  return (⟨number, stdout, stderr⟩,
    ← computer.become number words computer.environment search none)

/-- What a channel has captured so far. -/
def captured (computer : Computer) (channel : Nat) : Bytes :=
  match computer.channels.lookup channel with
  | some (.capture pieces) => pieces.reverse.flatten
  | _ => []

/-- The channel that captures an output. -/
def Started.channel (started : Started) : Output → Nat
  | .stdout => started.stdout
  | .stderr => started.stderr

/-- The watch on a program that has been started. -/
def Started.watch (started : Started) : Watch Computer where
  clock := Computer.clock
  hasEnded computer := (computer.proc? started.number).all Proc.hasEnded
  fault? _ := none
  ending? computer := (computer.proc? started.number).bind Proc.ending?
  isOpen output computer := computer.isHeld (started.channel output)
  captured output computer := computer.captured (started.channel output)
  runUntil := runUntil
  kill computer := computer.finish started.number (.signal 9)

/-- Forget a program and its captured output, which nobody looks at any more. -/
def release (computer : Computer) (started : Started) : Computer :=
  let isCapture (number : Nat) : Bool := number = started.stdout || number = started.stderr
  { computer.forget started.number with
    channels := computer.channels.filter fun (number, _) =>
      !isCapture number || computer.isHeld number }

end Computer

/-- The watch on a world that stands for another one. -/
def Watch.through {World Other : Type} (watch : Watch Other) (into : World → Other)
    (back : Other → World) : Watch World where
  clock world := watch.clock (into world)
  hasEnded world := watch.hasEnded (into world)
  fault? world := watch.fault? (into world)
  ending? world := watch.ending? (into world)
  isOpen output world := watch.isOpen output (into world)
  captured output world := watch.captured output (into world)
  runUntil world horizon isOver :=
    back (watch.runUntil (into world) horizon fun other => isOver (back other))
  kill world := back (watch.kill (into world))

/-- The operating system of an emulated computer. -/
instance Computer.platform : Platform where
  toKernel := Processes.kernel
  Child := Computer.Started
  spawn command machine :=
    (machine.toComputer.spawn command).map fun (started, computer) => (started, computer.toMachine)
  watch started := started.watch.through Machine.toComputer Computer.toMachine
  release started machine := (machine.toComputer.release started).toMachine
  poolFault? _ _ := none

/-- A machine on which nothing runs. -/
def Machine.idle : Machine := Computer.idle.toMachine

end CorpusJudge
