import CorpusJudge.Files.Mode
import CorpusJudge.Emulator.Computer.Channel
import CorpusJudge.Emulator.Shell.State
import CorpusJudge.Emulator.Signal
import CorpusJudge.Emulator.Tool.Filter

/-!
# Computers

A computer runs programs side by side.  It has a clock in microseconds, files, and the channels that
the descriptors of its programs stand for.
-/

namespace CorpusJudge

/-- What a program is doing. -/
inductive Activity where
  | shell (shell : Shell.State)
  | tool (tool : Tool)
  | ended (ending : Ending)

/-- A running program: its number and that of the one that started it, its descriptors with the
channels they stand for, the folder it works in, when it goes on, and whether it waits for another
program to do something. -/
structure Proc where
  number : Nat
  parent : Nat
  descriptors : List (Nat × Nat)
  folder : Location
  wake : Nat
  isBlocked : Bool
  ignored : List Nat
  activity : Activity
  mask : Mode := Mode.usualMask
  isStopped : Bool := false
  niceness : Int := 0

namespace Proc

/-- Whether the program has ended. -/
def hasEnded (proc : Proc) : Bool :=
  match proc.activity with
  | .ended _ => true
  | _ => false

/-- How the program ended, if it has. -/
def ending? (proc : Proc) : Option Ending :=
  match proc.activity with
  | .ended ending => some ending
  | _ => none

/-- Let a descriptor stand for a channel. -/
def bind (proc : Proc) (descriptor channel : Nat) : Proc :=
  { proc with
    descriptors := (descriptor, channel) :: proc.descriptors.filter fun (other, _) =>
      other ≠ descriptor }

/-- Close a descriptor. -/
def close (proc : Proc) (descriptor : Nat) : Proc :=
  { proc with descriptors := proc.descriptors.filter fun (other, _) => other ≠ descriptor }

end Proc

/-- What a program's turn comes to: it did something, it has to wait for another program, or it
pauses for some microseconds. -/
inductive Turn where
  | moved
  | blocked
  | pause (micros : Nat)
  deriving DecidableEq

/-- What a computer keeps track of beside files, a clock and an environment.  Programs, channels and pipes
are numbered from one counter; another one counts the bytes that have been handled so far, and other work
in the same measure. -/
structure Processes where
  procs : List Proc
  channels : List (Nat × Channel)
  pipes : List (Nat × PieceQueue)
  fresh : Nat
  effort : Nat := 0

/-- A computer. -/
structure Computer extends Processes where
  files : FileTree
  clock : Nat
  environment : List (String × Octets)

namespace Computer

/-- How many bytes a pipe holds. -/
def pipeCapacity : Nat := 65536

/-- How many bytes are read at a time. -/
def pieceSize : Nat := 65536

/-- A program by its number. -/
def proc? (machine : Computer) (number : Nat) : Option Proc :=
  machine.procs.find? (·.number = number)

/-- Change a program. -/
def update (machine : Computer) (number : Nat) (change : Proc → Proc) : Computer :=
  { machine with
    procs := machine.procs.map fun proc => if proc.number = number then change proc else proc }

/-- The time at which the clock of a machine started, in microseconds since the beginning of 1970. -/
def epoch : Int := 1750000000000000

/-- The files at the time of the machine. -/
def filesNow (machine : Computer) : FileTree :=
  { machine.files with clock := epoch + Int.ofNat machine.clock }

/-- The files as a program sees them. -/
def filesOf (machine : Computer) (proc : Proc) : FileTree :=
  { machine.filesNow with base := proc.folder, mask := proc.mask }

/-- Put changed files in place of the old ones. -/
def withFiles (machine : Computer) (files : FileTree) : Computer :=
  { machine with files := { files with base := machine.files.base, mask := machine.files.mask } }

/-- Count work that has been done. -/
def working (machine : Computer) (effort : Nat) : Computer :=
  { machine with effort := machine.effort + effort }

/-! ## Channels -/

/-- Whether a running program has a descriptor for a channel. -/
def isHeld (machine : Computer) (channel : Nat) : Bool :=
  machine.procs.any fun proc => proc.descriptors.any fun (_, held) => held = channel

/-- Whether a running program has a descriptor for a channel of some kind. -/
def holdsSome (machine : Computer) (wanted : Channel) : Bool :=
  machine.channels.any fun (number, channel) => channel == wanted && machine.isHeld number

/-- Open a channel under a new number. -/
def addChannel (machine : Computer) (channel : Channel) : Nat × Computer :=
  (machine.fresh,
    { machine with
      channels := (machine.fresh, channel) :: machine.channels
      fresh := machine.fresh + 1 })

/-- Where the files lie that the descriptors of a program stand for. -/
def placesOf (machine : Computer) (proc : Proc) : List (Nat × Location) :=
  proc.descriptors.filterMap fun (descriptor, number) =>
    match machine.channels.lookup number with
    | some (.file place _ _) => some (descriptor, place)
    | _ => none

/-- Change a channel. -/
def setChannel (machine : Computer) (number : Nat) (channel : Channel) : Computer :=
  { machine with
    channels := machine.channels.map fun (other, old) =>
      (other, if other = number then channel else old) }

/-- Make a pipe: the channels of its entrance and its outlet. -/
def addPipe (machine : Computer) : (Nat × Nat) × Computer :=
  let pipe := machine.fresh
  let machine := { machine with fresh := pipe + 1, pipes := (pipe, {}) :: machine.pipes }
  let (entrance, machine) := machine.addChannel (.entrance pipe)
  let (outlet, machine) := machine.addChannel (.outlet pipe)
  ((entrance, outlet), machine)

/-- What waits in a pipe. -/
def pipe (machine : Computer) (number : Nat) : PieceQueue :=
  (machine.pipes.lookup number).getD {}

/-- Let this wait in a pipe. -/
def setPipe (machine : Computer) (number : Nat) (queue : PieceQueue) : Computer :=
  { machine with
    pipes := machine.pipes.map fun (other, old) => (other, if other = number then queue else old) }

/-- Forget channels and pipes that no program has a descriptor for, except captured output. -/
def sweep (machine : Computer) : Computer :=
  let channels := machine.channels.filter fun (number, channel) =>
    match channel with
    | .capture _ => true
    | _ => machine.isHeld number
  let pipes := machine.pipes.filter fun (pipe, _) =>
    channels.any fun (_, channel) => channel == .entrance pipe || channel == .outlet pipe
  { machine with channels := channels, pipes := pipes }

/-- As many zeros as are read at a time. -/
def zeros : Piece := Piece.ofBytes (List.replicate pieceSize 0)

/-- Try to read from a channel. -/
def read (machine : Computer) (number limit : Nat) : Got × Computer :=
  match machine.channels.lookup number with
  | some (.supply []) => (.finished, machine)
  | some (.supply rest) =>
    (.piece (Piece.ofBytes (rest.take limit)),
      (machine.setChannel number (.supply (rest.drop limit))).working (min limit pieceSize))
  | some (.outlet pipe) =>
    let queue := machine.pipe pipe
    if queue.size = 0 then
      (if machine.holdsSome (.entrance pipe) then .blocked else .finished, machine)
    else
      let (piece, left) := queue.pop limit
      (.piece piece, (machine.setPipe pipe left).working piece.size)
  | some (.file place offset appends) =>
    match machine.files.bytesAt place offset limit with
    | .piece piece =>
      (.piece piece,
        (machine.setChannel number (.file place (offset + piece.size) appends)).working piece.size)
    | other => (other, machine)
  | some (.device .null) => (.finished, machine)
  | some (.device _) => (.piece (zeros.take limit), machine.working (min limit pieceSize))
  | some (.capture _) => (.failed "Bad file descriptor", machine)
  | some (.entrance _) => (.failed "Bad file descriptor", machine)
  | none => (.failed "Bad file descriptor", machine)

/-- What is there to be read from a channel, as far as it is read at a time. -/
def ahead (machine : Computer) (number : Nat) : Bytes :=
  match machine.channels.lookup number with
  | some (.supply rest) => rest
  | some (.outlet pipe) => (machine.pipe pipe).toList.flatMap Piece.bytes
  | some (.file place offset _) =>
    match machine.files.bytesAt place offset pieceSize with
    | .piece piece => piece.bytes
    | _ => []
  | _ => []

/-- Give back the last bytes that were read from a file, so that they are read again. -/
def unread (machine : Computer) (number count : Nat) : Computer :=
  match machine.channels.lookup number with
  | some (.file place offset appends) =>
    machine.setChannel number (.file place (offset - count) appends)
  | _ => machine

/-- Try to write to a channel. -/
def write (machine : Computer) (number : Nat) (piece : Piece) : Put × Computer :=
  match machine.channels.lookup number with
  | some (.capture pieces) =>
    (.taken piece.size,
      (machine.setChannel number (.capture (piece.bytes :: pieces))).working piece.size)
  | some (.entrance pipe) =>
    if !machine.holdsSome (.outlet pipe) then (.broken, machine)
    else
      let queue := machine.pipe pipe
      let room := pipeCapacity - queue.size
      if room = 0 then (.blocked, machine)
      else
        let taken := piece.take room
        (.taken taken.size, (machine.setPipe pipe (queue.push taken)).working taken.size)
  | some (.file place offset appends) =>
    let offset := if appends then machine.files.sizeAt place else offset
    let machine := machine.withFiles (machine.filesNow.putBytes place offset piece.bytes)
    (.taken piece.size,
      (machine.setChannel number (.file place (offset + piece.size) appends)).working
        (offset + piece.size))
  | some (.device .full) => (.failed FileError.outOfSpace.reason, machine)
  | some (.device _) => (.taken piece.size, machine.working piece.size)
  | some (.supply _) => (.failed "Bad file descriptor", machine)
  | some (.outlet _) => (.failed "Bad file descriptor", machine)
  | none => (.failed "Bad file descriptor", machine)

/-- The number of a channel for a program that has opened it: a device that stands for a descriptor
is the channel of that descriptor. -/
def openChannel (machine : Computer) (proc : Proc) (channel : Channel) :
    Except FileError (Nat × Computer) :=
  match channel with
  | .device (.descriptor descriptor) =>
    match proc.descriptors.lookup descriptor with
    | some number => .ok (number, machine)
    | none => .error .notFound
  | _ => .ok (machine.addChannel channel)

/-! ## Programs -/

/-- Start a program that shares the descriptors and the folder of another one. -/
def fork (machine : Computer) (source : Proc) (activity : Activity) : Nat × Computer :=
  let number := machine.fresh
  let child := { source with
    number := number
    parent := source.number
    wake := machine.clock + 1
    isBlocked := false
    activity := activity }
  (number, { machine with procs := machine.procs ++ [child], fresh := number + 1 })

/-- End a program: it gives up its descriptors. -/
def finish (machine : Computer) (number : Nat) (ending : Ending) : Computer :=
  (machine.update number fun proc =>
    if proc.hasEnded then proc
    else { proc with activity := .ended ending, descriptors := [], isBlocked := false }).sweep

/-- Forget a program that has ended. -/
def forget (machine : Computer) (number : Nat) : Computer :=
  { machine with procs := machine.procs.filter fun proc => proc.number ≠ number }

/-- The signals that do nothing unless they are caught. -/
def harmlessSignals : List Nat := [0, 17, 18, 23, 28]

/-- The signals that can be neither caught nor ignored. -/
def sureSignals : List Nat := [9, 19]

/-- The signals that stop a program until it is told to go on. -/
def stoppingSignals : List Nat := [19, 20, 21, 22]

/-- The signal that tells a stopped program to go on. -/
def goOnSignal : Nat := 18

/-- Send a signal to a program. -/
def signal (machine : Computer) (number signal : Nat) : Computer :=
  let machine := if signal = goOnSignal then
      machine.update number fun proc => { proc with isStopped := false }
    else machine
  match machine.proc? number with
  | none => machine
  | some proc =>
    let isSure := sureSignals.contains signal
    let caught := match proc.activity with
      | .shell shell => if isSure then none else shell.traps.lookup signal
      | _ => none
    match proc.activity, caught with
    | .shell shell, some action =>
      if action.isEmpty then machine
      else machine.update number fun proc =>
        { proc with
          activity := .shell { shell with caught := shell.caught ++ [signal] }
          isBlocked := false }
    | _, _ =>
      if proc.hasEnded || harmlessSignals.contains signal ||
          (proc.ignored.contains signal && !isSure) then machine
      else if stoppingSignals.contains signal then
        machine.update number fun proc => { proc with isStopped := true }
      else machine.finish number (.signal signal)

/-- A program and those that it has started, directly or not. -/
def family (machine : Computer) (number : Nat) : List Nat :=
  machine.procs.foldl (fun found proc =>
    if found.contains proc.parent then found ++ [proc.number] else found) [number]

/-- Let all programs that wait for others look again. -/
def rouse (machine : Computer) : Computer :=
  { machine with procs := machine.procs.map fun proc => { proc with isBlocked := false } }

end Computer

end CorpusJudge
