import CorpusJudge.Execution

/-!
# Capturing output

Each output of a program has a reader of its own, so that the program never waits for room.  The reader
appends what it reads to a buffer, and leaves a message once it has come to the end.  Whoever collects
the output waits for that message, and takes the buffer in a step of its own.  The readers and whoever
collects take their steps in any order.
-/

namespace CorpusJudge

/-- What comes of an attempt to read: so many bytes, as far as they are there and there is room for
them, or an interruption, or a failure.  An attempt that waits for bytes is a step still to come. -/
inductive Attempt where
  | read (count : Nat)
  | interrupted
  | failed
  deriving DecidableEq, Repr

/-- What a reader does next: it reads, appends a chunk that it has read, leaves its message, or does
nothing any more. -/
inductive Capture.Phase where
  | reading
  | appending (chunk : Bytes)
  | leaving
  | gone
  deriving DecidableEq, Repr

/-- An output that is captured: what is ahead of its reader, what the reader does next, the buffer, and
whether the reader has left its message. -/
structure Capture where
  ahead : Bytes
  phase : Capture.Phase
  buffer : Bytes
  isClosed : Bool
  deriving DecidableEq, Repr

namespace Capture

/-- How many bytes a reader has room for. -/
def chunkSize : Nat := 8192

/-- The capture of an output that nothing has been read of.  Without an output there is only the message
to leave. -/
def start : Option Bytes → Capture
  | some output => ⟨output, .reading, [], false⟩
  | none => ⟨[], .leaving, [], false⟩

/-- Read so many bytes: at least one and at most as many as there is room for, unless that is the end. -/
def read (capture : Capture) (count : Nat) : Capture :=
  let size := max 1 (min count chunkSize)
  match capture.ahead.take size with
  | [] => { capture with phase := .leaving }
  | chunk => { capture with ahead := capture.ahead.drop size, phase := .appending chunk }

/-- The next step of a reader.  If it reads, this is what comes of the attempt. -/
def advance (capture : Capture) (attempt : Attempt) : Capture :=
  match capture.phase with
  | .reading =>
    match attempt with
    | .read count => capture.read count
    | .interrupted => capture
    | .failed => { capture with phase := .leaving }
  | .appending chunk => { capture with buffer := capture.buffer ++ chunk, phase := .reading }
  | .leaving => { capture with phase := .gone, isClosed := true }
  | .gone => capture

/-- The steps of a reader that makes these attempts. -/
def run (capture : Capture) (attempts : List Attempt) : Capture :=
  attempts.foldl advance capture

end Capture

/-! ## Steps in any order -/

/-- A step of the reader of an output. -/
structure Capturing.Turn where
  output : Output
  attempt : Attempt
  deriving DecidableEq, Repr

/-- The steps of the readers from when somebody begins to wait until the wait is over, and from then
until the buffer that was waited for is taken. -/
structure Capturing.Interval where
  waiting : List Capturing.Turn
  taking : List Capturing.Turn
  deriving DecidableEq, Repr

/-- A world in which the outputs of a program are captured: the captures, the steps of the readers
before the next buffer is taken, those of the intervals to come, and how the program is seen to end, if
in time at all. -/
structure Capturing where
  captures : Output → Capture
  taking : List Capturing.Turn
  intervals : List Capturing.Interval
  ending? : Option Ending

namespace Capturing

/-- The world right after a program has been started whose outputs turn out to be these. -/
def start (outputs : Output → Bytes) (intervals : List Interval) (ending? : Option Ending) :
    Capturing :=
  ⟨fun output => .start (some (outputs output)), [], intervals, ending?⟩

/-- The captures after a step of one reader. -/
def turn (captures : Output → Capture) (turn : Turn) : Output → Capture :=
  fun output => if output = turn.output then (captures output).advance turn.attempt
    else captures output

/-- The captures when the next buffer is taken. -/
def taken (world : Capturing) : Output → Capture :=
  world.taking.foldl turn world.captures

/-- The world when the next wait is over.  When there are no intervals left, nothing happens. -/
def next (world : Capturing) : Capturing :=
  let interval := world.intervals.headD ⟨[], []⟩
  { world with
    captures := interval.waiting.foldl turn world.taken
    taking := interval.taking
    intervals := world.intervals.tail }

/-- The watch on a program whose outputs are captured.  How long a wait takes is up to the intervals.  A
buffer is taken once, so it may as well stay where it is. -/
def watch : Watch Capturing where
  clock _ := 0
  hasEnded world := world.ending?.isSome
  fault? _ := none
  ending? := Capturing.ending?
  isOpen output world := !(world.captures output).isClosed
  captured output world := (world.taken output).buffer
  runUntil world _ _ := world.next
  kill := id

end Capturing

end CorpusJudge
