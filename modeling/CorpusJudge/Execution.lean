import CorpusJudge.Bytes
import CorpusJudge.Files.Error

/-!
# Executions

A program is executed under one limit of wall-clock time.  Whoever has started it waits for it to end,
and then for its outputs to close one after the other, each time only up to a point in time.  What comes
of it depends on the world in which the program runs only as far as a watch on it can tell.
-/

namespace CorpusJudge

/-- How a program ends: with a status of its own choice, or because of a signal. -/
inductive Ending where
  | code (status : Nat)
  | signal (number : Nat)
  deriving DecidableEq, Repr

/-- Why an execution is not complete in time: the program was still running, or it had ended but its
output was still open. -/
inductive Overtime where
  | running
  | outputOpen
  deriving DecidableEq, Repr

/-- What comes of an execution: the program ended and its output with it, with an exit code unless a
signal ended it; or the time limit passed before. -/
inductive Execution where
  | completed (exitCode : Option Nat) (stdout stderr : Bytes)
  | timedOut (overtime : Overtime) (stdout : Bytes)
  deriving DecidableEq, Repr

/-- The standard output of an execution. -/
def Execution.stdout : Execution → Bytes
  | .completed _ stdout _ => stdout
  | .timedOut _ stdout => stdout

namespace Interpreter

/-- How long output may stay open once the program has ended, in microseconds. -/
def drainGrace : Nat := 200000

/-- Until when captured output may close, for a program that was asked for at one time, has a time
limit, and was seen to end at another time. -/
def drainUntil (asked timeout ended : Nat) : Nat :=
  max (asked + timeout) (ended + drainGrace)

/-- The exit code of a program that was not ended by a signal. -/
def exitCode? : Ending → Option Nat
  | .code status => some status
  | .signal _ => none

end Interpreter

/-- The two outputs of a program. -/
inductive Output where
  | stdout
  | stderr
  deriving DecidableEq, Repr

/-- What can be seen of a program in a world and done about it: the time, whether the wait for its end is
over, why that wait has failed if it has, how the program has ended, whether an output is still open and
what has been captured of it, letting time pass up to a point in time or until something is the case, and
killing the program. -/
structure Watch (World : Type) where
  clock : World → Nat
  hasEnded : World → Bool
  fault? : World → Option FileError
  ending? : World → Option Ending
  isOpen : Output → World → Bool
  captured : Output → World → Bytes
  runUntil : World → Nat → (World → Bool) → World
  kill : World → World

namespace Watch

variable {World : Type}

/-- Wait for an output to close, up to a point in time: what has been captured of it then, and whether
it has closed. -/
def collect (watch : Watch World) (output : Output) (limit : Nat) (world : World) :
    (Bytes × Bool) × World :=
  let world := watch.runUntil world limit fun world => !watch.isOpen output world
  ((watch.captured output world, !watch.isOpen output world), world)

/-- Wait for the outputs of a program that has ended in time to close. -/
def drain (watch : Watch World) (limit : Nat) (ending : Ending) (world : World) :
    Execution × World :=
  let ((stdout, stdoutClosed), world) := watch.collect .stdout limit world
  let ((stderr, stderrClosed), world) := watch.collect .stderr limit world
  if stdoutClosed && stderrClosed then
    (.completed (Interpreter.exitCode? ending) stdout stderr, world)
  else (.timedOut .outputOpen stdout, world)

/-- Kill a program that has not ended in time, and take what it has written so far. -/
def cutShort (watch : Watch World) (world : World) : Execution × World :=
  let world := watch.kill world
  let ((stdout, _), world) :=
    watch.collect .stdout (watch.clock world + Interpreter.drainGrace) world
  (.timedOut .running stdout, world)

/-- The world in which the wait for a program that has just been started is over. -/
def waited (watch : Watch World) (timeout : Nat) (world : World) : World :=
  watch.runUntil world (watch.clock world + timeout) watch.hasEnded

/-- What comes of a program that has been waited for. -/
def settle (watch : Watch World) (asked timeout : Nat) (world : World) : Execution × World :=
  match watch.ending? world with
  | some ending =>
    watch.drain (Interpreter.drainUntil asked timeout (watch.clock world)) ending world
  | none => watch.cutShort world

/-- Wait for a program that has just been started.  The time limit of the program itself begins now, and
that of its output at the time when the program was asked for.  A program that cannot be waited for is
killed. -/
def await (watch : Watch World) (asked timeout : Nat) (world : World) :
    Except FileError Execution × World :=
  let world := watch.waited timeout world
  match watch.fault? world with
  | some error => (.error error, watch.kill world)
  | none =>
    let (execution, world) := watch.settle asked timeout world
    (.ok execution, world)

end Watch

end CorpusJudge
