import CorpusJudge.Interpreter
import CorpusJudge.Journal

/-!
# The workbench

Where a run does its work: the machine that holds the files and executes the solutions, and the
journal.
-/

namespace CorpusJudge

variable [Kernel]

/-- A machine and a journal, oldest events first. -/
structure Workbench where
  machine : Machine
  journal : List Event

/-- Something done on a workbench. -/
abbrev Work (α : Type) := StateM Workbench α

namespace Work

/-- The machine as it is. -/
def machine : Work Machine := do
  return (← get).machine

/-- The files as they are. -/
def files : Work FileTree := do
  return (← machine).files

/-- Note an event. -/
def note (event : Event) : Work Unit :=
  modify fun bench => { bench with journal := bench.journal ++ [event] }

/-- Read a file. -/
def read (path : Path) : Work (Except FileError Bytes) := do
  return (← files).read path

/-- Put the files that a request leaves in place of the old ones. -/
def change (request : FileTree → Except FileError FileTree) : Work (Except FileError Unit) := do
  match request (← files) with
  | .error error => return .error error
  | .ok files =>
    modify fun bench => { bench with machine := bench.machine.withFiles files }
    return .ok ()

/-- Write a file. -/
def write (path : Path) (content : Bytes) : Work (Except FileError Unit) :=
  change (·.write path content)

/-- Replace a file. -/
def replace (path : Path) (content : Bytes) : Work (Except ReplaceError Unit) := do
  let (result, files) := (← files).replace path content
  modify fun bench => { bench with machine := bench.machine.withFiles files }
  return result

/-- The time on the machine's clock, in microseconds. -/
def clock : Work Nat := do
  return (← machine).clock

/-- Execute a solution. -/
def execute (executor : Executor) (solution : Path) (input : Bytes) :
    Work (Except ExecutionError Execution) := do
  let (result, machine) := executor solution input (← get).machine
  modify fun bench => { bench with machine := machine }
  return result

end Work

end CorpusJudge
