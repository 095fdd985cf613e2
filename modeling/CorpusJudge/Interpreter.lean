import CorpusJudge.Platform

/-!
# Interpreters

A solution is executed by a program that is given its path and some input.
-/

namespace CorpusJudge

/-- Why a program cannot be started. -/
inductive SpawnReason where
  | file (error : FileError)
  | nulByte
  deriving DecidableEq, Repr

namespace SpawnReason

/-- The wording of the reason. -/
def message : SpawnReason → String
  | file error => error.message
  | nulByte => "nul byte found in provided data"

end SpawnReason

/-- An interpreter that was not started, and why. -/
structure SpawnError where
  program : String
  reason : SpawnReason
  deriving DecidableEq, Repr

/-- The wording of the error. -/
def SpawnError.message (error : SpawnError) : String :=
  s!"spawn interpreter {error.program}: {error.reason.message}"

/-- Why solutions are not executed: an interpreter was not started, or could not be waited for, or there
are not enough threads to wait for several at once. -/
inductive ExecutionError where
  | spawn (error : SpawnError)
  | wait (program : String) (error : FileError)
  | pool (reason : String)
  deriving DecidableEq, Repr

namespace ExecutionError

/-- The wording of the error. -/
def message : ExecutionError → String
  | spawn error => error.message
  | wait program error => s!"wait for interpreter {program}: {error.message}"
  | pool reason => s!"rayon pool: {reason}"

/-- The wording of what is behind the error, if there is something. -/
def cause? : ExecutionError → Option String
  | spawn error => some error.reason.message
  | wait _ error => some error.message
  | pool _ => none

end ExecutionError

/-- A program that executes solutions, its arguments, and the time limit in milliseconds. -/
structure Interpreter where
  program : String
  arguments : List String
  timeout : Nat
  deriving DecidableEq, Repr

/-- How solutions are executed: what comes of it, and the machine that is left. -/
abbrev Executor [Kernel] := Path → Bytes → Machine → Except ExecutionError Execution × Machine

namespace Interpreter

variable [Platform]

/-- The command that executes a solution. -/
def command (interpreter : Interpreter) (solution : Path) (input : Bytes) : Command where
  program := interpreter.program
  arguments := interpreter.arguments ++ [solution.text]
  input := input

/-- Start the program. -/
def start (interpreter : Interpreter) (solution : Path) (input : Bytes) (machine : Machine) :
    Except SpawnError (Platform.Child × Machine) :=
  let command := interpreter.command solution input
  if (command.program :: command.arguments).any fun text => text.toList.contains '\x00' then
    .error ⟨interpreter.program, .nulByte⟩
  else (Platform.spawn command machine).mapError fun error => ⟨interpreter.program, .file error⟩

/-- Execute a solution: start the program, wait for it up to the time limit, and then for its output to
close. -/
def perform (interpreter : Interpreter) : Executor := fun solution input machine =>
  match interpreter.start solution input machine with
  | .error error => (.error (.spawn error), machine)
  | .ok (child, running) =>
    let (result, left) :=
      (Platform.watch child).await machine.clock (interpreter.timeout * 1000) running
    (result.mapError (.wait interpreter.program), Platform.release child left)

/-- Execute a solution on a machine that is of no use to anybody if that fails. -/
def execute (interpreter : Interpreter) (solution : Path) (input : Bytes) (machine : Machine) :
    Except ExecutionError (Execution × Machine) :=
  match interpreter.perform solution input machine with
  | (.ok execution, left) => .ok (execution, left)
  | (.error error, _) => .error error

end Interpreter

end CorpusJudge
