import CorpusJudge.Execution
import CorpusJudge.Files.Tree

/-!
# Platforms

What a run takes from the operating system beside its files.  Which programs there are and what they do
is left open: whatever holds of a run holds on every platform.
-/

namespace CorpusJudge

/-- What an operating system keeps track of beside files, a clock and an environment, such as the programs
that are running. -/
class Kernel where
  State : Type

/-- A machine: its files, its clock in microseconds, the variables of its environment, and what its
operating system keeps track of. -/
structure Machine [Kernel] where
  files : FileTree
  clock : Nat
  environment : List (String × Octets)
  kernel : Kernel.State

/-- Put changed files in place of the old ones. -/
def Machine.withFiles [Kernel] (machine : Machine) (files : FileTree) : Machine :=
  { machine with files := { files with base := machine.files.base, mask := machine.files.mask } }

/-- A program that is asked for, its arguments, and what it is given to read. -/
structure Command where
  program : String
  arguments : List String
  input : Bytes
  deriving DecidableEq, Repr

/-- An operating system: how a program is started and watched, and forgotten when nobody looks at it any
more, and why there cannot be so many threads, if there cannot.  A program that cannot be started leaves
everything as it was. -/
class Platform extends Kernel where
  Child : Type
  spawn : Command → Machine → Except FileError (Child × Machine)
  watch : Child → Watch Machine
  release : Child → Machine → Machine
  poolFault? : Nat → Machine → Option String

end CorpusJudge
