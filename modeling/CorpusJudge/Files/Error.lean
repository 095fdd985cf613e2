/-!
# File errors

Why a request about files fails.  The wording is that of the operating system, with its number.
-/

namespace CorpusJudge

/-- Why a request about files fails. -/
inductive FileError where
  | permissionDenied
  | notFound
  | exists
  | notDirectory
  | isDirectory
  | invalidArgument
  | busy
  | nameTooLong
  | notEmpty
  | linkLoop
  | notPermitted
  | noSuchDevice
  | notExecutable
  | outOfSpace
  | nulInPath
  | notText
  | other (number : Nat) (words : String)
  deriving DecidableEq, Repr

namespace FileError

/-- The operating system's number for the error, where it has one. -/
def number? : FileError → Option Nat
  | .notPermitted => some 1
  | .notFound => some 2
  | .noSuchDevice => some 6
  | .notExecutable => some 8
  | .permissionDenied => some 13
  | .busy => some 16
  | .exists => some 17
  | .notDirectory => some 20
  | .isDirectory => some 21
  | .invalidArgument => some 22
  | .outOfSpace => some 28
  | .nameTooLong => some 36
  | .notEmpty => some 39
  | .linkLoop => some 40
  | .nulInPath => none
  | .notText => none
  | .other number _ => some number

/-- What went wrong, in the operating system's words. -/
def reason : FileError → String
  | .notFound => "No such file or directory"
  | .permissionDenied => "Permission denied"
  | .busy => "Device or resource busy"
  | .exists => "File exists"
  | .notDirectory => "Not a directory"
  | .isDirectory => "Is a directory"
  | .invalidArgument => "Invalid argument"
  | .nameTooLong => "File name too long"
  | .notEmpty => "Directory not empty"
  | .linkLoop => "Too many levels of symbolic links"
  | .notPermitted => "Operation not permitted"
  | .noSuchDevice => "No such device or address"
  | .notExecutable => "Exec format error"
  | .outOfSpace => "No space left on device"
  | .nulInPath => "file name contained an unexpected NUL byte"
  | .notText => "stream did not contain valid UTF-8"
  | .other _ words => words

/-- The wording of the error. -/
def message (error : FileError) : String :=
  match error.number? with
  | some number => s!"{error.reason} (os error {number})"
  | none => error.reason

end FileError

/-- Why something that is there cannot be opened: that is not allowed, or something is wrong with what it
lies on. -/
inductive Obstacle where
  | permission
  | failure (number : Nat) (words : String)
  deriving DecidableEq, Repr

/-- The error that an obstacle leads to. -/
def Obstacle.error : Obstacle → FileError
  | permission => .permissionDenied
  | failure number words => .other number words

end CorpusJudge
