import CorpusJudge.Bytes
import CorpusJudge.Text.Integer

/-!
# Signals

Signals end programs or tell them something.  They have numbers and names.
-/

namespace CorpusJudge.Signal

/-- The names of signals in the order of their numbers, which stand for those without a name. -/
def names : List String :=
  ["0", "HUP", "INT", "QUIT", "ILL", "TRAP", "ABRT", "BUS", "FPE", "KILL", "USR1", "SEGV", "USR2",
    "PIPE", "ALRM", "TERM", "16", "CHLD", "CONT", "STOP", "TSTP", "TTIN", "TTOU", "URG", "XCPU", "XFSZ",
    "VTALRM", "PROF", "WINCH", "IO", "PWR", "SYS", "32", "33", "RTMIN"] ++
    ((List.range 15).map fun count => s!"RTMIN+{count + 1}") ++
    ((List.range 14).map fun count => s!"RTMAX-{14 - count}") ++ ["RTMAX"]

/-- The name of a signal. -/
def name? (number : Nat) : Option String := names[number]?

/-- The name of a signal, or its number if it has none. -/
def nameOf (number : Nat) : String := (name? number).getD (toString number)

/-- The number of a signal by its number or its name in any case; the end of a program counts as the
signal zero. -/
def number? (text : Octets) : Option Nat :=
  match Integer.natural? 10 text with
  | some number => if number < names.length then some number else none
  | none =>
    let name := String.ofList (text.map Char.toUpper)
    if name = "EXIT" then some 0
    else if name = "IOT" then some 6
    else if name = "STKFLT" then some 16
    else if name = "CLD" then some 17
    else if name = "POLL" then some 29
    else
      let place := names.idxOf name
      if place < names.length then some place else none

/-- The number of a signal whose name may start with the letters that all of them share. -/
def prefixedNumber? (text : Octets) : Option Nat :=
  if (text.map Char.toUpper).take 3 = "SIG".toList then number? (text.drop 3) else number? text

/-- What is said about a program that a signal has ended. -/
def text? : Nat → Option String
  | 1 => some "Hangup"
  | 3 => some "Quit"
  | 4 => some "Illegal instruction"
  | 5 => some "Trace/breakpoint trap"
  | 6 => some "Aborted"
  | 7 => some "Bus error"
  | 8 => some "Floating point exception"
  | 9 => some "Killed"
  | 10 => some "User defined signal 1"
  | 11 => some "Segmentation fault"
  | 12 => some "User defined signal 2"
  | 14 => some "Alarm clock"
  | 15 => some "Terminated"
  | 16 => some "Stack fault"
  | 24 => some "CPU time limit exceeded"
  | 25 => some "File size limit exceeded"
  | 26 => some "Virtual timer expired"
  | 27 => some "Profiling timer expired"
  | 29 => some "I/O possible"
  | 30 => some "Power failure"
  | 31 => some "Bad system call"
  | 32 => some "Unknown signal 32"
  | 33 => some "Unknown signal 33"
  | number => if 34 ≤ number then some s!"Real-time signal {number - 34}" else none

end CorpusJudge.Signal
