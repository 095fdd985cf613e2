import CorpusJudge.Files.Tree
import CorpusJudge.Emulator.Computer.Channel

/-!
# Jobs and lines

A tool does one job after the other.  A job that has to wait is done in parts, and what it comes to
may ask for further jobs.
-/

namespace CorpusJudge

/-- What a change of files comes to: the files, what is written to descriptors, latest first, and whether
it failed. -/
structure Change where
  files : FileTree
  said : List (Nat × Bytes) := []
  status : Nat := 0

namespace Change

/-- A change with something written to a descriptor. -/
def say (change : Change) (descriptor : Nat) (bytes : Bytes) : Change :=
  { change with said := (descriptor, bytes) :: change.said }

end Change

/-- What a tool can find out about the machine: the files, where the files lie that its descriptors
stand for, and how easily it gives way to others. -/
structure Facts where
  files : FileTree
  places : List (Nat × Location)
  niceness : Int

/-- A program to be started: its command and environment, what it reads unless it reads what the
tool reads, whether its output is gathered, and signals that are sent to it when it has not ended
after so many microseconds. -/
structure Launch where
  command : List Octets
  environment : List (String × Octets)
  input : Option Bytes := none
  isGathered : Bool := false
  limits : List (Nat × Nat) := []

/-- What came of a program that was started: how it ended, or why it did not start; what was gathered
of its output; and whether it was late. -/
structure LaunchResult where
  ending : Except FileError Ending
  output : Bytes := []
  isLate : Bool := false

/-- What a descriptor is to be connected with: a file that is read or written, or a program whose
output is read or that reads what is written. -/
inductive Connection where
  | input (path : Octets)
  | output (path : Octets) (appends : Bool)
  | reading (launch : Launch)
  | writing (launch : Launch)

/-- What a tool is told in answer to a question. -/
inductive Reply where
  /-- A status. -/
  | status (status : Int)
  /-- Some bytes, if there are any. -/
  | text (bytes : Option Bytes)
  /-- Why something cannot be done. -/
  | refused (reason : String)

/-- One thing for a tool to do. -/
inductive Job where
  /-- Write bytes to a descriptor.  What goes to standard output may be kept back for some time. -/
  | emit (descriptor : Nat) (bytes : Bytes)
  /-- Write at once. -/
  | put (descriptor : Nat) (piece : Piece)
  /-- Write what has been kept back. -/
  | flush
  /-- Write bytes again and again. -/
  | forever (piece : Piece)
  /-- Pass a file, or standard input, through the filter. -/
  | consume (source : Option Octets)
  /-- Pass what a descriptor gives through the filter. -/
  | consuming (name : Octets) (descriptor : Nat)
  /-- Give back bytes that were read and not used, to a descriptor if it is known. -/
  | unread (descriptor : Option Nat) (count : Nat)
  /-- Leave out what is still to be consumed. -/
  | enough
  /-- Let the filter finish. -/
  | conclude
  /-- Let the filter go on. -/
  | proceed
  /-- Tell the filter something. -/
  | tell (answer : Reply)
  /-- Open a file for output under a descriptor. -/
  | openOutput (descriptor : Nat) (path : Octets) (appends : Bool)
  /-- Open a file for output under a descriptor, at an offset in what it holds. -/
  | openAt (descriptor : Nat) (path : Octets) (offset : Nat)
  /-- Write to a further file what the filter passes on. -/
  | alsoTo (path : Octets) (appends : Bool)
  /-- Start a program that reads what is written under a descriptor. -/
  | openPipe (descriptor : Nat) (launch : Launch)
  /-- Connect a descriptor, and tell the filter whether that could be done. -/
  | connect (descriptor : Nat) (connection : Connection)
  /-- Tell the filter what a descriptor gives, so many bytes at most. -/
  | fetch (descriptor : Nat) (most : Nat)
  /-- Close a descriptor and wait for the program that reads it, if there is one. -/
  | close (descriptor : Nat) (after : Option Ending → List Job)
  /-- Do nothing for some microseconds. -/
  | pause (micros : Nat)
  /-- Look at files or change them. -/
  | change (act : FileTree → Change)
  /-- Do what depends on the machine. -/
  | look (act : Facts → List Job)
  /-- Become another program, or do something else if that cannot be started. -/
  | become (environment : List (String × Octets)) (command : List Octets)
      (refusal : FileError → List Job)
  /-- Send a signal. -/
  | signal (number : Nat) (process : Int)
  /-- Give way to others more easily. -/
  | renice (adjustment : Int)
  /-- Work in another folder, or fail with a status. -/
  | enter (path : Octets) (failure : Nat)
  /-- Ignore a signal from now on. -/
  | ignore (number : Nat)
  /-- Start a program and wait for it. -/
  | launch (launch : Launch) (after : LaunchResult → List Job)
  /-- Wait for a program, of whose output some pieces have been gathered. -/
  | await (process : Nat) (descriptor : Option Nat) (pieces : List Bytes)
      (limits : List (Nat × Nat)) (isLate : Bool) (after : LaunchResult → List Job)
  /-- End by a signal. -/
  | die (signal : Nat)
  /-- Have a status at the end, if it is greater than the one so far. -/
  | finish (status : Nat)
  /-- End with a status and leave out what is still to be done. -/
  | quit (status : Nat)

/-! ## Lines

Many tools work line by line.  A worker gets one line after the other and answers with jobs; between
two lines it may want to know whether there is another one, or wait for an answer. -/

/-- What a worker on lines waits for: the next line, to know whether there is one, an answer to a
question that is among its jobs, the end of the source it is at, or nothing any more. -/
inductive Want where
  | line
  | lookahead
  | answer
  | nextSource
  | nothing
  deriving DecidableEq

/-- The first line of a text and what follows the mark at its end, if the mark is there. -/
def cutLine? (mark : Char) (text : Octets) : Option (Octets × Octets) :=
  match text.span (· ≠ mark) with
  | (line, _ :: rest) => some (line, rest)
  | (_, []) => none

/-- Jobs that are being listed, with the last one first; output that stands in reverse is not yet
among them. -/
structure Outgoing where
  jobs : List Job := []
  pieces : List Octets := []

namespace Outgoing

/-- Say something on standard output. -/
def say (outgoing : Outgoing) (text : Octets) : Outgoing :=
  if text.isEmpty then outgoing else { outgoing with pieces := text :: outgoing.pieces }

/-- List what is to be said as a job. -/
def settled (outgoing : Outgoing) : Outgoing :=
  if outgoing.pieces.isEmpty then outgoing
  else
    let text := outgoing.pieces.reverse.flatten
    ⟨.emit 1 (Bytes.ofOctets text) :: outgoing.jobs, []⟩

/-- Add a job. -/
def add (outgoing : Outgoing) (job : Job) : Outgoing :=
  let settled := outgoing.settled
  { settled with jobs := job :: settled.jobs }

/-- Add jobs. -/
def addAll (outgoing : Outgoing) (jobs : List Job) : Outgoing :=
  jobs.foldl add outgoing

/-- The jobs in order. -/
def toList (outgoing : Outgoing) : List Job :=
  outgoing.settled.jobs.reverse

end Outgoing

/-- A complaint of a tool. -/
def complaintOf (tool : String) (message : Octets) : Bytes :=
  Bytes.ofOctets (tool.toList ++ ": ".toList ++ message ++ ['\n'])

/-- The job of complaining. -/
def Job.complain (tool : String) (message : Octets) : Job :=
  .emit 2 (complaintOf tool message)

end CorpusJudge
