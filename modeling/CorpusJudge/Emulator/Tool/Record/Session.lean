import CorpusJudge.Emulator.Tool.Job
import CorpusJudge.Emulator.Tool.Record.Datum
import CorpusJudge.Emulator.Tool.Record.Grammar
import CorpusJudge.Emulator.Tool.Record.Words

/-!
# Sessions with programs for records

A program for records is carried out task by task.  The values that are at hand lie on a stack, and
the tasks that are still to be done on an agenda.
-/

namespace CorpusJudge.Record

/-- The name of a table: one of the whole program, or one that belongs to a call. -/
inductive TableName where
  | shared (name : String)
  | numbered (number : Nat)
  deriving DecidableEq, Hashable

/-- What a parameter of a procedure holds. -/
inductive Slot where
  | datum (datum : Datum)
  | table (name : TableName)

/-- Where lines are read from. -/
inductive Inlet where
  | records
  | file (name : Octets)
  | command (text : Octets)
  deriving DecidableEq

/-- What is read: the descriptor, what has been read of it and not been used, and whether there is no
more. -/
structure Inflow where
  descriptor : Nat
  held : Octets := []
  isOver : Bool := false

/-- What is written: the descriptor, the name, whether that is a command, and what is still to be
written, last piece first. -/
structure Outflow where
  descriptor : Nat
  name : Octets
  isCommand : Bool
  held : List Octets := []
  heldSize : Nat := 0

/-- A loop that goes round again. -/
inductive Round where
  | whileTrue (condition : Expression) (body : Statement)
  | untilFalse (body : Statement) (condition : Expression)
  | loop (condition step : Option Expression) (body : Statement)
  | forKeys (name : Variable) (keys : List Octets) (body : Statement)

/-- A task. -/
inductive Task where
  | evaluate (value : Expression)
  | perform (statement : Statement)
  | forget
  | push (datum : Datum)
  | binary (operation : Operation)
  | negate
  | asNumber
  | deny
  | truth
  | both (second : Expression)
  | oneOf (second : Expression)
  | choice (first second : Expression)
  | fits (isNegated : Bool) (regex : Option Regex)
  | joinKeys (count : Nat)
  | isWithin (table : Variable)
  | load (target : Expression)
  | store (target : Expression) (operation : Option Operation)
  | step (target : Expression) (isAfter : Bool) (operation : Operation)
  | enter (name : String) (arguments : List Expression)
  | leaveCall (values : List Datum)
  | giveBack
  | builtin (function : Builtin) (arguments : List Expression) (count : Nat)
  | openLine (origin : Origin) (target : Option Expression)
  | takeLine (inlet : Inlet) (target : Option Expression)
  | write (isFormatted : Bool) (count : Nat) (direction : Option Direction)
  | branch (first second : Statement)
  | again (round : Round)
  | test (round : Round)
  | erase (table : Variable)
  | finish
  | nextRecord
  | rules (rest : List (Nat × Rule))
  | ruleIf (action : Statement)
  | ruleFrom (number : Nat) (last : Expression) (action : Statement)
  | ruleUntil (number : Nat) (action : Statement)
  | reply
  | ending
  | shutDown

/-- What an answer is waited for: that an inlet or an outlet is connected, what an inlet gives, or a
status. -/
inductive Pending where
  | inlet (inlet : Inlet) (descriptor : Nat)
  | outlet (outflow : Outflow)
  | supply (inlet : Inlet)
  | status
  deriving Inhabited

/-- What a session has around it: the name of the tool, the environment of programs, the time, and how
times are written. -/
structure Setting where
  tool : String
  environment : List (String × Octets)
  now : Int
  showTime : Int → Octets → Octets

/-- A session. -/
structure Session where
  setting : Setting
  program : Program
  shared : Std.HashMap String Datum := {}
  tables : Std.HashMap TableName (Table Datum) := {}
  freshTable : Nat := 0
  frames : List (Array Slot) := []
  agenda : List Task := []
  values : List Datum := []
  /-- The record, and its fields if it has been divided. -/
  record : Datum := .input []
  fields : Array Datum := #[]
  isDivided : Bool := false
  /-- Whether the record has to be put together from its fields. -/
  isStale : Bool := false
  inflows : List (Inlet × Inflow) := []
  outflows : List Outflow := []
  /-- The argument that names the next source of records. -/
  nextArgument : Nat := 1
  hasSource : Bool := false
  isOutOfRecords : Bool := false
  ranges : List Nat := []
  seed : Quantity := .zero
  freshDescriptor : Nat := 110
  pending : Option Pending := none
  answer : Int := 0
  status : Nat := 0
  isEnding : Bool := false
  isOver : Bool := false
  outgoing : Outgoing := {}

/-- A table, and the session without it, so that the table can be changed in place. -/
@[noinline] def Session.detached (session : Session) (name : TableName) : Table Datum × Session :=
  ((session.tables[name]?).getD {}, { session with tables := session.tables.erase name })

/-- The session with a table. -/
@[noinline] def Session.attached (session : Session) (name : TableName) (table : Table Datum) :
    Session :=
  { session with tables := session.tables.insert name table }

/-- What is done in a session. -/
abbrev Running (α : Type) := StateM Session α

namespace Running

/-! ## Tasks and values -/

/-- Put tasks in front of the others. -/
def plan (tasks : List Task) : Running Unit :=
  modify fun session => { session with agenda := tasks ++ session.agenda }

/-- Put a value on the stack. -/
def push (datum : Datum) : Running Unit :=
  modify fun session => { session with values := datum :: session.values }

/-- Take a value from the stack. -/
def pop : Running Datum := do
  let session ← get
  set { session with values := session.values.tail }
  return session.values.headD .absent

/-- Take some values from the stack, the one that was put there first in front. -/
def popMany (count : Nat) : Running (List Datum) := do
  let session ← get
  set { session with values := session.values.drop count }
  return (session.values.take count).reverse

/-- Add a job. -/
def add (job : Job) : Running Unit :=
  modify fun session => { session with outgoing := session.outgoing.add job }

/-- Wait for an answer to a job. -/
def await (pending : Pending) (job : Job) : Running Unit :=
  modify fun session =>
    { session with pending := some pending, outgoing := session.outgoing.add job }

/-! ## Variables -/

/-- The value of a name of the whole program. -/
def named (name : String) : Running Datum := do
  return ((← get).shared[name]?).getD .absent

/-- The text of a name of the whole program. -/
def textNamed (name : String) : Running Octets := do
  return match ← named name with
    | .text text => text
    | .input text => text
    | datum => datum.toText "%.6g".toList

/-- The format for numbers as texts. -/
def textFormat : Running Octets := textNamed "CONVFMT"

/-- A datum as text. -/
def textOf (datum : Datum) : Running Octets := do
  match datum with
  | .text text => return text
  | .input text => return text
  | datum => return datum.toText (← textFormat)

/-- Set a name of the whole program. -/
def setNamed (name : String) (datum : Datum) : Running Unit :=
  modify fun session => { session with shared := session.shared.insert name datum }

/-- The place of a number of the name. -/
def count (name : String) : Running Unit := do
  setNamed name (.number ((← named name).toNumber.add .one))

/-! ## Failing -/

/-- Give up with a message. -/
def abandon (message : Octets) : Running Unit := do
  let setting := (← get).setting
  add (Job.complain setting.tool message)
  modify fun session =>
    { session with agenda := [.shutDown], values := [], frames := [], status := 2 }

/-- Give up because something went wrong at a record. -/
def fail (message : Octets) : Running Unit := do
  let name ← textNamed "FILENAME"
  let place ← textNamed "FNR"
  let number ← textNamed "NR"
  abandon ("run time error: ".toList ++ message ++ "\n\tFILENAME=\"".toList ++ name ++
    "\" FNR=".toList ++ place ++ " NR=".toList ++ number)

/-! ## Records and fields -/

/-- Divide the record. -/
def divide : Running Unit := do
  let session ← get
  if session.isDivided then return
  let mark ← textNamed "FS"
  let text ← textOf session.record
  match separatorOf mark with
  | .error mistake =>
    fail (s!"regular expression compile failed ({mistake.message})\n".toList ++ mark)
  | .ok separator =>
    let found := parts separator text
    modify fun session =>
      { session with fields := (found.map Datum.input).toArray, isDivided := true }

/-- The record as a datum. -/
def wholeRecord : Running Datum := do
  let session ← get
  if !session.isStale then return session.record
  let mark ← textNamed "OFS"
  let texts ← session.fields.toList.mapM textOf
  let record := Datum.text (mark.intercalate texts)
  modify fun session => { session with record := record, isStale := false }
  return record

/-- Take something as the record. -/
def setRecord (datum : Datum) : Running Unit :=
  modify fun session =>
    { session with record := datum, fields := #[], isDivided := false, isStale := false }

/-- The greatest number of a field. -/
def mostFields : Nat := 10000000

/-- Change the number of fields. -/
def resize (count : Nat) : Running Unit := do
  divide
  modify fun session =>
    let fields := if count ≤ session.fields.size then session.fields.take count
      else session.fields ++ Array.replicate (count - session.fields.size) (Datum.input [])
    { session with fields := fields, isStale := true }

/-- The number of a field, if a number is one. -/
def fieldNumber (index : Quantity) : Running (Option Nat) := do
  let whole := index.clamped
  if whole < 0 then
    fail s!"negative field index ${whole}".toList
    return none
  else if Int.ofNat mostFields < whole then
    fail "field index is too large".toList
    return none
  else return some whole.toNat

/-- The value of a field. -/
def field (index : Nat) : Running Datum := do
  match index with
  | 0 => wholeRecord
  | place + 1 =>
    divide
    return (← get).fields.getD place (.input [])

/-- Set a field. -/
def setField (index : Nat) (datum : Datum) : Running Unit := do
  match index with
  | 0 => setRecord datum
  | place + 1 =>
    divide
    if (← get).fields.size ≤ place then resize (place + 1)
    modify fun session =>
      { session with fields := session.fields.setIfInBounds place datum, isStale := true }

/-! ## Tables -/

/-- The table that a name stands for. -/
def tableName (name : Variable) : Running TableName := do
  match name with
  | .shared name => return .shared name
  | .own index =>
    match ((← get).frames.headD #[])[index]? with
    | some (.table name) => return name
    | _ => return .shared ""

/-- Do something with a table. -/
def withTable {α : Type} (name : TableName) (act : Table Datum → Table Datum × α) :
    Running α :=
  modifyGet fun session =>
    let (table, session) := session.detached name
    let (table, result) := act table
    (result, session.attached name table)

/-- What a table leads to from a key, which is put into the table if it is missing. -/
def item (name : TableName) (key : Key) : Running Datum :=
  withTable name fun table =>
    match table.find? key with
    | (table, some datum) => (table, datum)
    | (table, none) => (table.insert key .absent, .absent)

/-- Set what a table leads to from a key. -/
def setItem (name : TableName) (key : Key) (datum : Datum) : Running Unit :=
  withTable name fun table => (table.insert key datum, ())

/-- The key that a datum is. -/
def keyOf (datum : Datum) : Running Key := do
  return datum.toKey (← textFormat)

/-! ## Places -/

/-- The value of a variable. -/
def variableValue (name : Variable) : Running Datum := do
  match name with
  | .shared "NF" =>
    divide
    return .number (.ofNumber (Int.ofNat (← get).fields.size))
  | .shared name => named name
  | .own index =>
    match ((← get).frames.headD #[])[index]? with
    | some (.datum datum) => return datum
    | _ => return .absent

/-- Set a variable. -/
def setVariable (name : Variable) (datum : Datum) : Running Unit := do
  match name with
  | .shared "NF" =>
    let count := datum.toNumber.clamped
    if count < 0 then fail "negative value assigned to NF".toList
    else resize (min count.toNat mostFields)
  | .shared name =>
    if name = "FS" then divide
    setNamed name datum
  | .own index =>
    modify fun session =>
      match session.frames with
      | frame :: others =>
        { session with frames := frame.setIfInBounds index (.datum datum) :: others }
      | [] => session

/-- The tasks that put on the stack what tells which place is meant. -/
def locating (target : Expression) : List Task :=
  match target with
  | .item _ keys => keys.map Task.evaluate ++ [.joinKeys keys.length]
  | .field index => [.evaluate index]
  | _ => []

/-- Whether something on the stack tells which place is meant. -/
def hasLocation (target : Expression) : Bool :=
  match target with
  | .item _ _ => true
  | .field _ => true
  | _ => false

/-- The value of a place. -/
def valueAt (target : Expression) (location : Datum) : Running Datum := do
  match target with
  | .named name => variableValue name
  | .item table _ => item (← tableName table) (← keyOf location)
  | .field _ =>
    match ← fieldNumber location.toNumber with
    | some index => field index
    | none => return .absent
  | _ => return .absent

/-- Set the value of a place. -/
def setAt (target : Expression) (location datum : Datum) : Running Unit := do
  match target with
  | .named name => setVariable name datum
  | .item table _ => setItem (← tableName table) (← keyOf location) datum
  | .field _ =>
    match ← fieldNumber location.toNumber with
    | some index => setField index datum
    | none => return
  | _ => return

/-! ## Output -/

/-- How much is written at a time. -/
def blockSize : Nat := 4096

/-- Write what is held back for an outlet. -/
def flushOutflow (outflow : Outflow) : Running Outflow := do
  if outflow.held.isEmpty then return outflow
  add (.emit outflow.descriptor (Bytes.ofOctets outflow.held.reverse.flatten))
  return { outflow with held := [], heldSize := 0 }

/-- Write everything that is held back. -/
def flushAll : Running Unit := do
  let outflows ← (← get).outflows.mapM flushOutflow
  modify fun session => { session with outflows := outflows }
  add .flush

/-- Say something on standard output. -/
def say (text : Octets) : Running Unit :=
  modify fun session => { session with outgoing := session.outgoing.say text }

/-- Write to an outlet that is there. -/
def sayTo (outflow : Outflow) (text : Octets) : Running Unit := do
  let outflow := { outflow with
    held := text :: outflow.held, heldSize := outflow.heldSize + text.length }
  let outflow ← if blockSize ≤ outflow.heldSize then flushOutflow outflow else pure outflow
  modify fun session =>
    { session with
      outflows := outflow :: session.outflows.filter fun other =>
        other.descriptor ≠ outflow.descriptor }

/-- The command that carries out a text. -/
def launchOf (command : Octets) : Running Launch := do
  return { command := ["/bin/sh".toList, "-c".toList, command]
           environment := (← get).setting.environment }

/-- A descriptor that is not in use. -/
def newDescriptor : Running Nat := do
  let number := (← get).freshDescriptor
  modify fun session => { session with freshDescriptor := number + 1 }
  return number

end Running

end CorpusJudge.Record
