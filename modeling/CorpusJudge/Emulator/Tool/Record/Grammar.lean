import CorpusJudge.Bytes
import CorpusJudge.Emulator.Number
import CorpusJudge.Emulator.Tool.Regex

/-!
# Programs for records

A program for records has rules, which say what is done with the records that fit a pattern, and
procedures.
-/

namespace CorpusJudge.Record

/-- An operation on two values. -/
inductive Operation where
  | add
  | subtract
  | multiply
  | divide
  | remainder
  | power
  | join
  | less
  | atMost
  | equal
  | unequal
  | more
  | atLeast

/-- A function that is known beforehand. -/
inductive Builtin where
  | arctangent
  | close
  | cosine
  | exponential
  | flush
  | format
  | index
  | length
  | logarithm
  | lower
  | locate
  | moment
  | momentOf
  | momentText
  | random
  | replaceAll
  | replaceFirst
  | root
  | run
  | seed
  | sine
  | split
  | substring
  | upper
  | whole
  deriving DecidableEq

/-- The functions with their names, and with how many arguments they take at least and at most. -/
def Builtin.all : List (String × Builtin × Nat × Nat) :=
  [("atan2", .arctangent, 2, 2), ("close", .close, 1, 1), ("cos", .cosine, 1, 1),
    ("exp", .exponential, 1, 1), ("fflush", .flush, 0, 1), ("gsub", .replaceAll, 2, 3),
    ("index", .index, 2, 2), ("int", .whole, 1, 1), ("length", .length, 0, 1),
    ("log", .logarithm, 1, 1), ("match", .locate, 2, 2), ("mktime", .momentOf, 1, 1),
    ("rand", .random, 0, 0), ("sin", .sine, 1, 1), ("split", .split, 2, 3),
    ("sprintf", .format, 1, 255), ("sqrt", .root, 1, 1), ("srand", .seed, 0, 1),
    ("strftime", .momentText, 0, 3), ("sub", .replaceFirst, 2, 3), ("substr", .substring, 2, 3),
    ("system", .run, 1, 1), ("systime", .moment, 0, 0), ("tolower", .lower, 1, 1),
    ("toupper", .upper, 1, 1)]

/-- What a name stands for: a name for the whole program, or a place among the values that belong to
a call of a procedure. -/
inductive Variable where
  | shared (name : String)
  | own (index : Nat)

/-- Where a line is read from. -/
inductive Origin where
  | records
  | file
  | command
  deriving DecidableEq

/-- An expression. -/
inductive Expression where
  | number (value : Quantity)
  | text (text : Octets)
  | pattern (regex : Regex)
  | named (name : Variable)
  | item (table : Variable) (keys : List Expression)
  | field (index : Expression)
  | assign (target : Expression) (operation : Option Operation) (value : Expression)
  | step (target : Expression) (isAfter : Bool) (operation : Operation)
  | negated (value : Expression)
  | asNumber (value : Expression)
  | denied (value : Expression)
  | binary (operation : Operation) (first second : Expression)
  | both (first second : Expression)
  | oneOf (first second : Expression)
  | choice (condition first second : Expression)
  | fits (isNegated : Bool) (text pattern : Expression)
  | isWithin (keys : List Expression) (table : Variable)
  | call (name : String) (arguments : List Expression)
  | builtin (function : Builtin) (arguments : List Expression)
  | readLine (origin : Origin) (name : Option Expression) (target : Option Expression)

/-- Where output goes. -/
inductive Direction where
  | file
  | addition
  | command
  deriving DecidableEq

/-- A statement. -/
inductive Statement where
  | evaluate (value : Expression)
  | write (isFormatted : Bool) (arguments : List Expression)
      (direction : Option (Direction × Expression))
  | block (statements : List Statement)
  | choose (condition : Expression) (first second : Statement)
  | whileTrue (condition : Expression) (body : Statement)
  | untilFalse (body : Statement) (condition : Expression)
  | loop (condition step : Option Expression) (body : Statement)
  | forKeys (name : Variable) (table : Variable) (body : Statement)
  | leave
  | again
  | nextRecord
  | nextSource
  | finish (status : Option Expression)
  | giveBack (value : Option Expression)
  | erase (table : Variable) (keys : Option (List Expression))

/-- When a rule is carried out: for the records for which an expression holds, or from one such record
to another one. -/
inductive Pattern where
  | always
  | when (condition : Expression)
  | between (first last : Expression)

/-- A rule. -/
structure Rule where
  pattern : Pattern
  action : Statement

/-- A procedure: which of its parameters are tables, and what it does. -/
structure Procedure where
  parameters : List Bool
  body : Statement

/-- A program. -/
structure Program where
  beginning : List Statement := []
  rules : List Rule := []
  ending : List Statement := []
  procedures : List (String × Procedure) := []
  /-- Whether records are read at all. -/
  readsRecords : Bool := false

/-- What is wrong with a program, the line where that is found, and whether it is said in brief. -/
structure Mistake where
  line : Nat
  message : Octets
  isBrief : Bool

end CorpusJudge.Record
