import CorpusJudge.Bytes

/-!
# Answers

An answer is what a program printed or was expected to print.  Two answers agree when they are
equal up to carriage returns before a line break and white space at the very end.
-/

namespace CorpusJudge.Answer

/-- The byte of a carriage return. -/
def carriageReturn : UInt8 := 13

/-- The byte of a line break. -/
def lineBreak : UInt8 := 10

/-- The white space that may differ at the end of an answer: space, tab, line break, carriage
return, vertical tab and form feed. -/
def isBlank (byte : UInt8) : Bool :=
  byte = 32 || byte = 9 || byte = 10 || byte = 13 || byte = 11 || byte = 12

/-- Put a byte in front of an answer, unless it is a carriage return that would then stand
directly before a line break. -/
def consJoined (byte : UInt8) (rest : Bytes) : Bytes :=
  if byte = carriageReturn ∧ rest.head? = some lineBreak then rest else byte :: rest

/-- The answer without the carriage returns that lead up to a line break, however many there are. -/
def joinBreaks (answer : Bytes) : Bytes :=
  answer.foldr consJoined []

/-- The answer without the white space at its end. -/
def trimEnd (answer : Bytes) : Bytes :=
  (answer.reverse.dropWhile isBlank).reverse

/-- The form in which answers are compared. -/
def normalForm (answer : Bytes) : Bytes :=
  trimEnd (joinBreaks answer)

/-- Whether an actual answer counts as the expected one. -/
def agrees (actual expected : Bytes) : Bool :=
  normalForm actual == normalForm expected

/-- The text with every pair of carriage return and line break replaced by the line break alone.
Of several carriage returns before a line break only the last one goes. -/
def unixBreaks : Bytes → Bytes
  | [] => []
  | 13 :: 10 :: rest => 10 :: unixBreaks rest
  | byte :: rest => byte :: unixBreaks rest

end CorpusJudge.Answer
