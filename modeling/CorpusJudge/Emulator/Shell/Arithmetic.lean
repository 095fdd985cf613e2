import CorpusJudge.Bytes
import CorpusJudge.Text.Integer
import CorpusJudge.Emulator.Shell.Reader
import CorpusJudge.Text.Classes

/-!
# Shell arithmetic

Expressions over the integers of a signed 64-bit word, which wrap around.  A variable that is unset
or empty counts as zero.
-/

namespace CorpusJudge.Shell

/-- An operation on two numbers. -/
inductive Operation where
  | multiply | divide | remainder
  | add | subtract
  | shiftLeft | shiftRight
  | less | atMost | greater | atLeast
  | equal | unequal
  | bitAnd | bitXor | bitOr

/-- An arithmetic expression. -/
inductive Formula where
  | number (value : Int)
  | variable (name : String)
  | negative (formula : Formula)
  | complement (formula : Formula)
  | isZero (formula : Formula)
  | apply (operation : Operation) (left right : Formula)
  | both (left right : Formula)
  | either (left right : Formula)
  | choice (test whenTrue otherwise : Formula)
  | assign (name : String) (operation : Option Operation) (value : Formula)

/-- Why an expression has no value. -/
inductive FormulaError where
  | malformed (reason : String)
  | illegalNumber (text : Octets)

namespace Formula

/-! ## Reading -/

/-- A piece of an expression. -/
inductive Piece where
  | number (value : Int)
  | name (text : String)
  | symbol (text : String)

/-- The marks of expressions, longer ones first. -/
def symbols : List String :=
  ["<<=", ">>=", "&&", "||", "<<", ">>", "<=", ">=", "==", "!=", "*=", "/=", "%=", "+=", "-=", "&=",
    "^=", "|="]

/-- The number at the start of a text in the notation of its prefix, and what follows. -/
def splitNumber (text : Octets) : Int × Octets :=
  let (value, rest) := Integer.prefixed text
  (min (Int.ofNat value) Integer.greatest, rest)

/-- The pieces of an expression. -/
def pieces : Nat → Octets → List Piece
  | 0, _ => []
  | fuel + 1, text =>
    match text with
    | [] => []
    | character :: rest =>
      if " \t\n".toList.contains character then pieces fuel rest
      else if character.isDigit then
        let (value, after) := splitNumber text
        .number value :: pieces fuel after
      else if isNameStart character then
        let name := text.takeWhile isNameChar
        .name (String.ofList name) :: pieces fuel (text.drop name.length)
      else match symbols.find? fun symbol => symbol.toList.isPrefixOf text with
        | some symbol => .symbol symbol :: pieces fuel (text.drop symbol.length)
        | none => .symbol (String.ofList [character]) :: pieces fuel rest

/-- How tightly an operator binds its operands, and what it does. -/
def operationOf? : String → Option (Nat × Operation)
  | "*" => some (8, .multiply)
  | "/" => some (8, .divide)
  | "%" => some (8, .remainder)
  | "+" => some (7, .add)
  | "-" => some (7, .subtract)
  | "<<" => some (6, .shiftLeft)
  | ">>" => some (6, .shiftRight)
  | "<" => some (5, .less)
  | "<=" => some (5, .atMost)
  | ">" => some (5, .greater)
  | ">=" => some (5, .atLeast)
  | "==" => some (4, .equal)
  | "!=" => some (4, .unequal)
  | "&" => some (3, .bitAnd)
  | "^" => some (2, .bitXor)
  | "|" => some (1, .bitOr)
  | _ => none

/-- The operation that an assignment applies first, if any; nothing for other marks. -/
def assignmentOf? (symbol : String) : Option (Option Operation) :=
  if symbol = "=" then some none
  else if symbol.endsWith "=" then
    match operationOf? (String.ofList symbol.toList.dropLast) with
    | some (strength, operation) =>
      if strength = 5 || strength = 4 then none else some (some operation)
    | none => none
  else none

/-- A reader of expressions from their pieces. -/
abbrev PieceReader := List Piece → Except FormulaError (Formula × List Piece)

mutual

/-- A number, a variable, an expression in parentheses, or one behind a sign. -/
def primary : Nat → PieceReader
  | 0, _ => .error (.malformed "nesting too deep")
  | fuel + 1, pieces =>
    match pieces with
    | .number value :: rest => .ok (.number value, rest)
    | .name name :: rest => .ok (.variable name, rest)
    | .symbol "(" :: rest => do
      match ← assignment fuel rest with
      | (formula, .symbol ")" :: after) => return (formula, after)
      | _ => throw (.malformed "expecting ')'")
    | .symbol "-" :: rest => do
      let (formula, after) ← primary fuel rest
      return (.negative formula, after)
    | .symbol "+" :: rest => primary fuel rest
    | .symbol "~" :: rest => do
      let (formula, after) ← primary fuel rest
      return (.complement formula, after)
    | .symbol "!" :: rest => do
      let (formula, after) ← primary fuel rest
      return (.isZero formula, after)
    | _ => .error (.malformed "expecting primary")
termination_by structural fuel => fuel

/-- The operators of at least some strength behind an operand. -/
def operations (strength : Nat) (left : Formula) : Nat → PieceReader
  | 0, _ => .error (.malformed "nesting too deep")
  | fuel + 1, pieces =>
    match pieces with
    | .symbol symbol :: rest =>
      match operationOf? symbol with
      | some (tightness, operation) =>
        if tightness < strength then .ok (left, pieces)
        else do
          let (operand, rest) ← primary fuel rest
          let (right, rest) ← operations (tightness + 1) operand fuel rest
          operations strength (.apply operation left right) fuel rest
      | none => .ok (left, pieces)
    | _ => .ok (left, pieces)
termination_by structural fuel => fuel

/-- An expression that is true when all its operands are. -/
def conjunction : Nat → PieceReader
  | 0, _ => .error (.malformed "nesting too deep")
  | fuel + 1, pieces => do
    let (operand, rest) ← primary fuel pieces
    let (left, rest) ← operations 1 operand fuel rest
    match rest with
    | .symbol "&&" :: rest =>
      let (right, rest) ← conjunction fuel rest
      return (.both left right, rest)
    | _ => return (left, rest)
termination_by structural fuel => fuel

/-- An expression that is true when one of its operands is. -/
def disjunction : Nat → PieceReader
  | 0, _ => .error (.malformed "nesting too deep")
  | fuel + 1, pieces => do
    let (left, rest) ← conjunction fuel pieces
    match rest with
    | .symbol "||" :: rest =>
      let (right, rest) ← disjunction fuel rest
      return (.either left right, rest)
    | _ => return (left, rest)
termination_by structural fuel => fuel

/-- An expression that takes one of two values. -/
def conditional : Nat → PieceReader
  | 0, _ => .error (.malformed "nesting too deep")
  | fuel + 1, pieces => do
    let (test, rest) ← disjunction fuel pieces
    match rest with
    | .symbol "?" :: rest =>
      match ← assignment fuel rest with
      | (whenTrue, .symbol ":" :: rest) =>
        let (otherwise, rest) ← conditional fuel rest
        return (.choice test whenTrue otherwise, rest)
      | _ => throw (.malformed "expecting ':'")
    | _ => return (test, rest)
termination_by structural fuel => fuel

/-- Any expression. -/
def assignment : Nat → PieceReader
  | 0, _ => .error (.malformed "nesting too deep")
  | fuel + 1, pieces =>
    match pieces with
    | .name name :: .symbol symbol :: rest =>
      match assignmentOf? symbol with
      | some operation => do
        let (value, rest) ← assignment fuel rest
        return (.assign name operation value, rest)
      | none => conditional fuel pieces
    | _ => conditional fuel pieces
termination_by structural fuel => fuel

end

/-- The expression that a text writes. -/
def read (text : Octets) : Except FormulaError Formula := do
  let pieces := pieces (text.length + 1) text
  match ← assignment (8 * pieces.length + 8) pieces with
  | (formula, []) => return formula
  | _ => throw (.malformed "expecting EOF")

/-! ## Values -/

/-- The number of a signed 64-bit word that a number wraps around to. -/
def wrap (value : Int) : Int :=
  (value + 9223372036854775808) % 18446744073709551616 - 9223372036854775808

/-- The bits of a number in a 64-bit word. -/
def bits (value : Int) : Nat :=
  (value % 18446744073709551616).toNat

/-- One for a truth, zero for a falsehood. -/
def ofBool (truth : Bool) : Int := if truth then 1 else 0

end Formula

/-- The value of an operation; there is none for a division by zero. -/
def Operation.apply? (operation : Operation) (left right : Int) : Option Int :=
  match operation with
  | multiply => some (Formula.wrap (left * right))
  | divide => if right = 0 then none else some (Formula.wrap (left.tdiv right))
  | remainder => if right = 0 then none else some (Formula.wrap (left.tmod right))
  | add => some (Formula.wrap (left + right))
  | subtract => some (Formula.wrap (left - right))
  | shiftLeft => some (Formula.wrap (left <<< (right % 64).toNat))
  | shiftRight => some (left >>> (right % 64).toNat)
  | less => some (Formula.ofBool (left < right))
  | atMost => some (Formula.ofBool (left ≤ right))
  | greater => some (Formula.ofBool (right < left))
  | atLeast => some (Formula.ofBool (right ≤ left))
  | equal => some (Formula.ofBool (left = right))
  | unequal => some (Formula.ofBool (left ≠ right))
  | bitAnd => some (Formula.wrap (Nat.land (Formula.bits left) (Formula.bits right)))
  | bitXor => some (Formula.wrap (Nat.xor (Formula.bits left) (Formula.bits right)))
  | bitOr => some (Formula.wrap (Nat.lor (Formula.bits left) (Formula.bits right)))

namespace Formula

/-- The number that a variable's text writes. -/
def numberOf (text : Octets) : Except FormulaError Int :=
  let isSpace (character : Char) : Bool := Text.liesIn [('\t', '\r'), (' ', ' ')] character
  let core := ((text.dropWhile isSpace).reverse.dropWhile isSpace).reverse
  let (isNegative, digits) := match core with
    | '-' :: rest => (true, rest)
    | '+' :: rest => (false, rest)
    | _ => (false, core)
  if core.isEmpty then .ok 0
  else if !digits.head?.any Char.isDigit then .error (.illegalNumber text)
  else
    match splitNumber digits with
    | (value, []) => .ok (if isNegative then -value else value)
    | _ => .error (.illegalNumber text)

/-- The variables that an expression sees and sets. -/
abbrev Bindings := String → Option Octets

/-- Set a variable to a number. -/
def bind (bindings : Bindings) (name : String) (value : Int) : Bindings :=
  fun other => if other = name then some (toString value).toList else bindings other

/-- The value of an expression and the assignments it makes, in order. -/
def value (bindings : Bindings) :
    Formula → Except FormulaError (Int × Bindings × List (String × Int))
  | number value => .ok (value, bindings, [])
  | .variable name => do
    return (← numberOf ((bindings name).getD []), bindings, [])
  | negative formula => do
    let (value, bindings, made) ← formula.value bindings
    return (wrap (-value), bindings, made)
  | complement formula => do
    let (value, bindings, made) ← formula.value bindings
    return (-value - 1, bindings, made)
  | isZero formula => do
    let (value, bindings, made) ← formula.value bindings
    return (ofBool (value = 0), bindings, made)
  | apply operation left right => do
    let (first, bindings, made) ← left.value bindings
    let (second, bindings, more) ← right.value bindings
    match operation.apply? first second with
    | some value => return (value, bindings, made ++ more)
    | none => throw (.malformed "division by zero")
  | both left right => do
    let (first, bindings, made) ← left.value bindings
    if first = 0 then return (0, bindings, made)
    let (second, bindings, more) ← right.value bindings
    return (ofBool (second ≠ 0), bindings, made ++ more)
  | either left right => do
    let (first, bindings, made) ← left.value bindings
    if first ≠ 0 then return (1, bindings, made)
    let (second, bindings, more) ← right.value bindings
    return (ofBool (second ≠ 0), bindings, made ++ more)
  | choice test whenTrue otherwise => do
    let (first, bindings, made) ← test.value bindings
    let (second, bindings, more) ←
      if first ≠ 0 then whenTrue.value bindings else otherwise.value bindings
    return (second, bindings, made ++ more)
  | assign name operation formula => do
    let (operand, bindings, made) ← formula.value bindings
    let result ← match operation with
      | none => pure operand
      | some operation =>
        let old ← numberOf ((bindings name).getD [])
        match operation.apply? old operand with
        | some value => pure value
        | none => throw (.malformed "division by zero")
    return (result, bind bindings name result, made ++ [(name, result)])

end Formula

end CorpusJudge.Shell
