import CorpusJudge.Emulator.Shell.Arithmetic
import CorpusJudge.Emulator.Shell.Parameters
import CorpusJudge.Emulator.Shell.Quotation

/-!
# Calculations

The arithmetic of the extended dialect.  A calculation is carried out while its text is read; the values
of variables are calculations themselves.  Complaints show the text and the last piece of it that was
read.
-/

namespace CorpusJudge.Shell

/-- A piece of a calculation. -/
inductive Figure where
  | finish
  | number (value : Int)
  /-- A variable, with the text in its brackets. -/
  | name (name : String) (subscript : Option Octets)
  | symbol (text : String)
  deriving DecidableEq

/-- A calculation at work: the shell, the text, what is left behind the current piece, where that piece
starts, the piece itself and the one before it, and whether nothing counts at the moment. -/
structure Calculator where
  shell : State
  text : Octets := []
  rest : Octets := []
  start : Octets := []
  current : Figure := .finish
  before : Figure := .finish
  isIdle : Bool := false

/-- Why something that a shell evaluates has no value: the line it stands on is given up, or the shell
ends. -/
inductive Mishap where
  | line (message : String)
  | fatal (message : String)

namespace Mishap

/-- The wording. -/
def message : Mishap → String
  | line message => message
  | fatal message => message

end Mishap

/-- A step of a calculation. -/
abbrev Calculating (α : Type) := StateT Calculator (Except Mishap) α

namespace Calculating

/-- Complain, showing the text and a part of it. -/
def failAt {α : Type} (message : String) (text shown : Octets) : Calculating α :=
  let text := text.dropWhile fun character => character = ' ' || character = '\t' || character = '\n'
  throw (.line (String.ofList text ++ ": " ++ message ++
    " (error token is \"" ++ String.ofList shown ++ "\")"))

/-- Complain, showing the last piece and what follows. -/
def fail {α : Type} (message : String) : Calculating α := do
  let calculator ← get
  failAt message calculator.text calculator.start

/-- Whether a character is a blank between pieces. -/
def isBlank (character : Char) : Bool := " \t\n\r".toList.contains character

/-- The marks of calculations, longer ones first. -/
def symbols : List String :=
  ["<<=", ">>=", "==", "!=", "<=", ">=", "&&", "||", "<<", ">>", "**", "++", "--", "*=", "/=", "%=",
    "+=", "-=", "&=", "^=", "|=", "=", ">", "<", "+", "-", "*", "/", "%", "!", "(", ")", "&", "|", "^",
    "~", "?", ":", ","]

/-- The text up to the bracket that closes one which is open, and the rest behind it. -/
def splitBrackets? (done : Octets) : Nat → Nat → Octets → Option (Octets × Octets)
  | 0, _, _ => none
  | fuel + 1, depth, text =>
    match text with
    | [] => none
    | ']' :: rest =>
      if depth = 0 then some (done.reverse, rest)
      else splitBrackets? (']' :: done) fuel (depth - 1) rest
    | '[' :: rest => splitBrackets? ('[' :: done) fuel (depth + 1) rest
    | character :: rest => splitBrackets? (character :: done) fuel depth rest

/-- The value of a digit in a base up to 64. -/
def digitOf? (base : Nat) (digit : Char) : Option Nat :=
  let code := digit.toNat
  let value :=
    if digit.isDigit then some (code - 48)
    else if digit.isLower then some (code - 87)
    else if digit.isUpper then some (if base ≤ 36 then code - 55 else code - 29)
    else if digit = '@' then some 62
    else if digit = '_' then some 63
    else none
  value.filter (· < base)

/-- The number that digits write, in the base that stands in front of them. -/
def numberOf (digits : Octets) : Except String Int :=
  let write (base : Nat) (digits : Octets) : Except String Int := do
    let value ← digits.foldlM (fun value digit =>
      match digitOf? base digit with
      | some size => .ok (base * value + size)
      | none => .error "value too great for base") 0
    return Formula.wrap value
  let mark := digits.takeWhile (· ≠ '#')
  if mark.length < digits.length then
    match Integer.natural? 10 mark with
    | none => .error "invalid number"
    | some base =>
      if base < 2 || 64 < base then .error "invalid arithmetic base"
      else if (digits.drop (mark.length + 1)).isEmpty then .error "invalid integer constant"
      else write base (digits.drop (mark.length + 1))
  else match digits with
    | '0' :: letter :: rest =>
      if letter = 'x' || letter = 'X' then write 16 rest else write 8 (letter :: rest)
    | _ => write 10 digits

/-- Whether the blanks at the start of a text are followed by a name. -/
def hasNameAhead (text : Octets) : Bool :=
  (text.dropWhile isBlank).head?.any isNameStart

/-- Go on to the next piece. -/
def next : Calculating Unit := do
  let calculator ← get
  let text := calculator.rest.dropWhile isBlank
  let move (figure : Figure) (rest : Octets) : Calculating Unit :=
    set { calculator with rest := rest, start := text, before := calculator.current, current := figure }
  match text with
  | [] => set { calculator with rest := [], before := calculator.current, current := .finish }
  | character :: behind =>
    if isNameStart character then
      let name := text.takeWhile isNameChar
      let after := text.drop name.length
      let word := String.ofList name
      match after with
      | '[' :: inside =>
        match splitBrackets? [] (inside.length + 1) 0 inside with
        | some (subscript, rest) => move (.name word (some subscript)) rest
        | none =>
          set { calculator with start := text }
          fail "bad array subscript"
      | _ => move (.name word none) after
    else if character.isDigit then
      let digits := text.takeWhile fun digit =>
        digit.isAlphanum || digit = '#' || digit = '@' || digit = '_'
      match numberOf digits with
      | .ok value => move (.number value) (text.drop digits.length)
      | .error message =>
        let read := calculator.text.take (calculator.text.length - text.length + digits.length)
        failAt message read digits
    else match symbols.find? fun symbol => symbol.toList.isPrefixOf text with
      | some symbol =>
        if symbol = "++" || symbol = "--" then
          let isBehindName := match calculator.current with
            | .name _ _ => true
            | _ => false
          if isBehindName || hasNameAhead (text.drop 2) then move (.symbol symbol) (text.drop 2)
          else move (.symbol (String.ofList [character])) behind
        else move (.symbol symbol) (text.drop symbol.length)
      | none =>
        set { calculator with start := text }
        let isExpected := match calculator.current with
          | .finish => true
          | .symbol symbol => symbol ≠ ")"
          | _ => false
        fail (if isExpected then "syntax error: operand expected"
          else "syntax error: invalid arithmetic operator")

/-- Whether the current piece is one of some marks. -/
def symbol? (wanted : List String) : Calculating (Option String) := do
  match (← get).current with
  | .symbol text => return if wanted.contains text then some text else none
  | _ => return none

/-- Do something for which nothing counts if one says so. -/
def idling {α : Type} (isIdle : Bool) (act : Calculating α) : Calculating α := do
  let before := (← get).isIdle
  modify fun calculator => { calculator with isIdle := before || isIdle }
  let result ← act
  modify fun calculator => { calculator with isIdle := before }
  return result

/-- A way to calculate the value of another text. -/
abbrev Inner := Octets → Calculating Int

/-- Calculate another text, and come back to this one. -/
def aside (inner : Inner) (text : Octets) : Calculating Int := do
  let before ← get
  let value ← inner text
  modify fun calculator => { before with shell := calculator.shell }
  return value

/-- The key that the text in the brackets of a variable stands for. -/
def keyOf (inner : Inner) (name : String) (subscript : Octets) : Calculating Octets := do
  let shell := (← get).shell
  if shell.isTable name then return subscript
  let place ← aside inner subscript
  let place := if place < 0 then place + shell.extent name else place
  if place < 0 then throw (.line (name ++ ": bad array subscript"))
  return (toString place).toList

/-- The value of a variable. -/
def valueOf (inner : Inner) (name : String) (subscript : Option Octets) : Calculating Int := do
  if (← get).isIdle then return 0
  let value ← match subscript with
    | none => pure ((← get).shell.parameter? name)
    | some subscript =>
      let key ← keyOf inner name subscript
      pure ((← get).shell.element? name key)
  match value with
  | none =>
    if (← get).shell.has 'u' then throw (.fatal (name ++ ": unbound variable"))
    return 0
  | some value => if value.all isBlank then return 0 else aside inner value

/-- Give a number to a variable. -/
def assign (inner : Inner) (name : String) (subscript : Option Octets) (value : Int) :
    Calculating Unit := do
  if (← get).isIdle then return
  if (← get).shell.vars.isReadOnly name then throw (.line (name ++ ": readonly variable"))
  let text := (toString value).toList
  match subscript with
  | none => modify fun calculator => { calculator with shell := calculator.shell.assign name text }
  | some subscript =>
    let key ← keyOf inner name subscript
    modify fun calculator =>
      { calculator with shell := calculator.shell.assignElement name key text }

/-- The operators with two operands in levels, loosest first. -/
def levels : List (List String) :=
  [["|"], ["^"], ["&"], ["==", "!="], ["<=", ">=", "<", ">"], ["<<", ">>"], ["+", "-"], ["*", "/", "%"]]

/-- Carry out an operation; the text is where its second operand starts. -/
def operate (symbol : String) (left right : Int) (operand : Octets) : Calculating Int := do
  match Formula.operationOf? symbol with
  | none => return 0
  | some (_, operation) =>
    match operation.apply? left right with
    | some value => return value
    | none =>
      if (← get).isIdle then return 0
      failAt "division by 0" (← get).text (operand.dropWhile isBlank)

/-- A number to a power, wrapped around; the fuel counts the binary digits of the exponent. -/
def powerFrom (base : Int) (exponent : Nat) : Nat → Int
  | 0 => 1
  | fuel + 1 =>
    if exponent = 0 then 1
    else
      let square := powerFrom (Formula.wrap (base * base)) (exponent / 2) fuel
      if exponent % 2 = 1 then Formula.wrap (base * square) else square

/-- A number to a power, wrapped around. -/
def power (base : Int) (exponent : Nat) : Int := powerFrom base exponent 64

mutual

/-- Values with commas between them. -/
def row (inner : Inner) : Nat → Calculating Int
  | 0 => fail "expression recursion level exceeded"
  | fuel + 1 => do
    let value ← assignment inner fuel
    match ← symbol? [","] with
    | some _ =>
      next
      row inner fuel
    | none => return value
termination_by structural fuel => fuel

/-- An assignment, or a value. -/
def assignment (inner : Inner) : Nat → Calculating Int
  | 0 => fail "expression recursion level exceeded"
  | fuel + 1 => do
    let value ← choice inner fuel
    match ← symbol? ["=", "+=", "-=", "*=", "/=", "%=", "&=", "^=", "|=", "<<=", ">>="] with
    | none => return value
    | some symbol =>
      match (← get).before with
      | .name name subscript =>
        let operand := (← get).rest
        next
        let right ← assignment inner fuel
        let result ← if symbol = "=" then pure right
          else operate (String.ofList symbol.toList.dropLast) value right operand
        assign inner name subscript result
        return result
      | _ => fail "attempted assignment to non-variable"
termination_by structural fuel => fuel

/-- One of two values, or a value. -/
def choice (inner : Inner) : Nat → Calculating Int
  | 0 => fail "expression recursion level exceeded"
  | fuel + 1 => do
    let test ← disjunction inner fuel
    match ← symbol? ["?"] with
    | none => return test
    | some _ =>
      next
      if (← symbol? [":"]).isSome || (← get).current = .finish then fail "expression expected"
      let first ← idling (test = 0) (row inner fuel)
      if (← symbol? [":"]).isNone then fail "\x60:' expected for conditional expression"
      next
      if (← get).current = .finish then fail "expression expected"
      let second ← idling (test ≠ 0) (choice inner fuel)
      return if test = 0 then second else first
termination_by structural fuel => fuel

/-- A value that is true when one of its parts is. -/
def disjunction (inner : Inner) : Nat → Calculating Int
  | 0 => fail "expression recursion level exceeded"
  | fuel + 1 => do
    let first ← conjunction inner fuel
    match ← symbol? ["||"] with
    | none => return first
    | some _ =>
      next
      let second ← idling (first ≠ 0) (disjunction inner fuel)
      return Formula.ofBool (first ≠ 0 || second ≠ 0)
termination_by structural fuel => fuel

/-- A value that is true when each of its parts is. -/
def conjunction (inner : Inner) : Nat → Calculating Int
  | 0 => fail "expression recursion level exceeded"
  | fuel + 1 => do
    let first ← operations inner levels fuel
    match ← symbol? ["&&"] with
    | none => return first
    | some _ =>
      next
      let second ← idling (first = 0) (conjunction inner fuel)
      return Formula.ofBool (first ≠ 0 && second ≠ 0)
termination_by structural fuel => fuel

/-- Operations of some levels. -/
def operations (inner : Inner) (levels : List (List String)) : Nat → Calculating Int
  | 0 => fail "expression recursion level exceeded"
  | fuel + 1 => do
    match levels with
    | [] => powers inner fuel
    | level :: tighter =>
      let first ← operations inner tighter fuel
      moreOperations inner level tighter first fuel
termination_by structural fuel => fuel

/-- The further operations of a level behind a value. -/
def moreOperations (inner : Inner) (level : List String) (tighter : List (List String)) (first : Int) :
    Nat → Calculating Int
  | 0 => fail "expression recursion level exceeded"
  | fuel + 1 => do
    match ← symbol? level with
    | none => return first
    | some symbol =>
      let operand := (← get).rest
      next
      let second ← operations inner tighter fuel
      moreOperations inner level tighter (← operate symbol first second operand) fuel
termination_by structural fuel => fuel

/-- A power. -/
def powers (inner : Inner) : Nat → Calculating Int
  | 0 => fail "expression recursion level exceeded"
  | fuel + 1 => do
    let base ← signs inner fuel
    match ← symbol? ["**"] with
    | none => return base
    | some _ =>
      next
      let exponent ← powers inner fuel
      if exponent < 0 then fail "exponent less than 0"
      return power base exponent.toNat
termination_by structural fuel => fuel

/-- A value behind signs. -/
def signs (inner : Inner) : Nat → Calculating Int
  | 0 => fail "expression recursion level exceeded"
  | fuel + 1 => do
    match ← symbol? ["!", "~", "-", "+"] with
    | none => term inner fuel
    | some symbol =>
      next
      let value ← signs inner fuel
      return match symbol with
        | "!" => Formula.ofBool (value = 0)
        | "~" => -value - 1
        | "-" => Formula.wrap (-value)
        | _ => value
termination_by structural fuel => fuel

/-- A number, a variable, or a value in parentheses. -/
def term (inner : Inner) : Nat → Calculating Int
  | 0 => fail "expression recursion level exceeded"
  | fuel + 1 => do
    match (← get).current with
    | .number value =>
      next
      return value
    | .name name subscript =>
      let calculator ← get
      let ahead := calculator.rest.dropWhile isBlank
      let isAssigned := ahead.head? = some '=' && (ahead.drop 1).head? ≠ some '='
      let value ← if isAssigned then pure 0 else valueOf inner name subscript
      next
      match ← symbol? ["++", "--"] with
      | some symbol =>
        assign inner name subscript (Formula.wrap (if symbol = "++" then value + 1 else value - 1))
        next
        modify fun calculator => { calculator with before := .number value }
        return value
      | none => return value
    | .symbol "(" =>
      next
      let value ← row inner fuel
      if (← symbol? [")"]).isNone then fail "missing \x60)'"
      next
      return value
    | .symbol symbol =>
      if symbol = "++" || symbol = "--" then
        next
        match (← get).current with
        | .name name subscript =>
          let value ← valueOf inner name subscript
          let value := Formula.wrap (if symbol = "++" then value + 1 else value - 1)
          assign inner name subscript value
          next
          modify fun calculator => { calculator with before := .number value }
          return value
        | _ => fail "identifier expected after pre-increment or pre-decrement"
      else fail "syntax error: operand expected"
    | .finish => fail "syntax error: operand expected"
termination_by structural fuel => fuel

end

/-- The value of a text whose variables may have so many texts inside each other. -/
def value : Nat → Octets → Calculating Int
  | 0, text => failAt "expression recursion level exceeded" text text
  | depth + 1, text => do
    let text := text.filter (· ≠ '"')
    modify fun calculator =>
      { calculator with text := text, rest := text, start := text, current := .finish, before := .finish }
    next
    if (← get).current = .finish then return 0
    let result ← row (value depth) (16 * text.length + 64)
    if (← get).current = .finish then return result
    fail "syntax error in expression"

end Calculating

/-- The value of a calculation, and the shell after its assignments. -/
def State.calculate (shell : State) (text : Octets) : Except Mishap (Int × State) := do
  let (value, calculator) ← (Calculating.value 1024 text).run { shell := shell }
  return (value, calculator.shell)

/-- The key that the text in the brackets of a variable stands for, unless it lies before all places, and
the shell after assignments in it. -/
def State.keyOf? (shell : State) (name : String) (text : Octets) :
    Except Mishap (Option Octets × State) := do
  if shell.isTable name then return (some text, shell)
  let (place, shell) ← shell.calculate text
  let place := if place < 0 then place + shell.extent name else place
  return (if place < 0 then none else some (toString place).toList, shell)

/-- What is assigned: a value, or a list of values, each perhaps with the text of a key. -/
inductive Given where
  | one (value : Octets)
  | several (items : List (Option Octets × Bool × Octets))

/-- An assignment whose words are expanded: the name, the text in brackets behind it, whether the value is
put behind the one before, and the value. -/
structure Setting where
  name : String
  key : Option Octets
  appends : Bool
  given : Given

namespace Setting

/-- The value that is assigned, if it is one. -/
def text (setting : Setting) : Octets :=
  match setting.given with
  | .one value => value
  | .several _ => []

/-- The text of an assignment as it is shown. -/
def shown (setting : Setting) : Octets :=
  let key := match setting.key with
    | some key => '[' :: key ++ [']']
    | none => []
  let mark := if setting.appends then ['+', '='] else ['=']
  setting.name.toList ++ key ++ mark ++
    match setting.given with
    | .one value => value
    | .several items =>
      '(' :: [' '].intercalate (items.map fun (key, _, value) =>
        match key with
        | some key => '[' :: key ++ [']', '='] ++ value
        | none => value) ++ [')']

/-- The text of an assignment as it is shown when it is made. -/
def traced (setting : Setting) : Octets :=
  match setting.given with
  | .one value =>
    ({ setting with given := .one [] } : Setting).shown ++ (if value.isEmpty then [] else Quotation.traced value)
  | .several _ => setting.shown

/-- The text of a list of values with all of them between quotes. -/
def tracedList (setting : Setting) : Octets :=
  match setting.given with
  | .one _ => setting.traced
  | .several items =>
    let shown := items.map fun (key, _, value) => match key with
      | some key => '[' :: Quotation.single key ++ ']' :: '=' :: Quotation.single value
      | none => Quotation.single value
    ({ setting with given := .one [] } : Setting).shown ++
      '(' :: [' '].intercalate shown ++ [')']

end Setting

namespace State

/-- The value that a variable of a kind gets when another one is put in place of, or behind, the one
before. -/
def valueFor (shell : State) (binding : Variable) (appends : Bool) (before value : Octets) :
    Except Mishap (Octets × State) := do
  if binding.marks.contains 'i' then
    let (number, shell) ← shell.calculate value
    let (old, shell) ← if appends then shell.calculate before else pure (0, shell)
    return ((toString (Formula.wrap (old + number))).toList, shell)
  return (if appends then before ++ value else value, shell)

/-- The elements of a variable with the values of a list put in.  The number is the next place in a
row. -/
def putItems (shell : State) (name : String) (binding : Variable) (elements : Elements) (place : Nat) :
    List (Option Octets × Bool × Octets) → Except Mishap (Elements × State)
  | [] => return (elements, shell)
  | (key, appends, value) :: rest => do
    let found : Option Octets × State ← match key with
      | none => pure (some (toString place).toList, shell)
      | some key =>
        if elements.isTable then pure (some key, shell)
        else do
          let (number, shell) ← shell.calculate key
          let number := if number < 0 then number + elements.extent else number
          pure (if number < 0 then none else some (toString number).toList, shell)
    let (key?, shell) := found
    match key? with
    | none =>
      throw (.line (name ++ "[" ++ String.ofList (key.getD []) ++ "]: bad array subscript"))
    | some key =>
      let (value, shell) ← shell.valueFor binding appends ((elements.get? key).getD []) value
      let elements := elements.put key (binding.cased value)
      putItems shell name binding elements ((Integer.natural? 10 key).getD place + 1) rest

/-- The values of a list by their keys, where keys and values take turns. -/
def pairItems : List (Option Octets × Bool × Octets) → List (Option Octets × Bool × Octets)
  | (_, _, key) :: (_, _, value) :: rest => (some key, false, value) :: pairItems rest
  | [(_, _, key)] => [(some key, false, [])]
  | [] => []

/-- The elements that a list of values makes, behind those of a variable or in their place. -/
def elementsOf (shell : State) (name : String) (binding : Variable) (appends : Bool)
    (items : List (Option Octets × Bool × Octets)) : Except Mishap (Elements × State) :=
  let isTable := binding.elements.any Elements.isTable
  let start := if appends then binding.toElements else if isTable then .table [] else .row []
  let takesTurns := isTable && items.head?.any fun (key, _, _) => key.isNone
  shell.putItems name binding start start.extent (if takesTurns then pairItems items else items)

/-- A shell after an assignment. -/
def set (shell : State) (setting : Setting) : Except Mishap State := do
  let name := shell.vars.resolve setting.name
  let binding := (shell.vars.lookup name).getD .blank
  if binding.isReadOnly then throw (.line (name ++ ": readonly variable"))
  match setting.given, setting.key with
  | .one value, none =>
    let (value, shell) ← shell.valueFor binding setting.appends (binding.plainValue.getD []) value
    let seed := if name = "RANDOM" then (Integer.natural? 10 value).getD 0 else shell.seed
    let begun := if name = "SECONDS" then
        shell.clock - 1000000 * (Integer.signed? 10 value).getD 0
      else shell.begun
    return { shell.assign name value with seed := seed, begun := begun }
  | .one value, some text =>
    match ← shell.keyOf? name text with
    | (none, _) => throw (.line (name ++ "[" ++ String.ofList text ++ "]: bad array subscript"))
    | (some key, shell) =>
      if key.isEmpty && binding.elements.any Elements.isTable then
        throw (.line (name ++ "[" ++ String.ofList text ++ "]: bad array subscript"))
      let (value, shell) ←
        shell.valueFor binding setting.appends ((shell.element? name key).getD []) value
      return shell.assignElement name key value
  | .several items, none =>
    let (elements, shell) ← shell.elementsOf name binding setting.appends items
    let binding := (shell.vars.lookup name).getD .blank
    return { shell with
      vars := shell.vars.put name
        { binding with
          value := none
          elements := some elements
          marks := binding.marks.filter (· ≠ Variable.unsetMark) } }
  | .several _, some text =>
    throw (.line (name ++ "[" ++ String.ofList text ++ "]: cannot assign list to array member"))

end State

end CorpusJudge.Shell
