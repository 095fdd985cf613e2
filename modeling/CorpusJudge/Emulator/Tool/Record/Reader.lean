import CorpusJudge.Emulator.Tool.Record.Token

/-!
# Reading programs for records

A program is read from its tokens.  What a name stands for is settled on the way: a value, a table or
a procedure, and whether it belongs to a call.  The parameters of procedures are settled at the end,
from how they are used and from the calls.
-/

namespace CorpusJudge.Record

/-- What a name can stand for. -/
inductive Role where
  | value
  | table
  | procedure
  deriving DecidableEq

/-- A name in a program: one of the whole program, or a parameter of a procedure by its place. -/
inductive Symbol where
  | shared (name : String)
  | parameter (procedure : String) (index : Nat)
  deriving DecidableEq

/-- A call: what is called where, and the arguments that are no more than names. -/
structure CallSite where
  line : Nat
  name : String
  arguments : List (Option Symbol)

/-- How far a program has been read: the tokens that follow, the roles that are settled, the calls, the
procedures with the number of their parameters, and where this is. -/
structure Progress where
  tokens : List Token
  roles : List (Symbol × Role) := []
  calls : List CallSite := []
  procedures : List (String × Nat) := []
  /-- The procedure that is being read, with the names of its parameters. -/
  procedure : Option (String × List String) := none
  loops : Nat := 0
  /-- Whether this is done for each record. -/
  isForRecords : Bool := false
  readsRecords : Bool := false

/-- Reading part of a program. -/
abbrev Reading (α : Type) := StateT Progress (Except Mistake) α

namespace Reading

/-! ## Tokens -/

/-- The next token. -/
def peek : Reading Token := do
  return (← get).tokens.headD ⟨.finish, 0, [], 0, 0⟩

/-- The kind of the next token. -/
def peekKind : Reading TokenKind := do
  return (← peek).kind

/-- Go past a token. -/
def skip : Reading Unit := modify fun progress => { progress with tokens := progress.tokens.tail }

/-- Fail at the next token with a message. -/
def failWith {α : Type} (message : Octets) : Reading α := do
  throw ⟨(← peek).line, message, false⟩

/-- What is shown of a token. -/
def shownAs (token : Token) : Octets :=
  match token.kind with
  | .line => "end of line".toList
  | .finish => "end of file".toList
  | .text text => text
  | .called name => name.toList
  | .pattern text => '/' :: text ++ ['/']
  | _ => token.shown

/-- Fail because the next token cannot stand where it does. -/
def misplaced {α : Type} : Reading α := do
  let token ← peek
  let shown := shownAs token
  let isBreak := match token.kind with
    | .line => true
    | .finish => true
    | .mark ";" => true
    | .mark "\x7d" => true
    | _ => false
  match token.kind with
  | .wrong message isBrief => throw ⟨token.line, message, isBrief⟩
  | _ =>
    if isBreak && 0 < token.parens then failWith ("missing ) near ".toList ++ shown)
    else if token.kind = .finish && 0 < token.braces then
      failWith ("missing \x7d near ".toList ++ shown)
    else failWith ("syntax error at or near ".toList ++ shown)

/-- Whether a mark comes next. -/
def isNext (mark : String) : Reading Bool := do
  return (← peekKind) = .mark mark

/-- Whether a word comes next. -/
def isWordNext (word : String) : Reading Bool := do
  return (← peekKind) = .keyword word

/-- Go past a mark if it comes next. -/
def accept (mark : String) : Reading Bool := do
  if ← isNext mark then
    skip
    return true
  return false

/-- Go past a mark that has to come next. -/
def expect (mark : String) : Reading Unit := do
  unless ← accept mark do misplaced

/-- Go past ends of lines. -/
def skipLines : Reading Unit :=
  modify fun progress =>
    { progress with tokens := progress.tokens.dropWhile (·.kind = .line) }

/-- Go past ends of lines and of statements. -/
def skipBreaks : Reading Unit :=
  modify fun progress =>
    { progress with
      tokens := progress.tokens.dropWhile fun token =>
        token.kind = .line || token.kind = .mark ";" }

/-! ## Names -/

/-- What a name stands for here. -/
def resolve (name : String) : Reading Variable := do
  match (← get).procedure with
  | some (_, parameters) =>
    match parameters.findIdx? (· = name) with
    | some index => return .own index
    | none => return .shared name
  | none => return .shared name

/-- The name that something stands for. -/
def symbolOf (given : Variable) : Reading Symbol := do
  match given, (← get).procedure with
  | .own index, some (procedure, _) => return .parameter procedure index
  | .own index, none => return .parameter "" index
  | .shared name, _ => return .shared name

/-- The role of a name, in complaints. -/
def Role.noun : Role → String
  | .value => "variable"
  | .table => "array"
  | .procedure => "function"

/-- Settle a role, or fail because there is another one. -/
def settle (name : Variable) (role : Role) : Reading Variable := do
  let symbol ← symbolOf name
  match (← get).roles.lookup symbol, name with
  | none, _ =>
    modify fun progress => { progress with roles := (symbol, role) :: progress.roles }
  | some other, .shared shown =>
    if other ≠ role then
      failWith s!"illegal reference to {Role.noun other} {shown}".toList
  | some other, .own index =>
    if other ≠ role then
      let parameters := ((← get).procedure.map Prod.snd).getD []
      let shown := parameters.getD index ""
      failWith s!"illegal reference to local {Role.noun other} {shown}".toList
  return name

/-- A name for a value. -/
def valueNamed (name : String) : Reading Expression := do
  return .named (← settle (← resolve name) .value)

/-- A name for a table. -/
def tableNamed (name : String) : Reading Variable := do
  settle (← resolve name) .table

/-- The name of a table that comes next. -/
def tableName : Reading Variable := do
  match ← peekKind with
  | .name name =>
    skip
    tableNamed name
  | _ => misplaced

/-! ## Expressions -/

/-- An expression, whether something can be assigned to it, and whether it is a field that stands in
parentheses. -/
structure Operand where
  value : Expression
  isPlace : Bool := false

/-- What stands behind an expression: whether marks are meant that direct output. -/
structure Surroundings where
  directsOutput : Bool

/-- Inside of parentheses and brackets. -/
def inside : Surroundings := ⟨false⟩

/-- The operations of marks that assign. -/
def assigning : List (String × Option Operation) :=
  [("=", none), ("+=", some .add), ("-=", some .subtract), ("*=", some .multiply),
    ("/=", some .divide), ("%=", some .remainder), ("^=", some .power)]

/-- The operations of marks that compare. -/
def comparing : List (String × Operation) :=
  [("==", .equal), ("!=", .unequal), ("<", .less), ("<=", .atMost), (">", .more), (">=", .atLeast)]

/-- The text of a mark. -/
def markOf : TokenKind → String
  | .mark text => text
  | _ => ""

/-- Whether a value can start with a token that stands behind another value. -/
def startsOperand : TokenKind → Bool
  | .number _ => true
  | .text _ => true
  | .pattern _ => true
  | .name _ => true
  | .called _ => true
  | .builtin _ => true
  | .field _ => true
  | .keyword word => word = "getline"
  | .mark text => ["(", "$", "!", "++", "--"].contains text
  | _ => false

/-- A regular expression in a program. -/
def regex (text : Octets) : Reading Regex :=
  match regexOf text with
  | .ok regex => return regex
  | .error mistake =>
    failWith (s!"regular expression compile failed ({mistake.message})\n".toList ++ text)

/-- The levels of expressions, by how closely their marks bind. -/
inductive Level where
  | oneOf
  | both
  | within
  | fits
  | compares
  | joined
  | sum
  | product
  deriving DecidableEq

/-- The level that binds more closely; none for the closest one. -/
def Level.closer? : Level → Option Level
  | .oneOf => some .both
  | .both => some .within
  | .within => some .fits
  | .fits => some .compares
  | .compares => some .joined
  | .joined => some .sum
  | .sum => some .product
  | .product => none

/-- An operand of a comparison, for which the marks that match take a text as a regular expression. -/
def asPattern (value : Expression) : Reading Expression := do
  match value with
  | .text text => return .pattern (← regex text)
  | other => return other

/-- The arguments of a function with names for tables and places where they are asked for. -/
def builtinCall (function : Builtin) (bounds : Nat × Nat) (name : String)
    (arguments : List Operand) : Reading Expression := do
  let count := arguments.length
  if count < bounds.1 || bounds.2 < count then
    failWith ("wrong number of arguments in call to ".toList ++ name.toList)
  let values := arguments.map (·.value)
  match function, values with
  | .split, [text, table] => return .builtin .split [text, table]
  | .split, [text, table, mark] =>
    match mark with
    | .text [_] => return .builtin .split [text, table, mark]
    | .text [] => return .builtin .split [text, table, mark]
    | _ => return .builtin .split [text, table, ← asPattern mark]
  | .locate, [text, pattern] => return .builtin .locate [text, ← asPattern pattern]
  | .replaceAll, pattern :: rest => return .builtin .replaceAll ((← asPattern pattern) :: rest)
  | .replaceFirst, pattern :: rest => return .builtin .replaceFirst ((← asPattern pattern) :: rest)
  | _, _ => return .builtin function values

mutual

/-- An expression. -/
def expression (around : Surroundings) : Nat → Reading Operand
  | 0 => misplaced
  | fuel + 1 => do
    let condition ← level around .oneOf fuel
    if ← accept "?" then
      skipLines
      let first ← expression around fuel
      skipLines
      expect ":"
      skipLines
      let second ← expression around fuel
      return ⟨.choice condition.value first.value second.value, false⟩
    return condition
termination_by structural fuel => fuel

/-- An expression of a level. -/
def level (around : Surroundings) (here : Level) : Nat → Reading Operand
  | 0 => misplaced
  | fuel + 1 => do
    let first ← match here.closer? with
      | some closer => level around closer fuel
      | none => signed around fuel
    let first ← if here = .compares && first.isPlace then assignment around first fuel
      else pure first
    further around here first fuel
termination_by structural fuel => fuel

/-- An assignment to an expression, if there is one. -/
def assignment (around : Surroundings) (target : Operand) : Nat → Reading Operand
  | 0 => misplaced
  | fuel + 1 => do
    match assigning.lookup (markOf (← peekKind)) with
    | some operation =>
      skip
      let value ← expression around fuel
      return ⟨.assign target.value operation value.value, false⟩
    | none => return target
termination_by structural fuel => fuel

/-- What follows an expression on its level. -/
def further (around : Surroundings) (here : Level) (first : Operand) : Nat → Reading Operand
  | 0 => misplaced
  | fuel + 1 => do
    let kind ← peekKind
    let mark := markOf kind
    let closer : Reading Operand := match here.closer? with
      | some closer => level around closer fuel
      | none => signed around fuel
    let join (value : Expression) : Reading Operand := further around here ⟨value, false⟩ fuel
    match here with
    | .oneOf =>
      if mark ≠ "||" then return first
      skip
      skipLines
      join (.oneOf first.value (← closer).value)
    | .both =>
      if mark ≠ "&&" then return first
      skip
      skipLines
      join (.both first.value (← closer).value)
    | .within =>
      if kind ≠ .keyword "in" then return first
      skip
      join (.isWithin [first.value] (← tableName))
    | .fits =>
      if mark ≠ "~" && mark ≠ "!~" then return first
      skip
      let second ← asPattern (← closer).value
      join (.fits (mark = "!~") first.value second)
    | .compares =>
      if around.directsOutput && mark = ">" then return first
      match comparing.lookup mark with
      | none => return first
      | some operation =>
        skip
        let second ← closer
        let second ← if second.isPlace then assignment around second fuel else pure second
        join (.binary operation first.value second.value)
    | .joined =>
      if !startsOperand kind then return first
      join (.binary .join first.value (← closer).value)
    | .sum =>
      if mark ≠ "+" && mark ≠ "-" then return first
      skip
      join (.binary (if mark = "+" then .add else .subtract) first.value (← closer).value)
    | .product =>
      if mark ≠ "*" && mark ≠ "/" && mark ≠ "%" then return first
      skip
      let operation : Operation := if mark = "*" then .multiply else if mark = "/" then .divide
        else .remainder
      join (.binary operation first.value (← closer).value)
termination_by structural fuel => fuel

/-- An expression with signs in front. -/
def signed (around : Surroundings) : Nat → Reading Operand
  | 0 => misplaced
  | fuel + 1 => do
    match markOf (← peekKind) with
    | "!" =>
      skip
      return ⟨.denied (← signed around fuel).value, false⟩
    | "-" =>
      skip
      return ⟨.negated (← signed around fuel).value, false⟩
    | "+" =>
      skip
      return ⟨.asNumber (← signed around fuel).value, false⟩
    | _ => piped around (← raised around fuel) fuel
termination_by structural fuel => fuel

/-- An expression from whose output lines are read, if they are. -/
def piped (around : Surroundings) (command : Operand) : Nat → Reading Operand
  | 0 => misplaced
  | fuel + 1 => do
    if around.directsOutput || !(← isNext "|") then return command
    skip
    unless ← isWordNext "getline" do misplaced
    skip
    let target ← optionalPlace fuel
    piped around ⟨.readLine .command (some command.value) target, false⟩ fuel
termination_by structural fuel => fuel

/-- A power. -/
def raised (around : Surroundings) : Nat → Reading Operand
  | 0 => misplaced
  | fuel + 1 => do
    let base ← stepped fuel
    if ← accept "^" then
      let mark := markOf (← peekKind)
      let exponent ← if mark = "-" || mark = "+" || mark = "!" then signed ⟨true⟩ fuel
        else raised around fuel
      return ⟨.binary .power base.value exponent.value, false⟩
    return base
termination_by structural fuel => fuel

/-- An expression that is counted up or down before or after. -/
def stepped : Nat → Reading Operand
  | 0 => misplaced
  | fuel + 1 => do
    let operationOf (mark : String) : Operation := if mark = "++" then .add else .subtract
    let mark := markOf (← peekKind)
    if mark = "++" || mark = "--" then
      skip
      let here ← get
      let target ← primary fuel
      unless target.isPlace do
        set here
        misplaced
      return ⟨.step target.value false (operationOf mark), false⟩
    let target ← primary fuel
    let mark := markOf (← peekKind)
    if target.isPlace && (mark = "++" || mark = "--") then
      skip
      return ⟨.step target.value true (operationOf mark), false⟩
    return target
termination_by structural fuel => fuel

/-- A place for the line that is read, if one is named. -/
def optionalPlace : Nat → Reading (Option Expression)
  | 0 => misplaced
  | fuel + 1 => do
    let isPlace := match ← peekKind with
      | .name _ => true
      | .field _ => true
      | .mark "$" => true
      | _ => false
    if isPlace then return some (← primary fuel).value
    return none
termination_by structural fuel => fuel

/-- A value without marks between its parts. -/
def primary : Nat → Reading Operand
  | 0 => misplaced
  | fuel + 1 => do
    match ← peekKind with
    | .number value =>
      skip
      return ⟨.number value, false⟩
    | .text text =>
      skip
      return ⟨.text text, false⟩
    | .pattern text =>
      let found ← regex text
      skip
      return ⟨.pattern found, false⟩
    | .field index =>
      skip
      return ⟨.field (.number (.ofNumber index)), true⟩
    | .mark "$" =>
      skip
      let mark := markOf (← peekKind)
      if mark = "-" || mark = "+" || mark = "!" then
        return ⟨.field (← signed inside fuel).value, true⟩
      if (← peekKind) = .name "NF" then return ⟨.field (← stepped fuel).value, true⟩
      if mark = "++" || mark = "--" then return ⟨.field (← stepped fuel).value, true⟩
      return ⟨.field (← primary fuel).value, true⟩
    | .mark "(" =>
      skip
      let values ← listed ")" fuel
      match values with
      | [] => misplaced
      | [value] =>
        match value.value with
        | .field _ => return value
        | _ => return ⟨value.value, false⟩
      | values =>
        unless ← isWordNext "in" do misplaced
        skip
        return ⟨.isWithin (values.map (·.value)) (← tableName), false⟩
    | .name name =>
      skip
      if ← isNext "(" then
        if ((← get).procedures.lookup name).isSome then return ← called name fuel
      if ← accept "[" then
        let table ← tableNamed name
        let keys ← listed "]" fuel
        if keys.isEmpty then misplaced
        return ⟨.item table (keys.map (·.value)), true⟩
      return ⟨← valueNamed name, true⟩
    | .called name =>
      skip
      called name fuel
    | .builtin name =>
      match Builtin.all.lookup name with
      | none => misplaced
      | some (function, bounds) =>
        skip
        if !(← isNext "(") then
          if function = .length then return ⟨.builtin .length [], false⟩
          misplaced
        skip
        let arguments ← builtinArguments function 0 fuel
        return ⟨← builtinCall function bounds name arguments, false⟩
    | .keyword "getline" =>
      skip
      let target ← optionalPlace fuel
      if ← accept "<" then
        let name ← primary fuel
        return ⟨.readLine .file (some name.value) target, false⟩
      modify fun progress => { progress with readsRecords := true }
      return ⟨.readLine .records none target, false⟩
    | _ => misplaced
termination_by structural fuel => fuel

/-- A call of a procedure, behind its name. -/
def called (name : String) : Nat → Reading Operand
  | 0 => misplaced
  | fuel + 1 => do
    expect "("
    let line := (← peek).line
    let _ ← settle (.shared name) .procedure
    let arguments ← callArguments fuel
    let symbols ← arguments.mapM fun argument => do
      match argument with
      | .named given => return some (← symbolOf given)
      | _ => return none
    match (← get).procedures.lookup name with
    | some count =>
      if count < arguments.length then failWith s!"too many arguments in call to {name}".toList
    | none => pure ()
    for (argument, index) in arguments.zipIdx do
      match argument, (← get).roles.lookup (.parameter name index) with
      | .named given, some .table =>
        if ((← get).roles.lookup (← symbolOf given)).isNone then
          let _ ← settle given .table
      | _, _ => pure ()
    modify fun progress => { progress with calls := ⟨line, name, symbols⟩ :: progress.calls }
    return ⟨.call name arguments, false⟩
termination_by structural fuel => fuel

/-- The arguments of a procedure up to the closing parenthesis.  A name alone may stand for anything. -/
def callArguments : Nat → Reading (List Expression)
  | 0 => misplaced
  | fuel + 1 => do
    skipLines
    if ← accept ")" then return []
    let here := (← get).tokens
    let isAlone := match here with
      | ⟨.name _, _, _, _, _⟩ :: next :: _ => next.kind = .mark "," || next.kind = .mark ")"
      | _ => false
    let argument ← match isAlone, here with
      | true, ⟨.name name, _, _, _, _⟩ :: _ =>
        skip
        pure (Expression.named (← resolve name))
      | _, _ => pure (← expression inside fuel).value
    if ← accept "," then
      skipLines
      return argument :: (← callArguments fuel)
    expect ")"
    return [argument]
termination_by structural fuel => fuel

/-- The arguments of a function from a place on, up to the closing parenthesis. -/
def builtinArguments (function : Builtin) (place : Nat) : Nat → Reading (List Operand)
  | 0 => misplaced
  | fuel + 1 => do
    skipLines
    let mayBeEmpty := place = 0 && function ≠ .split && function ≠ .replaceAll &&
      function ≠ .replaceFirst
    if mayBeEmpty then
      if ← accept ")" then return []
    let argument : Operand ←
      if function = .split && place = 1 then pure ⟨.named (← tableName), false⟩
      else if function = .length then
        match (← get).tokens with
        | ⟨.name name, _, _, _, _⟩ :: ⟨.mark ")", _, _, _, _⟩ :: _ =>
          skip
          pure ⟨.named (← resolve name), false⟩
        | _ => expression inside fuel
      else if (function = .replaceAll || function = .replaceFirst) && place = 2 then
        let here ← get
        let target ← primary fuel
        unless target.isPlace do
          set here
          misplaced
        pure target
      else expression inside fuel
    if function ≠ .length then
      if ← accept "," then
        skipLines
        return argument :: (← builtinArguments function (place + 1) fuel)
    expect ")"
    return [argument]
termination_by structural fuel => fuel

/-- Expressions with commas between them up to a closing mark. -/
def listed (closing : String) : Nat → Reading (List Operand)
  | 0 => misplaced
  | fuel + 1 => do
    skipLines
    let value ← expression inside fuel
    skipLines
    if ← accept "," then
      skipLines
      return value :: (← listed closing fuel)
    expect closing
    return [value]
termination_by structural fuel => fuel

end

/-- Expressions with commas between them. -/
def several (around : Surroundings) : Nat → Reading (List Expression)
  | 0 => misplaced
  | fuel + 1 => do
    let value ← expression around fuel
    if ← accept "," then
      skipLines
      return value.value :: (← several around fuel)
    return [value.value]

/-! ## Statements -/

/-- Whether a statement ends here. -/
def isOver : Reading Bool := do
  match ← peekKind with
  | .line => return true
  | .mark ";" => return true
  | .mark "\x7d" => return true
  | _ => return false

/-- The end of a statement. -/
def endStatement : Reading Unit := do
  match ← peekKind with
  | .line => skipLines
  | .mark ";" =>
    skip
    skipLines
  | .mark "\x7d" => pure ()
  | _ => misplaced

/-- What is to be written: values, which may stand in parentheses. -/
def written (fuel : Nat) : Reading (List Expression) := do
  if ← isOver then return []
  let here ← get
  let grouped ← do
    if ← isNext "(" then
      skip
      let values ← listed ")" fuel
      let isAll ← do
        match ← peekKind with
        | .mark mark => pure ([";", "\x7d", ">", ">>", "|"].contains mark)
        | .line => pure true
        | _ => pure false
      if isAll then pure (some values)
      else
        if 1 < values.length && !(← isWordNext "in") then misplaced
        pure none
    else pure none
  match grouped with
  | some values => return values.map (·.value)
  | none =>
    set here
    match ← peekKind with
    | .mark mark => if [">", ">>", "|"].contains mark then return [] else several ⟨true⟩ fuel
    | _ => several ⟨true⟩ fuel

/-- Where output goes, if that is said. -/
def direction (fuel : Nat) : Reading (Option (Direction × Expression)) := do
  let kind : Option Direction := match markOf (← peekKind) with
    | ">" => some .file
    | ">>" => some .addition
    | "|" => some .command
    | _ => none
  match kind with
  | none => return none
  | some kind =>
    skip
    return some (kind, (← expression inside fuel).value)

/-- A condition in parentheses. -/
def condition (fuel : Nat) : Reading Expression := do
  expect "("
  skipLines
  let value ← expression inside fuel
  expect ")"
  return value.value

/-- What is said about a value that is given to those who wait for it, if there is one. -/
def optionalValue (fuel : Nat) : Reading (Option Expression) := do
  if ← isOver then return none
  return some (← expression inside fuel).value

/-- A statement without statements in it. -/
def simple (fuel : Nat) : Reading Statement := do
  match ← peekKind with
  | .keyword "print" =>
    skip
    let values ← written fuel
    return .write false values (← direction fuel)
  | .keyword "printf" =>
    skip
    let values ← written fuel
    if values.isEmpty then failWith "no arguments in call to printf".toList
    return .write true values (← direction fuel)
  | .keyword "break" =>
    if (← get).loops = 0 then failWith "break statement outside of loop".toList
    skip
    return .leave
  | .keyword "continue" =>
    if (← get).loops = 0 then failWith "continue statement outside of loop".toList
    skip
    return .again
  | .keyword "next" =>
    unless (← get).isForRecords do failWith "improper use of next".toList
    skip
    return .nextRecord
  | .keyword "nextfile" =>
    unless (← get).isForRecords do failWith "improper use of nextfile".toList
    skip
    return .nextSource
  | .keyword "exit" =>
    skip
    return .finish (← optionalValue fuel)
  | .keyword "return" =>
    if (← get).procedure.isNone then failWith "return outside function body".toList
    skip
    return .giveBack (← optionalValue fuel)
  | .keyword "delete" =>
    skip
    let table ← tableName
    if ← accept "[" then
      return .erase table (some ((← listed "]" fuel).map (·.value)))
    return .erase table none
  | _ => return .evaluate (← expression inside fuel).value

/-- Read the body of a loop. -/
def inLoop {α : Type} (body : Reading α) : Reading α := do
  modify fun progress => { progress with loops := progress.loops + 1 }
  let result ← body
  modify fun progress => { progress with loops := progress.loops - 1 }
  return result

mutual

/-- A statement. -/
def statement : Nat → Reading Statement
  | 0 => misplaced
  | fuel + 1 => do
    match ← peekKind with
    | .mark "\x7b" => block fuel
    | .mark ";" =>
      skip
      skipLines
      return .block []
    | .keyword "if" =>
      skip
      let test ← condition fuel
      skipLines
      let first ← statement fuel
      let here ← get
      skipLines
      if ← isWordNext "else" then
        skip
        skipLines
        return .choose test first (← statement fuel)
      set here
      return .choose test first (.block [])
    | .keyword "while" =>
      skip
      let test ← condition fuel
      if ← accept ";" then
        skipLines
        return .whileTrue test (.block [])
      skipLines
      return .whileTrue test (← inLoop (statement fuel))
    | .keyword "do" =>
      skip
      skipLines
      let body ← inLoop (statement fuel)
      skipLines
      unless ← isWordNext "while" do misplaced
      skip
      let test ← condition fuel
      endStatement
      return .untilFalse body test
    | .keyword "for" =>
      skip
      expect "("
      loop fuel
    | _ =>
      let found ← simple fuel
      endStatement
      return found
termination_by structural fuel => fuel

/-- A loop behind the opening parenthesis. -/
def loop : Nat → Reading Statement
  | 0 => misplaced
  | fuel + 1 => do
    match (← get).tokens with
    | ⟨.name name, _, _, _, _⟩ :: ⟨.keyword "in", _, _, _, _⟩ :: ⟨.name table, _, _, _, _⟩ ::
        ⟨.mark ")", _, _, _, _⟩ :: _ =>
      skip
      skip
      skip
      skip
      let place ← settle (← resolve name) .value
      let table ← tableNamed table
      skipLines
      return .forKeys place table (← inLoop (statement fuel))
    | _ =>
      let part (closing : String) : Reading (Option Expression) := do
        skipLines
        if ← accept closing then return none
        let value ← expression inside fuel
        skipLines
        expect closing
        return some value.value
      let first ← part ";"
      let test ← part ";"
      let step ← part ")"
      let body ← do
        if ← accept ";" then
          skipLines
          pure (Statement.block [])
        else
          skipLines
          inLoop (statement fuel)
      let repeated := Statement.loop test step body
      match first with
      | some first => return .block [.evaluate first, repeated]
      | none => return repeated
termination_by structural fuel => fuel

/-- Statements in braces. -/
def block : Nat → Reading Statement
  | 0 => misplaced
  | fuel + 1 => do
    expect "\x7b"
    skipLines
    let found ← statements fuel
    skip
    skipLines
    return .block found
termination_by structural fuel => fuel

/-- Statements up to a closing brace. -/
def statements : Nat → Reading (List Statement)
  | 0 => misplaced
  | fuel + 1 => do
    if ← isNext "\x7d" then return []
    let first ← statement fuel
    return first :: (← statements fuel)
termination_by structural fuel => fuel

end

/-! ## Programs -/

/-- A block in some surroundings. -/
def blockFor (isForRecords : Bool) (procedure : Option (String × List String)) (fuel : Nat) :
    Reading Statement := do
  modify fun progress =>
    { progress with isForRecords := isForRecords, procedure := procedure }
  let found ← block fuel
  modify fun progress => { progress with isForRecords := false, procedure := none }
  return found

/-- The names of the parameters of a procedure. -/
def parameters (name : String) : Nat → List String → Reading (List String)
  | 0, _ => misplaced
  | fuel + 1, found => do
    skipLines
    if found.isEmpty then
      if ← accept ")" then return []
    match ← peekKind with
    | .name parameter =>
      if parameter = name then failWith "function parameter cannot be the function".toList
      if found.contains parameter then
        failWith s!"{parameter} is duplicated in argument list".toList
      skip
      skipLines
      if ← accept "," then parameters name fuel (found ++ [parameter])
      else
        expect ")"
        return found ++ [parameter]
    | _ => misplaced

/-- A procedure with its name. -/
def procedure (fuel : Nat) : Reading (String × Nat × Statement) := do
  let name ← match ← peekKind with
    | .name name => pure name
    | .called name => pure name
    | _ => misplaced
  if ((← get).procedures.lookup name).isSome then failWith s!"redefinition of {name}".toList
  let _ ← settle (.shared name) .procedure
  skip
  expect "("
  let names ← parameters name fuel []
  modify fun progress =>
    { progress with procedures := (name, names.length) :: progress.procedures }
  skipLines
  let body ← blockFor false (some (name, names)) fuel
  return (name, names.length, body)

/-- A part of a program. -/
inductive Part where
  | beginning (action : Statement)
  | ending (action : Statement)
  | rule (rule : Rule)
  | procedure (name : String) (count : Nat) (body : Statement)

/-- A part of a program. -/
def part (fuel : Nat) : Reading Part := do
  match ← peekKind with
  | .keyword "BEGIN" =>
    skip
    return .beginning (← blockFor false none fuel)
  | .keyword "END" =>
    skip
    return .ending (← blockFor false none fuel)
  | .keyword "function" =>
    skip
    let (name, count, body) ← procedure fuel
    return .procedure name count body
  | .mark "\x7b" => return .rule ⟨.always, ← blockFor true none fuel⟩
  | _ =>
    let first ← expression inside fuel
    let pattern ← do
      if ← accept "," then
        skipLines
        pure (Pattern.between first.value (← expression inside fuel).value)
      else pure (Pattern.when first.value)
    if ← isNext "\x7b" then return .rule ⟨pattern, ← blockFor true none fuel⟩
    match ← peekKind with
    | .line => skipLines
    | .mark ";" => skip
    | _ => misplaced
    return .rule ⟨pattern, .write false [] none⟩

/-- The parts of a program. -/
def parts : Nat → Reading (List Part)
  | 0 => misplaced
  | fuel + 1 => do
    skipBreaks
    if (← peekKind) = .finish then return []
    let first ← part fuel
    return first :: (← parts fuel)

/-- Settle the roles of parameters and arguments from one another, as long as that helps. -/
def settleCalls (calls : List CallSite) : Nat → List (Symbol × Role) → List (Symbol × Role)
  | 0, roles => roles
  | fuel + 1, roles =>
    let unify (roles : List (Symbol × Role)) (pair : Symbol × Symbol) : List (Symbol × Role) :=
      match roles.lookup pair.1, roles.lookup pair.2 with
      | some role, none => (pair.2, role) :: roles
      | none, some role => (pair.1, role) :: roles
      | _, _ => roles
    let pairs := calls.flatMap fun site =>
      site.arguments.zipIdx.filterMap fun (argument, index) =>
        argument.map fun symbol => (symbol, Symbol.parameter site.name index)
    let settled := pairs.foldl unify roles
    if settled.length = roles.length then roles else settleCalls calls fuel settled

/-- What is wrong with a call, if anything is. -/
def callMistake? (roles : List (Symbol × Role)) (procedures : List (String × Nat)) (last : Nat)
    (site : CallSite) : Option Mistake :=
  match procedures.lookup site.name with
  | none => some ⟨last, s!"function {site.name} never defined".toList, false⟩
  | some count =>
    if count < site.arguments.length then
      some ⟨site.line, s!"too many arguments in call to {site.name}".toList, false⟩
    else
      site.arguments.zipIdx.findSome? fun (argument, index) =>
        let expected := (roles.lookup (.parameter site.name index)).getD .value
        let given := match argument with
          | some symbol => (roles.lookup symbol).getD expected
          | none => .value
        let noun (role : Role) : String := if role = .table then "array" else "variable"
        if given = expected then none
        else
          let message := s!"type error in arg({index + 1}) in call to {site.name} (actual local " ++
            s!"{noun given} vs local {noun expected})"
          some ⟨site.line, message.toList, false⟩

/-- Put the parts of a program together. -/
def assemble (parts : List Part) (roles : List (Symbol × Role)) (readsRecords : Bool) : Program :=
  let add (program : Program) : Part → Program
    | .beginning action => { program with beginning := program.beginning ++ [action] }
    | .ending action => { program with ending := program.ending ++ [action] }
    | .rule rule => { program with rules := program.rules ++ [rule] }
    | .procedure name count body =>
      let kinds := (List.range count).map fun index =>
        decide (roles.lookup (.parameter name index) = some .table)
      { program with procedures := program.procedures ++ [(name, ⟨kinds, body⟩)] }
  let program := parts.foldl add {}
  let reads := !program.rules.isEmpty || !program.ending.isEmpty
  { program with readsRecords := reads || readsRecords }

end Reading

/-- The program that a text writes, or what is wrong with it. -/
def Program.ofText (text : Octets) : Except (List Mistake) Program :=
  let (tokens, early) := Token.ofText text
  let fuel := 20 * tokens.length + 100
  match (Reading.parts fuel).run { tokens := tokens } with
  | .error mistake => .error (early ++ [mistake])
  | .ok (parts, progress) =>
    let roles := Reading.settleCalls progress.calls (progress.calls.length + 1) progress.roles
    let last := match tokens.getLast? with
      | some token => token.line
      | none => 1
    let late := progress.calls.reverse.filterMap
      (Reading.callMistake? roles progress.procedures last)
    if early.isEmpty && late.isEmpty then .ok (Reading.assemble parts roles progress.readsRecords)
    else .error (early ++ late)

end CorpusJudge.Record
