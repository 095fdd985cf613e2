import CorpusJudge.Emulator.Tool.Record.Session
import CorpusJudge.Emulator.Tool.Record.Token

/-!
# Carrying out programs for records

What is done for each task.  A task that has to wait for something outside stays on the agenda until
the answer is there.
-/

namespace CorpusJudge.Record

namespace Running

/-! ## Expressions -/

/-- The regular expression that a datum writes. -/
def regexFor (datum : Datum) : Running (Option Regex) := do
  let text ← textOf datum
  match regexOf text with
  | .ok regex => return some regex
  | .error mistake =>
    fail (s!"regular expression compile failed ({mistake.message})\n".toList ++ text)
    return none

/-- The result of an operation. -/
def operate (operation : Operation) (first second : Datum) : Running Datum := do
  let number (act : Quantity → Quantity → Quantity) : Running Datum :=
    return .number (act first.toNumber second.toNumber)
  let compared (holds : Ordering → Bool) : Running Datum := do
    return .number (.ofBool (holds (Datum.order (← textFormat) first second)))
  match operation with
  | .add => number Quantity.add
  | .subtract => number Quantity.subtract
  | .multiply => number Quantity.multiply
  | .divide => number Quantity.divide
  | .remainder => number Quantity.remainder
  | .power => number Quantity.power
  | .join => return .text ((← textOf first) ++ (← textOf second))
  | .less => compared fun order => order = .lt
  | .atMost => compared fun order => order ≠ .gt
  | .equal => compared fun order => order = .eq
  | .unequal => compared fun order => order ≠ .eq
  | .more => compared fun order => order = .gt
  | .atLeast => compared fun order => order ≠ .lt

/-- Put a truth value on the stack. -/
def pushBool (value : Bool) : Running Unit := push (.number (.ofBool value))

/-- Plan the evaluation of an expression. -/
def evaluate (value : Expression) : Running Unit := do
  match value with
  | .number value => push (.number value)
  | .text text => push (.text text)
  | .pattern regex =>
    let text ← textOf (← wholeRecord)
    pushBool (regex.occursIn false text)
  | .named name => push (← variableValue name)
  | .item _ _ => plan (locating value ++ [.load value])
  | .field index => plan [.evaluate index, .load value]
  | .assign target operation value =>
    plan (locating target ++ [.evaluate value, .store target operation])
  | .step target isAfter operation =>
    plan (locating target ++ [.step target isAfter operation])
  | .negated value => plan [.evaluate value, .negate]
  | .asNumber value => plan [.evaluate value, .asNumber]
  | .denied value => plan [.evaluate value, .deny]
  | .binary operation first second =>
    plan [.evaluate first, .evaluate second, .binary operation]
  | .both first second => plan [.evaluate first, .both second]
  | .oneOf first second => plan [.evaluate first, .oneOf second]
  | .choice condition first second => plan [.evaluate condition, .choice first second]
  | .fits isNegated text (.pattern regex) => plan [.evaluate text, .fits isNegated (some regex)]
  | .fits isNegated text pattern =>
    plan [.evaluate text, .evaluate pattern, .fits isNegated none]
  | .isWithin keys table =>
    plan (keys.map Task.evaluate ++ [.joinKeys keys.length, .isWithin table])
  | .call name arguments =>
    match (← get).program.procedures.lookup name with
    | none => push .absent
    | some procedure =>
      let given := arguments.zip procedure.parameters
      plan ((given.filter (!·.2)).map (fun (argument, _) => Task.evaluate argument) ++
        [.enter name arguments])
  | .builtin function arguments =>
    let isLeft (argument : Expression) (place : Nat) : Bool :=
      match function, argument, place with
      | .length, .named _, _ => true
      | .split, _, 1 => true
      | .split, .pattern _, 2 => true
      | .locate, .pattern _, 1 => true
      | .replaceAll, .pattern _, 0 => true
      | .replaceFirst, .pattern _, 0 => true
      | .replaceAll, _, 2 => true
      | .replaceFirst, _, 2 => true
      | _, _, _ => false
    let given := arguments.zipIdx.filter fun (argument, place) => !isLeft argument place
    let target := match function with
      | .replaceAll => arguments[2]?
      | .replaceFirst => arguments[2]?
      | _ => none
    plan ((target.map locating).getD [] ++
      given.map (fun (argument, _) => Task.evaluate argument) ++
      [.builtin function arguments given.length])
  | .readLine origin name target =>
    plan (((name.map fun name => Task.evaluate name).toList) ++ [.openLine origin target])

/-! ## Statements -/

/-- Plan a statement. -/
def perform (statement : Statement) : Running Unit := do
  match statement with
  | .evaluate value => plan [.evaluate value, .forget]
  | .write isFormatted arguments direction =>
    let name := (direction.map fun (_, name) => Task.evaluate name).toList
    plan (arguments.map Task.evaluate ++ name ++
      [.write isFormatted arguments.length (direction.map Prod.fst)])
  | .block statements => plan (statements.map Task.perform)
  | .choose condition first second => plan [.evaluate condition, .branch first second]
  | .whileTrue condition body => plan [.again (.whileTrue condition body)]
  | .untilFalse body condition => plan [.perform body, .again (.untilFalse body condition)]
  | .loop (some condition) step body =>
    plan [.evaluate condition, .test (.loop (some condition) step body)]
  | .loop none step body => plan [.perform body, .again (.loop none step body)]
  | .forKeys name table body =>
    let keys ← withTable (← tableName table) Table.keys
    plan [.again (.forKeys name keys body)]
  | .leave =>
    modify fun session =>
      { session with
        agenda := (session.agenda.dropWhile fun task => match task with
          | .again _ => false
          | _ => true).tail }
  | .again =>
    modify fun session =>
      { session with
        agenda := session.agenda.dropWhile fun task => match task with
          | .again _ => false
          | _ => true }
  | .nextRecord =>
    modify fun session => { session with agenda := [.nextRecord], values := [], frames := [] }
  | .nextSource =>
    let session ← get
    match session.inflows.lookup .records with
    | some inflow =>
      add (.close inflow.descriptor fun _ => [])
      modify fun session =>
        { session with inflows := session.inflows.filter fun (inlet, _) => inlet ≠ .records }
    | none => pure ()
    modify fun session => { session with agenda := [.nextRecord], values := [], frames := [] }
  | .finish status =>
    plan ((status.map fun status => Task.evaluate status).toList ++
      [if status.isSome then .finish else .ending])
  | .giveBack value =>
    plan [(value.map fun value => Task.evaluate value).getD (.push .absent), .giveBack]
  | .erase table none =>
    let name ← tableName table
    withTable name fun _ => ({}, ())
  | .erase table (some keys) =>
    plan (keys.map Task.evaluate ++ [.joinKeys keys.length, .erase table])

/-- Go round a loop again. -/
def goRound (round : Round) : Running Unit := do
  match round with
  | .whileTrue condition _ => plan [.evaluate condition, .test round]
  | .untilFalse _ condition => plan [.evaluate condition, .test round]
  | .loop condition step _ =>
    let step : List Task := match step with
      | some step => [.evaluate step, .forget]
      | none => []
    let condition : Task := match condition with
      | some condition => .evaluate condition
      | none => .push (.number .one)
    plan (step ++ [condition, .test round])
  | .forKeys _ [] _ => pure ()
  | .forKeys name (key :: keys) body =>
    setVariable name (.input key)
    plan [.perform body, .again (.forKeys name keys body)]

/-- Do what a loop does if its condition holds. -/
def testRound (round : Round) : Running Unit := do
  let condition ← pop
  if condition.isTrue then
    match round with
    | .whileTrue _ body => plan [.perform body, .again round]
    | .untilFalse body _ => plan [.perform body, .again round]
    | .loop _ _ body => plan [.perform body, .again round]
    | .forKeys _ _ _ => pure ()

/-! ## Procedures -/

/-- Enter a procedure with arguments, of which those that are data lie on the stack. -/
def enter (name : String) (arguments : List Expression) : Running Unit := do
  match (← get).program.procedures.lookup name with
  | none => push .absent
  | some procedure =>
    let given := arguments.zip procedure.parameters
    let data ← popMany (given.filter (!·.2)).length
    let mut slots : Array Slot := #[]
    let mut rest := data
    for (isTable, index) in procedure.parameters.zipIdx do
      match isTable, arguments[index]? with
      | true, some (.named name) => slots := slots.push (.table (← tableName name))
      | true, _ =>
        let number := (← get).freshTable
        modify fun session => { session with freshTable := number + 1 }
        slots := slots.push (.table (.numbered number))
      | false, some _ =>
        slots := slots.push (.datum (rest.headD .absent))
        rest := rest.tail
      | false, none => slots := slots.push (.datum .absent)
    modify fun session =>
      { session with
        frames := slots :: session.frames
        agenda := .perform procedure.body :: .leaveCall session.values :: session.agenda }

/-- Leave a procedure with a result. -/
def leave (values : List Datum) (result : Datum) : Running Unit :=
  modify fun session =>
    { session with frames := session.frames.tail, values := result :: values }

/-- Give a result back to where a procedure was called. -/
def giveBack : Running Unit := do
  let result ← pop
  let session ← get
  match session.agenda.dropWhile fun task => match task with
      | .leaveCall _ => false
      | _ => true with
  | .leaveCall values :: rest =>
    set { session with agenda := rest }
    leave values result
  | _ => pure ()

/-! ## Sources of records -/

/-- The variable that an argument sets and the text it is set to, if it does. -/
def assignment? (argument : Octets) : Option (String × Octets) :=
  let name := argument.takeWhile Token.isNameCharacter
  match argument.drop name.length with
  | '=' :: text =>
    if name.head?.any fun first => !first.isDigit then some (String.ofList name, text) else none
  | _ => none

/-- Open the next source of records, or take notice that there is none. -/
def openRecords : Nat → Running Unit
  | 0 => modify fun session => { session with isOutOfRecords := true }
  | fuel + 1 => do
    let place := (← get).nextArgument
    let count := (← named "ARGC").toNumber.clamped
    if count ≤ Int.ofNat place then
      if (← get).hasSource then modify fun session => { session with isOutOfRecords := true }
      else
        setNamed "FILENAME" (.text ['-'])
        modify fun session =>
          { session with
            hasSource := true, inflows := (.records, { descriptor := 0 }) :: session.inflows }
    else
      modify fun session => { session with nextArgument := place + 1 }
      let key := Key.number (Int.ofNat place)
      let argument ← withTable (.shared "ARGV") (·.find? key)
      let text ← textOf (argument.getD .absent)
      if text.isEmpty then openRecords fuel
      else match assignment? text with
        | some (name, text) =>
          setVariable (.shared name) (.input (Token.unescape text))
          openRecords fuel
        | none =>
          setNamed "FILENAME" (.text text)
          setNamed "FNR" (.number .zero)
          modify fun session => { session with hasSource := true }
          if text = ['-'] || text = "/dev/stdin".toList then
            modify fun session =>
              { session with inflows := (.records, { descriptor := 0 }) :: session.inflows }
          else
            let descriptor ← newDescriptor
            await (.inlet .records descriptor) (.connect descriptor (.input text))

/-- What comes of an attempt to read a line: a line, nothing, that the session has failed, or that this
has to wait. -/
inductive LineRead where
  | line (text : Octets)
  | nothing
  | failed
  | waiting

/-- Put aside what has been read from an inlet. -/
def setInflow (inlet : Inlet) (inflow : Inflow) : Running Unit :=
  modify fun session =>
    { session with
      inflows := (inlet, inflow) :: session.inflows.filter fun (other, _) => other ≠ inlet }

/-- How much is read at a time. -/
def readSize : Nat := 4096

/-- Cut a line off what an inlet gives. -/
def cutLine (inlet : Inlet) (inflow : Inflow) : Running LineRead := do
  let text ← textNamed "RS"
  match recordEndOf text with
  | .error mistake =>
    fail (s!"regular expression compile failed ({mistake.message})\n".toList ++ text)
    return .failed
  | .ok recordEnd =>
    match cutRecord recordEnd inflow.isOver inflow.held with
    | .record line rest =>
      setInflow inlet { inflow with held := rest }
      return .line line
    | .none => return .nothing
    | .more =>
      await (.supply inlet) (.fetch inflow.descriptor readSize)
      return .waiting

/-- Read a line from an inlet that is not the one of the records. -/
def readOther (inlet : Inlet) : Running LineRead := do
  match (← get).inflows.lookup inlet with
  | some inflow =>
    if inflow.descriptor = 0 && inflow.isOver && inflow.held.isEmpty then return .nothing
    cutLine inlet inflow
  | none =>
    let descriptor ← newDescriptor
    match inlet with
    | .command text =>
      flushAll
      await (.inlet inlet descriptor) (.connect descriptor (.reading (← launchOf text)))
    | .file name =>
      if name = ['-'] || name = "/dev/stdin".toList then setInflow inlet { descriptor := 0 }
      else await (.inlet inlet descriptor) (.connect descriptor (.input name))
    | .records => pure ()
    return .waiting

/-- Read a record. -/
def readRecord : Running LineRead := do
  let session ← get
  if session.isOutOfRecords then return .nothing
  match session.inflows.lookup .records with
  | none =>
    openRecords 1000
    return .waiting
  | some inflow =>
    match ← cutLine .records inflow with
    | .nothing =>
      if inflow.descriptor ≠ 0 then add (.close inflow.descriptor fun _ => [])
      modify fun session =>
        { session with inflows := session.inflows.filter fun (inlet, _) => inlet ≠ .records }
      openRecords 1000
      return .waiting
    | other => return other

/-- Take in a line that was read: as a record or under a name. -/
def takeLine (inlet : Inlet) (target : Option Expression) : Running Unit := do
  let result ← if inlet = .records then readRecord else readOther inlet
  let drop : Running Datum := do
    match target with
    | some target => if hasLocation target then pop else pure .absent
    | none => pure .absent
  match result with
  | .waiting => plan [.takeLine inlet target]
  | .nothing =>
    let _ ← drop
    push (.number .zero)
  | .failed => pure ()
  | .line text =>
    let location ← drop
    if inlet = .records then
      count "NR"
      count "FNR"
    match target with
    | some target => setAt target location (.input text)
    | none => setRecord (.input text)
    push (.number .one)

/-- Go on to the next record. -/
def nextRecord : Running Unit := do
  match ← readRecord with
  | .waiting => plan [.nextRecord]
  | .failed => pure ()
  | .line text =>
    count "NR"
    count "FNR"
    setRecord (.input text)
    let rules := (← get).program.rules
    plan [.rules (rules.zipIdx.map fun (rule, number) => (number, rule)), .nextRecord]
  | .nothing => plan [.ending]

/-- Go on to the next rule. -/
def nextRule (rest : List (Nat × Rule)) : Running Unit := do
  match rest with
  | [] => pure ()
  | (number, rule) :: rest =>
    match rule.pattern with
    | .always => plan [.perform rule.action, .rules rest]
    | .when condition => plan [.evaluate condition, .ruleIf rule.action, .rules rest]
    | .between first last =>
      if (← get).ranges.contains number then
        plan [.evaluate last, .ruleUntil number rule.action, .rules rest]
      else plan [.evaluate first, .ruleFrom number last rule.action, .rules rest]

/-! ## Output -/

/-- Write a text in a direction. -/
def writeTo (direction : Option Direction) (text : Octets) : Running Unit := do
  match direction with
  | none => say text
  | some direction =>
    let name ← textOf (← pop)
    let isCommand := direction = .command
    let known := (← get).outflows.find? fun outflow =>
      outflow.name = name && outflow.isCommand = isCommand
    match known with
    | some outflow => sayTo outflow text
    | none =>
      if !isCommand && (name = "/dev/stdout".toList || name = ['-']) then say text
      else if !isCommand && name = "/dev/stderr".toList then
        add (.emit 2 (Bytes.ofOctets text))
      else
        let descriptor ← newDescriptor
        let outflow : Outflow :=
          { descriptor := descriptor, name := name, isCommand := isCommand, held := [text]
            heldSize := text.length }
        if isCommand then
          flushAll
          await (.outlet outflow) (.connect descriptor (.writing (← launchOf name)))
        else
          await (.outlet outflow)
            (.connect descriptor (.output name (direction = .addition)))

/-- What is wrong with a call of a function that fills a format. -/
def failFormat (function : String) (format : Octets) (mistake : FormatMistake) : Running Unit := do
  match mistake with
  | .tooFew =>
    fail (s!"not enough arguments passed to {function}(\"".toList ++ format ++ "\")".toList)
  | .improper number =>
    fail (s!"improper conversion(number {number}) in {function}(\"".toList ++ format ++
      "\")".toList)

/-- Write data. -/
def write (isFormatted : Bool) (number : Nat) (direction : Option Direction) : Running Unit := do
  let name ← if direction.isSome then pop else pure .absent
  let data ← popMany number
  let put (text : Octets) : Running Unit := do
    if direction.isSome then push name
    writeTo direction text
  if isFormatted then
    let format ← textOf (data.headD .absent)
    match Record.format (← textFormat) format data.tail with
    | .ok text => put text
    | .error (mistake, text) =>
      say text
      failFormat "printf" format mistake
  else
    let format ← textNamed "OFMT"
    let shown (datum : Datum) : Octets := datum.toText format
    let ending ← textNamed "ORS"
    let mark ← textNamed "OFS"
    let data ← if number = 0 then pure [← wholeRecord] else pure data
    put (mark.intercalate (data.map shown) ++ ending)

/-! ## Functions -/

/-- Replace matches in the place that is named last, and put their number on the stack. -/
def replace (isAll : Bool) (arguments : List Expression) (data : List Datum) : Running Unit := do
  let target := arguments.getD 2 (.field (.number .zero))
  let (regex?, rest) : Option Regex × List Datum ← match arguments.head?, data with
    | some (Expression.pattern regex), rest => pure (some regex, rest)
    | _, pattern :: rest => do pure (← regexFor pattern, rest)
    | _, [] => pure (none, [])
  match regex? with
  | none => pure ()
  | some regex =>
    let location ← match arguments[2]? with
      | some target => if hasLocation target then pop else pure .absent
      | none => pure (.number .zero)
    let replacing ← textOf (rest.headD .absent)
    let text ← textOf (← valueAt target location)
    let found := if isAll then regex.all false false text
      else (regex.search? false text).toList
    if !found.isEmpty then setAt target location (.text (replaced found replacing text))
    push (.number (.ofNumber (Int.ofNat found.length)))

/-- Divide a text into a table, and put the number of the parts on the stack. -/
def split (arguments : List Expression) (data : List Datum) : Running Unit := do
  let text ← textOf (data.headD .absent)
  let separator? : Except RegexMistake Separator ← match arguments[2]?, data.tail with
    | some (Expression.pattern regex), _ => pure (.ok (.pattern regex))
    | some _, mark :: _ => do pure (separatorOf (← textOf mark))
    | _, _ => do pure (separatorOf (← textNamed "FS"))
  match separator?, arguments[1]? with
  | .ok separator, some (Expression.named table) =>
    let found := parts separator text
    let name ← tableName table
    withTable name fun _ => (Table.ofList (found.map Datum.input), ())
    push (.number (.ofNumber (Int.ofNat found.length)))
  | .error mistake, _ =>
    fail s!"regular expression compile failed ({mistake.message})".toList
  | _, _ => push (.number .zero)

/-- The status that stands for the end of a program. -/
def statusOf : Ending → Int
  | .code status => Int.ofNat status
  | .signal number => 256 + Int.ofNat number

/-- Close what goes by a name, and wait for the status. -/
def close (name : Octets) : Running Unit := do
  let session ← get
  let outflows := session.outflows.filter (·.name = name)
  let inflows := session.inflows.filter fun (inlet, _) => match inlet with
    | .file other => other = name
    | .command other => other = name
    | .records => false
  if outflows.isEmpty && inflows.isEmpty then push (.number (.ofNumber (-1)))
  else
    modify fun session =>
      { session with
        outflows := session.outflows.filter (·.name ≠ name)
        inflows := session.inflows.filter fun (inlet, _) =>
          !inflows.any fun (other, _) => other = inlet }
    let flushed ← outflows.mapM flushOutflow
    let descriptors := flushed.map (·.descriptor) ++ inflows.map fun (_, inflow) =>
      inflow.descriptor
    for descriptor in descriptors.dropLast do
      add (.close descriptor fun _ => [])
    await .status (.close (descriptors.getLast?.getD 0) fun ending =>
      [.tell (.status ((ending.map statusOf).getD 0))])
    plan [.reply]

/-- Execute a command, and wait for the status. -/
def execute (command : Octets) : Running Unit := do
  flushAll
  await .status (.launch (← launchOf command) fun result =>
    [.tell (.status (match result.ending with
      | .ok ending => statusOf ending
      | .error _ => 127))])
  plan [.reply]

/-- Carry out a function on data. -/
def apply (function : Builtin) (arguments : List Expression) (number : Nat) : Running Unit := do
  let data ← popMany number
  let first := data.headD .absent
  let second := data.getD 1 .absent
  let give (value : Quantity) : Running Unit := push (.number value)
  match function with
  | .length =>
    match arguments with
    | [.named name] =>
      let table? ← match name with
        | .shared shared => pure ((← get).tables[TableName.shared shared]?)
        | .own index =>
          match ((← get).frames.headD #[])[index]? with
          | some (.table table) => pure (some (((← get).tables[table]?).getD {}))
          | _ => pure none
      match table? with
      | some table => give (.ofNumber (Int.ofNat table.size))
      | none => give (.ofNumber (Int.ofNat (← textOf (← variableValue name)).length))
    | [] => give (.ofNumber (Int.ofNat (← textOf (← wholeRecord)).length))
    | _ => give (.ofNumber (Int.ofNat (← textOf first).length))
  | .index =>
    let sought ← textOf second
    give (.ofNumber (Int.ofNat (indexOf sought 1 (← textOf first))))
  | .substring =>
    let text ← textOf first
    let size := if number = 3 then some (data.getD 2 .absent).toNumber.clamped else none
    push (.text (Record.substring text second.toNumber.clamped size))
  | .lower =>
    push (.text ((← textOf first).map Char.toLower))
  | .upper =>
    push (.text ((← textOf first).map Char.toUpper))
  | .format =>
    let format ← textOf first
    match Record.format (← textFormat) format data.tail with
    | .ok text => push (.text text)
    | .error (mistake, _) => failFormat "sprintf" format mistake
  | .split => split arguments data
  | .replaceAll => replace true arguments data
  | .replaceFirst => replace false arguments data
  | .locate =>
    let regex? : Option Regex ← match arguments[1]? with
      | some (Expression.pattern regex) => pure (some regex)
      | _ => regexFor second
    match regex? with
    | none => pure ()
    | some regex =>
      let found := regex.search? false (← textOf first)
      let start := (found.map fun found => found.start + 1).getD 0
      let size := (found.map fun found => Int.ofNat (found.finish - found.start)).getD (-1)
      setNamed "RSTART" (.number (.ofNumber (Int.ofNat start)))
      setNamed "RLENGTH" (.number (.ofNumber size))
      give (.ofNumber (Int.ofNat start))
  | .sine => give (first.toNumber.through Float.sin)
  | .cosine => give (first.toNumber.through Float.cos)
  | .arctangent =>
    give (.ofFloat (Float.atan2 first.toNumber.toFloat second.toNumber.toFloat))
  | .exponential => give (first.toNumber.through Float.exp)
  | .logarithm => give (first.toNumber.through Float.log)
  | .root => give (first.toNumber.through Float.sqrt)
  | .whole => give first.toNumber.truncated
  | .random => give (.ofRatio 1 2 false)
  | .seed =>
    let session ← get
    let old := session.seed
    let seed := if number = 0 then .ofNumber session.setting.now else first.toNumber
    modify fun session => { session with seed := seed }
    give old
  | .moment => give (.ofNumber (← get).setting.now)
  | .momentOf => give (.ofNumber (-1))
  | .momentText =>
    let setting := (← get).setting
    let format ← if number = 0 then pure "%c".toList else textOf first
    let moment := if number < 2 then setting.now else second.toNumber.clamped
    push (.text (setting.showTime moment format))
  | .close => close (← textOf first)
  | .flush =>
    flushAll
    give .zero
  | .run => execute (← textOf first)

/-! ## Tasks -/

/-- Start on the end of the program. -/
def startEnding : Running Unit := do
  let session ← get
  if session.isEnding then
    set { session with agenda := [.shutDown], values := [], frames := [] }
  else
    set { session with
      isEnding := true, values := [], frames := []
      agenda := session.program.ending.map Task.perform ++ [Task.shutDown] }

/-- Write everything, and wait for the programs that read it. -/
def shutDown : Running Unit := do
  let session ← get
  let (commands, files) := session.outflows.partition (·.isCommand)
  for outflow in commands do
    let outflow ← flushOutflow outflow
    add (.close outflow.descriptor fun _ => [])
  for outflow in files do
    let _ ← flushOutflow outflow
  add (.finish session.status)
  modify fun session => { session with agenda := [], isOver := true }

/-- Do a task. -/
def carryOut (task : Task) : Running Unit := do
  match task with
  | .evaluate value => evaluate value
  | .perform statement => perform statement
  | .forget =>
    let _ ← pop
  | .push datum => push datum
  | .binary operation =>
    let second ← pop
    let first ← pop
    push (← operate operation first second)
  | .negate => push (.number (← pop).toNumber.negate)
  | .asNumber => push (.number (← pop).toNumber)
  | .deny => pushBool !(← pop).isTrue
  | .truth => pushBool (← pop).isTrue
  | .both second =>
    if (← pop).isTrue then plan [.evaluate second, .truth] else pushBool false
  | .oneOf second =>
    if (← pop).isTrue then pushBool true else plan [.evaluate second, .truth]
  | .choice first second =>
    plan [.evaluate (if (← pop).isTrue then first else second)]
  | .fits isNegated regex =>
    let regex? ← match regex with
      | some regex => pure (some regex)
      | none => regexFor (← pop)
    match regex? with
    | none => pure ()
    | some regex =>
      let text ← textOf (← pop)
      pushBool (regex.occursIn false text != isNegated)
  | .joinKeys count =>
    if count ≠ 1 then
      let mark ← textNamed "SUBSEP"
      let keys ← (← popMany count).mapM textOf
      push (.text (mark.intercalate keys))
  | .isWithin table =>
    let key ← keyOf (← pop)
    let found ← withTable (← tableName table) (·.find? key)
    pushBool found.isSome
  | .load target => push (← valueAt target (← pop))
  | .store target operation =>
    let value ← pop
    let location ← if hasLocation target then pop else pure .absent
    let value ← match operation with
      | some operation => operate operation (← valueAt target location) value
      | none => pure value
    setAt target location value
    push value
  | .step target isAfter operation =>
    let location ← if hasLocation target then pop else pure .absent
    let old := Datum.number (← valueAt target location).toNumber
    let new ← operate operation old (.number .one)
    setAt target location new
    push (if isAfter then old else new)
  | .enter name arguments => enter name arguments
  | .leaveCall values => leave values .absent
  | .giveBack => giveBack
  | .builtin function arguments count => apply function arguments count
  | .openLine origin target =>
    let name ← if origin = .records then pure [] else textOf (← pop)
    let inlet : Inlet := match origin with
      | .records => .records
      | .file => .file name
      | .command => .command name
    plan ((target.map locating).getD [] ++ [.takeLine inlet target])
  | .takeLine inlet target => takeLine inlet target
  | .write isFormatted count direction => write isFormatted count direction
  | .branch first second => plan [.perform (if (← pop).isTrue then first else second)]
  | .again round => goRound round
  | .test round => testRound round
  | .erase table =>
    let key ← keyOf (← pop)
    withTable (← tableName table) fun table => (table.erase key, ())
  | .finish =>
    let status := (← pop).toNumber.clamped
    modify fun session => { session with status := (status % 256).toNat }
    startEnding
  | .nextRecord => nextRecord
  | .rules rest => nextRule rest
  | .ruleIf action => if (← pop).isTrue then plan [.perform action]
  | .ruleFrom number last action =>
    if (← pop).isTrue then
      modify fun session => { session with ranges := number :: session.ranges }
      plan [.evaluate last, .ruleUntil number action]
  | .ruleUntil number action =>
    if (← pop).isTrue then
      modify fun session => { session with ranges := session.ranges.filter (· ≠ number) }
    plan [.perform action]
  | .reply => push (.number (.ofNumber (← get).answer))
  | .ending => startEnding
  | .shutDown => shutDown

/-- Do one task after the other until an answer is waited for. -/
def advance : Nat → Running Unit
  | 0 => add .proceed
  | fuel + 1 => do
    let session ← get
    if session.pending.isSome || session.isOver then return
    match session.agenda with
    | [] => return
    | task :: rest =>
      set { session with agenda := rest }
      carryOut task
      advance fuel

/-- How many tasks are done without a break. -/
def stride : Nat := 2000

/-- Take in an answer. -/
def receive (reply : Reply) : Running Unit := do
  let session ← get
  set { session with pending := none }
  match session.pending, reply with
  | some (.inlet inlet descriptor), .status _ =>
    setInflow inlet { descriptor := descriptor }
  | some (.inlet inlet _), .refused reason =>
    match inlet with
    | .records =>
      let name ← textNamed "FILENAME"
      abandon ("cannot open \"".toList ++ name ++ s!"\" ({reason})".toList)
    | _ =>
      modify fun session =>
        match session.agenda with
        | .takeLine _ target :: rest =>
          let values := if (target.map hasLocation).getD false then session.values.tail
            else session.values
          { session with
            agenda := rest, values := .number (.ofNumber (-1)) :: values }
        | _ => session
  | some (.outlet outflow), .status _ =>
    let (text, outflow) := (outflow.held.headD [], { outflow with held := [], heldSize := 0 })
    sayTo outflow text
  | some (.outlet outflow), .refused reason =>
    abandon ("cannot open \"".toList ++ outflow.name ++ s!"\" for output ({reason})".toList)
  | some (.supply inlet), .text bytes =>
    match (← get).inflows.lookup inlet with
    | none => pure ()
    | some inflow =>
      match bytes with
      | some bytes => setInflow inlet { inflow with held := inflow.held ++ Bytes.octets bytes }
      | none => setInflow inlet { inflow with isOver := true }
  | some (.supply _), .refused reason => abandon s!"read error ({reason})".toList
  | some .status, .status status => modify fun session => { session with answer := status }
  | _, _ => pure ()

end Running

namespace Session

/-- Do something, and take the jobs that it comes to. -/
def perform (session : Session) (running : Running Unit) : List Job × Session :=
  let (_, after) := running.run { session with outgoing := {} }
  (after.outgoing.toList, { after with outgoing := {} })

/-- Go on. -/
def resumed (session : Session) : List Job × Session :=
  session.perform (Running.advance Running.stride)

/-- Go on with an answer. -/
def answered (session : Session) (reply : Reply) : List Job × Session :=
  session.perform do
    Running.receive reply
    Running.advance Running.stride

/-- A session that has done nothing yet, with the arguments of the program and the values that are set
beforehand. -/
def start (setting : Setting) (program : Program) (arguments : List Octets)
    (values : List (String × Octets)) : Session :=
  let number (value : Int) : Datum := .number (.ofNumber value)
  let shared : List (String × Datum) :=
    [("FS", .text [' ']), ("OFS", .text [' ']), ("ORS", .text ['\n']), ("RS", .text ['\n']),
      ("SUBSEP", .text ['\x1c']), ("CONVFMT", .text "%.6g".toList), ("OFMT", .text "%.6g".toList),
      ("NR", number 0), ("FNR", number 0), ("RSTART", number 0), ("RLENGTH", number (-1)),
      ("FILENAME", .text []), ("ARGC", number (Int.ofNat arguments.length))]
  let shared := shared ++ values.map fun (name, text) => (name, .input (Token.unescape text))
  let argumentTable := arguments.zipIdx.foldl (fun (table : Table Datum) (argument, index) =>
    table.insert (.number (Int.ofNat index)) (.input argument)) {}
  let environmentTable := setting.environment.foldl (fun (table : Table Datum) (name, text) =>
    table.insert (.text name.toList) (.input text)) {}
  let ending : List Task := if program.readsRecords then
      (if program.rules.isEmpty && program.ending.isEmpty then [] else [.nextRecord])
    else []
  { setting := setting
    program := program
    shared := .ofList shared
    tables := .ofList [(.shared "ARGV", argumentTable), (.shared "ENVIRON", environmentTable)]
    agenda := program.beginning.map Task.perform ++ ending ++ [.ending] }

end Session

end CorpusJudge.Record
