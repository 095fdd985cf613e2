import CorpusJudge.Emulator.Shell.Act

/-!
# Declarations

Commands of the extended dialect that declare variables: give them marks and values, make them those of a
function, show them, and forget them.
-/

namespace CorpusJudge.Shell

/-- Complain about a built-in command, with a status. -/
def Act.refuse (name : String) (status : Nat) (message : String) : Act Unit := do
  Act.setStatus status
  Act.writeNow ((← Act.shell).complaint (some name) message)

/-- Complain about an option that a built-in command does not know. -/
def Act.refuseOption (name option usage : String) : Act Unit := do
  Act.refuse name 2 (option ++ ": invalid option")
  Act.writeNow (Bytes.ofString (name ++ ": usage: " ++ usage ++ "\n"))

/-- The options in front of the operands of a command that declares: the letters that are set, those that
are taken away, and the operands; the failure is an option that is unknown. -/
def declaringOptions (known : String) : List Field → Except String (List Char × List Char × List Field)
  | [] => .ok ([], [], [])
  | field :: rest =>
    match field.text with
    | ['-', '-'] => .ok ([], [], rest)
    | sign :: letter :: letters =>
      if field.setting.isSome || (sign ≠ '-' && sign ≠ '+') then .ok ([], [], field :: rest)
      else match (letter :: letters).find? fun letter => !known.toList.contains letter with
        | some unknown => .error (String.ofList [sign, unknown])
        | none => do
          let (on, off, operands) ← declaringOptions known rest
          if sign = '-' then return (letter :: letters ++ on, off, operands)
          else return (on, letter :: letters ++ off, operands)
    | _ => .ok ([], [], field :: rest)

/-- The assignment that a text writes, if it is one: the name, its brackets, and the value. -/
def settingOf? (text : Octets) : Option Setting :=
  let head := text.takeWhile (· ≠ '=')
  if head.length = text.length then none
  else
    let value := text.drop (head.length + 1)
    let appends := head.getLast? = some '+'
    let target := if appends then head.dropLast else head
    match spotOf? target with
    | some (name, none) =>
      if isName name.toList then some ⟨name, none, appends, .one value⟩ else none
    | some (name, some (.inr key)) => some ⟨name, some key, appends, .one value⟩
    | _ => none

/-- What an operand of a command that declares is about: a name and perhaps an assignment; the failure
is an operand that is neither. -/
def declaredBy (field : Field) : Except Unit (String × Option Setting) :=
  match field.setting with
  | some setting => .ok (setting.name, some setting)
  | none =>
    match settingOf? field.text with
    | some setting => .ok (setting.name, some setting)
    | none =>
      match spotOf? field.text with
      | some (name, none) => if isName name.toList then .ok (name, none) else .error ()
      | some (name, some _) => .ok (name, none)
      | none => .error ()

/-- The frames from the function on that the shell is in, behind those above it. -/
def splitAtCall : List Frame → List Frame × List Frame
  | [] => ([], [])
  | frame :: rest =>
    match frame with
    | .call _ _ _ => ([], frame :: rest)
    | _ =>
      let (above, call) := splitAtCall rest
      (frame :: above, call)

/-- The variables that the function has made its own which the shell is in; none outside of functions. -/
def ownNames? (shell : State) : Option (List String) :=
  match (splitAtCall shell.frames).2 with
  | .call _ _ locals :: _ => some (locals.map Prod.fst)
  | _ => none

/-- A shell whose function has made a variable its own. -/
def withOwn (shell : State) (name : String) : State :=
  match splitAtCall shell.frames with
  | (above, .call arguments scan locals :: below) =>
    if (locals.lookup name).isSome then shell
    else
      let old := if name = "-" then some { value := some shell.options } else shell.vars.lookup name
      { shell with
        vars := if name = "-" then shell.vars else shell.vars.putBack name none
        frames := above ++ .call arguments scan ((name, old) :: locals) :: below }
  | _ => shell

/-- A variable with some marks set and others taken away.  What holds values for keys cannot hold them for
places. -/
def remarked (on off : List Char) (binding : Variable) : Except String Variable :=
  let isTable := binding.elements.any Elements.isTable
  if on.contains 'A' && binding.elements.any (!·.isTable) then
    .error "cannot convert indexed to associative array"
  else if on.contains 'a' && isTable then .error "cannot convert associative to indexed array"
  else
    let isNew := binding.elements.isNone && (on.contains 'a' || on.contains 'A')
    let elements :=
      if isNew then
        if on.contains 'A' then
          some (Elements.table (binding.value.toList.map fun value => (['0'], value)))
        else some binding.toElements
      else binding.elements
    let isBlank := isNew && binding.value.isNone
    let kept := binding.marks.filter fun mark => !off.contains mark
    let cases := if on.contains 'u' then kept.filter (· ≠ 'l')
      else if on.contains 'l' then kept.filter (· ≠ 'u') else kept
    let added := on.filter fun mark => "ilun".toList.contains mark && !cases.contains mark
    .ok { binding with
      value := if isNew then none else binding.value
      elements := elements
      marks := cases ++ added ++ (if isBlank then [Variable.unsetMark] else [])
      isExported := (binding.isExported || on.contains 'x') && !off.contains 'x' }

/-- Declare one variable: mark it, and give it a value.  The result is what went wrong, if something
did. -/
def declareOne (on off : List Char) (isOwn : Bool) (name : String) (setting : Option Setting) :
    Act (Option (String × Bool)) := do
  if isOwn then Act.update (withOwn · name)
  let shell ← Act.shell
  let isReference := on.contains 'n' || off.contains 'n'
  let target := if isReference then name else shell.vars.resolve name
  let before := (shell.vars.lookup target).getD .blank
  if before.isReadOnly && (setting.isSome || off.contains 'r') then
    return some (target ++ ": readonly variable", true)
  match remarked on off before with
  | .error message => return some (target ++ ": " ++ message, true)
  | .ok binding =>
    let marked := { shell with vars := shell.vars.put target binding }
    let assigned : Except Mishap State := match setting with
      | none => .ok marked
      | some setting =>
        if on.contains 'n' then
          .ok { marked with vars := marked.vars.put target { binding with value := some setting.text } }
        else marked.set { setting with name := target }
    match assigned with
    | .error mishap => return some (mishap.message, false)
    | .ok changed =>
      let final := (changed.vars.lookup target).getD .blank
      let vars := if on.contains 'r' then changed.vars.put target { final with isReadOnly := true }
        else changed.vars
      Act.update fun _ => { changed with vars := vars }
      return none

/-- Declare the operands of a command; a mishap gives up the line. -/
def declareAll (name : String) (on off : List Char) (isOwn : Bool) : List Field → Act Unit
  | [] => pure ()
  | field :: rest => do
    match declaredBy field with
    | .error () =>
      Act.refuse name 1 ("\x60" ++ String.ofList field.text ++ "': not a valid identifier")
      declareAll name on off isOwn rest
    | .ok (target, setting) =>
      match ← declareOne on off isOwn target setting with
      | none => declareAll name on off isOwn rest
      | some (message, isRefused) =>
        if isRefused then
          if name = "export" || name = "readonly" then
            Act.setStatus 1
            Act.writeNow ((← Act.shell).complaint none message)
          else Act.refuse name 1 message
          declareAll name on off isOwn rest
        else Act.giveUp (some name) message

/-- The value of a variable as it is shown in its declaration. -/
def declaredValue (binding : Variable) : Option Octets :=
  match binding.elements with
  | some elements =>
    if binding.marks.contains Variable.unsetMark && elements.entries.isEmpty then none
    else some (elementsText elements)
  | none => binding.value.map Quotation.double

/-- The declaration of a variable as a line. -/
def declarationLine (name : String) (binding : Variable) : Octets :=
  declarationText name binding (declaredValue binding) ++ ['\n']

/-- The variables in the order of their names. -/
def inOrder (vars : Variables) : Variables :=
  vars.mergeSort fun (left, _) (right, _) => left ≤ right

/-- All variables and their values. -/
def valueLines (shell : State) : Octets :=
  (inOrder shell.vars).flatMap fun (name, binding) =>
    match binding.elements, binding.value with
    | some elements, _ => name.toList ++ '=' :: elementsText elements ++ ['\n']
    | none, some value => name.toList ++ '=' :: Quotation.plain value ++ ['\n']
    | none, none => []

/-- Whether a variable has all of some marks. -/
def hasMarks (marks : List Char) (binding : Variable) : Bool :=
  let own := declaredMarks binding
  marks.all fun mark => own.contains mark || !"aAirxlun".toList.contains mark

/-- Show the declarations of some variables. -/
def showDeclarations (name : String) (fields : List Field) : Act Unit := do
  let shell ← Act.shell
  for field in fields do
    let target := String.ofList field.text
    match shell.vars.lookup target with
    | some binding => Act.sayMore name (declarationLine target binding)
    | none =>
      match shell.parameter? target with
      | some value =>
        if isName field.text then
          Act.sayMore name (declarationLine target { value := some value })
      | none => Act.refuse name 1 (target ++ ": not found")

/-- How the commands that declare are used. -/
def declaringUsage (name : String) : String :=
  match name with
  | "export" => "export [-fn] [name[=value] ...] or export -p"
  | "readonly" => "readonly [-aAf] [name[=value] ...] or readonly -p"
  | "local" => "local [option] name[=value] ..."
  | _ => name ++ " [-aAfFgiIlnrtux] [name[=value] ...] or " ++ name ++ " -p [-aAfFilnrtux] [name ...]"

/-- Show the functions with some names, or all of them; only the names if asked for. -/
def showFunctions (name : String) (isTerse : Bool) (fields : List Field) : Act Unit := do
  let shell ← Act.shell
  if fields.isEmpty then
    let ordered := shell.functions.mergeSort fun (left, _) (right, _) => left ≤ right
    Act.say name (ordered.flatMap fun (function, body) =>
      if isTerse then ("declare -f " ++ function ++ "\n").toList else functionText function body)
  else
    for field in fields do
      let function := String.ofList field.text
      match shell.functions.lookup function with
      | some body =>
        Act.sayMore name (if isTerse then (function ++ "\n").toList else functionText function body)
      | none => Act.setStatus 1

/-- Declare variables, or show them. -/
def declare (name : String) (fields : List Field) : Act Unit := do
  Act.setStatus 0
  let shell ← Act.shell
  let isInside := (ownNames? shell).isSome
  if name = "local" && !isInside then
    return ← Act.refuse name 1 "can only be used in a function"
  let known := match name with
    | "export" => "fnp"
    | "readonly" => "aAfp"
    | _ => "aAfFgiIlnprtux"
  match declaringOptions known fields with
  | .error option => Act.refuseOption name option (declaringUsage name)
  | .ok (on, off, operands) =>
    let isExport := name = "export"
    let marks := match name with
      | "export" => if on.contains 'n' then [] else ['x']
      | "readonly" => 'r' :: on
      | _ => on
    let off := if isExport && on.contains 'n' then ['x'] else off
    if on.contains 'f' || on.contains 'F' then
      if isExport || name = "readonly" then
        for field in operands do
          if (shell.functions.lookup (String.ofList field.text)).isNone then
            Act.refuse name 1 (String.ofList field.text ++ ": not a function")
      else showFunctions name (on.contains 'F') operands
    else if operands.isEmpty then
      let chosen := match ownNames? shell with
        | some names =>
          if name = "local" then shell.vars.filter fun (name, _) => names.contains name else shell.vars
        | none => shell.vars
      let wanted := marks.filter (· ≠ 'p')
      if name = "declare" && fields.isEmpty || name = "typeset" && fields.isEmpty then
        Act.say name (valueLines shell)
      else
        let found := (inOrder chosen).filter fun (_, binding) => hasMarks wanted binding
        Act.say name (found.flatMap fun (name, binding) => declarationLine name binding)
    else if on.contains 'p' then showDeclarations name operands
    else
      let isOwn := isInside && !isExport && name ≠ "readonly" && !on.contains 'g'
      declareAll name marks off isOwn operands

/-- Forget variables, elements of variables, or functions. -/
def forget (arguments : List Octets) : Act Unit := do
  let name := "unset"
  Act.setStatus 0
  match declaringOptions "fvn" (arguments.map fun text => { text := text }) with
  | .error option => Act.refuseOption name option "unset [-f] [-v] [-n] [name ...]"
  | .ok (on, _, operands) =>
    for field in operands do
      let shell ← Act.shell
      let target := String.ofList field.text
      let dropFunction : Act Unit := Act.update fun shell =>
        { shell with functions := shell.functions.filter fun (other, _) => other ≠ target }
      if on.contains 'f' then dropFunction
      else match spotOf? field.text with
        | none => if on.contains 'v' then
            Act.refuse name 1 ("\x60" ++ target ++ "': not a valid identifier")
        | some (plain, spot) =>
          let known := if on.contains 'n' then plain else shell.vars.resolve plain
          match shell.vars.lookup known with
          | none => if !on.contains 'v' then dropFunction
          | some binding =>
            if binding.isReadOnly then
              Act.refuse name 1 (plain ++ ": cannot unset: readonly variable")
            else match spot with
              | none =>
                Act.update fun shell => { shell with vars := shell.vars.putBack known none }
              | some (.inl _) =>
                Act.update fun shell =>
                  { shell with
                    vars := shell.vars.put known
                      { binding with value := none, elements := some (.row []) } }
              | some (.inr text) =>
                match shell.keyOf? known text with
                | .error mishap => Act.giveUp none mishap.message
                | .ok (none, _) =>
                  Act.refuse name 1 (plain ++ "[" ++ String.ofList text ++ "]: bad array subscript")
                | .ok (some key, changed) =>
                  Act.update fun _ =>
                    { changed with
                      vars := changed.vars.put known
                        { binding with value := none, elements := some (binding.toElements.drop key) } }

end CorpusJudge.Shell
