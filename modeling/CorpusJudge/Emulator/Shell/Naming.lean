import CorpusJudge.Emulator.Shell.Arguments
import CorpusJudge.Emulator.Shell.Redirect

/-!
# What names stand for

A name in front of a command is a keyword, an alias, a function, a built-in command, or a program that
is looked for in the search path and remembered.
-/

namespace CorpusJudge.Shell

/-- The built-in commands whose failure ends a script and whose assignments last. -/
def specialNames : List String :=
  [":", ".", "break", "continue", "eval", "exec", "exit", "export", "readonly", "return", "set",
    "shift", "times", "trap", "unset"]

/-- The other built-in commands. -/
def regularNames : List String :=
  ["[", "alias", "bg", "cd", "chdir", "command", "echo", "false", "fg", "getopts", "hash", "jobs",
    "kill", "local", "printf", "pwd", "read", "test", "true", "type", "ulimit", "umask", "unalias",
    "wait"]

/-- The built-in commands of the extended dialect. -/
def extendedNames : List String :=
  [".", ":", "[", "alias", "bg", "bind", "break", "builtin", "caller", "cd", "command", "compgen",
    "complete", "compopt", "continue", "declare", "dirs", "disown", "echo", "enable", "eval", "exec",
    "exit", "export", "false", "fc", "fg", "getopts", "hash", "help", "history", "jobs", "kill", "let",
    "local", "logout", "mapfile", "popd", "printf", "pushd", "pwd", "read", "readarray", "readonly",
    "return", "set", "shift", "shopt", "source", "suspend", "test", "times", "trap", "true", "type",
    "typeset", "ulimit", "umask", "unalias", "unset", "wait"]

/-- Whether a name is that of a built-in command. -/
def isBuiltin (dialect : Dialect) (name : String) : Bool :=
  match dialect with
  | .plain => specialNames.contains name || regularNames.contains name
  | .extended => extendedNames.contains name

/-- What a simple command turns out to be. -/
inductive Kind where
  | empty
  | replacing
  | builtin (isSpecial : Bool)
  | function (body : Command)
  | program

/-- Whether assignments in front of a command last. -/
def Kind.keepsAssignments : Kind → Bool
  | .empty => true
  | .replacing => true
  | .builtin isSpecial => isSpecial
  | _ => false

/-- Whether a redirection that fails ends the script. -/
def Kind.endsScript : Kind → Bool
  | .replacing => true
  | .builtin isSpecial => isSpecial
  | _ => false

/-- What the fields of a simple command are about.  A direct one is neither looked for among the
functions nor special. -/
def kindOf (shell : State) (isDirect : Bool) (fields : List Octets) : Kind :=
  match fields with
  | [] => .empty
  | first :: _ =>
    let name := String.ofList first
    let function := if isDirect then none else shell.functions.lookup name
    match shell.dialect, function with
    | .extended, some body => .function body
    | .extended, none =>
      if name = "exec" then .replacing
      else if extendedNames.contains name then .builtin false
      else .program
    | .plain, _ =>
      if name = "exec" then .replacing
      else if specialNames.contains name then .builtin (!isDirect)
      else match function with
        | some body => .function body
        | none => if regularNames.contains name then .builtin false else .program

/-- The command that one executes directly, if it does not only tell what it is: whether it is one to be
executed so, and its fields. -/
def directlyFrom (dialect : Dialect) : Nat → List Field → Bool × List Field
  | 0, fields => (false, fields)
  | fuel + 1, fields =>
    match fields with
    | [] => (false, fields)
    | first :: rest =>
      let name := String.ofList first.text
      let operands : List Field :=
        if name = "command" then
          match Letters.read "p" "" (rest.map (·.text)) with
          | .ok options => rest.drop (rest.length - options.operands.length)
          | .error _ => []
        else if name = "builtin" && dialect = .extended then
          let rest := if rest.head?.any (·.text = ['-', '-']) then rest.tail else rest
          match rest with
          | next :: _ => if isBuiltin dialect (String.ofList next.text) then rest else []
          | [] => []
        else []
      if operands.isEmpty then (false, fields)
      else
        match dialect with
        | .plain => (true, operands)
        | .extended => (true, (directlyFrom dialect fuel operands).2)

/-- The command that one executes directly, if there is one. -/
def directly (dialect : Dialect) (fields : List Field) : Bool × List Field :=
  directlyFrom dialect (fields.length + 1) fields

/-- A value in quotes, so that it can be read back. -/
def inQuotes (value : Octets) : Octets :=
  "'".toList ++ value.flatMap (fun character =>
    if character = '\'' then "'\"'\"'".toList else [character]) ++ "'".toList

/-- The order in which aliases are listed: by the rest of a sum of the characters of their names. -/
def aliasRank (name : String) : Nat :=
  let characters := name.toList
  characters.foldl (fun sum character => sum + character.toNat)
    (16 * (characters.headD '\x00').toNat) % 39

/-- An alias as the command that sets it. -/
def aliasText (name : String) (value : Octets) : Octets :=
  name.toList ++ '=' :: inQuotes value ++ ['\n']

/-- Set aliases, or show them. -/
def setAliases (arguments : List Octets) : Act Unit := do
  Act.setStatus 0
  let shell ← Act.shell
  if arguments.isEmpty then
    let ordered := shell.aliases.mergeSort fun (left, _) (right, _) => aliasRank left ≤ aliasRank right
    Act.say "alias" (ordered.flatMap fun (name, value) => aliasText name value)
  else
    for word in arguments.reverse do
      let name := String.ofList (word.takeWhile (· ≠ '='))
      if !word.contains '=' then
        match shell.aliases.lookup name with
        | some value => Act.say "alias" (aliasText name value)
        | none =>
          Act.setStatus 1
          Act.push [.say 2 (Bytes.ofOctets ("alias: ".toList ++ word ++ " not found\n".toList)) "alias"]
    for word in arguments do
      let name := String.ofList (word.takeWhile (· ≠ '='))
      if word.contains '=' then
        let value := word.drop (name.length + 1)
        Act.update fun shell =>
          let isKnown := (shell.aliases.lookup name).isSome
          { shell with
            aliases := if isKnown then
                shell.aliases.map fun (other, old) => (other, if other = name then value else old)
              else shell.aliases ++ [(name, value)] }

/-- Forget aliases. -/
def dropAliases (arguments : List Octets) : Act Unit := do
  Act.setStatus 0
  if arguments.head? = some ['-', 'a'] then Act.update fun shell => { shell with aliases := [] }
  else
    for word in arguments do
      let name := String.ofList word
      if ((← Act.shell).aliases.lookup name).isNone then
        Act.setStatus 1
        Act.push [.say 2 (Bytes.ofOctets ("unalias: ".toList ++ word ++ " not found\n".toList)) "unalias"]
      else
        Act.update fun shell =>
          { shell with aliases := shell.aliases.filter fun (other, _) => other ≠ name }

/-- The program that the search path leads to for a name.  An empty name leads to the folders
themselves. -/
def programFor (name : Octets) : Act (Except FileError (Path × FileTree.Executable)) := do
  if name.isEmpty then return .error .permissionDenied
  let shell ← Act.shell
  let search := match shell.vars.value? "PATH" with
    | some path => Computer.searchPath [("PATH", path)]
    | none => Computer.searchPath []
  return (← Act.files).findExecutable search (pathOf name).text

/-- Remember where a program was found. -/
def track (name : String) (path : Path) : Act Unit :=
  Act.update fun shell =>
    if (shell.tracked.lookup name).isSome then shell
    else { shell with tracked := shell.tracked ++ [(name, path.text)] }

/-- Tell what commands are. -/
def describe (isTerse : Bool) : List Octets → Act Octets
  | [] => return []
  | word :: rest => do
    let name := String.ofList word
    let shell ← Act.shell
    let plain (text : String) : String := if isTerse then name else name ++ text
    let text ←
      if keywords.contains name then pure (plain " is a shell keyword")
      else if let some value := shell.aliases.lookup name then
        pure (if isTerse then String.ofList ("alias ".toList ++ (aliasText name value).dropLast)
          else s!"{name} is an alias for {String.ofList value}")
      else if (shell.functions.lookup name).isSome then pure (plain " is a shell function")
      else if specialNames.contains name then pure (plain " is a special shell builtin")
      else if regularNames.contains name then pure (plain " is a shell builtin")
      else match ← programFor word with
        | .ok (path, _) =>
          if !name.contains '/' then track name path
          let kind := if (shell.tracked.lookup name).isSome then " is a tracked alias for " else " is "
          pure (if isTerse then path.text else name ++ kind ++ path.text)
        | .error _ =>
          Act.setStatus 127
          pure (if isTerse then "" else s!"{name}: not found")
    return (if text.isEmpty then [] else text.toList ++ ['\n']) ++ (← describe isTerse rest)

/-- Show where programs were found, forget it, or look for some. -/
def hash (arguments : List Octets) : Act Unit := do
  Act.setStatus 0
  match arguments with
  | [] =>
    let rank (name : String) : Nat :=
      let characters := name.toList
      characters.foldl (fun sum character => sum + character.toNat)
        (16 * (characters.headD '\x00').toNat) % 31
    let ordered := (← Act.shell).tracked.mergeSort fun (left, _) (right, _) => rank left ≤ rank right
    Act.say "hash" (ordered.flatMap fun (_, path) => path.toList ++ ['\n'])
  | first :: _ =>
    if first = ['-', 'r'] then Act.update fun shell => { shell with tracked := [] }
    else
      for word in arguments do
        let name := String.ofList word
        if !isBuiltin .plain name then
          match ← programFor word with
          | .ok (path, _) => track name path
          | .error _ =>
            Act.setStatus 1
            Act.complain (some "hash") s!"{name}: not found"

end CorpusJudge.Shell
