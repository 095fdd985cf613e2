import CorpusJudge.Emulator.Shell.Declaring
import CorpusJudge.Emulator.Shell.Naming

/-!
# Telling what names stand for

The commands of the extended dialect that tell what a name in front of a command is, and those that keep
aliases and the places of programs.
-/

namespace CorpusJudge.Shell

/-- What a name in front of a command may be. -/
inductive Meaning where
  | alias (text : Octets)
  | keyword
  | function (body : Command)
  | builtin
  | program (path : Octets) (isKnown : Bool)

/-- The kind of what a name is. -/
def Meaning.kind : Meaning → String
  | .alias _ => "alias"
  | .keyword => "keyword"
  | .function _ => "function"
  | .builtin => "builtin"
  | .program _ _ => "file"

/-- All programs with a name in the search path. -/
def programsFor (word : Octets) : Act (List Octets) := do
  let shell ← Act.shell
  let files ← Act.files
  let isProgram (path : Path) : Bool := (files.executableAt path).toOption.isSome
  if word.contains '/' then return if isProgram (pathOf word) then [word] else []
  let search := Computer.searchPath (match shell.vars.value? "PATH" with
    | some path => [("PATH", path)]
    | none => [])
  return (search.map fun folder => (Path.mk folder).join (pathOf word).text).filterMap fun path =>
    if isProgram path then some (nameOctets path.text) else none

/-- All that a name may be, the first one first. -/
def meaningsOf (word : Octets) : Act (List Meaning) := do
  let shell ← Act.shell
  let name := String.ofList word
  let hasAliases := shell.switches.contains "expand_aliases"
  let programs ← programsFor word
  let known := shell.tracked.lookup name
  let shown := match known with
    | some path => [Meaning.program (nameOctets path) true]
    | none => []
  return (if hasAliases then (shell.aliases.lookup name).toList.map .alias else []) ++
    (if (keywordsOf .extended).contains name then [.keyword] else []) ++
    (shell.functions.lookup name).toList.map .function ++
    (if isBuiltin .extended name then [.builtin] else []) ++
    (if shown.isEmpty then programs.map (.program · false) else shown ++ (programs.drop 1).map (.program · false))

/-- A meaning in a sentence. -/
def Meaning.sentence (meaning : Meaning) (name : String) : Octets :=
  match meaning with
  | .alias text => s!"{name} is aliased to \x60{String.ofList text}'\n".toList
  | .keyword => s!"{name} is a shell keyword\n".toList
  | .function body => s!"{name} is a function\n".toList ++ functionText name body
  | .builtin => s!"{name} is a shell builtin\n".toList
  | .program path isKnown =>
    if isKnown then s!"{name} is hashed ({String.ofList path})\n".toList
    else s!"{name} is {String.ofList path}\n".toList

/-- A meaning as what would be executed. -/
def Meaning.terse (meaning : Meaning) (name : String) : Octets :=
  match meaning with
  | .alias text => "alias ".toList ++ name.toList ++ '=' :: Quotation.single text ++ ['\n']
  | .program path _ => path ++ ['\n']
  | _ => name.toList ++ ['\n']

/-- Tell what names are. -/
def describeType (arguments : List Octets) : Act Unit := do
  let name := "type"
  Act.setStatus 0
  match Letters.read "afptP" "" arguments with
  | .error letter =>
    Act.refuseOption name (String.ofList ['-', letter]) "type [-afptP] name [name ...]"
  | .ok options =>
    for word in options.operands do
      let target := String.ofList word
      let all ← meaningsOf word
      let isPath := options.has 'p' || options.has 'P'
      let all := if options.has 'f' then all.filter fun meaning => meaning.kind ≠ "function" else all
      let all := if options.has 'P' then all.filter fun meaning => meaning.kind = "file" else all
      let chosen := if options.has 'a' then all else all.take 1
      let chosen := if isPath then chosen.filter fun meaning => meaning.kind = "file" else chosen
      if all.isEmpty then
        if options.has 't' || isPath then Act.setStatus 1
        else Act.refuse name 1 (target ++ ": not found")
      for meaning in chosen do
        Act.sayMore name (if options.has 't' then (meaning.kind ++ "\n").toList
          else if isPath then meaning.terse target
          else meaning.sentence target)

/-- Tell what the operands of `command` are. -/
def describeCommand (arguments : List Octets) : Act Unit := do
  let name := "command"
  Act.setStatus 0
  match Letters.read "pvV" "" arguments with
  | .error letter =>
    Act.refuseOption name (String.ofList ['-', letter]) "command [-pVv] command [arg ...]"
  | .ok options =>
    let isWordy := options.has 'V'
    let mut found := false
    for word in options.operands do
      let target := String.ofList word
      match ← meaningsOf word with
      | [] => if isWordy then Act.refuse name 1 (target ++ ": not found")
      | meaning :: _ =>
        found := true
        Act.sayMore name (if isWordy then meaning.sentence target else meaning.terse target)
    if found then Act.setStatus 0 else if !options.operands.isEmpty then Act.setStatus 1

/-- Show where programs were found, forget it, or look for some. -/
def hashExtended (arguments : List Octets) : Act Unit := do
  let name := "hash"
  Act.setStatus 0
  let shell ← Act.shell
  match Letters.read "rltd" "p" arguments with
  | .error letter =>
    Act.refuseOption name (String.ofList ['-', letter])
      "hash [-lr] [-p pathname] [-dt] [name ...]"
  | .ok options =>
    if options.has 'r' then Act.update fun shell => { shell with tracked := [] }
    if options.flags.isEmpty && options.operands.isEmpty then
      if shell.tracked.isEmpty then Act.say name "hash: hash table empty\n".toList
      else Act.say name ("hits\tcommand\n".toList ++ shell.tracked.flatMap fun (_, path) =>
        "   1\t".toList ++ nameOctets path ++ ['\n'])
    for word in options.operands do
      let target := String.ofList word
      if options.has 't' then
        match shell.tracked.lookup target with
        | some path => Act.sayMore name (nameOctets path ++ ['\n'])
        | none => Act.refuse name 1 (target ++ ": not found")
      else if options.has 'd' then
        Act.update fun shell =>
          { shell with tracked := shell.tracked.filter fun (other, _) => other ≠ target }
      else if let some path := options.flags.lookup 'p' then
        track target (pathOf path)
      else if !isBuiltin .extended target && !word.contains '/' then
        match ← programFor word with
        | .ok (path, _) => track target path
        | .error _ => Act.refuse name 1 (target ++ ": not found")

/-- Set aliases, or show them. -/
def setAliasesExtended (arguments : List Octets) : Act Unit := do
  let name := "alias"
  Act.setStatus 0
  let line (key : String) (value : Octets) : Octets :=
    "alias ".toList ++ key.toList ++ '=' :: Quotation.single value ++ ['\n']
  let operands := arguments.filter fun word => word ≠ ['-', 'p'] && word ≠ ['-', '-']
  let shell ← Act.shell
  if arguments.isEmpty || arguments.contains ['-', 'p'] then
    let ordered := shell.aliases.mergeSort fun (left, _) (right, _) => left ≤ right
    Act.sayMore name (ordered.flatMap fun (key, value) => line key value)
  for word in operands do
    let text := word.takeWhile (· ≠ '=')
    let key := String.ofList text
    if text.length = word.length || text.isEmpty then
      match (← Act.shell).aliases.lookup key with
      | some value => Act.sayMore name (line key value)
      | none => Act.refuse name 1 (String.ofList word ++ ": not found")
    else
      let value := word.drop (text.length + 1)
      Act.update fun shell =>
        { shell with
          aliases := (shell.aliases.filter fun (other, _) => other ≠ key) ++ [(key, value)] }

/-- Forget aliases. -/
def dropAliasesExtended (arguments : List Octets) : Act Unit := do
  let name := "unalias"
  Act.setStatus 0
  match arguments with
  | [] =>
    Act.setStatus 2
    Act.writeNow (Bytes.ofString "unalias: usage: unalias [-a] name [name ...]\n")
  | ['-', 'a'] :: _ => Act.update fun shell => { shell with aliases := [] }
  | _ =>
    for word in arguments do
      let key := String.ofList word
      if ((← Act.shell).aliases.lookup key).isNone then
        Act.refuse name 1 (key ++ ": not found")
      else
        Act.update fun shell =>
          { shell with aliases := shell.aliases.filter fun (other, _) => other ≠ key }

end CorpusJudge.Shell
