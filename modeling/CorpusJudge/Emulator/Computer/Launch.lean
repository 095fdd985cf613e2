import CorpusJudge.Emulator.Computer.State
import CorpusJudge.Emulator.Shell.Invocation
import CorpusJudge.Emulator.Tool.ByteSets
import CorpusJudge.Emulator.Tool.Calendar
import CorpusJudge.Emulator.Tool.Comparison
import CorpusJudge.Emulator.Tool.Copying
import CorpusJudge.Emulator.Tool.Digests
import CorpusJudge.Emulator.Tool.Dump
import CorpusJudge.Emulator.Tool.Expression
import CorpusJudge.Emulator.Tool.FileChanges
import CorpusJudge.Emulator.Tool.FileFacts
import CorpusJudge.Emulator.Tool.Finding
import CorpusJudge.Emulator.Tool.Layout
import CorpusJudge.Emulator.Tool.Listing
import CorpusJudge.Emulator.Tool.Merging
import CorpusJudge.Emulator.Tool.Passing
import CorpusJudge.Emulator.Tool.Recording
import CorpusJudge.Emulator.Tool.Searching
import CorpusJudge.Emulator.Tool.Sequence
import CorpusJudge.Emulator.Tool.Sorting
import CorpusJudge.Emulator.Tool.Starting
import CorpusJudge.Emulator.Tool.Words

/-!
# Launching programs

Programs are found by their path, or by their name in the folders of a search path.  A program with
a name is either the shell or a tool.
-/

namespace CorpusJudge.Tool

/-- The tools with their names. -/
def catalog : List (String × (Call → Tool)) :=
  [("[", Call.check true), ("arch", Call.saysOnly "x86_64"), ("awk", Call.processRecords),
    ("b2sum", Call.digest .blake2), ("base32", Call.codingAs .base32),
    ("base64", Call.codingAs .base64), ("basename", Call.basename),
    ("basenc", Call.codingByName), ("cat", Call.concatenate), ("chgrp", Call.changeOwners true),
    ("chmod", Call.changeModes), ("chown", Call.changeOwners false), ("cksum", Call.anySum),
    ("cmp", Call.compareBytes), ("comm", Call.common), ("cp", Call.copy), ("cut", Call.cut),
    ("date", Call.date), ("dd", Call.copyBlocks), ("diff", Call.compareLines),
    ("dirname", Call.dirname), ("du", Call.diskUsage), ("echo", Call.echo),
    ("egrep", Call.search "E"), ("env", Call.environmentTool), ("expand", Call.expand),
    ("expr", Call.expression), ("factor", Call.factor), ("false", Call.settle 1),
    ("fgrep", Call.search "F"), ("find", Call.find), ("fmt", Call.fillParagraphs),
    ("fold", Call.fold), ("grep", Call.search "G"), ("groups", Call.groups), ("head", Call.head),
    ("hostname", Call.saysOnly "localhost"), ("id", Call.identity), ("install", Call.install),
    ("join", Call.join), ("kill", Call.kill), ("link", Call.linkPlainly), ("ln", Call.link),
    ("logname", Call.loginName), ("ls", Call.list), ("mawk", Call.processRecords),
    ("md5sum", Call.digest .md5), ("mkdir", Call.makeFolders), ("mktemp", Call.makeTemporary),
    ("mv", Call.move), ("nawk", Call.processRecords), ("nice", Call.nice),
    ("nl", Call.numberLines), ("nohup", Call.nohup), ("nproc", Call.processors),
    ("numfmt", Call.numberFormat), ("od", Call.dump), ("paste", Call.paste),
    ("pathchk", Call.checkPaths), ("printenv", Call.printenv), ("printf", Call.printf),
    ("pwd", Call.pwd), ("readlink", Call.readLinks), ("realpath", Call.realPaths),
    ("rev", Call.reverseCharacters), ("rm", Call.remove), ("rmdir", Call.removeFolders),
    ("sed", Call.edit), ("seq", Call.sequence), ("setsid", Call.session),
    ("sha1sum", Call.digest .sha1), ("sha224sum", Call.digest .sha224),
    ("sha256sum", Call.digest .sha256), ("sha384sum", Call.digest .sha384),
    ("sha512sum", Call.digest .sha512), ("shuf", Call.shuffle), ("sleep", Call.sleep),
    ("sort", Call.sort), ("split", Call.divide), ("stat", Call.describe),
    ("stdbuf", Call.buffered), ("sum", Call.shortSum), ("sync", Call.sync),
    ("tac", Call.reverseLines), ("tail", Call.tail), ("tee", Call.tee),
    ("test", Call.check false), ("timeout", Call.timeLimit), ("touch", Call.touch),
    ("tr", Call.translate), ("true", Call.settle 0), ("truncate", Call.resize),
    ("tsort", Call.orderByPairs), ("tty", Call.terminal), ("uname", Call.systemName),
    ("unexpand", Call.unexpand), ("uniq", Call.distinctLines), ("unlink", Call.unlinkPlainly),
    ("wc", Call.countParts), ("which", Call.which), ("whoami", Call.saysOnly "root"),
    ("xargs", Call.argumentsFromInput), ("yes", Call.yes)]

/-- The names of the tools. -/
def names : List String := catalog.map Prod.fst

/-- The tool that goes by a name, when it is called; there are names without a tool. -/
def ofCall? (name : String) (call : Call) : Option Tool :=
  (catalog.lookup name).map fun make => make call

end CorpusJudge.Tool

namespace CorpusJudge

namespace FileTree

/-- What is executed: a program with a name, or the text of a script. -/
inductive Executable where
  | named (name : String)
  | script (content : Bytes)

/-- What is executed under a path. -/
def executableAt (tree : FileTree) (path : Path) : Except FileError Executable := do
  match ← tree.find path with
  | (_, .program name) => return .named name
  | (place, .file content) =>
    if (tree.detail place).mode.isExecutable then return .script content
    else throw .permissionDenied
  | _ => throw .permissionDenied

/-- What is executed under a name, looked for in the folders of a search path unless the name is a
path itself, and where it was found. -/
def findExecutable (tree : FileTree) (search : List String) (name : String) :
    Except FileError (Path × Executable) :=
  if name.isEmpty then .error .notFound
  else if name.toList.contains '/' then (tree.executableAt ⟨name⟩).map (Path.mk name, ·)
  else
    let tries := search.map fun folder =>
      let path := (Path.mk folder).join name
      (tree.executableAt path).map (path, ·)
    match tries.findSome? Except.toOption with
    | some found => .ok found
    | none =>
      let isWorse (attempt : Except FileError (Path × Executable)) : Option FileError :=
        match attempt with
        | .error .notFound => none
        | .error .notDirectory => none
        | .error error => some error
        | .ok _ => none
      .error ((tries.findSome? isWorse).getD .notFound)

/-- The interpreter that the first line of a script asks for, and its argument. -/
def interpreterOf? (content : Bytes) : Option (List Octets) :=
  match Bytes.octets (content.takeWhile (· ≠ 10)) with
  | '#' :: '!' :: line =>
    let isBlank (character : Char) : Bool := character = ' ' || character = '\t'
    let trimmed := ((line.dropWhile isBlank).reverse.dropWhile isBlank).reverse
    let interpreter := trimmed.takeWhile (!isBlank ·)
    let argument := (trimmed.drop interpreter.length).dropWhile isBlank
    if interpreter.isEmpty then none
    else some (interpreter :: if argument.isEmpty then [] else [argument])
  | _ => none

/-- How many scripts may be the interpreters of each other. -/
def maxInterpreters : Nat := 5

/-- The program that a command starts, with the words it is started with.  A script is started by the
interpreter that it asks for.  What cannot be executed is a script for the shell, if there is one to fall
back on. -/
def resolveCommand (tree : FileTree) (search : List String) (shell : Option String) :
    Nat → List Octets → Except FileError (String × List Octets)
  | 0, _ => .error .linkLoop
  | _, [] => .error .notFound
  | fuel + 1, name :: arguments => do
    let (path, executable) ← tree.findExecutable search (Shell.pathOf name).text
    match executable with
    | .named program => return (program, name :: arguments)
    | .script content =>
      let words := Shell.nameOctets path.text :: arguments
      let started := match interpreterOf? content with
        | some interpreter => resolveCommand tree [] none fuel (interpreter ++ words)
        | none => .error .notExecutable
      match started, shell with
      | .error .notExecutable, some shell => return (shell, Shell.nameOctets path.text :: words)
      | _, _ => started

end FileTree

namespace Computer

/-- The folders of a search path. -/
def searchPath (environment : List (String × Octets)) : List String :=
  match environment.lookup "PATH" with
  | some text => (Text.segments ':' text).map fun folder => (Shell.pathOf folder).text
  | none => ["/usr/local/bin", "/usr/bin", "/bin"]

/-- What a tool can find out. -/
def factsFor (machine : Computer) (proc : Proc) : Facts where
  files := machine.filesOf proc
  places := machine.placesOf proc
  niceness := proc.niceness

/-- What a program with a name does when it is started. -/
def activityOf (machine : Computer) (proc : Proc) (program : String) (name : Octets)
    (arguments : List Octets) (environment : List (String × Octets)) : Activity :=
  if program = "sh" then
    .shell (Shell.State.started (machine.filesOf proc) proc.number name arguments environment)
  else if program = "bash" then
    .shell (Shell.State.startedExtended (machine.filesOf proc) proc.number name arguments environment)
  else
    let call : Call := ⟨String.ofList name, arguments, environment, machine.factsFor proc⟩
    match Tool.ofCall? program call with
    | some tool => .tool tool
    | none => .ended (.code 127)

/-- Let a running program become another one, where there may be a shell to fall back on.  The failure is
why the program cannot be started. -/
def become (machine : Computer) (number : Nat) (command : List Octets)
    (environment : List (String × Octets)) (search : List String) (shell : Option String) :
    Except FileError Computer :=
  match machine.proc? number, command with
  | some proc, _ :: _ => do
    let (program, words) ←
      (machine.filesOf proc).resolveCommand search shell FileTree.maxInterpreters command
    let activity := machine.activityOf proc program (words.headD []) words.tail environment
    return machine.update number fun proc => { proc with activity := activity }
  | _, _ => .error .notFound

end Computer

end CorpusJudge
