import CorpusJudge.Emulator.Shell.Act
import CorpusJudge.Emulator.Shell.Arguments
import CorpusJudge.Emulator.Shell.Declaring

/-!
# The stack of folders

In the extended dialect a shell can leave a folder and come back to it: the folders that it has left are on
a stack below the one that it works in.
-/

namespace CorpusJudge.Shell

/-! ## Folders to work in

A shell remembers the path on which it has come to its folder.  Unless it is told otherwise, it goes
up that path again, and not to the folder above the one that a link has led to. -/

/-- The segments of a path with those that lead nowhere or back up resolved. -/
def tidySegments (segments : List String) : List String :=
  (segments.foldl (fun done segment =>
    if segment = "" || segment = "." then done
    else if segment = ".." then done.tail
    else segment :: done) []).reverse

/-- The path that another one leads to from a folder, without looking at files. -/
def tidyPath (here : String) (path : Path) : Path :=
  let whole := if path.isAbsolute then path else (Path.mk here).join path.text
  ⟨"/" ++ "/".intercalate (tidySegments whole.segments)⟩

/-- A location as a path. -/
def pathTo (place : Location) : String := "/" ++ "/".intercalate place

/-- The folders in which a relative path is looked for. -/
def startsFor (shell : State) (wanted : Octets) : List Octets :=
  let isRooted := wanted.head? = some '/' || wanted.head? = some '.' &&
    ((wanted.drop 1).isEmpty || (wanted.drop 1).head? = some '/' ||
      (wanted.take 2 = ['.', '.'] && ((wanted.drop 2).isEmpty || wanted[2]? = some '/')))
  match shell.vars.value? "CDPATH" with
  | some folders => if isRooted then [[]] else Text.segments ':' folders ++ [[]]
  | none => [[]]

/-- Work in another folder. -/
def changeFolder (arguments : List Octets) : Act Unit := do
  let shell ← Act.shell
  let fail (message : String) : Act Unit := do
    Act.setStatus 2
    Act.complain (some "cd") message
  match Letters.read "LP" "" arguments with
  | .error letter => fail s!"Illegal option -{String.ofList [letter]}"
  | .ok options =>
    let isPhysical := (options.flags.getLast?.map Prod.fst) = some 'P'
    let files ← Act.files
    let isBack := options.operands.head? = some ['-']
    let home := shell.vars.value? "HOME"
    let wanted := if isBack then (shell.vars.value? "OLDPWD").getD []
      else options.operands.headD (home.getD [])
    let tries := (startsFor shell wanted).map fun start =>
      let path := if start.isEmpty then pathOf wanted
        else (pathOf start).join (pathOf wanted).text
      let path := if path.text.isEmpty then Path.mk "." else path
      let tidy := tidyPath shell.here path
      let found := if isPhysical then files.find path else files.find tidy
      (start, tidy, found)
    let arrived := tries.findSome? fun (start, tidy, found) =>
      match found with
      | .ok (place, .folder) => some (start, tidy, place)
      | _ => none
    match arrived with
    | none => fail s!"can't cd to {String.ofList wanted}"
    | some (start, tidy, place) =>
      let there := if isPhysical then pathTo place else tidy.text
      Act.updateProc fun proc => { proc with folder := place }
      Act.update fun old =>
        let moved := { old with here := there }
        let moved := moved.assign "OLDPWD" (nameOctets shell.here)
        { moved.assign "PWD" (nameOctets there) with status := 0 }
      if isBack || !start.isEmpty then Act.say "cd" (nameOctets there ++ ['\n'])

/-- Show the folder. -/
def showFolder (arguments : List Octets) : Act Unit := do
  match Letters.read "LP" "" arguments with
  | .error letter =>
    Act.setStatus 2
    Act.complain (some "pwd") s!"Illegal option -{String.ofList [letter]}"
  | .ok options =>
    Act.setStatus 0
    let isPhysical := (options.flags.getLast?.map Prod.fst) = some 'P'
    let proc ← Act.proc
    let shell ← Act.shell
    let here := if isPhysical then pathTo proc.folder else shell.here
    Act.say "pwd" (nameOctets here ++ ['\n'])

/-! ## The stack of folders -/

/-- Work in another folder; the failure is a complaint.  The result is the path to show, if the folder is
not where it was asked for. -/
def enterFolder (isPhysical : Bool) (wanted : Octets) : Act (Except String (Option Octets)) := do
  let shell ← Act.shell
  if wanted.isEmpty then return .ok none
  let files ← Act.files
  let tries := (startsFor shell wanted).map fun start =>
    let path := if start.isEmpty then pathOf wanted else (pathOf start).join (pathOf wanted).text
    let tidy := tidyPath shell.here path
    (start, tidy, if isPhysical then files.find path else files.find tidy)
  let arrived := tries.findSome? fun (start, tidy, found) =>
    match found with
    | .ok (place, .folder) => some (start, tidy, place)
    | _ => none
  match arrived with
  | none =>
    let reason := match tries.getLast? with
      | some (_, _, .error error) => error.reason
      | _ => FileError.notDirectory.reason
    return .error (String.ofList wanted ++ ": " ++ reason)
  | some (start, tidy, place) =>
    let there := if isPhysical then pathTo place else tidy.text
    Act.updateProc fun proc => { proc with folder := place }
    Act.update fun old =>
      let moved := { old with here := there }
      let moved := moved.assign "OLDPWD" (nameOctets shell.here)
      moved.assign "PWD" (nameOctets there)
    return .ok (if start.isEmpty then none else some (nameOctets there))

/-- Work in another folder, as the arguments say. -/
def changeFolderExtended (arguments : List Octets) : Act Unit := do
  let name := "cd"
  Act.setStatus 0
  match Letters.read "LPe@" "" arguments with
  | .error letter =>
    Act.refuseOption name (String.ofList ['-', letter]) "cd [-L|[-P [-e]] [-@]] [dir]"
  | .ok options =>
    let shell ← Act.shell
    let kinds := (options.flags.map Prod.fst).filter fun letter => letter = 'L' || letter = 'P'
    let isPhysical := kinds.getLast? = some 'P' || (kinds.isEmpty && shell.has 'P')
    match options.operands with
    | _ :: _ :: _ => Act.refuse name 1 "too many arguments"
    | operands =>
      let isBack := operands = [['-']]
      let wanted : Except String Octets := match operands with
        | [] => (shell.vars.value? "HOME").elim (.error "HOME not set") .ok
        | operand :: _ =>
          if isBack then (shell.vars.value? "OLDPWD").elim (.error "OLDPWD not set") .ok
          else .ok operand
      match wanted with
      | .error message => Act.refuse name 1 message
      | .ok wanted =>
        match ← enterFolder isPhysical wanted with
        | .error message => Act.refuse name 1 message
        | .ok shown =>
          if isBack then Act.say name (nameOctets (← Act.shell).here ++ ['\n'])
          else if let some path := shown then Act.say name (path ++ ['\n'])

/-- Show the folder. -/
def showFolderExtended (arguments : List Octets) : Act Unit := do
  match Letters.read "LP" "" arguments with
  | .error letter => Act.refuseOption "pwd" (String.ofList ['-', letter]) "pwd [-LP]"
  | .ok options =>
    Act.setStatus 0
    let isPhysical := (options.flags.getLast?.map Prod.fst) = some 'P'
    let proc ← Act.proc
    let shell ← Act.shell
    let here := if isPhysical then pathTo proc.folder else shell.here
    Act.say "pwd" (nameOctets here ++ ['\n'])

/-- A path with a tilde in place of the home folder. -/
def withTilde (shell : State) (path : String) : Octets :=
  match shell.vars.value? "HOME" with
  | some home =>
    let text := nameOctets path
    if home.length ≤ 1 then text
    else if text = home then ['~']
    else if (home ++ ['/']).isPrefixOf text then '~' :: text.drop home.length
    else text
  | none => nameOctets path

/-- The place in the stack that an argument names. -/
def stackPlace? (count : Nat) (word : Octets) : Option (Option Nat) :=
  match word with
  | '+' :: digits => (Integer.natural? 10 digits).map fun place =>
    if place < count then some place else none
  | '-' :: digits => (Integer.natural? 10 digits).map fun place =>
    if place < count then some (count - 1 - place) else none
  | _ => none

/-- Show the stack. -/
def showStack (name : String) (letters : List Char) : Act Unit := do
  let shell ← Act.shell
  let stack := shell.here :: shell.folders
  let shown (path : String) : Octets :=
    if letters.contains 'l' then nameOctets path else withTilde shell path
  if letters.contains 'v' then
    Act.sayMore name (stack.zipIdx.flatMap fun (path, place) =>
      let number := (toString place).toList
      List.replicate (2 - number.length) ' ' ++ number ++ "  ".toList ++ shown path ++ ['\n'])
  else
    let gap := if letters.contains 'p' then ['\n'] else [' ']
    Act.sayMore name (gap.intercalate (stack.map shown) ++ ['\n'])

/-- Show the stack, a part of it, or clear it. -/
def dirs (arguments : List Octets) : Act Unit := do
  let name := "dirs"
  Act.setStatus 0
  let shell ← Act.shell
  let stack := shell.here :: shell.folders
  let places := arguments.filterMap (stackPlace? stack.length)
  let letters := (arguments.filter fun word => (stackPlace? stack.length word).isNone).flatMap List.tail
  if letters.contains 'c' then Act.update fun shell => { shell with folders := [] }
  else match places with
    | some place :: _ => Act.sayMore name (withTilde shell (stack[place]?.getD "") ++ ['\n'])
    | none :: _ =>
      Act.refuse name 1 (String.ofList (arguments.headD []) ++ ": directory stack index out of range")
    | [] => showStack name letters

/-- Go to the first of some folders and let the others be the stack. -/
def enterStack (name : String) (stack : List String) : Act Unit := do
  match stack with
  | [] => pure ()
  | first :: rest =>
    match ← enterFolder false (nameOctets first) with
    | .error message => Act.refuse name 1 message
    | .ok _ =>
      Act.update fun shell => { shell with folders := rest }
      showStack name []

/-- Go to a folder and keep the one before on the stack, or turn the stack around. -/
def pushFolder (arguments : List Octets) : Act Unit := do
  let name := "pushd"
  Act.setStatus 0
  let shell ← Act.shell
  let stack := shell.here :: shell.folders
  let stays := arguments.head? = some ['-', 'n']
  match (if stays then arguments.tail else arguments) with
  | _ :: _ :: _ => Act.refuse name 1 "too many arguments"
  | [] =>
    match stack with
    | first :: second :: rest => enterStack name (second :: first :: rest)
    | _ => Act.refuse name 1 "no other directory"
  | [word] =>
    match stackPlace? stack.length word with
    | some (some place) => enterStack name (stack.drop place ++ stack.take place)
    | some none =>
      Act.refuse name 1 (String.ofList word ++ ": directory stack index out of range")
    | none =>
      if stays then
        Act.update fun shell => { shell with folders := String.ofList word :: shell.folders }
        showStack name []
      else
        let wanted := if word = ['-'] then (shell.vars.value? "OLDPWD").getD [] else word
        match ← enterFolder false wanted with
        | .error message => Act.refuse name 1 message
        | .ok _ =>
          Act.update fun changed => { changed with folders := stack }
          showStack name []

/-- Come back to a folder of the stack, or take one away. -/
def popFolder (arguments : List Octets) : Act Unit := do
  let name := "popd"
  Act.setStatus 0
  let shell ← Act.shell
  let stack := shell.here :: shell.folders
  match arguments with
  | [] =>
    match shell.folders with
    | [] => Act.refuse name 1 "directory stack empty"
    | folders => enterStack name folders
  | word :: _ =>
    match stackPlace? stack.length word with
    | some (some 0) =>
      if shell.folders.isEmpty then Act.refuse name 1 "directory stack empty"
      else enterStack name shell.folders
    | some (some place) =>
      Act.update fun shell => { shell with folders := (stack.eraseIdx place).tail }
      showStack name []
    | some none =>
      if shell.folders.isEmpty then Act.refuse name 1 "directory stack empty"
      else Act.refuse name 1 (String.ofList word ++ ": directory stack index out of range")
    | none => Act.refuse name 1 (String.ofList word ++ ": invalid argument")

end CorpusJudge.Shell
