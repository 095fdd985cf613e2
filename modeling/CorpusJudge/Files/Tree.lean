import CorpusJudge.Bytes
import CorpusJudge.Files.Error
import CorpusJudge.Files.Mode
import CorpusJudge.Path

/-!
# File trees

The files of a machine, each under its location below the root.  Paths are resolved the way an
operating system does it: relative to a folder, through symbolic links, and never through anything
that is not a folder.
-/

namespace CorpusJudge

/-- A source or sink of bytes that is no file: one that is always empty, one that never ends, one
that has no room, a terminal that nobody has, and what a descriptor of the reader stands for. -/
inductive Device where
  | null
  | zero
  | full
  | terminal
  | descriptor (number : Nat)
  deriving DecidableEq, Repr

/-- What stands at a location.  A sealed file cannot be opened because of some obstacle. -/
inductive Entry where
  | file (content : Bytes)
  | sealed (obstacle : Obstacle)
  | folder
  | link (target : String)
  | program (name : String)
  | device (device : Device)
  deriving DecidableEq, Repr

namespace Entry

/-- Whether the entry is a folder. -/
def isFolder : Entry → Bool
  | .folder => true
  | _ => false

/-- Whether the entry is a regular file. -/
def isFile : Entry → Bool
  | .file _ => true
  | .sealed _ => true
  | .program _ => true
  | _ => false

/-- Whether the entry is a symbolic link. -/
def isLink : Entry → Bool
  | .link _ => true
  | _ => false

end Entry

/-- The names on the way from the root to an entry. -/
abbrev Location := List String

/-- What is known of an entry beside its content: its mode, and the microsecond of its last change. -/
structure Detail where
  mode : Mode
  changed : Int
  deriving DecidableEq, Repr

/-- The files of a machine as one program sees them: relative paths start at its folder, locked folders
cannot be listed because of some obstacle, new files get modes that its mask allows, and changes happen at
its time. -/
structure FileTree where
  entries : List (Location × Entry)
  base : Location
  locked : List (Location × Obstacle) := []
  details : List (Location × Detail) := []
  mask : Mode := Mode.usualMask
  clock : Int := 0

namespace FileTree

/-- What stands at a location, if anything. -/
def lookup (tree : FileTree) (location : Location) : Option Entry :=
  if location = [] then some .folder else tree.entries.lookup location

/-- The detail of an entry of which nothing was noted. -/
def usualDetail (tree : FileTree) (location : Location) : Detail :=
  let mode := match tree.lookup location with
    | some (.file _) => Mode.newFile.without Mode.usualMask
    | some (.link _) => Mode.newFolder
    | some (.device _) => Mode.newFile
    | _ => Mode.newFolder.without Mode.usualMask
  ⟨mode, 0⟩

/-- The detail of an entry. -/
def detail (tree : FileTree) (location : Location) : Detail :=
  (tree.details.lookup location).getD (tree.usualDetail location)

/-- Note the detail of an entry. -/
def withDetail (tree : FileTree) (location : Location) (detail : Detail) : FileTree :=
  { tree with
    details := (location, detail) :: tree.details.filter fun (place, _) => place ≠ location }

/-- The mode of a new entry. -/
def newMode (tree : FileTree) : Entry → Mode
  | .file _ => Mode.newFile.without tree.mask
  | .link _ => Mode.newFolder
  | _ => Mode.newFolder.without tree.mask

/-- Put an entry at a location, in place of what stands there. -/
def put (tree : FileTree) (location : Location) (entry : Entry) : FileTree :=
  if (tree.entries.lookup location).isSome then
    let mode := (tree.detail location).mode
    let tree := { tree with entries := tree.entries.map fun (place, old) =>
      if place = location then (place, entry) else (place, old) }
    tree.withDetail location ⟨mode, tree.clock⟩
  else
    let tree := { tree with entries := tree.entries ++ [(location, entry)] }
    tree.withDetail location ⟨tree.newMode entry, tree.clock⟩

/-- Take away what stands at a location and below it. -/
def erase (tree : FileTree) (location : Location) : FileTree :=
  { tree with
    entries := tree.entries.filter fun (place, _) => !location.isPrefixOf place
    locked := tree.locked.filter fun (place, _) => !location.isPrefixOf place
    details := tree.details.filter fun (place, _) => !location.isPrefixOf place }

/-- Give an entry another mode. -/
def setMode (tree : FileTree) (location : Location) (mode : Mode) : FileTree :=
  tree.withDetail location { tree.detail location with mode := mode }

/-- Give an entry another time of change. -/
def setChanged (tree : FileTree) (location : Location) (changed : Int) : FileTree :=
  tree.withDetail location { tree.detail location with changed := changed }

/-- The name that an entry has directly inside a folder, if it lies there. -/
def nameInside? (folder place : Location) : Option String :=
  if folder.isPrefixOf place then
    match place.drop folder.length with
    | [name] => some name
    | _ => none
  else none

/-- The names and entries directly inside a folder, in the order in which they are kept. -/
def children (tree : FileTree) (folder : Location) : List (String × Entry) :=
  tree.entries.filterMap fun (place, entry) => (nameInside? folder place).map (·, entry)

/-! ## Resolving paths -/

/-- The most links that are followed on the way to one entry. -/
def maxLinks : Nat := 40

/-- The names in a path.  A separator at the end counts as a name of the folder itself. -/
def namesIn (path : String) : List String :=
  let pieces := (Text.segments '/' path.toList).map String.ofList
  let names := pieces.filter (· ≠ "")
  if pieces.getLast? = some "" ∧ names ≠ [] then names ++ ["."] else names

/-- Whether a name is longer than the operating system allows. -/
def isTooLong (name : String) : Bool :=
  255 < name.utf8ByteSize

/-- Follow names from a folder on.  Only the last name may be missing, and a link in the last
place is followed only where `follow` says so. -/
def walk (tree : FileTree) (follow : Bool) (links : Nat) (here : Location)
    (names : List String) : Except FileError Location :=
  match names with
  | [] => .ok here
  | "." :: rest => walk tree follow links here rest
  | ".." :: rest => walk tree follow links here.dropLast rest
  | name :: rest =>
    if isTooLong name then .error .nameTooLong
    else
      let place := here ++ [name]
      match tree.lookup place with
      | some (.link target) =>
        if rest.isEmpty && !follow then .ok place
        else match links with
          | 0 => .error .linkLoop
          | links + 1 =>
            let start := if (Path.mk target).isAbsolute then [] else here
            walk tree follow links start (namesIn target ++ rest)
      | some .folder => walk tree follow links place rest
      | some _ => if rest.isEmpty then .ok place else .error .notDirectory
      | none => if rest.isEmpty then .ok place else .error .notFound
termination_by (links, names.length)

/-- The location that a path leads to; its last name need not exist. -/
def locate (tree : FileTree) (follow : Bool) (path : Path) : Except FileError Location :=
  let text := path.text
  if text.toList.contains '\x00' then .error .nulInPath
  else if text.isEmpty then .error .notFound
  else if 4096 ≤ text.utf8ByteSize then .error .nameTooLong
  else tree.walk follow maxLinks (if path.isAbsolute then [] else tree.base) (namesIn text)

/-- What a path leads to. -/
def find (tree : FileTree) (path : Path) : Except FileError (Location × Entry) := do
  let location ← tree.locate true path
  match tree.lookup location with
  | some entry => return (location, entry)
  | none => throw .notFound

/-- What stands at a path itself, be it a link. -/
def findSelf (tree : FileTree) (path : Path) : Except FileError (Location × Entry) := do
  let location ← tree.locate false path
  match tree.lookup location with
  | some entry => return (location, entry)
  | none => throw .notFound

/-- Whether a path leads to a folder. -/
def isFolder (tree : FileTree) (path : Path) : Bool :=
  match tree.find path with
  | .ok (_, entry) => entry.isFolder
  | .error _ => false

/-! ## Requests -/

/-- The content of a file. -/
def read (tree : FileTree) (path : Path) : Except FileError Bytes := do
  match ← tree.find path with
  | (_, .file content) => return content
  | (_, .sealed obstacle) => throw obstacle.error
  | (_, .folder) => throw .isDirectory
  | _ => return []

/-- Whether a path ends in a separator behind something else. -/
def endsInSeparator (path : Path) : Bool :=
  path.text.toList.getLast? == some '/' && !path.text.toList.all (· = '/')

/-- A path without the separators at its end. -/
def withoutSeparator (path : Path) : Path :=
  if endsInSeparator path then
    ⟨String.ofList (path.text.toList.reverse.dropWhile (· = '/')).reverse⟩
  else path

/-- Where a file would be written under a path: a folder is no place for that. -/
def placeForFile (tree : FileTree) (path : Path) : Except FileError Location := do
  let location ← tree.locate true path
  match tree.lookup location with
  | some .folder => throw .isDirectory
  | _ => return location

/-- Put a file's content in place of what it held before, or make the file. -/
def write (tree : FileTree) (path : Path) (content : Bytes) : Except FileError FileTree := do
  if endsInSeparator path then
    let _ ← tree.locate false (withoutSeparator path)
    throw .isDirectory
  let location ← tree.placeForFile path
  match tree.lookup location with
  | some (.device _) => return tree
  | some (.program _) => throw .permissionDenied
  | some (.sealed obstacle) => throw obstacle.error
  | _ => return tree.put location (.file content)

/-- The names and entries in a folder, in no particular order. -/
def list (tree : FileTree) (path : Path) : Except FileError (List (String × Entry)) := do
  match ← tree.find path with
  | (location, .folder) =>
    match tree.locked.lookup location with
    | some obstacle => throw obstacle.error
    | none => return tree.children location
  | _ => throw .notDirectory

/-- Move an entry to another location, with all that lies below it. -/
def move (tree : FileTree) (source target : Location) : FileTree :=
  let moved (place : Location) : Option Location :=
    if source.isPrefixOf place then some (target ++ place.drop source.length) else none
  let kept := (tree.erase source).erase target
  { kept with
    entries := kept.entries ++
      tree.entries.filterMap fun (place, entry) => (moved place).map (·, entry)
    locked := kept.locked ++
      tree.locked.filterMap fun (place, obstacle) => (moved place).map (·, obstacle)
    details := kept.details ++
      tree.details.filterMap fun (place, detail) => (moved place).map (·, detail) }

/-- Whether the last name in a path only points at a folder that has already been reached. -/
def endsInDots (path : Path) : Bool :=
  match (path.segments.filter (· ≠ "")).getLast? with
  | some name => name = "." || name = ".."
  | none => false

/-- Give an entry another path, in place of what stands there.  A link is moved as such, and a
folder and something else never replace each other. -/
def rename (tree : FileTree) (source target : Path) : Except FileError FileTree := do
  let (here, entry) ← tree.findSelf source
  let there ← tree.locate false (withoutSeparator target)
  if there = [] || here = [] || endsInDots source || endsInDots target then throw .busy
  if !entry.isFolder && endsInSeparator target then throw .notDirectory
  match entry, tree.lookup there with
  | .folder, some .folder =>
    if here = there then return tree
    if here.isPrefixOf there then throw .invalidArgument
    if !(tree.children there).isEmpty then throw .notEmpty
    return tree.move here there
  | .folder, none =>
    if here.isPrefixOf there then throw .invalidArgument
    return tree.move here there
  | .folder, some _ => throw .notDirectory
  | _, some .folder => throw .isDirectory
  | _, _ => return if here = there then tree else tree.move here there

/-- Make a folder. -/
def makeFolder (tree : FileTree) (path : Path) : Except FileError FileTree := do
  let location ← tree.locate false (withoutSeparator path)
  match tree.lookup location with
  | some _ => throw .exists
  | none => return tree.put location .folder

/-- Make a symbolic link. -/
def makeLink (tree : FileTree) (path : Path) (target : String) : Except FileError FileTree := do
  let location ← tree.locate false path
  match tree.lookup location with
  | some _ => throw .exists
  | none => return tree.put location (.link target)

/-- Make a folder and the folders on the way to it, as far as they are missing. -/
def makeFolders (tree : FileTree) (names : List String) : Except FileError FileTree :=
  (List.range names.length).foldlM (fun tree count =>
    let path : Path := ⟨"/".intercalate (names.take (count + 1))⟩
    if tree.isFolder path then .ok tree else tree.makeFolder path) tree

/-- Take away a file or link. -/
def removeFile (tree : FileTree) (path : Path) : Except FileError FileTree := do
  match ← tree.findSelf path with
  | (_, .folder) => throw .isDirectory
  | (location, _) => return tree.erase location

/-- Take away an empty folder. -/
def removeFolder (tree : FileTree) (path : Path) : Except FileError FileTree := do
  match ← tree.findSelf path with
  | (location, .folder) =>
    if (tree.children location).isEmpty then return tree.erase location else throw .notEmpty
  | _ => throw .notDirectory

/-- Take away whatever stands at a path, with all that lies below it. -/
def removeTree (tree : FileTree) (path : Path) : Except FileError FileTree := do
  let (location, _) ← tree.findSelf path
  return tree.erase location

/-! ## Listing a whole tree -/

/-- How an entry shows that it is a folder or a link. -/
def typeMark : Entry → String
  | .folder => "/"
  | .link _ => "@"
  | _ => ""

/-- Everything below a folder, by the path from there, in byte order. -/
def listing (tree : FileTree) (folder : Location) : List String :=
  let below := tree.entries.filterMap fun (place, entry) =>
    if folder.isPrefixOf place && folder.length < place.length then
      some ("/".intercalate (place.drop folder.length) ++ typeMark entry)
    else none
  below.mergeSort (· ≤ ·)

end FileTree

/-! ## Replacing files

A file gets new content in two steps: the content is written aside, to a file beside it, which then
takes its name.  So the file never holds part of the content. -/

/-- The step at which a file was not replaced, with the path that it was about. -/
inductive ReplaceError where
  | write (aside : Path) (error : FileError)
  | rename (target : Path) (error : FileError)
  deriving DecidableEq, Repr

/-- The wording of the error. -/
def ReplaceError.message : ReplaceError → String
  | write aside error => s!"write {aside.text}: {error.message}"
  | rename target error => s!"rename {target.text}: {error.message}"

/-- Where content for a file is written first. -/
def Path.aside (path : Path) : Path :=
  path.withExtension "tmp"

/-- Put content in place of what a file held before, or make the file.  When the file written aside
cannot take the name, it stays. -/
def FileTree.replace (tree : FileTree) (path : Path) (content : Bytes) :
    Except ReplaceError Unit × FileTree :=
  match tree.write path.aside content with
  | .error error => (.error (.write path.aside error), tree)
  | .ok staged =>
    match staged.rename path.aside path with
    | .error error => (.error (.rename path error), staged)
    | .ok replaced => (.ok (), replaced)

end CorpusJudge
