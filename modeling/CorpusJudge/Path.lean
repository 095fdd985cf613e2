import CorpusJudge.Text.Segments

/-!
# Paths

A path is the text under which a file is asked for and shown.  It is never resolved here: these
functions only look at how it is written.
-/

namespace CorpusJudge

/-- A path as it is written. -/
structure Path where
  text : String
  deriving DecidableEq, Repr

namespace Path

/-- Whether the path starts at the root. -/
def isAbsolute (path : Path) : Bool :=
  path.text.toList.head? == some '/'

/-- The path of a component below `base`.  An absolute component replaces the base, and no second
separator is written after one that is there. -/
def join (base : Path) (component : String) : Path :=
  if (Path.mk component).isAbsolute then ⟨component⟩
  else match base.text.toList.getLast? with
    | none => ⟨component⟩
    | some '/' => ⟨base.text ++ component⟩
    | some _ => ⟨base.text ++ "/" ++ component⟩

/-- The segments between separators. -/
def segments (path : Path) : List String :=
  (Text.segments '/' path.text.toList).map String.ofList

/-- Whether a segment adds nothing at the end of a path. -/
def isIdle (segment : String) : Bool :=
  segment = "" || segment = "."

/-- The last segment that says anything and the segments before it, last one first. -/
def lastSegment? (path : Path) : Option (String × List String) :=
  match path.segments.reverse.dropWhile isIdle with
  | [] => none
  | ".." :: _ => none
  | name :: before => some (name, before)

/-- The name of the file that the path leads to; a path that ends in `..` names none. -/
def fileName? (path : Path) : Option String :=
  path.lastSegment?.map (·.1)

/-- A file name up to its last dot.  A dot at the start does not count. -/
def stem (name : String) : String :=
  match (Text.segments '.' name.toList).reverse with
  | _ :: before =>
    let front := Text.joined '.' before.reverse
    if front.isEmpty then name else String.ofList front
  | [] => name

/-- A file name with another extension in place of its last one, if it has one.  The old one is taken
off first: where it is the end of the path and only dots are left then, no name is left to extend. -/
def renamed (name : String) (isEnd : Bool) (ending : String) : String :=
  let front := stem name
  if isEnd && front = "." then ".." else front ++ "." ++ ending

/-- The path with the extension of its file name replaced, or added where there is none.  A path
without a file name stays as it is. -/
def withExtension (path : Path) (ending : String) : Path :=
  match path.lastSegment? with
  | none => path
  | some (name, before) =>
    let last := renamed name (path.segments.getLast? = some name) ending
    ⟨String.ofList (Text.joined '/' ((last.toList :: before.map String.toList).reverse))⟩

end Path

end CorpusJudge
