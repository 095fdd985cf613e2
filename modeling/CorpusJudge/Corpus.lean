import CorpusJudge.Files.Tree
import CorpusJudge.Settings

/-!
# The corpus

A corpus is a folder with one folder for each problem, in which the solutions lie in a folder of
their own.
-/

namespace CorpusJudge

/-! ## Resuming

A run can start at a given problem: problems whose name comes before it in byte order are passed
over. -/

/-- The name at which a run starts. -/
structure Resume where
  start : String
  deriving DecidableEq, Repr

/-- Whether the run reaches a problem.  Texts compare by code point, which is the order of their
UTF-8 bytes. -/
def Resume.admits (resume : Resume) (problem : String) : Bool :=
  resume.start ≤ problem

/-! ## Problems -/

/-- A problem of the corpus: its name, its folder, and where its solutions and its metadata are. -/
structure Problem where
  name : String
  dir : Path
  solutionsDir : Path
  metadataPath : Path
  deriving DecidableEq, Repr

/-- Why a corpus or a folder of solutions cannot be read. -/
inductive CorpusError where
  | missing (root : Path)
  | unreadable (path : Path) (error : FileError)
  deriving DecidableEq, Repr

/-- The wording of the error. -/
def CorpusError.message : CorpusError → String
  | missing root => s!"corpus root not found: {root.text}"
  | unreadable path error => s!"read {path.text}: {error.message}"

namespace Problem

/-- The problem in a folder, with the configured names inside. -/
def inDir (settings : Settings) (name : String) (dir : Path) : Problem where
  name := name
  dir := dir
  solutionsDir := dir.join settings.solutionsSubdir
  metadataPath := dir.join settings.metadataFile

/-- The problem with a name, in a corpus with some root. -/
def named (settings : Settings) (root : Path) (name : String) : Problem :=
  inDir settings name (root.join name)

/-- The regular files among a problem's solutions, by file name.  Links are not followed. -/
def listSolutions (problem : Problem) (files : FileTree) : Except CorpusError (List Path) :=
  match files.list problem.solutionsDir with
  | .error error => .error (.unreadable problem.solutionsDir error)
  | .ok children =>
    let names := (children.filter fun (_, entry) => entry.isFile).map Prod.fst
    .ok ((names.mergeSort (· ≤ ·)).map problem.solutionsDir.join)

end Problem

namespace Corpus

/-- Whether a name is that of a problem to be looked at: it is not left out, and the run reaches
it. -/
def selects (settings : Settings) (resume : Option Resume) (name : String) : Bool :=
  !settings.exclusions.excludes name && resume.all (·.admits name)

/-- Whether a problem is there: its folder and the one with its solutions. -/
def isThere (files : FileTree) (problem : Problem) : Bool :=
  files.isFolder problem.dir && files.isFolder problem.solutionsDir

/-- The problems of a corpus by name. -/
def scan (settings : Settings) (root : Path) (resume : Option Resume) (files : FileTree) :
    Except CorpusError (List Problem) :=
  if !files.isFolder root then .error (.missing root)
  else
    match files.list root with
    | .error error => .error (.unreadable root error)
    | .ok children =>
      let names := (children.map Prod.fst).mergeSort (· ≤ ·)
      let problems := (names.filter (selects settings resume)).map (Problem.named settings root)
      .ok (problems.filter (isThere files))

end Corpus

end CorpusJudge
