import CorpusJudge.Problem.Metadata
import CorpusJudge.Workbench

/-!
# Cached metadata

The metadata of a problem lies in a file in its folder.  It is fetched when that file is not there,
and kept word for word.
-/

namespace CorpusJudge

/-- The content of a cache file, if there is one. -/
def loadCached (files : FileTree) (path : Path) : Except FileError (Option Bytes) :=
  match files.read path with
  | .ok content => .ok (some content)
  | .error .notFound => .ok none
  | .error error => .error error

namespace Problem

variable [Kernel]

/-- Fetch a problem's metadata and keep the answer in its cache file. -/
def fetchAndStore (problem : Problem) (source : Source) : Work (Except FetchError Bytes) := do
  Work.note (.fetching problem.name)
  match source problem.name with
  | .error error => return .error (.request error)
  | .ok content =>
    match ← Work.write problem.metadataPath content with
    | .error error => return .error (.store problem.metadataPath error)
    | .ok () => return .ok content

/-- The document with a problem's metadata, which is fetched if it is not there yet.  Every failure
is noted. -/
def document? (problem : Problem) (source : Source) : Work (Option Bytes) := do
  match loadCached (← Work.files) problem.metadataPath with
  | .ok (some content) => return some content
  | .ok none =>
    match ← problem.fetchAndStore source with
    | .ok content => return some content
    | .error error =>
      Work.note (.fetchFailed problem.name error)
      return none
  | .error error =>
    Work.note (.cacheUnreadable problem.metadataPath error)
    return none

/-- A problem's metadata, if there is some that makes sense. -/
def resolve (problem : Problem) (source : Source) : Work (Option Metadata) := do
  match ← problem.document? source with
  | none => return none
  | some document =>
    match Metadata.ofDocument? document with
    | some metadata => return some metadata
    | none =>
      Work.note (.cacheMalformed problem.name)
      return none

end Problem

end CorpusJudge
