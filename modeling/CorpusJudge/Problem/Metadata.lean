import CorpusJudge.Answer
import CorpusJudge.Bytes
import CorpusJudge.Json.Reader

/-!
# Problem metadata and where it comes from

What a problem feeds to a program and what it expects back.
-/

namespace CorpusJudge

/-- The texts of a problem's input and expected output. -/
structure Metadata where
  input : String
  output : String
  deriving DecidableEq, Repr

namespace Metadata

/-- Whether there is an output to compare with. -/
def isJudgeable (metadata : Metadata) : Bool :=
  !metadata.output.isEmpty

/-- The bytes that a program is given to read. -/
def inputBytes (metadata : Metadata) : Bytes :=
  Answer.unixBreaks (Bytes.ofString metadata.input)

/-- The bytes that a program is expected to print. -/
def expectedBytes (metadata : Metadata) : Bytes :=
  Answer.unixBreaks (Bytes.ofString metadata.output)

end Metadata

/-! ## Sources of metadata

Metadata that is not there yet is asked for by the problem's name. -/

/-- A request that failed: what was asked for and what came back. -/
structure RequestError where
  url : String
  reason : String
  deriving DecidableEq, Repr

/-- A service that knows metadata: its answer depends on the problem's name alone. -/
abbrev Source := String → Except RequestError Bytes

namespace Source

/-- The address under which a service is asked for a problem; spaces are written as plus signs. -/
def address (base problem : String) : String :=
  base ++ String.ofList (problem.toList.map fun character =>
    if character = ' ' then '+' else character)

/-- A service that never answers. -/
def unreachable (base : String) : Source :=
  fun problem => .error ⟨address base problem, "connection refused"⟩

end Source

end CorpusJudge

namespace CorpusJudge.Metadata

/-! ## Reading problem metadata

Metadata is a JSON object with the members `input` and `output`, or an array of the two in this
order.  What is absent or null is the empty text; other members may hold anything. -/

/-- The text of a member: a string, or nothing at all. -/
def memberText? : Json.Value → Option String
  | .null => some ""
  | .string written => Json.textOf? written
  | _ => none

/-- The text of the only member with a name; the empty text when there is none, and nothing when
there are several. -/
def uniqueText? (members : List (String × Json.Value)) (name : String) : Option String :=
  match members.filter (·.1 = name) with
  | [] => some ""
  | [(_, value)] => memberText? value
  | _ => none

/-- The members of an object under their names, if every name is text. -/
def named? (members : List (List Char × Json.Value)) : Option (List (String × Json.Value)) :=
  members.mapM fun (name, value) => (Json.textOf? name).map (·, value)

/-- The metadata that a JSON value describes. -/
def ofValue? : Json.Value → Option Metadata
  | .object members => do
    let members ← named? members
    return ⟨← uniqueText? members "input", ← uniqueText? members "output"⟩
  | .array [] => some ⟨"", ""⟩
  | .array [input] => (memberText? input).map (⟨·, ""⟩)
  | .array [input, output] => do return ⟨← memberText? input, ← memberText? output⟩
  | _ => none

/-- The metadata that a document describes. -/
def ofDocument? (document : Bytes) : Option Metadata :=
  (Json.read? document).bind ofValue?

end CorpusJudge.Metadata
