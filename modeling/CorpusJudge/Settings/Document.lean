import CorpusJudge.Instant.Reading
import CorpusJudge.Settings
import CorpusJudge.Yaml.Node.Reader

/-!
# Settings documents

A YAML document states the settings that differ from the built-in ones.  Each member of a mapping
stands at most once, in any order, and none may be unknown; what is not stated keeps its built-in
value, inside nested mappings as well.
-/

namespace CorpusJudge

namespace Yaml.Document

/-- The text of a scalar, however it is written. -/
def text? (document : Document) (node : Node) : Option String :=
  match document.resolve node with
  | .scalar _ _ text => some text
  | _ => none

/-- Whether nothing is written where a node is. -/
def isAbsent : Node → Bool
  | .scalar .plain _ "" => true
  | _ => false

/-- The items of a sequence; what is absent has none. -/
def items? (document : Document) (node : Node) : Option (List Node) :=
  match document.resolve node with
  | .sequence items => some items
  | other => if isAbsent other then some [] else none

/-- The items of a sequence of scalars. -/
def texts? (document : Document) (node : Node) : Option (List String) := do
  (← document.items? node).mapM document.text?

/-- The members of a mapping by name; what is absent has none. -/
def members? (document : Document) (node : Node) : Option (List (String × Node)) :=
  match document.resolve node with
  | .mapping entries => entries.mapM fun (key, value) => (document.text? key).map (·, value)
  | other => if isAbsent other then some [] else none

/-- The text of a scalar that may stand for a number: a plain one, or a literal block that says so
by its tag. -/
def numeral? (document : Document) (node : Node) : Option (List Char) :=
  match document.resolve node with
  | .scalar .plain _ text => some text.toList
  | .scalar .literal (some "tag:yaml.org,2002:int") text => some text.toList
  | _ => none

/-- Whether a row of digits is too long to start with a zero. -/
def hasIdleZero (digits : List Char) : Bool :=
  match digits with
  | '0' :: rest => !rest.isEmpty && rest.all Char.isDigit
  | _ => false

/-- A number without a sign, in hexadecimal, octal, binary or decimal notation. -/
def magnitude? : List Char → Option Nat
  | '0' :: 'x' :: digits => Integer.natural? 16 digits
  | '0' :: 'o' :: digits => Integer.natural? 8 digits
  | '0' :: 'b' :: digits => Integer.natural? 2 digits
  | digits => if hasIdleZero digits then none else Integer.natural? 10 digits

/-- A whole number, with a sign or without. -/
def integerOf? : List Char → Option Int
  | '+' :: digits => (magnitude? digits).map Int.ofNat
  | '-' :: digits => (magnitude? digits).map fun value => -Int.ofNat value
  | digits => (magnitude? digits).map Int.ofNat

/-- A number that is not negative, with a plus sign or without. -/
def naturalOf? : List Char → Option Nat
  | '+' :: digits => magnitude? digits
  | digits => magnitude? digits

/-- A signed 64-bit number. -/
def integer? (document : Document) (node : Node) : Option Int :=
  ((document.numeral? node).bind integerOf?).filter Integer.fits

/-- An unsigned 64-bit number. -/
def natural? (document : Document) (node : Node) : Option Nat :=
  ((document.numeral? node).bind naturalOf?).filter Integer.fitsUnsigned

end Yaml.Document

/-- The members of one mapping of a settings document. -/
abbrev Members := List (String × Yaml.Node)

namespace Members

/-- Whether every member is known and none stands twice. -/
def conformTo (members : Members) (known : List String) : Bool :=
  (members.all fun member => known.contains member.1) && (members.map (·.1)).Nodup

/-- The value of a member, or the one it has when it is not stated. -/
def overlay? {α : Type} (members : Members) (name : String) (builtIn : α)
    (read? : Yaml.Node → Option α) : Option α :=
  match members.lookup name with
  | none => some builtIn
  | some node => read? node

/-- The value of a member that must be stated. -/
def require? {α : Type} (members : Members) (name : String)
    (read? : Yaml.Node → Option α) : Option α :=
  (members.lookup name).bind read?

end Members

namespace Settings

open Yaml (Document Node)

/-- An interpreter command. -/
def interpreterOf? (document : Document) (node : Node) : Option InterpreterCommand := do
  let members ← document.members? node
  guard (Members.conformTo members ["program", "args"])
  let builtIn := InterpreterCommand.standard
  return {
    program := ← Members.overlay? members "program" builtIn.program document.text?
    arguments := ← Members.overlay? members "args" builtIn.arguments document.texts? }

/-- A list of excluded problems. -/
def exclusionsOf? (document : Document) (node : Node) : Option Exclusions := do
  let members ← document.members? node
  guard (Members.conformTo members ["problems", "problems_case_insensitive"])
  let builtIn := Exclusions.standard
  return {
    exact := ← Members.overlay? members "problems" builtIn.exact document.texts?
    caseless := ←
      Members.overlay? members "problems_case_insensitive" builtIn.caseless document.texts? }

/-- A window; all of its members must be stated. -/
def windowOf? (document : Document) (node : Node) : Option Window := do
  let members ← document.members? node
  guard (Members.conformTo members ["author_prefix", "center", "radius_secs"])
  return {
    author := ← Members.require? members "author_prefix" document.text?
    center := ← Members.require? members "center" document.integer?
    radius := ← Members.require? members "radius_secs" document.integer? }

/-- A list of windows. -/
def windowsOf? (document : Document) (node : Node) : Option (List Window) := do
  (← document.items? node).mapM (windowOf? document)

/-- Rules of eligibility. -/
def rulesOf? (document : Document) (node : Node) : Option Rules := do
  let members ← document.members? node
  guard (Members.conformTo members ["min_date", "carve_outs", "rejected_patterns"])
  let builtIn := Rules.standard
  let date? (node : Node) : Option Instant := (document.text? node).bind Instant.ofText?
  return {
    minDate := ← Members.overlay? members "min_date" builtIn.minDate date?
    windows := ← Members.overlay? members "carve_outs" builtIn.windows (windowsOf? document)
    rejected := ← Members.overlay? members "rejected_patterns" builtIn.rejected document.texts? }

/-- The members of a settings document. -/
def memberNames : List String :=
  ["corpus_dir", "solutions_subdir", "metadata_file", "metadata_url", "interpreter",
    "timeout_ms", "exclude", "eligibility"]

/-- The settings that the members of a document state over the built-in ones. -/
def ofMembers? (document : Document) (members : Members) : Option Settings := do
  guard (Members.conformTo members memberNames)
  let builtIn := Settings.standard
  let path? (node : Node) : Option Path := (document.text? node).map Path.mk
  return {
    corpusDir := ← Members.overlay? members "corpus_dir" builtIn.corpusDir path?
    solutionsSubdir := ←
      Members.overlay? members "solutions_subdir" builtIn.solutionsSubdir document.text?
    metadataFile := ← Members.overlay? members "metadata_file" builtIn.metadataFile document.text?
    metadataUrl := ← Members.overlay? members "metadata_url" builtIn.metadataUrl document.text?
    interpreter := ←
      Members.overlay? members "interpreter" builtIn.interpreter (interpreterOf? document)
    timeoutMs := ← Members.overlay? members "timeout_ms" builtIn.timeoutMs document.natural?
    exclusions := ←
      Members.overlay? members "exclude" builtIn.exclusions (exclusionsOf? document)
    rules := ← Members.overlay? members "eligibility" builtIn.rules (rulesOf? document) }

/-- The settings that a document states. -/
def ofDocument? (document : Document) : Option Settings :=
  match document.content with
  | none => some .standard
  | some content => (document.members? content).bind (ofMembers? document)

/-- Why a text gives no settings: it is no settings document, or the settings have a fault. -/
inductive TextError where
  | malformed
  | invalid (fault : Fault)
  deriving DecidableEq, Repr

/-- The settings that a text states, if they can be used. -/
def ofText (text : String) : Except TextError Settings :=
  match (Yaml.readDocument? text).bind ofDocument? with
  | none => .error .malformed
  | some settings =>
    match settings.validate with
    | .error fault => .error (.invalid fault)
    | .ok settings => .ok settings

end Settings

end CorpusJudge
