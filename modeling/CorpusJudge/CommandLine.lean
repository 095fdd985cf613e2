import CorpusJudge.Path
import CorpusJudge.Text.Integer

/-!
# Command lines

The words behind a program's name ask for its help, for its version, or for a run.  They are read
from the left; help and version are given as soon as they are asked for, whatever follows.
-/

namespace CorpusJudge

/-- The run that a command line asks for.  What it leaves open is up to the settings. -/
structure Invocation where
  resumeFrom : Option String
  config : Option Path
  corpus : Option Path
  timeoutMs : Option Nat
  compact : Bool
  jobs : Nat
  listOnly : Bool
  summary : Option Path
  deriving DecidableEq, Repr

/-- What a command line asks for. -/
inductive Request where
  | help
  | version
  | run (invocation : Invocation)
  deriving DecidableEq, Repr

namespace CommandLine

/-- The name of the program. -/
def programName : String := "gsverify"

/-- The version of the program. -/
def programVersion : String := "0.1.0"

/-- An option that has a value. -/
inductive Setting where
  | config
  | corpus
  | timeoutMs
  | jobs
  | summaryJson
  deriving DecidableEq, Repr

/-- An option that is there or not. -/
inductive Switch where
  | compact
  | list
  deriving DecidableEq, Repr

/-- How the option is written. -/
def Setting.name : Setting → String
  | .config => "--config"
  | .corpus => "--corpus"
  | .timeoutMs => "--timeout-ms"
  | .jobs => "--jobs"
  | .summaryJson => "--summary-json"

/-- How the option is written. -/
def Switch.name : Switch → String
  | .compact => "--compact"
  | .list => "--list"

/-- What is wrong with a command line. -/
inductive UsageError where
  | unknownOption (word : String)
  | extraWord (word : String)
  | missingValue (setting : Setting)
  | invalidValue (setting : Setting) (value : String)
  | unexpectedValue (word : String)
  | repeatedSetting (setting : Setting)
  | repeatedSwitch (switch : Switch)
  deriving DecidableEq, Repr

/-- The wording of the error. -/
def UsageError.message : UsageError → String
  | .unknownOption word => s!"unknown option '{word}'"
  | .extraWord word => s!"unexpected argument '{word}'"
  | .missingValue setting => s!"a value is required for '{setting.name}'"
  | .invalidValue setting value => s!"invalid value '{value}' for '{setting.name}'"
  | .unexpectedValue word => s!"no value is allowed in '{word}'"
  | .repeatedSetting setting => s!"'{setting.name}' cannot be used multiple times"
  | .repeatedSwitch switch => s!"'{switch.name}' cannot be used multiple times"

/-! ## Words -/

/-- What a word is by itself. -/
inductive Word where
  | separator
  | help
  | version
  | switch (switch : Switch)
  | setting (setting : Setting) (value : Option String)
  | overfull
  | unknown
  | plain
  deriving DecidableEq, Repr

/-- An option that takes no value, given what is written behind an equality sign. -/
def Word.withoutValue (word : Word) (value : Option String) : Word :=
  if value.isSome then .overfull else word

/-- The option with a long name, and the value that is attached to it. -/
def Word.ofLongName (name : String) (value : Option String) : Word :=
  match name with
  | "config" => .setting .config value
  | "corpus" => .setting .corpus value
  | "timeout-ms" => .setting .timeoutMs value
  | "jobs" => .setting .jobs value
  | "summary-json" => .setting .summaryJson value
  | "compact" => Word.withoutValue (.switch .compact) value
  | "list" => Word.withoutValue (.switch .list) value
  | "help" => Word.withoutValue .help value
  | "version" => Word.withoutValue .version value
  | _ => .unknown

/-- What a word is.  A single dash is no option. -/
def Word.ofText (text : String) : Word :=
  match text.toList with
  | ['-', '-'] => .separator
  | '-' :: '-' :: long =>
    let (name, rest) := long.span (· ≠ '=')
    Word.ofLongName (String.ofList name)
      (if rest.isEmpty then none else some (String.ofList rest.tail))
  | '-' :: 'h' :: _ => .help
  | '-' :: 'V' :: _ => .version
  | '-' :: _ :: _ => .unknown
  | _ => .plain

/-! ## Reading -/

/-- What has been asked for so far. -/
structure Draft where
  resumeFrom : Option String
  config : Option Path
  corpus : Option Path
  timeoutMs : Option Nat
  compact : Bool
  jobs : Option Nat
  listOnly : Bool
  summary : Option Path
  deriving DecidableEq, Repr

namespace Draft

/-- Nothing has been asked for. -/
def empty : Draft := ⟨none, none, none, none, false, none, false, none⟩

/-- The run that has been asked for.  One job is enough where no number is given. -/
def invocation (draft : Draft) : Invocation where
  resumeFrom := draft.resumeFrom
  config := draft.config
  corpus := draft.corpus
  timeoutMs := draft.timeoutMs
  compact := draft.compact
  jobs := draft.jobs.getD 1
  listOnly := draft.listOnly
  summary := draft.summary

/-- Turn a switch on. -/
def turnOn (draft : Draft) : Switch → Except UsageError Draft
  | .compact =>
    if draft.compact then .error (.repeatedSwitch .compact) else .ok { draft with compact := true }
  | .list =>
    if draft.listOnly then .error (.repeatedSwitch .list) else .ok { draft with listOnly := true }

/-- A path as the value of an option that has none yet. -/
def pathFor (setting : Setting) (value : String) (old : Option Path) : Except UsageError Path :=
  if old.isSome then .error (.repeatedSetting setting)
  else if value.isEmpty then .error (.invalidValue setting value)
  else .ok ⟨value⟩

/-- A number as the value of an option that has none yet. -/
def numberFor (setting : Setting) (value : String) (old : Option Nat) : Except UsageError Nat :=
  if old.isSome then .error (.repeatedSetting setting)
  else match Integer.readUnsigned? value.toList with
    | some number => .ok number
    | none => .error (.invalidValue setting value)

/-- Give an option its value. -/
def fill (draft : Draft) (setting : Setting) (value : String) : Except UsageError Draft := do
  match setting with
  | .config => return { draft with config := some (← pathFor setting value draft.config) }
  | .corpus => return { draft with corpus := some (← pathFor setting value draft.corpus) }
  | .timeoutMs =>
    return { draft with timeoutMs := some (← numberFor setting value draft.timeoutMs) }
  | .jobs => return { draft with jobs := some (← numberFor setting value draft.jobs) }
  | .summaryJson => return { draft with summary := some (← pathFor setting value draft.summary) }

/-- Resume at a problem. -/
def resumeAt (draft : Draft) (name : String) : Except UsageError Draft :=
  if draft.resumeFrom.isSome then .error (.extraWord name)
  else .ok { draft with resumeFrom := some name }

end Draft

/-- Read the words from some point on. -/
def readFrom (draft : Draft) : List String → Except UsageError Request
  | [] => .ok (.run draft.invocation)
  | text :: rest =>
    match Word.ofText text with
    | .separator => do return .run (← rest.foldlM Draft.resumeAt draft).invocation
    | .help => .ok .help
    | .version => .ok .version
    | .plain => do readFrom (← draft.resumeAt text) rest
    | .switch switch => do readFrom (← draft.turnOn switch) rest
    | .setting setting (some value) => do readFrom (← draft.fill setting value) rest
    | .setting setting none =>
      match rest with
      | [] => .error (.missingValue setting)
      | value :: rest =>
        if Word.ofText value = .plain then do readFrom (← draft.fill setting value) rest
        else .error (.missingValue setting)
    | .overfull => .error (.unexpectedValue text)
    | .unknown => .error (.unknownOption text)

/-- Read a command line. -/
def read (words : List String) : Except UsageError Request :=
  readFrom .empty words

/-! ## Help -/

/-- How help is emphasized: what stands before a heading, before a word that is typed as it is
shown, and behind either. -/
structure Emphasis where
  heading : String
  literal : String
  plain : String
  deriving DecidableEq, Repr

/-- No emphasis at all. -/
def Emphasis.none : Emphasis := ⟨"", "", ""⟩

/-- The emphasis of a terminal: headings are bold and underlined, words to be typed are bold. -/
def Emphasis.terminal : Emphasis := ⟨"\x1b[1m\x1b[4m", "\x1b[1m", "\x1b[0m"⟩

/-- The help on the program. -/
def helpText (emphasis : Emphasis) : String :=
  let heading (text : String) : String := emphasis.heading ++ text ++ emphasis.plain
  let typed (text : String) : String := emphasis.literal ++ text ++ emphasis.plain
  String.join <| [
    heading "Usage:" ++ " " ++ typed "gsverify" ++ " [OPTIONS] [RESUME_FROM]",
    "",
    heading "Arguments:",
    "  [RESUME_FROM]  Skip problems whose name sorts before this one",
    "",
    heading "Options:",
    "      " ++ typed "--config" ++ " <CONFIG>              ",
    "      " ++ typed "--corpus" ++ " <CORPUS>              ",
    "      " ++ typed "--timeout-ms" ++ " <TIMEOUT_MS>      ",
    "      " ++ typed "--compact" ++ "                      Overwrite consecutive PASS lines in place",
    "      " ++ typed "--jobs" ++ " <JOBS>                  [default: 1]",
    "      " ++ typed "--list" ++ "                         ",
    "      " ++ typed "--summary-json" ++ " <SUMMARY_JSON>  ",
    "  " ++ typed "-h" ++ ", " ++ typed "--help" ++ "                         Print help",
    "  " ++ typed "-V" ++ ", " ++ typed "--version" ++ "                      Print version"].map
      (· ++ "\n")

/-- The line that tells the version. -/
def versionText : String :=
  programName ++ " " ++ programVersion ++ "\n"

end CommandLine

end CorpusJudge
