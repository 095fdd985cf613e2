import CorpusJudge.Bytes

/-!
# Shell grammar

The commands of the shell language as trees.  Script text is handled as octets, one character per
byte.  The language has a plain dialect and an extended one, which has lists of values, conditions and
calculations as commands, and further expansions.
-/

namespace CorpusJudge.Shell

/-- A dialect of the shell language. -/
inductive Dialect where
  | plain
  | extended
  deriving DecidableEq

/-- The name of the program that speaks a dialect. -/
def Dialect.program : Dialect → String
  | plain => "sh"
  | extended => "bash"

/-- What an expansion does when its parameter is unset, or with a colon also when it is empty: use
another word, assign it, complain; or use another word exactly when it is set. -/
inductive Fallback where
  | use
  | assign
  | complain
  | replace

/-- Where an expansion replaces what a pattern matches: at the first place, everywhere, or only at the
start or the end. -/
inductive Replacement where
  | first
  | every
  | start
  | finish

/-- How a redirection opens its target. -/
inductive Opening where
  | input
  | output
  | clobber
  | append
  | readWrite
  | duplicate
  | hereText
  | hereWord
  | both (appends : Bool)
  deriving DecidableEq

/-- How a selection goes on behind a branch: not at all, with the next branch in any case, or with the
next branch that matches. -/
inductive BranchEnd where
  | stop
  | next
  | search

mutual

/-- A part of a word; quoted parts are neither split into fields nor matched against files. -/
inductive Part where
  | text (isQuoted : Bool) (characters : List Char)
  | parameter (isQuoted : Bool) (name : String) (treatment : Treatment)
  | output (isQuoted : Bool) (command : Command)
  | arithmetic (isQuoted : Bool) (expression : List Part)
  /-- A variable with some of its elements, or the variable that another one names. -/
  | element (isQuoted isIndirect : Bool) (name : String) (index : Index) (treatment : Treatment)
  /-- The names of variables that begin in some way. -/
  | names (isQuoted isJoined : Bool) (beginning : String)
  /-- The path of a channel to a command. -/
  | channel (isSource : Bool) (command : Command)
  /-- A list of values. -/
  | elements (items : List Item)
  /-- An assignment as a word. -/
  | assigned (assignment : Assignment)

/-- Which elements of a variable are meant: the variable itself, all of them, or one. -/
inductive Index where
  | whole
  | all (isJoined : Bool)
  | at (expression : List Part)

/-- What becomes of a parameter's value. -/
inductive Treatment where
  | plain
  | length
  | fallback (colon : Bool) (kind : Fallback) (word : List Part)
  | strip (fromEnd longest : Bool) (pattern : List Part)
  | slice (offset : List Part) (size : Option (List Part))
  | replace (kind : Replacement) (pattern replacement : List Part)
  | recase (toUpper isEvery : Bool) (pattern : List Part)
  | transform (letter : Char)
  | keys
  | invalid (text : List Char)

/-- A value in a list, perhaps for a place of its own. -/
inductive Item where
  | mk (index : Option (List Part)) (appends : Bool) (value : List Part)

/-- An assignment to a variable or to one of its elements. -/
inductive Assignment where
  | mk (name : String) (index : Option (List Part)) (appends : Bool) (value : List Part)

/-- A command.  The line on which a simple command starts is kept for messages. -/
inductive Command where
  | nothing
  | simple (line : Nat) (assignments : List Assignment) (words : List (List Part))
      (redirections : List Redirection)
  | pipeline (isNegated : Bool) (stages : List Command)
  | andThen (first second : Command)
  | orElse (first second : Command)
  | sequence (first second : Command)
  | background (command : Command)
  | subshell (command : Command)
  | choice (test whenTrue otherwise : Command)
  | loop (untilTrue : Bool) (test body : Command)
  | forEach (line : Nat) (name : String) (words : Option (List (List Part))) (body : Command)
  | select (line : Nat) (word : List Part) (branches : List Branch)
  | define (name : String) (body : Command)
  | redirected (line : Nat) (command : Command) (redirections : List Redirection)
  | condition (line : Nat) (test : Test)
  | calculation (line : Nat) (expression : List Part)
  | counting (line : Nat) (start test step : List Part) (body : Command)
  | menu (line : Nat) (name : String) (words : Option (List (List Part))) (body : Command)
  | timed (isPortable : Bool) (command : Command)
  /-- Commands between braces. -/
  | group (command : Command)
  /-- A command that is executed beside the shell, with channels to it. -/
  | coprocess (name : String) (command : Command)
  /-- A command of a script, on a line, with the text that starts with it. -/
  | spoken (line : Nat) (text : List Char) (command : Command)
  /-- What cannot be read: the complaints about it with their lines. -/
  | unreadable (complaints : List (Nat × String))

/-- A branch of a selection: its patterns, what is executed, and how the selection goes on. -/
inductive Branch where
  | mk (patterns : List (List Part)) (body : Command) (ending : BranchEnd)

/-- A condition of the extended dialect. -/
inductive Test where
  | one (operator : String) (operand : List Part)
  | two (operator : String) (left right : List Part)
  | negation (test : Test)
  | enclosed (test : Test)
  | both (left right : Test)
  | either (left right : Test)

/-- A redirection of a descriptor. -/
inductive Redirection where
  | mk (descriptor : Nat) (opening : Opening) (target : List Part)

end

instance : Inhabited Part := ⟨.text false []⟩

instance : Inhabited Command := ⟨.nothing⟩

/-- A word: parts that stand next to each other. -/
abbrev Word := List Part

end CorpusJudge.Shell

namespace CorpusJudge.Shell.Printing

/-! ## Printing commands

Commands whose words are kept as they are written are shown as text.  Functions are shown as commands that
define them: one command on a line, with the parts of compound commands indented.  Elsewhere the commands of
a list stand next to each other.  A here text stands below the line of the command that reads it. -/

/-- The space in front of the lines of a level. -/
def margin (level : Nat) : Octets := List.replicate (4 * level) ' '

/-- Whether there is nothing to a command. -/
def isNothing : Command → Bool
  | .nothing => true
  | _ => false

/-- A word as it is written. -/
def ofWord (word : Word) : Octets :=
  word.flatMap fun part => match part with
    | .text _ characters => characters
    | _ => []

/-- Words with spaces between them. -/
def ofWords (words : List Word) : Octets := [' '].intercalate (words.map ofWord)

/-- The words of a loop. -/
def ofLoopWords (words : Option (List Word)) : Octets :=
  match words with
  | none => "\"$@\"".toList
  | some words => ofWords words

/-- The values of a list. -/
def ofItems (items : List Item) : Octets :=
  [' '].intercalate (items.map fun item => match item with
    | .mk (some index) appends value =>
      '[' :: ofWord index ++ ']' :: (if appends then ['+', '='] else ['=']) ++ ofWord value
    | .mk none _ value => ofWord value)

/-- An assignment. -/
def ofAssignment : Assignment → Octets
  | .mk name index appends value =>
    let key := match index with
      | some index => '[' :: ofWord index ++ [']']
      | none => []
    let shown := match value with
      | [.elements items] => '(' :: ofItems items ++ [')']
      | word => ofWord word
    name.toList ++ key ++ (if appends then ['+', '='] else ['=']) ++ shown

/-- A redirection; a here text is known by its mark. -/
def ofRedirection : Redirection → Octets
  | .mk descriptor opening target =>
    let number := (toString descriptor).toList
    let isInput := match opening with
      | .input | .readWrite | .hereText | .hereWord => true
      | _ => false
    let shown := if descriptor = (if isInput then 0 else 1) then [] else number
    match opening with
    | .input => shown ++ "< ".toList ++ ofWord target
    | .output => shown ++ "> ".toList ++ ofWord target
    | .clobber => shown ++ ">| ".toList ++ ofWord target
    | .append => shown ++ ">> ".toList ++ ofWord target
    | .readWrite => shown ++ "<> ".toList ++ ofWord target
    | .duplicate =>
      if descriptor = 0 then "0<&".toList ++ ofWord target
      else if target.isEmpty || ofWord target = ['-'] then number ++ ">&-".toList
      else shown ++ ">&".toList ++ ofWord target
    | .hereText => shown ++ "<<".toList ++ ofWord (target.take 1)
    | .hereWord => shown ++ "<<< ".toList ++ ofWord target
    | .both appends => (if appends then "&>> " else "&> ").toList ++ ofWord target

/-- The here texts of redirections with their end marks. -/
def hereTexts (redirections : List Redirection) : List Octets :=
  redirections.filterMap fun redirection => match redirection with
    | .mk _ .hereText (_ :: body) => some (ofWord body)
    | _ => none

/-- Text with here texts below it. -/
def above (text : Octets) (pending : List Octets) : Octets :=
  if pending.isEmpty then text else text ++ '\n' :: pending.flatMap fun body => body ++ ['\n']

/-- Text with a mark that ends a command, unless something else does. -/
def ended (text : Octets) : Octets :=
  if text.getLast?.any fun last => last = '&' || last = '\n' then text else text ++ [';']

/-- How commands are laid out: how deep their lines are indented, whether the commands of a list stand on
lines of their own, and whether another command follows on the same line. -/
structure Layout where
  level : Nat
  isSpread : Bool
  isJoined : Bool := false

/-- A layout for what stands deeper. -/
def Layout.deeper (layout : Layout) (levels : Nat) : Layout :=
  { layout with level := layout.level + levels, isJoined := false }

/-- A layout for what stands in front of something else. -/
def Layout.joined (layout : Layout) : Layout := { layout with isJoined := true }

/-- Text with here texts that wait for the end of its line. -/
abbrev Printed := Octets × List Octets

/-- Text whose line ends unless it is joined with something else. -/
def Layout.close (layout : Layout) (printed : Printed) : Printed :=
  if layout.isJoined then printed else (above printed.1 printed.2, [])

/-- Two commands with a mark between them, behind the here texts of the first one. -/
def connected (mark : String) (first second : Printed) : Printed :=
  let (left, pending) := first
  let between := if pending.isEmpty then [] else above [] pending ++ [' ']
  (left ++ between ++ mark.toList ++ second.1, second.2)

/-- The test of a condition. -/
def ofTest : Test → Octets
  | .one operator operand => operator.toList ++ ' ' :: ofWord operand
  | .two operator left right => ofWord left ++ ' ' :: operator.toList ++ ' ' :: ofWord right
  | .negation test => "! ".toList ++ ofTest test
  | .enclosed test => "( ".toList ++ ofTest test ++ " )".toList
  | .both left right => ofTest left ++ " && ".toList ++ ofTest right
  | .either left right => ofTest left ++ " || ".toList ++ ofTest right

/-- A body between the keywords of a loop. -/
def loopBody (layout : Layout) (body : Printed) : Octets :=
  "do\n".toList ++ margin (layout.level + 1) ++ ended (above body.1 body.2) ++ '\n' ::
    margin layout.level ++ "done".toList

mutual

/-- The branches of a selection. -/
def ofBranches (layout : Layout) : List Branch → Octets
  | [] => []
  | .mk patterns body ending :: rest =>
    let mark := match ending with
      | .stop => ";;"
      | .next => ";&"
      | .search => ";;&"
    let (text, pending) := ofCommand (layout.deeper 2) body
    let text := if isNothing body then [] else margin (layout.level + 2) ++ above text pending
    margin (layout.level + 1) ++ " | ".toList.intercalate (patterns.map ofWord) ++ ")\n".toList ++
      text ++ '\n' :: margin (layout.level + 1) ++ mark.toList ++ '\n' :: ofBranches layout rest

/-- The stages of a pipeline. -/
def ofStages (layout : Layout) : List Command → Printed
  | [] => ([], [])
  | [stage] => ofCommand layout stage
  | stage :: rest =>
    let (text, pending) := ofCommand layout.joined stage
    connected " " (text ++ " |".toList, pending) (ofStages layout rest)

/-- A command. -/
def ofCommand (layout : Layout) : Command → Printed
  | .nothing => ([], [])
  | .unreadable _ => ([], [])
  | .spoken _ _ command => ofCommand layout command
  | .simple _ assignments words redirections =>
    let pieces := assignments.map ofAssignment ++ words.map ofWord ++ redirections.map ofRedirection
    layout.close ([' '].intercalate pieces, hereTexts redirections)
  | .pipeline isNegated stages =>
    let (text, pending) := ofStages layout stages
    ((if isNegated then "! ".toList else []) ++ text, pending)
  | .andThen first second =>
    let (text, pending) := ofCommand layout.joined first
    connected " " (text ++ " &&".toList, pending) (ofCommand layout second)
  | .orElse first second =>
    let (text, pending) := ofCommand layout.joined first
    connected " " (text ++ " ||".toList, pending) (ofCommand layout second)
  | .sequence first second =>
    let (left, pending) := ofCommand layout.joined first
    let isBackground := match first with
      | .background _ => true
      | _ => false
    let (right, waiting) := ofCommand layout second
    let break_ := if layout.isSpread then '\n' :: margin layout.level else [' ']
    let text := if isBackground then left ++ ' ' :: right
      else if pending.isEmpty then ended left ++ break_ ++ right
      else above left pending ++ break_ ++ right
    (text, waiting)
  | .background command =>
    let (text, pending) := ofCommand layout.joined command
    (above (text ++ " &".toList) pending, [])
  | .group command =>
    let (text, pending) := ofCommand (layout.deeper 1) command
    if layout.isSpread then
      ("\x7b \n".toList ++ margin (layout.level + 1) ++ above text pending ++ '\n' ::
        margin layout.level ++ ['\x7d'], [])
    else ("\x7b ".toList ++ ended (above text pending) ++ " \x7d".toList, [])
  | .subshell command =>
    let (text, pending) := ofCommand { layout with isJoined := false } command
    ("( ".toList ++ above text pending ++ " )".toList, [])
  | .choice test whenTrue otherwise =>
    let (tested, first) := ofCommand { layout with isJoined := false } test
    let (text, second) := ofCommand (layout.deeper 1) whenTrue
    let (other, third) := ofCommand (layout.deeper 1) otherwise
    ("if ".toList ++ ended (above tested first) ++ " then\n".toList ++ margin (layout.level + 1) ++
      ended (above text second) ++ '\n' :: margin layout.level ++
      (if isNothing otherwise then []
        else "else\n".toList ++ margin (layout.level + 1) ++ ended (above other third) ++ '\n' ::
          margin layout.level) ++ "fi".toList, [])
  | .loop untilTrue test body =>
    let (tested, pending) := ofCommand { layout with isJoined := false } test
    ((if untilTrue then "until " else "while ").toList ++ ended (above tested pending) ++ ' ' ::
      loopBody layout (ofCommand (layout.deeper 1) body), [])
  | .forEach _ name words body =>
    ("for ".toList ++ name.toList ++ " in ".toList ++ ofLoopWords words ++ ";\n".toList ++
      margin layout.level ++ loopBody layout (ofCommand (layout.deeper 1) body), [])
  | .menu _ name words body =>
    ("select ".toList ++ name.toList ++ " in ".toList ++ ofLoopWords words ++ ";\n".toList ++
      margin layout.level ++ loopBody layout (ofCommand (layout.deeper 1) body), [])
  | .counting _ start test step body =>
    let part (word : Word) : Octets :=
      (ofWord word).dropWhile fun character => character = ' ' || character = '\t'
    ("for ((".toList ++ part start ++ "; ".toList ++ part test ++ "; ".toList ++ part step ++
      "))\n".toList ++ margin layout.level ++
      loopBody layout (ofCommand (layout.deeper 1) body), [])
  | .select _ word branches =>
    ("case ".toList ++ ofWord word ++ " in \n".toList ++ ofBranches layout branches ++
      margin layout.level ++ "esac".toList, [])
  | .define name body =>
    ("function ".toList ++ name.toList ++ " () \n".toList ++ margin layout.level ++
      ofBody ⟨layout.level, true, false⟩ body, [])
  | .redirected _ command redirections =>
    let (text, _) := ofCommand layout command
    layout.close (text ++ redirections.flatMap (fun redirection => ' ' :: ofRedirection redirection),
      hereTexts redirections)
  | .condition _ test => ("[[ ".toList ++ ofTest test ++ " ]]".toList, [])
  | .calculation _ expression => ("((".toList ++ ofWord expression ++ "))".toList, [])
  | .timed isPortable command =>
    let (text, pending) := ofCommand layout command
    ((if isPortable then "time -p " else "time ").toList ++ text, pending)
  | .coprocess name command =>
    let (text, pending) := ofCommand layout command
    ("coproc ".toList ++ name.toList ++ ' ' :: text, pending)

/-- The body of a function between braces, with its redirections behind them. -/
def ofBody (layout : Layout) : Command → Octets
  | .redirected _ (.group command) redirections =>
    let (text, pending) := ofCommand (layout.deeper 1) command
    above ("\x7b \n".toList ++ margin (layout.level + 1) ++ above text pending ++ '\n' ::
      margin layout.level ++ '\x7d' ::
      redirections.flatMap (fun redirection => ' ' :: ofRedirection redirection))
      (hereTexts redirections)
  | .group command =>
    let (text, pending) := ofCommand (layout.deeper 1) command
    "\x7b \n".toList ++ margin (layout.level + 1) ++ above text pending ++ '\n' ::
      margin layout.level ++ ['\x7d']
  | other =>
    let (text, pending) := ofCommand (layout.deeper 1) other
    "\x7b \n".toList ++ margin (layout.level + 1) ++ above text pending ++ '\n' ::
      margin layout.level ++ ['\x7d']

end

/-- A command on its own, with the commands of lists next to each other. -/
def inline (command : Command) : Octets :=
  let (text, pending) := ofCommand ⟨0, false, false⟩ command
  above text pending

/-- A command as it is called while it is executed: loops and selections by their first lines. -/
def headline : Command → Octets
  | .forEach _ name words _ => "for ".toList ++ name.toList ++ " in ".toList ++ ofLoopWords words
  | .menu _ name words _ => "select ".toList ++ name.toList ++ " in ".toList ++ ofLoopWords words
  | .select _ word _ => "case ".toList ++ ofWord word ++ " in ".toList
  | .redirected _ (.forEach line name words body) _ => headline (.forEach line name words body)
  | .redirected _ (.select line word branches) _ => headline (.select line word branches)
  | other => inline other

/-- A function as the command that defines it. -/
def ofFunction (name : String) (body : Command) : Octets :=
  name.toList ++ " () \n".toList ++ ofBody ⟨0, true, false⟩ body ++ ['\n']

end CorpusJudge.Shell.Printing
