import CorpusJudge.Emulator.Tool.Edit.Script
import CorpusJudge.Emulator.Tool.Job

/-!
# Editing lines

An editor goes through a script for each line.  A command may ask for the next line, or depend on
whether there is one; then the editor stops there and goes on when it knows.
-/

namespace CorpusJudge.Edit

/-- How an editor works: whether it shows lines only when told to, whether it takes each source for
itself, the mark at the ends of lines, the width of listed lines, and how files are edited in place,
with the ending for copies. -/
structure Plan where
  commands : Array Command
  isQuiet : Bool
  isSeparate : Bool
  mark : Char
  width : Nat
  inPlace : Option Octets
  files : List (Octets × Nat)
  environment : List (String × Octets)

/-- Where an editor is: between two lines, inside the script, or there with a command that waits for
the next line, for more of the text, or for the output of a program. -/
inductive Phase where
  | between
  | inside
  | atNext
  | atMore
  | executing (shows : Bool)
  deriving DecidableEq

/-- What is shown behind a line: a text, a file, or a line of a file. -/
inductive Appendix where
  | text (text : Octets)
  | file (path : Octets)
  | fileLine (path : Octets) (number : Nat)

/-- An editor at work. -/
structure Editor where
  plan : Plan
  name : Octets := []
  number : Nat := 0
  text : Octets := []
  isWhole : Bool := true
  kept : Octets := []
  place : Nat := 0
  phase : Phase := .between
  isLast : Option Bool := none
  ranges : List (Nat × Option Nat) := []
  passed : List Nat := []
  appendices : List Appendix := []
  hasChanged : Bool := false
  lastRegex : Option Regex := none
  linesRead : List (Octets × Nat) := []
  lacksBreak : Bool := false
  collected : List Octets := []
  outgoing : Outgoing := {}
  want : Want := .line

/-- What an editor does. -/
abbrev Editing (α : Type) := StateM Editor α

namespace Editing

/-- Show a text as it is. -/
def say (text : Octets) : Editing Unit :=
  modify fun editor =>
    let text := if editor.lacksBreak && !text.isEmpty then '\n' :: text else text
    let lacksBreak := editor.lacksBreak && text.isEmpty
    if editor.plan.inPlace.isSome then
      { editor with collected := text :: editor.collected, lacksBreak := lacksBreak }
    else { editor with outgoing := editor.outgoing.say text, lacksBreak := lacksBreak }

/-- Add a job. -/
def add (job : Job) : Editing Unit :=
  modify fun editor => { editor with outgoing := editor.outgoing.add job }

/-- Show a line. -/
def showLine (text : Octets) : Editing Unit := do
  let editor ← get
  say (text ++ if editor.isWhole then [editor.plan.mark] else [])
  if !editor.isWhole then modify fun editor => { editor with lacksBreak := true }

/-- Show what belongs behind the line. -/
def showAppendices : Editing Unit := do
  let editor ← get
  set { editor with appendices := [] }
  for appendix in editor.appendices.reverse do
    match appendix with
    | .text text => say text
    | .file path =>
      if (← get).lacksBreak then say ['\n']
      add <| .look fun facts =>
        [.emit 1 ((facts.files.read ⟨String.ofList path⟩).toOption.getD [])]
    | .fileLine path number =>
      add <| .look fun facts =>
        let content := Bytes.octets ((facts.files.read ⟨String.ofList path⟩).toOption.getD [])
        match (Text.segments '\n' content)[number]? with
        | some line => if line.isEmpty then [] else [.emit 1 (Bytes.ofOctets (line ++ ['\n']))]
        | none => []

/-- End the work on a line. -/
def endLine (shows : Bool) : Editing Unit := do
  let editor ← get
  if shows && !editor.plan.isQuiet then showLine editor.text
  showAppendices
  modify fun editor => { editor with phase := .between, want := .line, place := 0 }

/-- End altogether. -/
def quit (shows : Bool) (status : Nat) : Editing Unit := do
  endLine shows
  add (.finish status)
  modify fun editor => { editor with want := .nothing }

/-- Write a line to a file. -/
def writeTo (path text : Octets) : Editing Unit := do
  let editor ← get
  let line := text ++ if editor.isWhole then [editor.plan.mark] else []
  match editor.plan.files.lookup path with
  | some 1 => showLine text
  | some descriptor => add (.emit descriptor (Bytes.ofOctets line))
  | none => pure ()

/-- The expression that is meant where one may be left out; without any, the editor gives up. -/
def expression? (regex : Option Regex) : Editing (Option Regex) := do
  match regex.or (← get).lastRegex with
  | some regex =>
    modify fun editor => { editor with lastRegex := some regex }
    return some regex
  | none =>
    add (.complain "sed" "-e expression #1, char 0: no previous regular expression".toList)
    quit false 1
    return none

/-- Whether a line is at an address. -/
def isAt (address : Address) : Editing Bool := do
  let editor ← get
  match address with
  | .line number => return editor.number = number
  | .step first step => return first ≤ editor.number && (editor.number - first) % step = 0
  | .last => return editor.isLast.getD false
  | .matching regex foldsCase isByLine =>
    match ← expression? regex with
    | some regex => return !(regex.all foldsCase isByLine editor.text).isEmpty
    | none => return false
  | _ => return false

/-- Enter a range at its first line. -/
def enter (place : Nat) (bound : Address) : Editing Unit := do
  let number := (← get).number
  let finish := match bound with
    | .line finish => some finish
    | .plus count => some (number + count)
    | .multiple step => some (if step = 0 then number else (number + step - 1) / step * step)
    | _ => none
  if finish.all (number < ·) then
    modify fun editor => { editor with ranges := (place, finish) :: editor.ranges }
  else
    modify fun editor => { editor with passed := place :: editor.passed }

/-- Leave a range. -/
def leave (place : Nat) : Editing Unit :=
  modify fun editor =>
    { editor with
      ranges := editor.ranges.filter fun (other, _) => other ≠ place
      passed := place :: editor.passed }

/-- Whether the line is one of those that a command is for. -/
def selects (place : Nat) (command : Command) : Editing Bool := do
  match command.first, command.last with
  | none, _ => return true
  | some first, none => isAt first
  | some first, some bound =>
    let editor ← get
    match editor.ranges.lookup place with
    | some (some finish) =>
      if finish ≤ editor.number then leave place
      return editor.number ≤ finish
    | some none =>
      if ← isAt bound then leave place
      return true
    | none =>
      match first with
      | .line 0 =>
        if editor.passed.contains place then return false
        if ← isAt bound then leave place
        else modify fun editor => { editor with ranges := (place, none) :: editor.ranges }
        return true
      | _ =>
        if ← isAt first then
          enter place bound
          return true
        return false

/-! ## Replacing -/

/-- A character in another case. -/
def recased (letter : Char) (character : Char) : Char :=
  if letter = 'L' || letter = 'l' then character.toLower
  else if letter = 'U' || letter = 'u' then character.toUpper
  else character

/-- A text in the case that is asked for: of its first character, and of the others.  The result
tells what is asked for of the first character behind it. -/
def cased (once : Option Char) (always : Char) (text : Octets) : Octets × Option Char :=
  match text with
  | [] => ([], once)
  | first :: rest =>
    ((match once with
      | some letter => recased letter first
      | none => recased always first) :: rest.map (recased always), none)

/-- What stands in for a match. -/
def replaced (found : Regex.Match) (parts : List Replacement) : Octets :=
  let step (state : List Octets × Option Char × Char) (part : Replacement) :
      List Octets × Option Char × Char :=
    let (done, once, always) := state
    match part with
    | .change letter =>
      if letter = 'l' || letter = 'u' then (done, some letter, always) else (done, none, letter)
    | .text text =>
      let (text, once) := cased once always text
      (text :: done, once, always)
    | .group number =>
      let held := if number = 0 then found.held else (found.groups.lookup number).getD []
      let (text, once) := cased once always held
      (text :: done, once, always)
  (parts.foldl step ([], none, 'E')).1.reverse.flatten

/-- A text with the chosen ones of its matches replaced. -/
def substituted (substitution : Substitution) (found : List Regex.Match) (text : Octets) : Octets :=
  let chosen := found.drop (substitution.first - 1)
  let chosen := if substitution.isGlobal then chosen else chosen.take 1
  let (pieces, rest, _) := chosen.foldl (fun (pieces, rest, place) found =>
    let before := rest.take (found.start - place)
    (replaced found substitution.replacement :: before :: pieces,
      rest.drop (found.finish - place), found.finish)) (([] : List Octets), text, 0)
  pieces.reverse.flatten ++ rest

/-! ## Listing -/

/-- How a character is listed. -/
def listedCharacter (character : Char) : Octets :=
  match character with
  | '\\' => "\\\\".toList
  | '\x07' => "\\a".toList
  | '\x08' => "\\b".toList
  | '\x0c' => "\\f".toList
  | '\n' => "\\n".toList
  | '\r' => "\\r".toList
  | '\t' => "\\t".toList
  | '\x0b' => "\\v".toList
  | _ =>
    if ' ' ≤ character && character ≤ '~' then [character]
    else
      let digits := Nat.toDigits 8 character.toNat
      '\\' :: List.replicate (3 - digits.length) '0' ++ digits

/-- A text so that all of it can be seen, broken into lines of a width. -/
def listed (width : Nat) (text : Octets) : Octets :=
  let (lines, _) := text.foldl (fun (done, column) character =>
    let shown := listedCharacter character
    if 0 < width && width - 1 < column + shown.length then
      (shown :: "\\\n".toList :: done, shown.length)
    else (shown :: done, column + shown.length)) (([] : List Octets), 0)
  lines.reverse.flatten ++ ['$', '\n']

/-! ## Commands -/

/-- Go on behind a command. -/
def onward : Editing Unit :=
  modify fun editor => { editor with place := editor.place + 1 }

/-- Go on at a label, or at the end of the script. -/
def jumpTo (target : Option Octets) : Editing Unit :=
  modify fun editor =>
    let commands := editor.plan.commands
    let place := match target with
      | none => commands.size
      | some name => (commands.findIdx? fun command => match command.act with
          | .label other => other = name
          | _ => false).getD commands.size
    { editor with place := place }

/-- Have a program executed whose output is taken up. -/
def execute (command : Octets) (shows : Bool) : Editing Unit := do
  add .flush
  add <| .launch
    { command := ["sh".toList, "-c".toList, command]
      environment := (← get).plan.environment
      isGathered := true } fun outcome => [.tell (.text (some outcome.output))]
  modify fun editor => { editor with phase := .executing shows, want := .answer }

/-- Replace matches. -/
def substitute (substitution : Substitution) : Editing Unit := do
  onward
  let some regex ← expression? substitution.regex | return
  let text := (← get).text
  let found := regex.all substitution.foldsCase substitution.isByLine text
  if found.length < substitution.first then return
  let text := substituted substitution found text
  modify fun editor => { editor with text := text, hasChanged := true }
  if substitution.executes then execute text false
  if substitution.shows then showLine text
  if let some path := substitution.file then writeTo path text

/-- Carry out a command that is for the line. -/
def carryOut (act : Act) : Editing Unit := do
  let editor ← get
  match act with
  | .block _ => onward
  | .nothing => onward
  | .label _ => onward
  | .showNumber =>
    say ((toString editor.number).toList ++ ['\n'])
    onward
  | .append text =>
    set { editor with appendices := .text text :: editor.appendices }
    onward
  | .insert text =>
    say text
    onward
  | .replace text =>
    let command := editor.plan.commands[editor.place]?
    let isInside := (editor.ranges.lookup editor.place).isSome &&
      !(command.any Command.isNegated)
    if !isInside then say text
    endLine false
  | .jump target => jumpTo target
  | .jumpIfChanged target =>
    if editor.hasChanged then
      set { editor with hasChanged := false }
      jumpTo target
    else onward
  | .jumpUnlessChanged target =>
    if editor.hasChanged then
      set { editor with hasChanged := false }
      onward
    else jumpTo target
  | .delete => endLine false
  | .deleteFirst =>
    match editor.text.span (· ≠ '\n') with
    | (_, _ :: rest) =>
      showAppendices
      modify fun editor => { editor with text := rest, place := 0 }
    | (_, []) => endLine false
  | .execute command =>
    onward
    if command.isEmpty then execute editor.text false else execute command true
  | .showName =>
    say ((if editor.name.isEmpty then ['-'] else editor.name) ++ ['\n'])
    onward
  | .take =>
    set { editor with text := editor.kept }
    onward
  | .takeMore =>
    set { editor with text := editor.text ++ '\n' :: editor.kept }
    onward
  | .keep =>
    set { editor with kept := editor.text }
    onward
  | .keepMore =>
    set { editor with kept := editor.kept ++ '\n' :: editor.text }
    onward
  | .exchange =>
    set { editor with text := editor.kept, kept := editor.text }
    onward
  | .list width =>
    say (listed (width.getD editor.plan.width) editor.text)
    onward
  | .next =>
    if editor.isLast = some true then quit true 0
    else
      if !editor.plan.isQuiet then showLine editor.text
      showAppendices
      onward
      modify fun editor => { editor with phase := .atNext, want := .line }
  | .nextMore =>
    if editor.isLast = some true then quit true 0
    else
      showAppendices
      onward
      modify fun editor => { editor with phase := .atMore, want := .line }
  | .show =>
    showLine editor.text
    onward
  | .showFirst =>
    say (editor.text.takeWhile (· ≠ '\n') ++ ['\n'])
    onward
  | .quit status => quit true status
  | .quitSilently status =>
    add (.finish status)
    modify fun editor => { editor with want := .nothing, phase := .between }
  | .readFile path =>
    set { editor with appendices := .file path :: editor.appendices }
    onward
  | .readLine path =>
    let number := (editor.linesRead.lookup path).getD 0
    set { editor with
      appendices := .fileLine path number :: editor.appendices
      linesRead := (path, number + 1) :: editor.linesRead.filter fun (other, _) => other ≠ path }
    onward
  | .substitute substitution => substitute substitution
  | .write path =>
    writeTo path editor.text
    onward
  | .writeFirst path =>
    writeTo path (editor.text.takeWhile (· ≠ '\n'))
    onward
  | .translate pairs =>
    set { editor with
      text := editor.text.map fun character => (pairs.lookup character).getD character }
    onward
  | .clear =>
    set { editor with text := [] }
    onward

/-- Whether a command depends on whether there is a next line. -/
def looksAhead (command : Command) : Bool :=
  let isLast (address : Option Address) : Bool := match address with
    | some .last => true
    | _ => false
  isLast command.first || isLast command.last || match command.act with
    | .next => true
    | .nextMore => true
    | _ => false

/-- Go through the script until something is wanted. -/
def advance : Nat → Editing Unit
  | 0 => do
    add .proceed
    modify fun editor => { editor with want := .answer }
  | fuel + 1 => do
    let editor ← get
    match editor.plan.commands[editor.place]? with
    | none => endLine true
    | some command =>
      if looksAhead command && editor.isLast.isNone then
        set { editor with want := .lookahead }
      else
        let isSelected ← selects editor.place command
        if (← get).want = .nothing then return
        if isSelected != command.isNegated then carryOut command.act
        else match command.act with
          | .block finish => modify fun editor => { editor with place := finish }
          | _ => onward
        let after ← get
        if after.phase = .inside && after.want = .line then advance fuel

/-- How many commands an editor carries out without a break. -/
def stride : Nat := 5000

/-- Go on with the script. -/
def goOn : Editing Unit := do
  modify fun editor => { editor with phase := .inside, want := .line }
  advance stride

end Editing

namespace Editor

/-- Do something, and take the jobs that it comes to. -/
def perform (editor : Editor) (editing : Editing Unit) : Editor × Outgoing :=
  let (_, after) := (editing.run { editor with outgoing := {} })
  ({ after with outgoing := {} }, after.outgoing)

/-- Take in a line. -/
def line (editor : Editor) (text : Octets) (isWhole : Bool) : Editor × Outgoing :=
  let read := { editor with number := editor.number + 1, isWhole := isWhole, isLast := none }
  let begun := match editor.phase with
    | .atNext => { read with text := text }
    | .atMore => { read with text := editor.text ++ '\n' :: text }
    | _ => { read with text := text, place := 0, hasChanged := false }
  begun.perform Editing.goOn

/-- Learn whether there is another line. -/
def told (editor : Editor) (hasMore : Bool) : Editor × Outgoing :=
  { editor with isLast := some !hasMore }.perform Editing.goOn

/-- Go on, with the output of a program if one was executed. -/
def answered (editor : Editor) (output : Octets) : Editor × Outgoing :=
  match editor.phase with
  | .executing true =>
    editor.perform do
      Editing.say output
      Editing.goOn
  | .executing false =>
    let text := if output.getLast? = some '\n' then output.dropLast else output
    { editor with text := text }.perform Editing.goOn
  | _ => editor.perform Editing.goOn

/-- Start with a source. -/
def opened (editor : Editor) (name : Octets) : Editor :=
  let fresh := { editor with name := name }
  if editor.plan.isSeparate then { fresh with number := 0, passed := [] } else fresh

/-- Finish with a source: what was edited in place is written back. -/
def closed (editor : Editor) : Editor × List Job :=
  match editor.plan.inPlace with
  | none => (editor, [])
  | some ending =>
    let path : Path := ⟨String.ofList editor.name⟩
    let content := Bytes.ofOctets editor.collected.reverse.flatten
    let copy : Path := ⟨String.ofList <|
      if ending.contains '*' then ending.flatMap fun character =>
        if character = '*' then editor.name else [character]
      else editor.name ++ ending⟩
    ({ editor with collected := [], lacksBreak := false },
      [.change fun files =>
        let files := if ending.isEmpty then files
          else match files.read path with
            | .ok old => (files.write copy old).toOption.getD files
            | .error _ => files
        { files := (files.write path content).toOption.getD files }])

end Editor

end CorpusJudge.Edit
