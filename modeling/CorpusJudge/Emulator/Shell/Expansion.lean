import CorpusJudge.Files.Tree
import CorpusJudge.Emulator.Shell.Arithmetic
import CorpusJudge.Emulator.Shell.Braces
import CorpusJudge.Emulator.Shell.Calculation
import CorpusJudge.Emulator.Shell.Pattern
import CorpusJudge.Emulator.Shell.Quotation
import CorpusJudge.Emulator.Shell.State
import CorpusJudge.Text.Utf8

/-!
# Word expansion

Words become fields.  An expansion runs from the beginning with the outputs of the command
substitutions that are known so far; when it needs one more, it stops and says which command to
execute.  So expanding is a function of the shell and these outputs.
-/

namespace CorpusJudge.Shell

/-- A character of an expanded word, or a mark between characters. -/
inductive Glyph where
  /-- A character of the script. -/
  | plain (character : Char)
  /-- A quoted character. -/
  | quoted (character : Char)
  /-- A character of an unquoted expansion, where fields may be split. -/
  | result (character : Char)
  /-- Quotes, which make a field even when nothing is in them. -/
  | presence
  /-- An expansion that takes a field with nothing else in it away. -/
  | absence
  /-- The end of one field and the start of another. -/
  | boundary

/-- Why an expansion stops: it needs the output of a command or a channel to one, which sees the variables
as they are there, the shell has to end, or the line is given up. -/
inductive Interruption where
  | needs (command : Command) (vars : Variables)
  | needsChannel (isSource : Bool) (command : Command) (vars : Variables)
  | failure (message : String)
  | line (message : String)

/-- Where an expansion stands: the shell, the outputs that were not used so far, what has been complained
about, latest first, the conditions that were looked at, latest first, and whether the result is one
text. -/
structure Expander where
  shell : State
  outputs : List Octets
  complaints : List String := []
  shown : List (List Octets) := []
  isWhole : Bool := false

/-- A step of an expansion. -/
abbrev Expand (α : Type) := StateT Expander (Except Interruption) α

namespace Expand

/-- Stop with a complaint that ends the shell. -/
def fail {α : Type} (message : String) : Expand α := throw (.failure message)

/-- Stop with a complaint that ends the line. -/
def giveUp {α : Type} (message : String) : Expand α := throw (.line message)

/-- Complain and go on. -/
def complain (message : String) : Expand Unit :=
  modify fun expander => { expander with complaints := message :: expander.complaints }

/-- Whether the shell speaks the extended dialect. -/
def isExtended : Expand Bool := return (← get).shell.isExtended

/-- Set a variable. -/
def assign (name : String) (value : Octets) : Expand Unit := do
  if (← get).shell.vars.isReadOnly name then
    if ← isExtended then giveUp s!"{name}: readonly variable" else fail s!"{name}: is read only"
  modify fun expander => { expander with shell := expander.shell.assign name value }

/-- Use what can be evaluated in view of the shell, which it may change. -/
def evaluating {α : Type} (evaluation : State → Except Mishap (α × State)) : Expand α := do
  match evaluation (← get).shell with
  | .ok (result, shell) =>
    modify fun expander => { expander with shell := shell }
    return result
  | .error (.line message) => giveUp message
  | .error (.fatal message) => fail message

/-- The next output, if there is one. -/
def next? : Expand (Option Octets) := do
  match (← get).outputs with
  | [] => return none
  | output :: rest =>
    modify fun expander => { expander with outputs := rest }
    return some output

/-- The output of a command, without the line breaks at its end. -/
def output (command : Command) : Expand Octets := do
  match ← next? with
  | none => throw (.needs command (← get).shell.vars)
  | some output => return (output.reverse.dropWhile (· = '\n')).reverse

/-- The path of a channel to a command. -/
def channel (isSource : Bool) (command : Command) : Expand Octets := do
  match ← next? with
  | none => throw (.needsChannel isSource command (← get).shell.vars)
  | some path => return path

/-- Do something for which the result is one text. -/
def asWhole {α : Type} (step : Expand α) : Expand α := do
  let before := (← get).isWhole
  modify fun expander => { expander with isWhole := true }
  let result ← step
  modify fun expander => { expander with isWhole := before }
  return result

end Expand

/-- The character that joins fields to one text. -/
def State.joint (shell : State) : Octets :=
  match shell.vars.value? "IFS" with
  | some characters => characters.take 1
  | none => [' ']

/-- The text of glyphs, without splitting. -/
def textOf (glyphs : List Glyph) : Octets :=
  glyphs.filterMap fun glyph => match glyph with
    | .plain character => some character
    | .quoted character => some character
    | .result character => some character
    | .boundary => some ' '
    | _ => none

/-- The pattern of glyphs, in which quoted characters stand for themselves. -/
def patternOf (glyphs : List Glyph) : List Marked :=
  glyphs.filterMap fun glyph => match glyph with
    | .plain character => some (character, true)
    | .quoted character => some (character, false)
    | .result character => some (character, true)
    | .boundary => some (' ', false)
    | _ => none

/-- The glyphs of a value. -/
def glyphsOf (isQuoted : Bool) (value : Octets) : List Glyph :=
  value.map fun character => if isQuoted then .quoted character else .result character

/-- The glyphs of a list of values. -/
def listGlyphs (isQuoted isJoined : Bool) (values : List Octets) : Expand (List Glyph) := do
  let expander ← get
  let shell := expander.shell
  if isQuoted && isJoined then return glyphsOf true (shell.joint.intercalate values)
  else if isQuoted then
    if values.isEmpty then return [.absence]
    return [Glyph.boundary].intercalate
      (values.map fun value => .presence :: glyphsOf true value)
  else if isJoined && expander.isWhole && shell.isExtended then
    return glyphsOf false (shell.joint.intercalate values)
  else return [Glyph.boundary].intercalate (values.map (glyphsOf false))

/-- The number that an arithmetic expression has, after its assignments. -/
def evaluate (text : Octets) : Expand Octets := do
  if ← Expand.isExtended then
    let value ← Expand.evaluating (·.calculate text)
    return (toString value).toList
  let vars := (← get).shell.vars
  let value := do (← Formula.read text).value vars.value?
  match value with
  | .ok (value, _, made) =>
    for (name, value) in made do
      Expand.assign name (toString value).toList
    return (toString value).toList
  | .error (.malformed reason) =>
    Expand.fail s!"arithmetic expression: {reason}: \"{String.ofList text}\""
  | .error (.illegalNumber text) =>
    Expand.fail s!"Illegal number: {String.ofList text}"

/-- The number that an expression of the extended dialect has. -/
def evaluateNumber (text : Octets) : Expand Int :=
  Expand.evaluating (·.calculate text)

/-! ## What expansions are about -/

/-- What an expansion is about: one value, if it is set, or a list of values. -/
inductive Subject where
  | one (value : Option Octets)
  | list (isJoined : Bool) (values : List Octets)

namespace Subject

/-- Whether there is a value, and with a colon one that is not empty. -/
def isSet (subject : Subject) (colon : Bool) : Bool :=
  match subject with
  | one value => value.any fun value => !(colon && value.isEmpty)
  | list _ values => !values.isEmpty && !(colon && values.length = 1 && values.all List.isEmpty)

/-- The glyphs of what an expansion is about. -/
def glyphs (subject : Subject) (isQuoted : Bool) : Expand (List Glyph) :=
  match subject with
  | one value => return glyphsOf isQuoted (value.getD [])
  | list isJoined values => listGlyphs isQuoted isJoined values

/-- The glyphs after each value has been changed. -/
def mapped (subject : Subject) (isQuoted : Bool) (change : Octets → Octets) : Expand (List Glyph) :=
  match subject with
  | one none => return []
  | one (some value) => return glyphsOf isQuoted (change value)
  | list isJoined values => listGlyphs isQuoted isJoined (values.map change)

end Subject

/-- An element of a variable, or all of them, whose key is known; a key may be amiss. -/
inductive Spot where
  | whole
  | all (isJoined : Bool)
  | key (text : Octets) (key : Option Octets)

namespace Spot

/-- How complaints call a parameter. -/
def label (spot : Spot) (name : String) : String :=
  match spot with
  | key text _ => name ++ "[" ++ String.ofList text ++ "]"
  | _ => if isName name.toList then name else "$" ++ name

/-- What a name with a spot means. -/
def subject (spot : Spot) (shell : State) (name : String) : Subject :=
  match spot with
  | whole =>
    if name = "@" || name = "*" then .list (name = "*") shell.arguments
    else .one (shell.parameter? name)
  | all isJoined => .list isJoined ((shell.entries name).map Prod.snd)
  | .key _ found => .one (found.bind (shell.element? name))

end Spot

/-- A value or its beginning in another case of letters, for the letters that a pattern matches. -/
def recased (toUpper isEvery : Bool) (pattern : List Glob) (value : Octets) : Octets :=
  let change (character : Char) : Char :=
    if Glob.matchesAll pattern [character] then
      if toUpper then character.toUpper else character.toLower
    else character
  match value with
  | [] => []
  | first :: rest => change first :: if isEvery then rest.map change else rest

/-- A value with what a pattern matches replaced. -/
def replaced (kind : Replacement) (pattern : List Glob) (replacement : Octets → Octets)
    (value : Octets) : Octets :=
  match kind with
  | .first => Glob.replaceFrom pattern replacement (value.length + 1) 1 value
  | .every => Glob.replaceFrom pattern replacement (value.length + 1) (value.length + 1) value
  | .start =>
    match Glob.matchedStart? pattern value with
    | some count => replacement (value.take count) ++ value.drop count
    | none => value
  | .finish =>
    match Glob.matchedEnd? pattern value with
    | some count =>
      let kept := value.length - count
      value.take kept ++ replacement (value.drop kept)
    | none => value

/-- A replacement, in which a mark stands for what was matched. -/
def replacementOf (text : List Marked) (matched : Octets) : Octets :=
  match text with
  | [] => []
  | ('&', true) :: rest => matched ++ replacementOf rest matched
  | ('\\', true) :: ('&', true) :: rest => '&' :: replacementOf rest matched
  | (character, _) :: rest => character :: replacementOf rest matched

/-- A part of a value, which starts at an offset and has some size or ends in front of the end. -/
def sliced? (offset : Int) (size : Option Int) (value : Octets) : Except Int Octets :=
  let length := Int.ofNat value.length
  let start := if offset < 0 then offset + length else offset
  if start < 0 || length < start then .ok []
  else match size with
    | none => .ok (value.drop start.toNat)
    | some size =>
      if 0 ≤ size then .ok ((value.drop start.toNat).take size.toNat)
      else if length + size < start then .error size
      else .ok ((value.drop start.toNat).take (length + size - start).toNat)

/-- The values of a list from a place on, or the entries of a variable from a key on. -/
def slicedList (entries : List (Nat × Octets)) (extent : Nat) (offset : Int) : List Octets :=
  let start := if offset < 0 then offset + extent else offset
  if start < 0 then []
  else (entries.filter fun (place, _) => start ≤ place).map Prod.snd

/-- The marks of a variable as options of the command that declares it. -/
def declaredMarks (binding : Variable) : List Char :=
  let kind := match binding.elements with
    | some elements => if elements.isTable then ['A'] else ['a']
    | none => []
  let own (letter : Char) : List Char := if binding.marks.contains letter then [letter] else []
  kind ++ own 'i' ++ own 'n' ++ (if binding.isReadOnly then ['r'] else []) ++
    (if binding.isExported then ['x'] else []) ++ own 'l' ++ own 'u'

/-- The elements of a variable as a list that can be read back. -/
def elementsText (elements : Elements) : Octets :=
  let items := elements.entries.map fun (key, value) =>
    let key := if elements.isTable && (key.any Quotation.isMark || Quotation.needsEscapes key) then
        Quotation.double key
      else key
    '[' :: key ++ [']', '='] ++ Quotation.double value
  '(' :: [' '].intercalate items ++ (if elements.isTable && !items.isEmpty then [' ', ')'] else [')'])

/-- A command that declares a variable with its marks and its value. -/
def declarationText (name : String) (binding : Variable) (value : Option Octets) : Octets :=
  let marks := match declaredMarks binding with
    | [] => ['-']
    | marks => marks
  "declare -".toList ++ marks ++ ' ' :: name.toList ++
    match value with
    | some value => '=' :: value
    | none => []

/-- What a transformation of a variable comes to for one of its values. -/
def transformed (shell : State) (name : String) (letter : Char) (value : Octets) : Octets :=
  let binding := (shell.vars.find? name).getD .blank
  match letter with
  | 'Q' | 'K' | 'k' => Quotation.reusable value
  | 'E' => ((splitEscaped? [] (value.length + 2) (value ++ ['\''])).map Prod.fst).getD value
  | 'U' => value.map Char.toUpper
  | 'u' => recased true false [.any] value
  | 'L' => value.map Char.toLower
  | 'a' => declaredMarks binding
  | 'A' =>
    if (declaredMarks binding).isEmpty then name.toList ++ '=' :: Quotation.reusable value
    else declarationText name binding (some (Quotation.reusable value))
  | _ => value

/-- What a transformation comes to for all values of a variable. -/
def transformedAll (shell : State) (name : String) (letter : Char) (values : List Octets) :
    List Octets :=
  let binding := (shell.vars.find? name).getD .blank
  let entries := shell.entries name
  match letter with
  | 'A' =>
    if values.isEmpty then []
    else [declarationText name binding (some (elementsText binding.toElements))]
  | 'K' =>
    if binding.elements.any Elements.isTable then
      [[' '].intercalate (entries.map fun (key, value) => key ++ ' ' :: Quotation.double value)]
    else [[' '].intercalate (entries.map fun (key, value) => key ++ ' ' :: Quotation.double value)]
  | 'k' => entries.flatMap fun (key, value) => [key, value]
  | _ => values.map (transformed shell name letter)

/-- The name and the spot that a text names. -/
def spotOf? (text : Octets) : Option (String × Option (Bool ⊕ Octets)) :=
  let name := text.takeWhile (· ≠ '[')
  let isKnown := isName name || name.all Char.isDigit && !name.isEmpty ||
    (name.length = 1 && name.all isSpecialParameter)
  if !isKnown then none
  else match text.drop name.length with
    | [] => some (String.ofList name, none)
    | '[' :: rest =>
      if rest.getLast? ≠ some ']' || !isName name then none
      else match rest.dropLast with
        | ['@'] => some (String.ofList name, some (.inl false))
        | ['*'] => some (String.ofList name, some (.inl true))
        | key => some (String.ofList name, some (.inr key))
    | _ => none

/-- The spot for the text in brackets. -/
def keySpot (name : String) (text : Octets) : Expand Spot := do
  let key ← Expand.evaluating (·.keyOf? name text)
  if key.isNone then Expand.complain (name ++ ": bad array subscript")
  return .key text key

/-- The parameter that the value of another one names. -/
def indirect (name : String) (spot : Spot) : Expand (String × Spot) := do
  let shell := (← get).shell
  match spot.subject shell name with
  | .one (some value) =>
    match spotOf? value with
    | none => Expand.giveUp (String.ofList value ++ ": invalid variable name")
    | some (target, none) => return (target, .whole)
    | some (target, some (.inl isJoined)) => return (target, .all isJoined)
    | some (target, some (.inr text)) => return (target, ← keySpot target text)
  | _ => Expand.giveUp (name ++ ": invalid indirect expansion")

/-- What an expansion is about, with the shell and the name of the parameter.  A parameter that is not set
may be an error. -/
def findSubject (isIndirect : Bool) (name : String) (finding : Expand Spot) :
    Expand (State × String × Subject) := do
  let spot ← finding
  let (name, spot) ← if isIndirect then indirect name spot else pure (name, spot)
  let shell := (← get).shell
  let subject := spot.subject shell name
  match subject with
  | .one none => if shell.has 'u' then Expand.fail (spot.label name ++ ": unbound variable")
  | _ => pure ()
  return (shell, name, subject)

/-- The pattern that glyphs write in the dialect of the shell. -/
def readPattern (shell : State) (glyphs : List Glyph) : List Glob :=
  if shell.isExtended && shell.switches.contains "extglob" then Glob.readLists (patternOf glyphs)
  else Glob.read (patternOf glyphs)

mutual

/-- The glyphs of a part of a word.  Text inside the braces of an expansion counts as its
result. -/
def expandPart (isInner : Bool) : Part → Expand (List Glyph)
  | .text isQuoted characters =>
    return if isQuoted then .presence :: characters.map .quoted
      else characters.map fun character => if isInner then .result character else .plain character
  | .parameter isQuoted name treatment => expandTreatment isQuoted name treatment
  | .output isQuoted command => do
    return glyphsOf isQuoted (← Expand.output command)
  | .arithmetic isQuoted expression => do
    let glyphs ← expandParts false expression
    return glyphsOf isQuoted (← evaluate (textOf glyphs))
  | .element isQuoted isIndirect name index treatment =>
    expandElement isQuoted isIndirect name (expandIndex name index) treatment
  | .names isQuoted isJoined beginning => do
    let vars := (← get).shell.vars
    let names := (vars.filter fun (name, binding) =>
      beginning.toList.isPrefixOf name.toList && !binding.entries.isEmpty).map fun (name, _) =>
        name.toList
    listGlyphs isQuoted isJoined (names.mergeSort Octets.atMost)
  | .channel isSource command => do
    return glyphsOf true (← Expand.channel isSource command)
  | .elements items => do
    let items ← expandItems items
    return glyphsOf true (Setting.shown ⟨"", none, false, .several items⟩).tail
  | .assigned assignment => do
    let setting ← expandAssignment assignment
    return glyphsOf true setting.shown

/-- The glyphs of a parameter. -/
def expandTreatment (isQuoted : Bool) (name : String) : Treatment → Expand (List Glyph)
  | .plain => do
    let shell := (← get).shell
    if name = "@" || name = "*" then return ← listGlyphs isQuoted (name = "*") shell.arguments
    match shell.parameter? name with
    | some value =>
      if name = "RANDOM" then
        modify fun expander =>
          { expander with
            shell := { expander.shell with seed := (State.nextRandom expander.shell.seed).2 } }
      return glyphsOf isQuoted value
    | none =>
      if shell.has 'u' then
        if shell.isExtended then Expand.fail ((Spot.whole).label name ++ ": unbound variable")
        else Expand.fail s!"{name}: parameter not set"
      return []
  | .length => do
    let shell := (← get).shell
    let length ← if name = "@" || name = "*" then pure shell.arguments.length
      else match shell.parameter? name with
        | some value => pure value.length
        | none => if shell.has 'u' then Expand.fail s!"{name}: parameter not set" else pure 0
    return glyphsOf isQuoted (toString length).toList
  | .fallback colon kind word => do
    let shell := (← get).shell
    let isList := name = "@" || name = "*"
    let value := if isList then shell.arguments.head? else shell.parameter? name
    let isSet := value.any fun value => !(colon && value.isEmpty)
    let plain ← if isList then listGlyphs isQuoted (name = "*") shell.arguments
      else pure (glyphsOf isQuoted (value.getD []))
    match kind with
    | .use => if isSet then return plain else expandParts (!isQuoted) word
    | .replace => if isSet then expandParts (!isQuoted) word else return []
    | .assign =>
      if isSet then return plain
      else
        let text := textOf (← expandParts (!isQuoted) word)
        if isName name.toList then Expand.assign name text
        else Expand.fail s!"{name}: bad variable name"
        return glyphsOf isQuoted text
    | .complain =>
      if isSet then return plain
      else
        let text := textOf (← expandParts false word)
        let reason := if word.isEmpty then
            if colon then "parameter not set or null" else "parameter not set"
          else String.ofList text
        Expand.fail s!"{name}: {reason}"
  | .strip fromEnd longest word => do
    let shell := (← get).shell
    let value ← match shell.parameter? name with
      | some value => pure value
      | none => if shell.has 'u' then Expand.fail s!"{name}: parameter not set" else pure []
    let pattern := Glob.read (patternOf (← expandParts false word))
    let left := if fromEnd then Glob.stripEnd longest pattern value
      else Glob.stripStart longest pattern value
    return glyphsOf isQuoted left
  | _ => Expand.fail "Bad substitution"

/-- The spot that is meant behind a name. -/
def expandIndex (name : String) : Index → Expand Spot
  | .whole => return .whole
  | .all isJoined => return .all isJoined
  | .at expression => do
    let text := textOf (← Expand.asWhole (expandParts false expression))
    keySpot name text

/-- The glyphs of a parameter of the extended dialect. -/
def expandElement (isQuoted isIndirect : Bool) (name : String) (finding : Expand Spot) :
    Treatment → Expand (List Glyph)
  | .invalid text => Expand.giveUp ("$\x7b" ++ String.ofList text ++ ": bad substitution")
  | .plain => do
    let spot ← finding
    let isNamed := isIndirect && ((← get).shell.vars.lookup name).any (·.marks.contains 'n')
    if isNamed then
      return glyphsOf isQuoted ((← get).shell.vars.resolve name).toList
    let (name, spot) ← if isIndirect then indirect name spot else pure (name, spot)
    let shell := (← get).shell
    let subject := spot.subject shell name
    let isMissing := match subject with
      | .one none => !isIndirect && shell.has 'u'
      | _ => false
    if isMissing then Expand.fail (spot.label name ++ ": unbound variable")
    subject.glyphs isQuoted
  | .length => do
    let spot ← finding
    let shell := (← get).shell
    let length ← match spot.subject shell name with
      | .one (some value) => pure value.length
      | .one none =>
        if shell.has 'u' then Expand.fail (spot.label name ++ ": unbound variable") else pure 0
      | .list _ values =>
        if shell.has 'u' && (shell.parameter? name).isNone && (shell.entries name).isEmpty then
          match spot with
          | .all _ =>
            if (shell.vars.find? name).isNone && isName name.toList then
              Expand.fail (name ++ ": unbound variable")
            else pure values.length
          | _ => pure values.length
        else pure values.length
    return glyphsOf isQuoted (toString length).toList
  | .keys => do
    let isJoined := match ← finding with
      | .all isJoined => isJoined
      | _ => false
    let shell := (← get).shell
    listGlyphs isQuoted isJoined ((shell.entries name).map Prod.fst)
  | .fallback colon kind word => do
    let spot ← finding
    let (name, spot) ← if isIndirect then indirect name spot else pure (name, spot)
    let shell := (← get).shell
    let subject := spot.subject shell name
    let isSet := subject.isSet colon
    match kind with
    | .use =>
      if isSet then subject.glyphs isQuoted else expandParts (!isQuoted) word
    | .replace => if isSet then expandParts (!isQuoted) word else return []
    | .assign =>
      if isSet then return ← subject.glyphs isQuoted
      let text := textOf (← expandParts (!isQuoted) word)
      let key? : Option Octets := match spot with
        | .key text _ => some text
        | _ => none
      if !isName name.toList then Expand.giveUp (spot.label name ++ ": cannot assign in this way")
      Expand.evaluating fun shell => return ((), ← shell.set ⟨name, key?, false, .one text⟩)
      return glyphsOf isQuoted text
    | .complain =>
      if isSet then return ← subject.glyphs isQuoted
      let text := textOf (← Expand.asWhole (expandParts false word))
      let reason := if word.isEmpty then
          if colon then "parameter null or not set" else "parameter not set"
        else String.ofList text
      let label := match spot with
        | .key _ _ => spot.label name
        | _ => name
      Expand.fail (label ++ ": " ++ reason)
  | .strip fromEnd longest word => do
    let (shell, _, subject) ← findSubject isIndirect name finding
    let pattern := readPattern shell (← expandParts false word)
    subject.mapped isQuoted fun value =>
      if fromEnd then Glob.stripEnd longest pattern value else Glob.stripStart longest pattern value
  | .slice offset size => do
    let (shell, name, subject) ← findSubject isIndirect name finding
    let start ← evaluateNumber (textOf (← expandParts false offset))
    let sizeText ← expandOptional size
    let size ← match sizeText with
      | none => pure none
      | some text => some <$> evaluateNumber text
    let tooSmall (size : Int) : Expand (List Glyph) :=
      Expand.giveUp (match sizeText with
        | some text => String.ofList text ++ ": substring expression < 0"
        | none => toString size ++ ": substring expression < 0")
    match subject with
    | .one none => return []
    | .one (some value) =>
      match sliced? start size value with
      | .ok part => return glyphsOf isQuoted part
      | .error size => tooSmall size
    | .list isJoined values =>
      let isArguments := name = "@" || name = "*"
      let (entries, extent) : List (Nat × Octets) × Nat :=
        if isArguments then
          ((shell.name :: values).zipIdx.map fun (value, place) => (place, value), values.length + 1)
        else if shell.isTable name then
          (values.zipIdx.map fun (value, place) => (place, value), values.length)
        else ((shell.entries name).map fun (key, value) =>
          ((Integer.natural? 10 key).getD 0, value), shell.extent name)
      let found := slicedList entries extent start
      match size with
      | none => listGlyphs isQuoted isJoined found
      | some size =>
        if size < 0 then tooSmall size else listGlyphs isQuoted isJoined (found.take size.toNat)
  | .replace kind word replacement => do
    let (shell, _, subject) ← findSubject isIndirect name finding
    let pattern := readPattern shell (← expandParts false word)
    let text := patternOf (← expandParts false replacement)
    subject.mapped isQuoted (replaced kind pattern (replacementOf text))
  | .recase toUpper isEvery word => do
    let (shell, _, subject) ← findSubject isIndirect name finding
    let glyphs ← expandParts false word
    let pattern := if word.isEmpty then [Glob.any] else readPattern shell glyphs
    subject.mapped isQuoted (recased toUpper isEvery pattern)
  | .transform letter => do
    let (shell, name, subject) ← findSubject isIndirect name finding
    if !"QEPAaUuLKk".toList.contains letter then
      Expand.giveUp ("$\x7b" ++ name ++ "@" ++ String.ofList [letter] ++ "\x7d: bad substitution")
    match subject with
    | .one none =>
      let binding := shell.vars.find? name
      return glyphsOf isQuoted (if letter = 'a' then (binding.map declaredMarks).getD [] else [])
    | .one (some value) => return glyphsOf isQuoted (transformed shell name letter value)
    | .list isJoined values =>
      listGlyphs isQuoted isJoined (transformedAll shell name letter values)

/-- The text of a word that may not be there. -/
def expandOptional : Option (List Part) → Expand (Option Octets)
  | none => return none
  | some parts => do return some (textOf (← Expand.asWhole (expandParts false parts)))

/-- The values of a list with the texts of their keys. -/
def expandItems : List Item → Expand (List (Option Octets × Bool × Octets))
  | [] => return []
  | .mk index appends value :: rest => do
    let key ← expandOptional index
    let text := textOf (← Expand.asWhole (expandParts false value))
    return (key, appends, text) :: (← expandItems rest)

/-- An assignment with its words expanded. -/
def expandAssignment : Assignment → Expand Setting
  | .mk name index appends value => do
    let key ← expandOptional index
    let text := textOf (← Expand.asWhole (expandParts false value))
    return ⟨name, key, appends, .one text⟩

/-- The glyphs of parts that stand next to each other. -/
def expandParts (isInner : Bool) : List Part → Expand (List Glyph)
  | [] => return []
  | part :: rest => do
    let first ← expandPart isInner part
    return first ++ (← expandParts isInner rest)

end

/-- The folder that a name behind a tilde stands for. -/
def tildeFolder? (shell : State) (name : Octets) : Option Octets :=
  match name with
  | [] => shell.vars.value? "HOME"
  | ['+'] => if shell.isExtended then shell.vars.value? "PWD" else none
  | ['-'] => if shell.isExtended then shell.vars.value? "OLDPWD" else none
  | _ => none

/-- A word whose tilde at the start stands for a folder. -/
def withHome (shell : State) (word : Word) : Word :=
  match word with
  | .text false ('~' :: rest) :: parts =>
    let name := rest.takeWhile (· ≠ '/')
    match tildeFolder? shell name with
    | some folder =>
      if name.length < rest.length || parts.isEmpty then
        .text true folder :: .text false (rest.drop name.length) :: parts
      else word
    | none => word
  | _ => word

/-- The glyphs of a word. -/
def expandWord (word : Word) : Expand (List Glyph) := do
  expandParts false (withHome (← get).shell word)

/-- A word as one text. -/
def expandText (word : Word) : Expand Octets := do
  return textOf (← Expand.asWhole (expandWord word))

end CorpusJudge.Shell
