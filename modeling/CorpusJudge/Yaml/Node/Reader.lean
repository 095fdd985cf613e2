import CorpusJudge.Yaml.Token
import CorpusJudge.Yaml.Token.Scanner

/-!
# Reading YAML nodes

A list of tokens becomes a document.  Where a node is expected and none is written, the node is
absent, which counts as an empty plain scalar.
-/

namespace CorpusJudge.Yaml

/-- What reading has found besides the node itself: the tags' handles, the numbers of the anchors
by name, and the anchored nodes, of which those still being read are missing. -/
structure Reading where
  tokens : List Token
  handles : List (String × String)
  numbers : List (String × Nat)
  anchored : Array (Nat × Option Node)

/-- The handles that need no directive. -/
def standardHandles : List (String × String) :=
  [("!", "!"), ("!!", "tag:yaml.org,2002:")]

namespace Reading

/-- Go past the next token. -/
def skip (reading : Reading) : Reading :=
  { reading with tokens := reading.tokens.drop 1 }

/-- The next token. -/
def next? (reading : Reading) : Option Token := reading.tokens.head?

/-- Whether one of some tokens comes next. -/
def at? (reading : Reading) (tokens : List Token) : Bool :=
  reading.next?.any tokens.contains

/-- Note an anchor whose node comes next.  Anchors are numbered by how many names there were
before; a name that is used again gets a new number. -/
def bind (reading : Reading) (name : String) : Nat × Reading :=
  let number := reading.numbers.length
  let others := reading.numbers.filter (·.1 ≠ name)
  (reading.anchored.size, { reading with
    numbers := (name, number) :: others
    anchored := reading.anchored.push (number, none) })

/-- Note the node of an anchor. -/
def fill (reading : Reading) (place : Nat) (node : Node) : Reading :=
  { reading with anchored := reading.anchored.modify place fun (number, _) => (number, some node) }

/-- The full tag of a handle and a suffix. -/
def tag? (reading : Reading) (handle suffix : String) : Option String :=
  if handle.isEmpty then some suffix
  else (reading.handles.lookup handle).map (· ++ suffix)

/-- The properties in front of a node: the place of its anchor and its tag, in either order. -/
def readProperties? (reading : Reading) : Option (Option Nat × Option String × Reading) :=
  match reading.tokens with
  | .anchor name :: .tag handle suffix :: rest => do
    let tag ← reading.tag? handle suffix
    let (place, reading) := reading.bind name
    return (some place, some tag, { reading with tokens := rest })
  | .tag handle suffix :: .anchor name :: rest => do
    let tag ← reading.tag? handle suffix
    let (place, reading) := reading.bind name
    return (some place, some tag, { reading with tokens := rest })
  | .anchor name :: rest =>
    let (place, reading) := reading.bind name
    some (some place, none, { reading with tokens := rest })
  | .tag handle suffix :: rest => do
    return (none, some (← reading.tag? handle suffix), { reading with tokens := rest })
  | _ => some (none, none, reading)

end Reading

/-- A node and the reading after it. -/
abbrev NodeResult := Option (Node × Reading)

mutual

/-- A node.  In a block it may be a block collection; the value of a block mapping may also be a
sequence at the mapping's own column. -/
def readNode? (inBlock indentless : Bool) : Nat → Reading → NodeResult
  | 0, _ => none
  | fuel + 1, reading =>
    match reading.next? with
    | some (.alias name) => do
      let number ← reading.numbers.lookup name
      return (.alias number, reading.skip)
    | _ => do
      let (place, tag, reading) ← reading.readProperties?
      let (node, reading) ← readContent? inBlock indentless (place.isSome || tag.isSome) tag
        fuel reading
      match place with
      | some place => return (node, reading.fill place node)
      | none => return (node, reading)

/-- A node behind its properties. -/
def readContent? (inBlock indentless hasProperties : Bool) (tag : Option String) :
    Nat → Reading → NodeResult
  | 0, _ => none
  | fuel + 1, reading =>
    match reading.next? with
    | some (.scalar style text) => some (.scalar style tag text, reading.skip)
    | some .flowSequenceStart => readFlowItems? fuel [] true reading.skip
    | some .flowMappingStart => readFlowEntries? fuel [] true reading.skip
    | some .blockEntry =>
      if indentless then readIndentless? fuel [] reading
      else if hasProperties then some (.absent tag, reading) else none
    | some .blockSequenceStart =>
      if inBlock then readBlockItems? fuel [] reading.skip
      else if hasProperties then some (.absent tag, reading) else none
    | some .blockMappingStart =>
      if inBlock then readBlockEntries? fuel [] reading.skip
      else if hasProperties then some (.absent tag, reading) else none
    | _ => if hasProperties then some (.absent tag, reading) else none

/-- A node unless one of some tokens shows that it is absent. -/
def readUnless? (absentBefore : List Token) (inBlock indentless : Bool) :
    Nat → Reading → NodeResult
  | 0, _ => none
  | fuel + 1, reading =>
    if reading.at? absentBefore then some (.absent none, reading)
    else readNode? inBlock indentless fuel reading

/-- The items of a block sequence, behind those already read. -/
def readBlockItems? : Nat → List Node → Reading → NodeResult
  | 0, _, _ => none
  | fuel + 1, done, reading =>
    match reading.next? with
    | some .blockEnd => some (.sequence done.reverse, reading.skip)
    | some .blockEntry => do
      let (item, reading) ← readUnless? [.blockEntry, .blockEnd] true false fuel reading.skip
      readBlockItems? fuel (item :: done) reading
    | _ => none

/-- The items of a sequence at the column of the mapping around it. -/
def readIndentless? : Nat → List Node → Reading → NodeResult
  | 0, _, _ => none
  | fuel + 1, done, reading =>
    match reading.next? with
    | some .blockEntry => do
      let (item, reading) ←
        readUnless? [.blockEntry, .key, .value, .blockEnd] true false fuel reading.skip
      readIndentless? fuel (item :: done) reading
    | _ => some (.sequence done.reverse, reading)

/-- The entries of a block mapping. -/
def readBlockEntries? : Nat → List (Node × Node) → Reading → NodeResult
  | 0, _, _ => none
  | fuel + 1, done, reading =>
    match reading.next? with
    | some .blockEnd => some (.mapping done.reverse, reading.skip)
    | some .key => do
      let (key, reading) ← readUnless? [.key, .value, .blockEnd] true true fuel reading.skip
      let (value, reading) ←
        if reading.next? = some .value then
          readUnless? [.key, .value, .blockEnd] true true fuel reading.skip
        else some (.absent none, reading)
      readBlockEntries? fuel ((key, value) :: done) reading
    | _ => none

/-- The items of a sequence in brackets; a comma stands in front of all but the first.  A key makes
an item a mapping of one entry. -/
def readFlowItems? : Nat → List Node → Bool → Reading → NodeResult
  | 0, _, _, _ => none
  | fuel + 1, done, isFirst, reading =>
    if reading.next? = some .flowSequenceEnd then some (.sequence done.reverse, reading.skip)
    else do
      let reading ←
        if isFirst then some reading
        else if reading.next? = some .flowEntry then some reading.skip else none
      match reading.next? with
      | some .flowSequenceEnd => return (.sequence done.reverse, reading.skip)
      | some .key =>
        let ends : List Token := [.flowEntry, .flowSequenceEnd]
        let (key, reading) ← readUnless? (.value :: ends) false false fuel reading.skip
        let (value, reading) ←
          if reading.next? = some .value then readUnless? ends false false fuel reading.skip
          else some (.absent none, reading)
        readFlowItems? fuel (.mapping [(key, value)] :: done) false reading
      | _ =>
        let (item, reading) ← readNode? false false fuel reading
        readFlowItems? fuel (item :: done) false reading

/-- The entries of a mapping in braces; a comma stands in front of all but the first. -/
def readFlowEntries? : Nat → List (Node × Node) → Bool → Reading → NodeResult
  | 0, _, _, _ => none
  | fuel + 1, done, isFirst, reading =>
    if reading.next? = some .flowMappingEnd then some (.mapping done.reverse, reading.skip)
    else do
      let reading ←
        if isFirst then some reading
        else if reading.next? = some .flowEntry then some reading.skip else none
      match reading.next? with
      | some .flowMappingEnd => return (.mapping done.reverse, reading.skip)
      | some .key =>
        let ends : List Token := [.flowEntry, .flowMappingEnd]
        let (key, reading) ← readUnless? (.value :: ends) false false fuel reading.skip
        let (value, reading) ←
          if reading.next? = some .value then readUnless? ends false false fuel reading.skip
          else some (.absent none, reading)
        readFlowEntries? fuel ((key, value) :: done) false reading
      | _ =>
        let (key, reading) ← readNode? false false fuel reading
        readFlowEntries? fuel ((key, .absent none) :: done) false reading

end

/-- The directives in front of a document: at most one version, which must be a known one, and
every handle at most once. -/
def readDirectives? (handles : List (String × String)) (hasVersion : Bool) :
    List Token → Option (List (String × String) × List Token)
  | .versionDirective major minor :: rest =>
    if hasVersion || major ≠ 1 || (minor ≠ 1 && minor ≠ 2) then none
    else readDirectives? handles true rest
  | .tagDirective handle stem :: rest =>
    if (handles.lookup handle).isSome then none
    else readDirectives? (handles ++ [(handle, stem)]) hasVersion rest
  | tokens => some (handles, tokens)

/-- The nodes whose reading is complete. -/
def Reading.toDocument (reading : Reading) (content : Node) : Document :=
  ⟨some content, reading.anchored.filterMap fun (number, node) => node.map (number, ·)⟩

/-- The document that a text holds, if it holds at most one.  A document that starts without a
mark must have content; behind a mark it may be absent. -/
def readDocument? (text : String) : Option Document := do
  let tokens ← tokens? text
  if tokens.isEmpty then return ⟨none, #[]⟩
  let (handles, body) ← readDirectives? [] false tokens
  let explicit := body.head? = some .documentStart
  guard (explicit || body.length = tokens.length)
  let body := if explicit then body.drop 1 else body
  let reading : Reading := ⟨body, handles ++ standardHandles, [], #[]⟩
  let fuel := 4 * body.length + 4
  let isOver := match body with
    | [] | .documentEnd :: _ | .documentStart :: _ => true
    | .versionDirective _ _ :: _ | .tagDirective _ _ :: _ => true
    | _ => false
  let (content, reading) ←
    if explicit && isOver then some (.absent none, reading)
    else readNode? true false fuel reading
  guard (reading.tokens.all (· = .documentEnd))
  return reading.toDocument content

end CorpusJudge.Yaml
