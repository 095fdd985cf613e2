import CorpusJudge.Emulator.Shell.Expansion

/-!
# Fields

Expanded words are split into fields, and fields that are patterns become the paths that they match.
-/

namespace CorpusJudge.Shell

/-- Where splitting stands: the fields so far and the current one, both in reverse, whether there
is a current one, and whether the last one ended at a blank. -/
structure Splitter where
  fields : List (List Marked)
  current : List Marked
  isPresent : Bool
  afterBlank : Bool

namespace Splitter

/-- End the current field, if there is one. -/
def close (splitter : Splitter) (afterBlank : Bool) : Splitter :=
  if splitter.isPresent then
    ⟨splitter.current.reverse :: splitter.fields, [], false, afterBlank⟩
  else splitter

/-- Go on with the current field. -/
def add (splitter : Splitter) (character : Char) (isActive : Bool) : Splitter :=
  { splitter with
    current := (character, isActive) :: splitter.current, isPresent := true, afterBlank := false }

/-- Go past a glyph.  Blanks among the separators end a field; each other separator stands for the
end of exactly one, together with the blanks around it. -/
def step (separators : Octets) (splitter : Splitter) : Glyph → Splitter
  | .plain character => splitter.add character true
  | .quoted character => splitter.add character false
  | .result character =>
    if !separators.contains character then splitter.add character true
    else if " \t\n".toList.contains character then splitter.close true
    else if splitter.isPresent then splitter.close false
    else if splitter.afterBlank then { splitter with afterBlank := false }
    else { splitter with fields := [] :: splitter.fields }
  | .presence => { splitter with isPresent := true, afterBlank := false }
  | .absence => { splitter with isPresent := !splitter.current.isEmpty }
  | .boundary => splitter.close false

end Splitter

/-- The fields of glyphs. -/
def split (separators : Octets) (glyphs : List Glyph) : List (List Marked) :=
  ((glyphs.foldl (Splitter.step separators) ⟨[], [], false, false⟩).close false).fields.reverse

/-- A text as a path. -/
def pathOf (text : Octets) : Path := ⟨Utf8.display (Bytes.ofOctets text)⟩

/-- A name as a text. -/
def nameOctets (name : String) : Octets := (Bytes.ofString name).octets

/-- Whether marked characters contain some that stand for others. -/
def isPattern (text : List Marked) : Bool :=
  text.any fun (character, isActive) => isActive && "*?[".toList.contains character

/-- The pieces of marked characters between slashes. -/
def segmentsOf : List Marked → List (List Marked)
  | [] => [[]]
  | (character, isActive) :: rest =>
    let pieces := segmentsOf rest
    if character = '/' then [] :: pieces
    else ((character, isActive) :: pieces.headD []) :: pieces.tail

/-- How the names of files are matched: whether a pattern may hold lists of patterns, whether names that
start with a dot need not be asked for, whether a folder and the one above it are among them, and what
becomes of a pattern that matches nothing. -/
structure FileMatching where
  hasLists : Bool := false
  showsDots : Bool := false
  hasSelf : Bool := true
  isEmptyAllowed : Bool := false
  isEmptyWrong : Bool := false

/-- How a shell matches the names of files. -/
def State.fileMatching (shell : State) : FileMatching :=
  if shell.isExtended then
    { hasLists := shell.switches.contains "extglob"
      showsDots := shell.switches.contains "dotglob"
      hasSelf := false
      isEmptyAllowed := shell.switches.contains "nullglob"
      isEmptyWrong := shell.switches.contains "failglob" }
  else {}

/-- The names in a folder that match a pattern, in byte order.  A name that starts with a dot has
to be asked for. -/
def matchingNames (manner : FileMatching) (tree : FileTree) (folder : Octets) (pattern : List Marked) :
    List Octets :=
  let path := if folder.isEmpty then Path.mk "." else pathOf folder
  let glob := if manner.hasLists then Glob.readLists pattern else Glob.read pattern
  match tree.list path with
  | .error _ => []
  | .ok children =>
    let own := if manner.hasSelf then [".", ".."] else []
    let names := (own ++ children.map Prod.fst).map nameOctets
    let isDotted := pattern.head?.any fun (character, _) => character = '.'
    let names := names.filter fun name =>
      (isDotted || manner.showsDots || name.head? ≠ some '.') && Glob.matchesAll glob name
    names.mergeSort Octets.atMost

/-- The paths that match a pattern, given by its segments, below a folder. -/
def matchingPaths (manner : FileMatching) (tree : FileTree) (folder : Octets) :
    List (List Marked) → List Octets
  | [] => []
  | [segment] =>
    if isPattern segment then (matchingNames manner tree folder segment).map (folder ++ ·)
    else
      let path := folder ++ segment.map Prod.fst
      if (tree.findSelf (pathOf path)).toOption.isSome then [path] else []
  | segment :: rest =>
    let names := if isPattern segment then matchingNames manner tree folder segment
      else [segment.map Prod.fst]
    names.flatMap fun name => matchingPaths manner tree (folder ++ name ++ ['/']) rest

/-- Whether marked characters are a pattern for the names of files. -/
def isFilePattern (manner : FileMatching) (field : List Marked) : Bool :=
  isPattern field || (manner.hasLists && Glob.hasLists (Glob.readLists field))

/-- The texts that a field stands for: the paths that it matches, or itself. -/
def fieldTexts (manner : FileMatching) (tree : FileTree) (isLiteral : Bool) (field : List Marked) :
    Expand (List Octets) := do
  let text := field.map Prod.fst
  if isLiteral || !isFilePattern manner field then return [text]
  match matchingPaths manner tree [] (segmentsOf field) with
  | [] =>
    if manner.isEmptyWrong then Expand.giveUp ("no match: " ++ String.ofList text)
    return if manner.isEmptyAllowed then [] else [text]
  | paths => return paths

/-- The fields of a word. -/
def expandField (tree : FileTree) (word : Word) : Expand (List Octets) := do
  let glyphs ← expandWord word
  let shell := (← get).shell
  let separators := (shell.vars.value? "IFS").getD " \t\n".toList
  let texts ← (split separators glyphs).mapM (fieldTexts shell.fileMatching tree (shell.has 'f'))
  return texts.flatten

/-- The fields of words. -/
def expandFields (tree : FileTree) (words : List Word) : Expand (List Octets) := do
  let words := if (← Expand.isExtended) then words.flatMap bracedWords else words
  return (← words.mapM (expandField tree)).flatten

/-- The values of a list that is assigned. -/
def expandList (tree : FileTree) : List Item → Expand (List (Option Octets × Bool × Octets))
  | [] => return []
  | .mk index appends value :: rest => do
    let key ← expandOptional index
    let texts ← if key.isNone then expandFields tree [value] else List.singleton <$> expandText value
    return texts.map (key, appends, ·) ++ (← expandList tree rest)

/-- A value that is assigned, in which a tilde also counts behind a colon. -/
def withHomes (shell : State) (word : Word) : Word :=
  match shell.vars.value? "HOME" with
  | none => word
  | some home =>
    (withHome shell word).flatMap fun part => match part with
      | .text false characters =>
        match (String.ofList characters).splitOn ":~" with
        | [] => []
        | first :: rest =>
          .text false first.toList :: rest.flatMap fun piece =>
            let isHome := piece.isEmpty || piece.startsWith "/" || piece.startsWith ":"
            if isHome then [.text false [':'], .text true home, .text false piece.toList]
            else [.text false (":~" ++ piece).toList]
      | part => [part]

/-- An assignment with its words expanded. -/
def expandSetting (tree : FileTree) : Assignment → Expand Setting
  | .mk name index appends value => do
    let key ← expandOptional index
    match value with
    | [.elements items] => return ⟨name, key, appends, .several (← expandList tree items)⟩
    | _ =>
      let value := withHomes (← get).shell value
      return ⟨name, key, appends, .one (textOf (← Expand.asWhole (expandParts false value)))⟩

/-- A field of a command: a text, and the assignment that it writes. -/
structure Field where
  text : Octets
  setting : Option Setting := none

/-- The fields of a command. -/
def expandCommandWords (tree : FileTree) (words : List Word) : Expand (List Field) := do
  let fields ← words.mapM fun word => match word with
    | [.assigned assignment] => do
      let setting ← expandSetting tree assignment
      return [{ text := setting.shown, setting := some setting }]
    | word => do
      return (← expandFields tree [word]).map fun text => { text := text }
  return fields.flatten

end CorpusJudge.Shell
