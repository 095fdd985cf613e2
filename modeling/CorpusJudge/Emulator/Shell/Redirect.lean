import CorpusJudge.Emulator.Shell.Act

/-!
# Redirections

Redirections let descriptors stand for other channels.  What they stood for before is kept, so that
it can be put back.
-/

namespace CorpusJudge.Shell

/-- What a descriptor is to stand for. -/
inductive Target where
  | path (opening : Opening) (path : Octets)
  | same (descriptor : Nat)
  | nothing
  | text (bytes : Bytes)
  /-- Nothing that could be told from the words. -/
  | unclear (message : String)

/-- A redirection whose words are expanded. -/
structure Redirect where
  descriptor : Nat
  target : Target

/-- A word as it is written, as far as that is known. -/
def writtenWord (word : Word) : Octets :=
  word.flatMap fun part => match part with
    | .text _ characters => characters
    | .parameter _ name _ => '$' :: name.toList
    | _ => []

/-- Expand the words of a redirection of the plain dialect. -/
def expandPlainRedirection (descriptor : Nat) (opening : Opening) (word : Word) : Expand Redirect := do
  let text ← if opening = .hereText then textOf <$> expandParts false word else expandText word
  match opening with
  | .hereText => return ⟨descriptor, .text (Bytes.ofOctets text)⟩
  | .duplicate =>
    if text = ['-'] then return ⟨descriptor, .nothing⟩
    match text with
    | [digit] =>
      if digit.isDigit then return ⟨descriptor, .same (digit.toNat - 48)⟩
      else Expand.fail "Syntax error: Bad fd number"
    | _ => Expand.fail "Syntax error: Bad fd number"
  | _ => return ⟨descriptor, .path opening text⟩

/-- Expand the words of a redirection of the extended dialect, which may be about two descriptors. -/
def expandExtendedRedirection (tree : FileTree) (descriptor : Nat) (opening : Opening) (word : Word) :
    Expand (List Redirect) := do
  let unclear : Redirect :=
    ⟨descriptor, .unclear (String.ofList (writtenWord word) ++ ": ambiguous redirect")⟩
  let both (appends : Bool) (path : Octets) : List Redirect :=
    [⟨1, .path (if appends then .append else .output) path⟩, ⟨2, .same 1⟩]
  match opening with
  | .hereText =>
    return [⟨descriptor, .text (Bytes.ofOctets (textOf (← expandParts false word)))⟩]
  | .hereWord =>
    return [⟨descriptor, .text (Bytes.ofOctets ((← expandText word) ++ ['\n']))⟩]
  | _ =>
    match opening, ← expandFields tree [word] with
    | .duplicate, [text] =>
      if text = ['-'] then return [⟨descriptor, .nothing⟩]
      let isMoved := text.getLast? = some '-'
      match Integer.natural? 10 (if isMoved then text.dropLast else text) with
      | some number =>
        return ⟨descriptor, .same number⟩ :: if isMoved then [⟨number, .nothing⟩] else []
      | none => return if descriptor = 1 then both false text else [unclear]
    | .both appends, [text] => return both appends text
    | _, [text] => return [⟨descriptor, .path opening text⟩]
    | _, _ => return [unclear]

/-- Expand the words of redirections. -/
def expandRedirections (tree : FileTree) (redirections : List Redirection) :
    Expand (List Redirect) := do
  let redirects ← redirections.mapM fun redirection => do
    match redirection with
    | .mk descriptor opening word =>
      if ← Expand.isExtended then expandExtendedRedirection tree descriptor opening word
      else List.singleton <$> expandPlainRedirection descriptor opening word
  return redirects.flatten

/-- Why a file cannot be opened, in the words of the plain shell. -/
def openReason (opening : Opening) (error : FileError) : String :=
  if error = .notFound || error = .notDirectory then
    if opening = .input then "No such file" else "Directory nonexistent"
  else error.reason

/-- What a shell says about a file that cannot be opened. -/
def openFailure (isExtended : Bool) (opening : Opening) (path : Octets) (error : FileError) : String :=
  if isExtended then String.ofList path ++ ": " ++ error.reason
  else
    let verb := if opening = .input then "open" else "create"
    s!"cannot {verb} {String.ofList path}: {openReason opening error}"

/-- Open what a redirection leads to: the number of its channel, or nothing to stand for. -/
def openTarget (target : Target) : Act (Except String (Option Nat)) := do
  match target with
  | .nothing => return .ok none
  | .unclear message => return .error message
  | .same descriptor =>
    match (← Act.proc).descriptors.lookup descriptor with
    | some channel => return .ok (some channel)
    | none => return .error s!"{descriptor}: Bad file descriptor"
  | .text bytes =>
    let (number, machine) := (← get).addChannel (.supply bytes)
    set machine
    return .ok (some number)
  | .path opening path =>
    let files ← Act.files
    let isExtended ← Act.isExtended
    let keepsFiles := opening = .output && (← Act.shell).has 'C' &&
      (files.find (pathOf path)).toOption.any fun (_, entry) => entry.isFile
    if keepsFiles then
      return .error (if isExtended then String.ofList path ++ ": cannot overwrite existing file"
        else s!"cannot create {String.ofList path}: {FileError.exists.reason}")
    let failing (error : FileError) : Act (Except String (Option Nat)) :=
      return .error (openFailure isExtended opening path error)
    let opened := match opening with
      | .input => (files.openInput (pathOf path)).map (files, ·)
      | .append => files.openOutput (pathOf path) true true
      | .readWrite => files.openOutput (pathOf path) true false
      | _ => files.openOutput (pathOf path) false false
    match opened with
    | .ok (files, channel) =>
      match ((← get).withFiles files).openChannel (← Act.proc) channel with
      | .ok (number, machine) =>
        set machine
        return .ok (some number)
      | .error error => failing error
    | .error error => failing error

/-- Put descriptors back. -/
def restoreDescriptors (saved : List (Nat × Option Nat)) : Act Unit := do
  Act.updateProc fun proc => saved.foldl (fun proc (descriptor, channel) =>
    match channel with
    | some channel => proc.bind descriptor channel
    | none => proc.close descriptor) proc
  modify Computer.sweep

/-- Redirect descriptors one after the other.  The result is what they stood for before, the last
one first, or why one of them failed, after all has been put back. -/
def redirect (saved : List (Nat × Option Nat)) :
    List Redirect → Act (Except String (List (Nat × Option Nat)))
  | [] => return .ok saved
  | redirection :: rest => do
    match ← openTarget redirection.target with
    | .error message =>
      restoreDescriptors saved
      return .error message
    | .ok channel =>
      let proc ← Act.proc
      let descriptor := redirection.descriptor
      let before := proc.descriptors.lookup descriptor
      let hidden ← Act.hiddenDescriptor
      if let some number := before then Act.bind hidden number
      match channel with
      | some channel => Act.bind descriptor channel
      | none => Act.updateProc (·.close descriptor)
      let undo := (descriptor, before) :: (if before.isSome then [(hidden, none)] else [])
      redirect (undo ++ saved) rest

/-- Keep the redirections of some descriptors: forget what they stood for before. -/
def keepRedirections (kept : List Redirect) (saved : List (Nat × Option Nat)) : Act Unit := do
  for (descriptor, _) in saved do
    let isKept := kept.any fun redirect => redirect.descriptor = descriptor
    if Act.firstHidden ≤ descriptor && !isKept then Act.updateProc (·.close descriptor)
  modify Computer.sweep

end CorpusJudge.Shell
