import CorpusJudge.Execution
import CorpusJudge.Files.Tree

/-!
# Channels

What the descriptors of running programs stand for: the ends of pipes, open files and devices, and
the two ends that belong to whoever started a program, who supplies its input and captures its
output.
-/

namespace CorpusJudge

/-- The status that a shell sees when a program ends. -/
def Ending.status : Ending → Nat
  | .code status => status
  | .signal number => 128 + number

/-! ## Pieces

Programs hand each other bytes in pieces.  A piece knows how many bytes it has, so that passing it
on takes no look at them, and pieces wait in queues until somebody takes them. -/

/-- Bytes with their number. -/
structure Piece where
  bytes : Bytes
  size : Nat
  size_eq : size = bytes.length

namespace Piece

/-- A piece of some bytes. -/
def ofBytes (bytes : Bytes) : Piece := ⟨bytes, bytes.length, rfl⟩

/-- A piece without bytes. -/
def empty : Piece := ofBytes []

/-- The first bytes of a piece, at most so many. -/
def take (piece : Piece) (count : Nat) : Piece :=
  if piece.size ≤ count then piece else ofBytes (piece.bytes.take count)

/-- A piece without its first bytes. -/
def drop (piece : Piece) (count : Nat) : Piece :=
  if piece.size ≤ count then empty else ofBytes (piece.bytes.drop count)

/-- Pieces as one. -/
def join : List Piece → Piece
  | [only] => only
  | pieces => ofBytes (pieces.flatMap Piece.bytes)

end Piece

/-- Pieces that wait to be taken, oldest first; the newest ones stand in reverse. -/
structure PieceQueue where
  front : List Piece := []
  back : List Piece := []
  size : Nat := 0

namespace PieceQueue

/-- All pieces, oldest first. -/
def toList (queue : PieceQueue) : List Piece :=
  queue.front ++ queue.back.reverse

/-- Put a piece behind the others. -/
def push (queue : PieceQueue) (piece : Piece) : PieceQueue :=
  { queue with back := piece :: queue.back, size := queue.size + piece.size }

/-- The oldest pieces as far as a limit allows, of which one may be divided, and the pieces behind
them. -/
def divide (limit : Nat) : List Piece → List Piece × List Piece
  | [] => ([], [])
  | piece :: rest =>
    if limit = 0 then ([], piece :: rest)
    else if piece.size ≤ limit then
      let (taken, left) := divide (limit - piece.size) rest
      (piece :: taken, left)
    else ([piece.take limit], piece.drop limit :: rest)

/-- Take the oldest bytes, at most so many. -/
def pop (queue : PieceQueue) (limit : Nat) : Piece × PieceQueue :=
  let (taken, left) := divide limit queue.toList
  let piece := Piece.join taken
  (piece, { front := left, back := [], size := queue.size - piece.size })

end PieceQueue

/-! ## The ends of channels -/

/-- An open source or sink of bytes.  Captured pieces are kept last one first. -/
inductive Channel where
  | supply (rest : Bytes)
  | capture (pieces : List Bytes)
  | entrance (pipe : Nat)
  | outlet (pipe : Nat)
  | file (place : Location) (offset : Nat) (appends : Bool)
  | device (device : Device)
  deriving DecidableEq

/-- What an attempt to read gives. -/
inductive Got where
  | piece (piece : Piece)
  | finished
  | blocked
  | failed (reason : String)

/-- What an attempt to write gives: how many bytes were taken, that none can be taken yet, that
nobody will ever read them, or that they cannot be written. -/
inductive Put where
  | taken (count : Nat)
  | blocked
  | broken
  | failed (reason : String)

namespace FileTree

/-- Open what a path leads to for reading. -/
def openInput (tree : FileTree) (path : Path) : Except FileError Channel := do
  match ← tree.find path with
  | (_, .device .terminal) => throw .noSuchDevice
  | (_, .device device) => return .device device
  | (place, _) => return .file place 0 false

/-- Open a file for writing, and make it if it is missing.  What it holds is dropped unless
`keeps` says otherwise. -/
def openOutput (tree : FileTree) (path : Path) (keeps appends : Bool) :
    Except FileError (FileTree × Channel) := do
  let place ← tree.placeForFile path
  match tree.lookup place with
  | some (.device .terminal) => throw .noSuchDevice
  | some (.device device) => return (tree, .device device)
  | some (.file _) =>
    if keeps then return (tree, .file place 0 appends)
    else return (← tree.write path [], .file place 0 appends)
  | _ => return (← tree.write path [], .file place 0 appends)

/-- The bytes of a file from an offset on, as far as a limit allows. -/
def bytesAt (tree : FileTree) (place : Location) (offset limit : Nat) : Got :=
  match tree.lookup place with
  | some (.file content) =>
    match (content.drop offset).take limit with
    | [] => .finished
    | bytes => .piece (Piece.ofBytes bytes)
  | some .folder => .failed FileError.isDirectory.reason
  | _ => .finished

/-- Put bytes into a file at an offset. -/
def putBytes (tree : FileTree) (place : Location) (offset : Nat) (bytes : Bytes) : FileTree :=
  match tree.lookup place with
  | some (.file content) =>
    let before := content.take offset
    let gap := List.replicate (offset - content.length) 0
    let after := content.drop (offset + bytes.length)
    tree.put place (.file (before ++ gap ++ bytes ++ after))
  | _ => tree

/-- The size of a file. -/
def sizeAt (tree : FileTree) (place : Location) : Nat :=
  match tree.lookup place with
  | some (.file content) => content.length
  | _ => 0

end FileTree

end CorpusJudge
