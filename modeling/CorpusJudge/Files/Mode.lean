import CorpusJudge.Text.Integer
import CorpusJudge.Text.Segments

/-!
# File modes

Who may do what with a file: three bits each for its owner, its group and all others, and three that
change how it is executed.  Modes are written in octal digits or as changes of an old one.
-/

namespace CorpusJudge

/-- A mode as a number of twelve bits. -/
abbrev Mode := Nat

namespace Mode

/-- The mode of a new file unless a mask takes bits away. -/
def newFile : Mode := 0o666

/-- The mode of a new folder, or of a new program, unless a mask takes bits away. -/
def newFolder : Mode := 0o777

/-- The mask that is usual. -/
def usualMask : Mode := 0o022

/-- A mode without the bits of a mask. -/
def without (mode mask : Mode) : Mode :=
  mode - Nat.land mode mask

/-- Whether somebody may execute a file. -/
def isExecutable (mode : Mode) : Bool :=
  Nat.land mode 0o111 ≠ 0

/-- Three bits as letters, a mark in the last place if the file is executed in a special way. -/
def letters (bits : Nat) (special : Option (Char × Char)) : List Char :=
  let mark (value : Nat) (letter : Char) : Char := if Nat.land bits value ≠ 0 then letter else '-'
  [mark 4 'r', mark 2 'w',
    match special with
    | some (both, alone) => if Nat.land bits 1 ≠ 0 then both else alone
    | none => mark 1 'x']

/-- A mode as nine letters. -/
def text (mode : Mode) : List Char :=
  let special (bit : Nat) (both alone : Char) : Option (Char × Char) :=
    if Nat.land mode bit ≠ 0 then some (both, alone) else none
  letters (mode / 64 % 8) (special 0o4000 's' 'S') ++
    letters (mode / 8 % 8) (special 0o2000 's' 'S') ++
    letters (mode % 8) (special 0o1000 't' 'T')

/-- A mode in octal digits, at least a number of them. -/
def octal (least : Nat) (mode : Mode) : List Char :=
  let digits := Nat.toDigits 8 mode
  List.replicate (least - digits.length) '0' ++ digits

/-- A mode as the permissions of each class. -/
def classes (mode : Mode) : List Char :=
  let shown (bits : Nat) : List Char := (letters bits none).filter (· ≠ '-')
  "u=".toList ++ shown (mode / 64 % 8) ++ ",g=".toList ++ shown (mode / 8 % 8) ++
    ",o=".toList ++ shown (mode % 8)

/-- The bits that letters behind an operator stand for, in the places of some classes. -/
def bitsOf (old : Mode) (isFolder : Bool) (who : Mode) (letters : List Char) : Mode :=
  letters.foldl (fun bits letter =>
    let copied (bits : Nat) : Mode := Nat.land who (bits * 0o111)
    Nat.lor bits <| match letter with
      | 'r' => Nat.land who 0o444
      | 'w' => Nat.land who 0o222
      | 'x' => Nat.land who 0o111
      | 'X' => if isFolder || isExecutable old then Nat.land who 0o111 else 0
      | 's' => Nat.lor (if Nat.land who 0o700 ≠ 0 then 0o4000 else 0)
          (if Nat.land who 0o070 ≠ 0 then 0o2000 else 0)
      | 't' => if Nat.land who 0o007 ≠ 0 then 0o1000 else 0
      | 'u' => copied (old / 64 % 8)
      | 'g' => copied (old / 8 % 8)
      | _ => copied (old % 8)) 0

/-- The classes that letters name: all bits of their places. -/
def placesOf (letters : List Char) : Mode :=
  letters.foldl (fun bits letter => Nat.lor bits <| match letter with
    | 'u' => 0o700
    | 'g' => 0o070
    | 'o' => 0o007
    | _ => 0o777) 0

/-- Carry out the operators of one clause from left to right. -/
def applyOperators (isFolder : Bool) (who mask : Mode) : Nat → List Char → Mode → Option Mode
  | 0, _, _ => none
  | fuel + 1, text, mode =>
    match text with
    | [] => some mode
    | operator :: rest =>
      let letters := rest.takeWhile "rwxXstugo".toList.contains
      let bits := without (bitsOf mode isFolder who letters) mask
      let after := rest.drop letters.length
      match operator with
      | '+' => applyOperators isFolder who mask fuel after (Nat.lor mode bits)
      | '-' => applyOperators isFolder who mask fuel after (without mode bits)
      | '=' =>
        applyOperators isFolder who mask fuel after (Nat.lor (without mode (without who mask)) bits)
      | _ => none

/-- Change a mode as a text says.  Where no class is named, the bits of a mask stay as they are. -/
def changed? (mask : Mode) (isFolder : Bool) (text : List Char) (old : Mode) : Option Mode :=
  match Integer.natural? 8 text with
  | some mode => if mode < 0o10000 then some mode else none
  | none =>
    (Text.segments ',' text).foldlM (fun mode clause =>
      let who := clause.takeWhile "ugoa".toList.contains
      let rest := clause.drop who.length
      if rest.isEmpty then none
      else if who.isEmpty then applyOperators isFolder 0o777 mask (clause.length + 1) rest mode
      else applyOperators isFolder (placesOf who) 0 (clause.length + 1) rest mode) old

end Mode

end CorpusJudge
