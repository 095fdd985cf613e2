import CorpusJudge.Bytes
import CorpusJudge.Emulator.Shell.Redirect

/-!
# Options among arguments

A script goes through the options among its arguments one at a time.  The shell keeps how far it has
come; the script sees the letter, its value, and the number of the next argument.
-/

namespace CorpusJudge.Shell

/-! ## Letters of built-in commands

The options of a built-in command are letters in front of its operands, some with a value. -/

/-- The letters in front of the operands of a built-in command, with their values, and the operands. -/
structure Letters where
  flags : List (Char × Octets)
  operands : List Octets

namespace Letters

/-- Whether a letter is given. -/
def has (letters : Letters) (letter : Char) : Bool :=
  (letters.flags.lookup letter).isSome

/-- A letter in front of others. -/
def withFlag (letter : Char) (value : Octets) (letters : Letters) : Letters :=
  { letters with flags := (letter, value) :: letters.flags }

/-- Read arguments as far as `fuel` letters and arguments go. -/
def readFrom (plain valued : List Char) : Nat → List Octets → Except Char Letters
  | 0, arguments => .ok ⟨[], arguments⟩
  | fuel + 1, arguments =>
    match arguments with
    | ['-', '-'] :: rest => .ok ⟨[], rest⟩
    | ('-' :: letter :: more) :: rest =>
      if valued.contains letter then
        if !more.isEmpty then (readFrom plain valued fuel rest).map (withFlag letter more)
        else match rest with
          | value :: rest => (readFrom plain valued fuel rest).map (withFlag letter value)
          | [] => .error letter
      else if plain.contains letter then
        let rest := if more.isEmpty then rest else ('-' :: more) :: rest
        (readFrom plain valued fuel rest).map (withFlag letter [])
      else .error letter
    | _ => .ok ⟨[], arguments⟩

/-- Read arguments, given the letters without a value and those with one.  The failure is a letter
that is neither, or that lacks its value. -/
def read (plain valued : String) (arguments : List Octets) : Except Char Letters :=
  let size := arguments.foldl (fun size argument => size + argument.length + 1) 1
  readFrom plain.toList valued.toList size arguments

end Letters

/-! ## Options -/

/-- One step through options: the letter that was found, the value to be given to it or none, a
complaint, and how far the search has come. -/
structure OptionStep where
  letter : Char
  value : Option Octets
  complaint : Option String
  scan : OptionScan
  isOver : Bool

/-- Whether a letter is one of the options that a text describes, and whether it takes a value: a
colon behind a letter says so. -/
def optionKind? (letter : Char) : Octets → Option Bool
  | [] => none
  | known :: ':' :: rest => if known = letter then some true else optionKind? letter rest
  | known :: rest => if known = letter then some false else optionKind? letter rest

/-- Look at an option letter, with the characters behind it in its argument, which is the one before
the argument with the number `next`. -/
def optionAt (known : Octets) (arguments : List Octets) (next : Nat) (letter : Char)
    (behind : Octets) (offset : Nat) : OptionStep :=
  let isSilent := known.head? = some ':'
  let onward : OptionScan := ⟨next, some offset⟩
  match optionKind? letter (if isSilent then known.tail else known) with
  | none =>
    if isSilent then ⟨'?', some [letter], none, onward, false⟩
    else ⟨'?', none, some s!"Illegal option -{String.ofList [letter]}\n", onward, false⟩
  | some false => ⟨letter, some [], none, onward, false⟩
  | some true =>
    if !behind.isEmpty then ⟨letter, some behind, none, ⟨next, none⟩, false⟩
    else match arguments[next - 1]? with
      | some value => ⟨letter, some value, none, ⟨next + 1, none⟩, false⟩
      | none =>
        if isSilent then ⟨':', some [letter], none, onward, false⟩
        else ⟨'?', none, some s!"No arg for -{String.ofList [letter]} option\n", onward, false⟩

/-- The next step through options. -/
def nextOption (known : Octets) (arguments : List Octets) (scan : OptionScan) : OptionStep :=
  let finished (index : Nat) : OptionStep := ⟨'?', none, none, ⟨index, none⟩, true⟩
  let current := if scan.index ≤ 1 then none else do
    let offset ← scan.offset
    let argument ← arguments[scan.index - 2]?
    match argument.drop offset with
    | [] => none
    | letter :: behind => some (letter, behind, offset + 1)
  match current with
  | some (letter, behind, offset) => optionAt known arguments scan.index letter behind offset
  | none =>
    match arguments[scan.index - 1]? with
    | some ['-', '-'] => finished (scan.index + 1)
    | some ('-' :: letter :: behind) => optionAt known arguments (scan.index + 1) letter behind 2
    | _ => finished scan.index

/-- Go one step through the options among arguments. -/
def getopts (arguments : List Octets) : Act Unit := do
  match arguments with
  | known :: name :: given =>
    let shell ← Act.shell
    let found := nextOption known (if given.isEmpty then shell.arguments else given) shell.scan
    let name := String.ofList name
    Act.update fun shell =>
      let vars := shell.vars.assign "OPTIND" (toString found.scan.index).toList
      let vars := if found.isOver then vars
        else match found.value with
          | some value => vars.assign "OPTARG" value
          | none => vars.putBack "OPTARG" none
      { shell with
        vars := vars.assign name [found.letter]
        scan := found.scan
        status := if found.isOver then 1 else 0 }
    if let some complaint := found.complaint then
      Act.push [.say 2 (Bytes.ofString complaint) "getopts"]
  | _ =>
    Act.setStatus 2
    Act.complain (some "getopts") "Usage: getopts optstring var [arg...]"

end CorpusJudge.Shell
