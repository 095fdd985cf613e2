import CorpusJudge.Emulator.Tool.Dump
import CorpusJudge.Emulator.Tool.Layout
import CorpusJudge.Emulator.Tool.Starting

/-!
# Copying and dividing data

Tools that copy data in blocks, and that divide data into files.
-/

namespace CorpusJudge

/-- The settings of a copy as its operands give them, in order. -/
abbrev CopySettings := List (String × Octets)

namespace CopySettings

/-- The settings that there are. -/
def names : List String :=
  ["bs", "cbs", "conv", "count", "ibs", "if", "iflag", "iseek", "obs", "of", "oflag", "oseek",
    "seek", "skip", "status"]

/-- The changes that can be asked for. -/
def conversions : List String :=
  ["ascii", "block", "ebcdic", "excl", "fdatasync", "fsync", "ibm", "lcase", "nocreat", "noerror",
    "notrunc", "sparse", "swab", "sync", "ucase", "unblock"]

/-- What can be asked for about a side of a copy. -/
def flags : List String :=
  ["append", "cio", "count_bytes", "direct", "directory", "dsync", "fullblock", "noatime",
    "nocache", "noctty", "nofollow", "nolinks", "nonblock", "seek_bytes", "skip_bytes", "sync"]

/-- A product of numbers with units. -/
def product? (text : Octets) : Option Nat :=
  (Text.segments 'x' text).foldl (fun product piece =>
    match product, (if piece.head?.any Char.isDigit then scaled? piece else none) with
    | some product, some value => some (product * value)
    | _, _ => none) (some 1)
where
  /-- A number with a unit, of which there are two more here. -/
  scaled? (text : Octets) : Option Nat :=
    match text.getLast? with
    | some 'c' => Integer.natural? 10 text.dropLast
    | some 'w' => (Integer.natural? 10 text.dropLast).map (2 * ·)
    | _ => Call.scaledNumber? text

/-- Read operands; the failure is a complaint, and whether advice follows it. -/
def read (operands : List Octets) : Except (Octets × Bool) CopySettings :=
  operands.foldlM (fun settings operand => do
    let name := String.ofList (operand.takeWhile (· ≠ '='))
    let value := operand.drop (name.length + 1)
    if !operand.contains '=' || !names.contains name then
      throw ("unrecognized operand ".toList ++ quoted operand, true)
    let words := (Text.segments ',' value).map String.ofList
    let check (known : List String) (noun : String) : Except (Octets × Bool) Unit :=
      match words.find? fun word => !known.contains word with
      | some word => throw (s!"invalid {noun}: ".toList ++ quoted word.toList, true)
      | none => pure ()
    match name with
    | "if" => pure ()
    | "of" => pure ()
    | "conv" => check conversions "conversion"
    | "iflag" => check flags "input flag"
    | "oflag" => check flags "output flag"
    | "status" => check ["none", "noxfer", "progress"] "status level"
    | _ =>
      let least := if ["bs", "ibs", "obs", "cbs"].contains name then 1 else 0
      if (product? value).all (· < least) then
        throw ("invalid number: ".toList ++ quoted value, false)
    return settings ++ [(name, value)]) []

/-- The last value of a setting. -/
def value? (settings : CopySettings) (name : String) : Option Octets :=
  (settings.reverse).lookup name

/-- The number that a setting gives. -/
def number? (settings : CopySettings) (name : String) : Option Nat :=
  (settings.value? name).bind product?

/-- Whether a word is among those of a setting. -/
def has (settings : CopySettings) (name word : String) : Bool :=
  settings.any fun (other, value) =>
    other = name && (Text.segments ',' value).any (· = word.toList)

/-- Bytes with every two exchanged. -/
def swapped : Bytes → Bytes
  | first :: second :: rest => second :: first :: swapped rest
  | rest => rest

/-- What becomes of the bytes of a block. -/
def change (settings : CopySettings) (bytes : Bytes) : Bytes :=
  let bytes := if settings.has "conv" "swab" then swapped bytes else bytes
  if settings.has "conv" "ucase" then
    bytes.map fun byte => if 97 ≤ byte && byte ≤ 122 then byte - 32 else byte
  else if settings.has "conv" "lcase" then
    bytes.map fun byte => if 65 ≤ byte && byte ≤ 90 then byte + 32 else byte
  else bytes

/-- A size with the letter of a unit, for those who look at it. -/
def sizeText (base : Nat) (size : Nat) : String :=
  let rec grade : Nat → Nat → Nat → Nat × Nat
    | 0, unit, power => (unit, power)
    | fuel + 1, unit, power =>
      if size < unit * base then (unit, power) else grade fuel (unit * base) (power + 1)
  let (unit, power) := grade 8 1 0
  let letters := if base = 1000 then ["", "k", "M", "G", "T", "P"]
    else ["", "Ki", "Mi", "Gi", "Ti", "Pi"]
  let letter := letters.getD power ""
  let tenths := Quantity.roundDiv (size * 10) unit
  let number := if tenths < 100 then s!"{tenths / 10}.{tenths % 10}"
    else toString (Quantity.roundDiv size unit)
  s!"{number} {letter}B"

/-- What is said at the end of a copy. -/
def report (settings : CopySettings) (copy : BlockCopy) : String :=
  let status := settings.value? "status"
  let records :=
    s!"{copy.wholeIn}+{copy.partIn} records in\n{copy.wholeOut}+{copy.partOut} records out\n"
  let size := copy.copied
  let noun := if size = 1 then "byte" else "bytes"
  let about := if size < 1000 then ""
    else if size < 1024 then s!" ({sizeText 1000 size})"
    else s!" ({sizeText 1000 size}, {sizeText 1024 size})"
  let rate := if size = 0 then "0.0 kB" else sizeText 1000 (size * 10000)
  if status = some "none".toList then ""
  else if status = some "noxfer".toList then records
  else s!"{records}{size} {noun}{about} copied, 0.0001 s, {rate}/s\n"

end CopySettings

namespace Call

open Shell (pathOf)

/-- Keep only the beginning of a file that is to be written from an offset on. -/
def cutFile (path : Octets) (offset : Nat) (files : FileTree) : Change :=
  match files.find (pathOf path) with
  | .ok (place, .file content) =>
    let isCut := offset < content.length
    { files := if isCut then files.put place (.file (content.take offset)) else files }
  | _ => { files := files }

/-- Copy data in blocks. -/
def copyBlocks (call : Call) : Tool :=
  call.withOptions ⟨"", [], [], true⟩ 1 fun options =>
    match CopySettings.read options.operands with
    | .error (complaint, true) => call.misused 1 complaint
    | .error (complaint, false) => call.refuse 1 complaint
    | .ok settings =>
      if settings.has "conv" "lcase" && settings.has "conv" "ucase" then
        call.refuse 1 "cannot combine lcase and ucase".toList
      else
        let files := call.facts.files
        let both := settings.number? "bs"
        let inputSize := (both.or (settings.number? "ibs")).getD 512
        let outputSize := (both.or (settings.number? "obs")).getD 512
        let plan : BlockPlan :=
          ⟨inputSize, if both.isSome then none else some outputSize, settings.change,
            settings.has "conv" "sync"⟩
        let skip := ((settings.number? "skip").or (settings.number? "iseek")).getD 0
        let seek := ((settings.number? "seek").or (settings.number? "oseek")).getD 0
        let copy : BlockCopy := {
          plan := plan
          skipped := if settings.has "iflag" "skip_bytes" then skip else skip * inputSize
          left := settings.number? "count"
          countsBytes := settings.has "iflag" "count_bytes" }
        let offset := if settings.has "oflag" "seek_bytes" then seek else seek * outputSize
        let source := settings.value? "if"
        let fault? := source.bind fun path =>
          match files.find (pathOf path) with
          | .error error => some (path, error)
          | .ok _ => none
        match fault? with
        | some (path, error) =>
          call.refuse 1 ("failed to open ".toList ++ Quoting.always path ++
            s!": {error.reason}".toList)
        | none =>
          let opening : List Job := match settings.value? "of" with
            | none => []
            | some path =>
              if settings.has "oflag" "append" then [Job.openOutput 1 path true]
              else (if settings.has "conv" "notrunc" then []
                else [.change (cutFile path offset)]) ++ [.openAt 1 path offset]
          let target? := (settings.value? "of").bind fun path =>
            match files.write (pathOf path) [] with
            | .error error => some (path, error)
            | .ok _ => none
          match target? with
          | some (path, error) =>
            call.refuse 1 ("failed to open ".toList ++ Quoting.always path ++
              s!": {error.reason}".toList)
          | none =>
            { name := call.name
              wording := ⟨Quoting.always, fun name => "error reading ".toList ++ Quoting.always name⟩
              jobs := opening ++ [.consume source, .conclude]
              filter := .blocks copy fun copy =>
                [.flush, .emit 2 (Bytes.ofString (settings.report copy))] }

end Call

/-! ## Dividing -/

/-- How data is divided: into parts of so many lines or bytes, of whole lines of so many bytes at
most, or into so many parts, of which perhaps one is shown. -/
inductive Division where
  | lines (count : Nat)
  | bytes (count : Nat)
  | wholeLines (count : Nat)
  | parts (count : Nat) (shown : Option Nat)
  | lineParts (count : Nat) (shown : Option Nat)
  | turns (count : Nat) (shown : Option Nat)

namespace Division

/-- Lists in groups of so many. -/
def inGroups {α : Type} (size : Nat) : Nat → List α → List (List α)
  | 0, _ => []
  | fuel + 1, items =>
    if items.isEmpty then [] else items.take size :: inGroups size fuel (items.drop size)

/-- Lines joined as long as they have so many bytes at most; longer lines are divided. -/
def packed (size : Nat) : Nat → Bytes → List Bytes → List Bytes
  | 0, held, _ => [held]
  | _, held, [] => if held.isEmpty then [] else [held]
  | fuel + 1, held, line :: rest =>
    if held.length + line.length ≤ size then packed size fuel (held ++ line) rest
    else if held.isEmpty then line.take size :: packed size fuel [] (line.drop size :: rest)
    else held :: packed size fuel [] (line :: rest)

/-- Where each of some parts starts. -/
def starts (size count : Nat) : List Nat :=
  (List.range (count + 1)).map fun index => index * (size / count) + min index (size % count)

/-- The parts of some data. -/
def partsOf (division : Division) (mark : UInt8) (content : Bytes) : List Bytes :=
  let all := Call.wholeLines mark content
  let size := content.length
  match division with
  | .lines count => (inGroups count (all.length + 1) all).map List.flatten
  | bytes count => inGroups count (size + 1) content
  | wholeLines count => packed count (size + all.length + 1) [] all
  | parts count _ =>
    let starts := starts size count
    (starts.zip starts.tail).map fun (start, stop) => (content.drop start).take (stop - start)
  | lineParts count _ =>
    let starts := starts size count
    let placed := (all.foldl (fun ((found : List (Nat × Bytes)), place) line =>
      ((place, line) :: found, place + line.length)) ([], 0)).1.reverse
    (starts.zip starts.tail).map fun (start, stop) =>
      (placed.filter fun (place, _) => start ≤ place && place < stop).flatMap Prod.snd
  | turns count _ =>
    let marked := all.zipIdx
    (List.range count).map fun turn =>
      (marked.filter fun (_, index) => index % count = turn).flatMap Prod.fst

/-- The part that is shown, if only one is. -/
def shown? : Division → Option Nat
  | parts _ shown => shown
  | lineParts _ shown => shown
  | turns _ shown => shown
  | _ => none

/-- How many parts there are, if that is given. -/
def count? : Division → Option Nat
  | parts count _ => some count
  | lineParts count _ => some count
  | turns count _ => some count
  | _ => none

/-- Read a number of parts, perhaps with the one that is shown. -/
def readParts (text : Octets) : Except Octets Division :=
  let (kind, rest) := match text with
    | 'l' :: '/' :: rest => ('l', rest)
    | 'r' :: '/' :: rest => ('r', rest)
    | rest => ('b', rest)
  let wrong (number : Octets) : Octets := "invalid number of chunks: ".toList ++ quoted number
  let make (count : Nat) (shown : Option Nat) : Division :=
    if kind = 'l' then .lineParts count shown else if kind = 'r' then .turns count shown
    else .parts count shown
  match (Text.segments '/' rest).map fun piece => (piece, Integer.natural? 10 piece) with
  | [(piece, some count)] => if count = 0 then .error (wrong piece) else .ok (make count none)
  | [(_, some shown), (piece, some count)] =>
    if count = 0 then .error (wrong piece)
    else if shown = 0 || count < shown then
      .error ("invalid chunk number: ".toList ++ quoted (toString shown).toList)
    else .ok (make count (some (shown - 1)))
  | _ => .error (wrong rest)

/-- The division that options ask for. -/
def ofOptions (options : Options) : Except (Octets × Bool) Division := do
  let keys := (options.flags.map Prod.fst).filter ["b", "C", "l", "n"].contains
  let number (noun : String) (text : Octets) : Except (Octets × Bool) Nat :=
    match if text.head?.any Char.isDigit then Call.scaledNumber? text else none with
    | some (count + 1) => .ok (count + 1)
    | _ => .error (s!"invalid number of {noun}: ".toList ++ quoted text, false)
  match keys with
  | [] => return .lines 1000
  | [key] =>
    let text := (options.value? key).getD []
    match key with
    | "b" => return .bytes (← number "bytes" text)
    | "C" => return .wholeLines (← number "bytes" text)
    | "l" => return .lines (← number "lines" text)
    | _ => match readParts text with
      | .ok division => return division
      | .error message => throw (message, false)
  | _ => throw ("cannot split in more than one way".toList, true)

end Division

namespace Call

/-- A number in digits of some alphabet, in so many places. -/
def suffixOf (alphabet : List Char) (width index : Nat) : Octets :=
  (List.range width).reverse.map fun place =>
    alphabet.getD (index / Nat.pow alphabet.length place % alphabet.length) 'a'

/-- Divide data into files. -/
def divide (call : Call) : Tool :=
  let table : OptionTable := ⟨"a:b:C:del:n:t:ux", [("suffix-length", 'a'), ("bytes", 'b'),
    ("line-bytes", 'C'), ("elide-empty-files", 'e'), ("lines", 'l'), ("number", 'n'),
    ("separator", 't'), ("unbuffered", 'u')],
    ["additional-suffix:", "filter:", "numeric-suffixes::", "hex-suffixes::", "verbose"], false⟩
  (call.withArguments (withDigits 'l' call.arguments)).withOptions table 1 fun options =>
    match Division.ofOptions options, options.operands.drop 2 with
    | .error (complaint, true), _ => call.misused 1 complaint
    | .error (complaint, false), _ => call.refuse 1 complaint
    | .ok _, extra :: _ => call.misused 1 ("extra operand ".toList ++ quoted extra)
    | .ok division, [] =>
      let mark := match options.value? "t" with
        | some ['\\', '0'] => 0
        | some [character] => character.toNat.toUInt8
        | _ => 10
      let isDecimal := options.hasAny ["d", "numeric-suffixes"]
      let isHexadecimal := options.hasAny ["x", "hex-suffixes"]
      let alphabet := if isDecimal then "0123456789".toList
        else if isHexadecimal then "0123456789abcdef".toList
        else "abcdefghijklmnopqrstuvwxyz".toList
      let first := (((options.value? "numeric-suffixes").or (options.value? "hex-suffixes")).bind
        (Integer.natural? 10)).getD 0
      let stem := options.operands.getD 1 ['x']
      let given := (options.value? "a").bind (Integer.natural? 10)
      let ending := (options.value? "additional-suffix").getD []
      let finish (inputs : List (Octets × Bytes)) : List Job :=
        let content := inputs.flatMap Prod.snd
        let parts := division.partsOf mark content
        let parts := if options.has "e" then parts.filter (!·.isEmpty) else parts
        let needed := (List.range 20).find? fun width =>
          division.count?.getD 0 ≤ Nat.pow alphabet.length (width + 1)
        let width := given.getD (max 2 (needed.getD 2 + 1))
        let room := Nat.pow alphabet.length width
        let names := (List.range parts.length).map fun index =>
          stem ++ suffixOf alphabet width (first + index) ++ ending
        let write (name : Octets) (part : Bytes) : List Job :=
          (if options.has "verbose" then
            [Job.emit 1 (Bytes.ofOctets ("creating file ".toList ++ Quoting.always name ++ ['\n']))]
          else []) ++
          [.change fun files =>
            match files.write (Shell.pathOf name) part with
            | .ok files => { files := files }
            | .error error =>
              { files := files
                said := [(2, complaintOf call.name (name ++ s!": {error.reason}".toList))]
                status := 1 }]
        match division.shown? with
        | some index => [.emit 1 (parts.getD index [])]
        | none => match options.value? "filter" with
          | some command =>
            (names.zip parts).flatMap fun (name, part) =>
              [.launch
                { command := ["sh".toList, "-c".toList, command]
                  environment := withSetting call.environment ("FILE=".toList ++ name)
                  input := some part }
                fun _ => []]
          | none =>
            ((names.zip parts).take (room - first)).flatMap (fun (name, part) => write name part) ++
              if room - first < parts.length then
                [.complain call.name "output file suffixes exhausted".toList, .finish 1]
              else []
      { call.gathering (options.operands.take 1) finish with
        wording := { Wording.quotedOpen with reading := Quoting.asName } }

end Call

end CorpusJudge
