import CorpusJudge.Emulator.Tool.Call

/-!
# Sets of bytes

Bytes replaced, dropped or joined in runs.  Sets are written with ranges, named classes and repeats;
their order matters, since one set is mapped to the other place by place.
-/

namespace CorpusJudge

/-- A part of a set: a byte, a range of bytes, a class of them, or a byte so many times, where no
count means as often as there is room. -/
inductive SetPart where
  | byte (character : Char)
  | range (first last : Char)
  | class (name : String) (members : List Char)
  | repeated (character : Char) (count : Option Nat)

namespace SetPart

/-- A character with a note whether it is meant as such. -/
abbrev Written := Char × Bool

/-- The characters of a set, escapes resolved. -/
def unescape : Nat → Octets → List Written
  | 0, _ => []
  | fuel + 1, text =>
    match text with
    | '\\' :: character :: rest =>
      let digits := ((character :: rest).take 3).takeWhile fun digit => '0' ≤ digit && digit ≤ '7'
      let digits := match Integer.natural? 8 digits with
        | some value => if value < 256 then digits else digits.take 2
        | none => digits
      match Integer.natural? 8 digits with
      | some value =>
        (Char.ofNat value, true) :: unescape fuel ((character :: rest).drop digits.length)
      | none =>
        let byte := match character with
          | 'a' => '\x07'
          | 'b' => '\x08'
          | 'f' => '\x0c'
          | 'n' => '\n'
          | 'r' => '\r'
          | 't' => '\t'
          | 'v' => '\x0b'
          | other => other
        (byte, true) :: unescape fuel rest
    | character :: rest => (character, false) :: unescape fuel rest
    | [] => []

/-- The name between two marks of a kind and a bracket, and what follows. -/
def named? (kind : Char) : List Written → Option (Octets × List Written)
  | first :: second :: rest =>
    if first = (kind, false) && second = (']', false) then some ([], rest)
    else (named? kind (second :: rest)).map fun (name, rest) => (first.1 :: name, rest)
  | _ => none

/-- A byte, a star, digits and a bracket: a repeat, if the digits make sense, and what follows. -/
def repeat? (text : List Written) : Option (Except Octets (SetPart × List Written)) :=
  match text with
  | (character, _) :: ('*', false) :: rest =>
    let digits := rest.takeWhile fun written => written ≠ (']', false)
    match rest.drop digits.length with
    | [] => none
    | _ :: after =>
      let digits := digits.map Prod.fst
      if digits.isEmpty then some (.ok (.repeated character none, after))
      else
        let base := if digits.head? = some '0' then 8 else 10
        match Integer.natural? base digits with
        | some 0 => some (.ok (.repeated character none, after))
        | some count => some (.ok (.repeated character (some count), after))
        | none => some (.error ("invalid repeat count ".toList ++ quoted digits ++
            " in [c*n] construct".toList))
  | _ => none

/-- The members of a named class in order. -/
def classMembers? (name : Octets) : Option (List Char) :=
  (Text.classRanges? (String.ofList name)).map fun ranges =>
    ((List.range 256).map Char.ofNat).filter (Text.liesIn ranges)

/-- A character as it is shown in a complaint. -/
def shown (character : Char) : Octets :=
  if Quoting.isPrintable character then [character] else Quoting.escape character

/-- The parts of a set as it is written. -/
def readAll : Nat → List Written → Except Octets (List SetPart)
  | 0, _ => .ok []
  | fuel + 1, text =>
    let plain : Except Octets (List SetPart) :=
      match text with
      | (first, _) :: ('-', false) :: (last, _) :: rest => do
        if last < first then
          throw ("range-endpoints of '".toList ++ shown first ++ '-' :: shown last ++
            "' are in reverse collating sequence order".toList)
        return .range first last :: (← readAll fuel rest)
      | (character, _) :: rest => (readAll fuel rest).map (.byte character :: ·)
      | [] => .ok []
    let repeated (rest : List Written) : Except Octets (List SetPart) :=
      match repeat? rest with
      | some (.ok (part, after)) => (readAll fuel after).map (part :: ·)
      | some (.error complaint) => .error complaint
      | none => plain
    match text with
    | ('[', false) :: (kind, false) :: rest =>
      if kind ≠ ':' && kind ≠ '=' then repeated ((kind, false) :: rest)
      else match named? kind rest with
        | none => repeated ((kind, false) :: rest)
        | some ([], _) =>
          .error (if kind = ':' then "missing character class name '[::]'".toList
            else "missing equivalence class character '[==]'".toList)
        | some (name, after) =>
          let other (complaint : Octets) : Except Octets (List SetPart) :=
            match repeat? ((kind, false) :: rest) with
            | some (.ok (part, after)) => (readAll fuel after).map (part :: ·)
            | _ => .error complaint
          if kind = ':' then
            match classMembers? name with
            | some members => (readAll fuel after).map (.class (String.ofList name) members :: ·)
            | none => other ("invalid character class ".toList ++ quoted name)
          else match name with
            | [character] => (readAll fuel after).map (.byte character :: ·)
            | _ => other (name ++ ": equivalence class operand must be a single character".toList)
    | ('[', false) :: rest => repeated rest
    | _ => plain

/-- A set as it is written. -/
def read (text : Octets) : Except Octets (List SetPart) :=
  readAll (text.length + 1) (unescape (text.length + 1) text)

/-- How many members a part has for itself. -/
def size : SetPart → Nat
  | byte _ => 1
  | range first last => last.toNat + 1 - first.toNat
  | .class _ members => members.length
  | repeated _ count => count.getD 0

/-- The members of a part, where a repeat without count has so many. -/
def members (filling : Nat) : SetPart → List Char
  | byte character => [character]
  | range first last =>
    (List.range (last.toNat + 1 - first.toNat)).map fun offset => Char.ofNat (first.toNat + offset)
  | .class _ members => members
  | repeated character count => List.replicate (count.getD filling) character

/-- Whether a part is a class. -/
def isClass : SetPart → Bool
  | .class _ _ => true
  | _ => false

/-- Whether a part is a class of capital or small letters. -/
def isCase : SetPart → Bool
  | .class name _ => name = "upper" || name = "lower"
  | _ => false

/-- Whether a part has as many members as there is room for. -/
def isFilling : SetPart → Bool
  | repeated _ none => true
  | _ => false

/-- All members of a set in order, where the whole has at least so many if it can. -/
def membersOf (wanted : Nat) (parts : List SetPart) : List UInt8 :=
  let own := (parts.map size).foldl (· + ·) 0
  Bytes.ofOctets (parts.flatMap (members (wanted - own)))

end SetPart

namespace Call

/-- What is wrong with the sets of a replacement, if anything. -/
def replacementFault? (source target : List SetPart) (isComplement isCut : Bool)
    (sourceSize : Nat) : Option Octets :=
  let targetSize := (SetPart.membersOf sourceSize target).length
  if target.any fun part => part.isClass && !part.isCase then
    some ("when translating, the only character classes that may appear in\n" ++
      "string2 are 'upper' and 'lower'").toList
  else if (target.filter SetPart.isFilling).length > 1 then
    some "only one [c*] repeat construct may appear in string2".toList
  else if targetSize = 0 && !isCut && sourceSize ≠ 0 then
    some "when not truncating set1, string2 must be non-empty".toList
  else if targetSize < sourceSize && !isCut && target.getLast?.any SetPart.isClass then
    some ("when translating with string1 longer than string2,\n" ++
      "the latter string must not end with a character class").toList
  else
    let starts (parts : List SetPart) (wanted : Nat) : List (Nat × SetPart) :=
      let own := (parts.map SetPart.size).foldl (· + ·) 0
      (parts.foldl (fun (place, found) part =>
        (place + (part.members (wanted - own)).length, (place, part) :: found))
        (0, ([] : List (Nat × SetPart)))).2
    let sourceStarts := starts source 0
    let isAligned := (starts target sourceSize).all fun (place, part) =>
      !part.isCase || sourceStarts.any fun (other, part) => other = place && part.isCase
    if !isAligned then some "misaligned [:upper:] and/or [:lower:] construct".toList
    else
      let images := SetPart.membersOf sourceSize target
      if isComplement && source.any SetPart.isClass && images.any (some · ≠ images.head?) then
        some ("when translating with complemented character classes,\n" ++
          "string2 must map all characters in the domain to one").toList
      else none

/-- The table of a replacement by two sets. -/
def replacementTable (source target : List UInt8) : UInt8 → Option UInt8 :=
  let images := target ++ List.replicate (source.length - target.length) (target.getLastD 0)
  let pairs := source.zip images
  let table := pairs.foldl (fun table (byte, image) => table.setIfInBounds byte.toNat image)
    ((List.range 256).map Nat.toUInt8).toArray
  fun byte => some (table.getD byte.toNat byte)

/-- A test for the members of a set. -/
def memberTest (members : List UInt8) : UInt8 → Bool :=
  let table := members.foldl (fun table byte => table.setIfInBounds byte.toNat true)
    (Array.replicate 256 false)
  fun byte => table.getD byte.toNat false

/-- Bytes replaced, dropped or joined in runs. -/
def translate (call : Call) : Tool :=
  let table : OptionTable := ⟨"cCdst", [("complement", 'c'), ("delete", 'd'), ("squeeze-repeats", 's'),
    ("truncate-set1", 't')], [], true⟩
  call.withOptions table 1 fun options =>
    let isComplement := options.hasAny ["c", "C"]
    let deletes := options.has "d"
    let squeezes := options.has "s"
    let extra (operand : Octets) (note : String) : Tool :=
      call.misused 1 ("extra operand ".toList ++ quoted operand ++ note.toList)
    let work (first second : Octets) (hasSecond : Bool) : Tool :=
      let isHanging (text : Octets) : Bool :=
        (text.reverse.takeWhile (· = '\\')).length % 2 = 1
      let warnings := ([first] ++ (if hasSecond then [second] else [])).filter isHanging
      let warn := warnings.map fun _ =>
        Job.complain call.name
          "warning: an unescaped backslash at end of string is not portable".toList
      let translates := !deletes && hasSecond
      match SetPart.read first, SetPart.read second with
      | .error complaint, _ => call.jobs (warn ++ [.complain call.name complaint, .finish 1])
      | _, .error complaint => call.jobs (warn ++ [.complain call.name complaint, .finish 1])
      | .ok source, .ok target =>
        let listed := SetPart.membersOf 0 source
        let inSource := memberTest listed
        let members := if isComplement then
            ((List.range 256).map Nat.toUInt8).filter fun byte => !inSource byte
          else listed
        let isMember := memberTest members
        let fault? :=
          if source.any SetPart.isFilling then
            some "the [c*] repeat construct may not appear in string1".toList
          else if !hasSecond then none
          else if translates then
            replacementFault? source target isComplement (options.has "t") members.length
          else if target.any SetPart.isFilling then
            some "the [c*] construct may appear in string2 only when translating".toList
          else none
        match fault? with
        | some complaint => call.jobs (warn ++ [.complain call.name complaint, .finish 1])
        | none =>
          let images := SetPart.membersOf members.length target
          let members := if options.has "t" then members.take images.length else members
          let replace := if deletes then fun byte => if isMember byte then none else some byte
            else if translates then replacementTable members images
            else some
          let isJoined := if !squeezes then fun _ => false
            else if hasSecond then memberTest (SetPart.membersOf members.length target)
            else isMember
          { name := call.name
            jobs := warn ++ [.consume none]
            filter := .translate replace isJoined none
            wording := { reading := fun _ => "read error".toList } }
    match options.operands with
    | [] => call.misused 1 "missing operand".toList
    | _ :: _ :: third :: _ => extra third ""
    | [only] =>
      if deletes != squeezes then work only [] false
      else
        call.misused 1 ("missing operand after ".toList ++ quoted only ++
          ("\nTwo strings must be given when " ++
            (if deletes then "both deleting and squeezing repeats." else "translating.")).toList)
    | [first, second] =>
      if deletes && !squeezes then
        extra second "\nOnly one string may be given when deleting without squeezing repeats."
      else work first second true

end Call

end CorpusJudge
