import CorpusJudge.Emulator.Digest
import CorpusJudge.Emulator.Tool.Call

/-!
# Encodings, digests and check sums

Tools that tell the digests of files, and whether files still have the digests that they had.
-/

namespace CorpusJudge

/-! ## Encodings of bytes as text

Groups of bytes are written as groups of digits in a base of their own.  A group at the end may be
shorter; then marks fill its place. -/

/-- An encoding: its digits, how many bytes and digits make up a group, whether marks fill up a short
group, and whether the digits of a group stand in reverse. -/
structure Encoding where
  digits : String
  bytes : Nat
  places : Nat
  isFilled : Bool := false
  isReversed : Bool := false
  keepsParts : Bool := false

namespace Encoding

/-- The digits of the upper-case letters, the lower-case ones and the numbers. -/
def letters : String := "ABCDEFGHIJKLMNOPQRSTUVWXYZabcdefghijklmnopqrstuvwxyz0123456789"

/-- Six bits in a digit. -/
def base64 : Encoding := ⟨letters ++ "+/", 3, 4, true, false, true⟩

/-- Six bits in a digit that may stand in an address. -/
def base64Address : Encoding := ⟨letters ++ "-_", 3, 4, true, false, true⟩

/-- Five bits in a digit. -/
def base32 : Encoding := ⟨"ABCDEFGHIJKLMNOPQRSTUVWXYZ234567", 5, 8, true, false, false⟩

/-- Five bits in a digit whose order is that of the numbers. -/
def base32Ordered : Encoding := ⟨"0123456789ABCDEFGHIJKLMNOPQRSTUV", 5, 8, true, false, false⟩

/-- Four bits in a digit. -/
def base16 : Encoding := ⟨"0123456789ABCDEF", 1, 2, false, false, false⟩

/-- A bit in a digit, most significant bit first. -/
def base2 : Encoding := ⟨"01", 1, 8, false, false, false⟩

/-- A bit in a digit, least significant bit first. -/
def base2Reversed : Encoding := ⟨"01", 1, 8, false, true, false⟩

/-- Five digits for four bytes. -/
def base85 : Encoding :=
  ⟨"0123456789abcdefghijklmnopqrstuvwxyzABCDEFGHIJKLMNOPQRSTUVWXYZ.-:+=^!/*?&<>()[]\x7b\x7d@%$#", 4, 5,
    false, false, false⟩

/-- How many digits there are. -/
def base (encoding : Encoding) : Nat := encoding.digits.length

/-- How many digits so many bytes take. -/
def placesFor (encoding : Encoding) (count : Nat) : Nat :=
  ((List.range encoding.places).find? fun places =>
    Nat.pow 256 count ≤ Nat.pow encoding.base places).getD encoding.places

/-- The digit with a value. -/
def digit (encoding : Encoding) (value : Nat) : Char :=
  encoding.digits.toList.getD value '?'

/-- The value of a digit. -/
def value? (encoding : Encoding) (digit : Char) : Option Nat :=
  encoding.digits.toList.idxOf? digit

/-- The digits of a group of bytes. -/
def encodeGroup (encoding : Encoding) (group : Bytes) : Octets :=
  let filled := group ++ List.replicate (encoding.bytes - group.length) 0
  let number := Digest.numberOf filled.reverse
  let all := (List.range encoding.places).reverse.map fun place =>
    encoding.digit (number / Nat.pow encoding.base place % encoding.base)
  let used := encoding.placesFor group.length
  let fill := if encoding.isFilled then List.replicate (encoding.places - used) '=' else []
  (if encoding.isReversed then all.reverse else all).take used ++ fill

/-- The text for bytes. -/
def encode (encoding : Encoding) (bytes : Bytes) : Octets :=
  let count := (bytes.length + encoding.bytes - 1) / encoding.bytes
  (Digest.groups encoding.bytes count bytes).flatMap encoding.encodeGroup

/-- The bytes for so many digits with some values. -/
def bytesOf (encoding : Encoding) (values : List Nat) (count : Nat) : Option Bytes :=
  let filled := values ++ List.replicate (encoding.places - values.length) 0
  let ordered := if encoding.isReversed then filled.reverse else filled
  let number := ordered.foldl (fun number value => encoding.base * number + value) 0
  if Nat.pow 256 encoding.bytes ≤ number then none
  else some ((Digest.bigEndian encoding.bytes number).take count)

/-- The bytes for a group of digits, as far as it has some, and whether it is whole. -/
def decodeGroup (encoding : Encoding) (group : Octets) : Bytes × Bool :=
  let values := (group.map encoding.value?).takeWhile Option.isSome |>.filterMap id
  let fill := group.drop values.length
  let counts := (List.range encoding.bytes).map (· + 1)
  let count? := counts.find? fun count => encoding.placesFor count = values.length
  let isWhole := group.length = encoding.places && fill.all (· = '=') &&
    (encoding.isFilled || fill.isEmpty)
  match (if isWhole then count? else none) with
  | some count =>
    match encoding.bytesOf values count with
    | some bytes => (bytes, true)
    | none => ([], false)
  | none =>
    if encoding.keepsParts then
      let known := values.take (encoding.places - 1)
      let count := (counts.reverse.find? fun count => encoding.placesFor count ≤ known.length).getD 0
      ((encoding.bytesOf known count).getD [], false)
    else ([], false)

/-- The bytes for groups of digits up to one that is not whole, behind pieces that stand in reverse, and
whether there is none such. -/
def decodeGroups (encoding : Encoding) (reversed : List Bytes) : List Octets → Bytes × Bool
  | [] => (reversed.reverse.flatten, true)
  | group :: rest =>
    match encoding.decodeGroup group with
    | (bytes, true) => encoding.decodeGroups (bytes :: reversed) rest
    | (bytes, false) => ((bytes :: reversed).reverse.flatten, false)

/-- The bytes for a text, in which line breaks do not count, and neither does anything but digits if
one says so. -/
def decode (encoding : Encoding) (skipsOthers : Bool) (text : Octets) : Bytes × Bool :=
  let isDigit (character : Char) : Bool :=
    (encoding.value? character).isSome || (encoding.isFilled && character = '=')
  let digits := text.filter fun character =>
    character ≠ '\n' && (!skipsOthers || isDigit character)
  let count := (digits.length + encoding.places - 1) / encoding.places
  encoding.decodeGroups [] (Digest.groups encoding.places count digits)

/-- A text in lines of some width. -/
def wrapped (width : Nat) (text : Octets) : Octets :=
  if width = 0 || text.isEmpty then text
  else
    let count := (text.length + width - 1) / width
    (Digest.groups width count text).flatMap (· ++ ['\n'])

/-- The encodings that can be asked for by name. -/
def named : List (String × Encoding) :=
  [("base64", base64), ("base64url", base64Address), ("base32", base32),
    ("base32hex", base32Ordered), ("base16", base16), ("base2msbf", base2),
    ("base2lsbf", base2Reversed), ("z85", base85)]

end Encoding

namespace Call

/-- Encode or decode what is read. -/
def coding (call : Call) (names : List String) (encoding? : Options → Option Encoding) : Tool :=
  let table : OptionTable := ⟨"diw:",
    [("decode", 'd'), ("ignore-garbage", 'i'), ("wrap", 'w')], names, false⟩
  call.withOptions table 1 fun options =>
    let wrapping : Except Octets Nat := match options.value? "w" with
      | none => .ok 76
      | some text => match Integer.natural? 10 text with
        | some width => .ok (if Integer.fits width then width else 0)
        | none => .error ("invalid wrap size: ".toList ++ quoted text)
    match wrapping, encoding? options, options.operands with
    | .error complaint, _, _ => call.refuse 1 complaint
    | .ok _, none, _ => call.misused 1 "missing encoding type".toList
    | .ok _, _, _ :: extra :: _ => call.misused 1 ("extra operand ".toList ++ quoted extra)
    | .ok width, some encoding, operands =>
      let finish (sources : List (Octets × Bytes)) : List Job :=
        if sources.isEmpty then []
        else
          let bytes := sources.flatMap Prod.snd
          if options.has "d" then
            let (decoded, isWhole) := encoding.decode (options.has "i") (Bytes.octets bytes)
            .emit 1 decoded ::
              if isWhole then [] else [.complain call.name "invalid input".toList, .finish 1]
          else if !encoding.isFilled && bytes.length % encoding.bytes ≠ 0 then
            [.complain call.name
              s!"invalid input (length must be multiple of {encoding.bytes} characters)".toList,
              .finish 1]
          else [.emit 1 (Bytes.ofOctets (Encoding.wrapped width (encoding.encode bytes)))]
      { name := call.name
        jobs := reading operands ++ [.conclude]
        wording := { reading := fun _ => "read error".toList }
        filter := .gather [] none finish }

/-- Encode or decode in one way. -/
def codingAs (encoding : Encoding) (call : Call) : Tool :=
  call.coding [] fun _ => some encoding

/-- Encode or decode in a way that an option names. -/
def codingByName (call : Call) : Tool :=
  let names := Encoding.named.map Prod.fst
  call.coding names fun options => (options.last? names).bind fun name => Encoding.named.lookup name

end Call

/-! ## Digests of files -/

open Shell (pathOf)

/-- How digests are told: each line with the name of the digest or not, how the line ends, and how the
bytes of the digest are written. -/
structure DigestPlan where
  algorithm : Digest.Algorithm
  size : Nat
  isTagged : Bool
  isBinary : Bool
  mark : Char
  isRaw : Bool := false
  isEncoded : Bool := false

/-- How digests are checked: which lines and complaints are left out, and what counts as a failure. -/
structure DigestCheck where
  isQuiet : Bool
  isSilent : Bool
  warns : Bool
  isStrict : Bool
  skipsMissing : Bool

namespace DigestPlan

/-- The line about a file. -/
def line (plan : DigestPlan) (name : Octets) (content : Bytes) : Octets :=
  let digest := plan.algorithm.compute plan.size content
  if plan.isRaw then Bytes.octets digest
  else
    let isEscaped := plan.mark = '\n' && Digest.isProblematic name
    let shown := if isEscaped then Digest.escapedName name else name
    let digits := if plan.isEncoded then Encoding.base64.encode digest else digest.toHex.toList
    let size := if plan.size = plan.algorithm.size then [] else s!"-{8 * plan.size}".toList
    (if isEscaped then ['\\'] else []) ++
      (if plan.isTagged then
        plan.algorithm.tag.toList ++ size ++ " (".toList ++ shown ++ ") = ".toList ++ digits
      else digits ++ ' ' :: (if plan.isBinary then '*' else ' ') :: shown) ++ [plan.mark]

end DigestPlan

namespace DigestCheck

/-- How far a list of digests has been checked. -/
structure Progress where
  jobs : List Job := []
  malformed : Nat := 0
  unread : Nat := 0
  unequal : Nat := 0
  equal : Nat := 0
  isProper : Bool := false
  isClose : Option Bool := none

/-- What a line says; lines may be about one digest only, or about any that they name. -/
def claimIn? (only : Option Digest.Algorithm) (isTagged : Bool) (isClose : Option Bool)
    (line : Octets) : Option (Digest.Claim × Option Bool) :=
  let text := line.dropWhile Digest.isBlank
  let isEscaped := text.head? = some '\\'
  let text := if isEscaped then text.drop 1 else text
  match Digest.Algorithm.tagged? text with
  | some (algorithm, behind) =>
    if only.all fun wanted => wanted.name = algorithm.name then
      (Digest.taggedClaim? algorithm isEscaped behind).map (·, isClose)
    else none
  | none =>
    match only with
    | some algorithm =>
      if isTagged then none
      else (Digest.plainClaim? algorithm (algorithm.name = "blake2b") isClose isEscaped text).map
        fun (claim, isClose) => (claim, some isClose)
    | none => none

/-- The text of a line about a file. -/
def verdict (name : Octets) (text : String) : Job :=
  let shown := if Digest.isProblematic name then '\\' :: Digest.escapedName name else name
  .emit 1 (Bytes.ofOctets (shown ++ ": ".toList ++ text.toList ++ ['\n']))

/-- Check a file. -/
def checkFile (check : DigestCheck) (caller : String) (tree : FileTree) (progress : Progress)
    (claim : Digest.Claim) : Progress :=
  let saying (isSaid : Bool) (text : String) : List Job :=
    if isSaid && !check.isSilent then [verdict claim.name text] else []
  match tree.read (pathOf claim.name) with
  | .error error =>
    if check.skipsMissing && error = .notFound then progress
    else
      { progress with
        unread := progress.unread + 1
        jobs := progress.jobs ++
          [.complain caller (Quoting.asName claim.name ++ s!": {error.reason}".toList)] ++
          saying true "FAILED open or read" }
  | .ok content =>
    let digits := (claim.algorithm.compute claim.size content).toHex.toList
    if digits = claim.digits.map Char.toLower then
      { progress with
        equal := progress.equal + 1, jobs := progress.jobs ++ saying (!check.isQuiet) "OK" }
    else
      { progress with
        unequal := progress.unequal + 1, jobs := progress.jobs ++ saying true "FAILED" }

/-- Check what a line says. -/
def checkLine (check : DigestCheck) (caller : String) (source : Octets)
    (only : Option Digest.Algorithm) (tree : FileTree) (progress : Progress)
    (numbered : Octets × Nat) : Progress :=
  let (raw, index) := numbered
  let line := if raw.getLast? = some '\r' then raw.dropLast else raw
  if raw.head? = some '#' || line.isEmpty then progress
  else match claimIn? only false progress.isClose line with
    | some (claim, isClose) =>
      check.checkFile caller tree { progress with isProper := true, isClose := isClose } claim
    | none =>
      let kind := only.elim "" fun algorithm => algorithm.tag ++ " "
      let warning := if check.warns then
          [Job.complain caller (Quoting.asName source ++
            s!": {index + 1}: improperly formatted {kind}checksum line".toList)]
        else []
      { progress with
        malformed := progress.malformed + 1, jobs := progress.jobs ++ warning }

/-- A count with the words for one thing or for several. -/
def counted (count : Nat) (one several : String) : String :=
  s!"WARNING: {count} " ++ if count = 1 then one else several

/-- Check what a list says about files. -/
def checkList (check : DigestCheck) (caller : String) (only : Option Digest.Algorithm)
    (tree : FileTree) (source : Octets) (content : Bytes) : List Job :=
  let shown := if source.isEmpty then "standard input".toList else source
  let lines := Text.segments '\n' (Bytes.octets content)
  let progress := lines.zipIdx.foldl (check.checkLine caller shown only tree) {}
  let named (text : String) : Job :=
    .complain caller (Quoting.asName shown ++ s!": {text}".toList)
  let told (count : Nat) (one several : String) : List Job :=
    if count = 0 || check.isSilent then []
    else [.complain caller (counted count one several).toList]
  let noneVerified := check.skipsMissing && progress.equal = 0
  if !progress.isProper then [named "no properly formatted checksum lines found", .finish 1]
  else
    progress.jobs ++
      told progress.malformed "line is improperly formatted" "lines are improperly formatted" ++
      told progress.unread "listed file could not be read" "listed files could not be read" ++
      told progress.unequal "computed checksum did NOT match" "computed checksums did NOT match" ++
      (if noneVerified && !check.isSilent then [named "no file was verified"] else []) ++
      (if noneVerified || progress.unequal ≠ 0 || progress.unread ≠ 0 ||
        (check.isStrict && progress.malformed ≠ 0) then [.finish 1] else [])

end DigestCheck

/-- The sums that are not written as digests. -/
inductive PlainSum where
  | cyclic
  | rotating
  | plain

namespace PlainSum

/-- How many blocks of some size bytes take. -/
def blocksOf (size count : Nat) : Nat := (count + size - 1) / size

/-- A number in columns of some width, with something in front of it. -/
def column (fill : Char) (width value : Nat) : Octets :=
  let digits := (toString value).toList
  List.replicate (width - digits.length) fill ++ digits

/-- The line about a file, which names it if it was named. -/
def line (sum : PlainSum) (isRaw : Bool) (mark : Char) (name : Octets) (content : Bytes) : Octets :=
  let (value, width) := match sum with
    | cyclic => (Digest.cyclicSum content, 4)
    | rotating => (Digest.rotatingSum content, 2)
    | plain => (Digest.plainSum content, 2)
  if isRaw then Bytes.octets (Digest.bigEndian width value)
  else
    let text := match sum with
      | cyclic => s!"{value} {content.length}".toList
      | rotating => column '0' 5 value ++ ' ' :: column ' ' 5 (blocksOf 1024 content.length)
      | plain => s!"{value} {blocksOf 512 content.length}".toList
    text ++ (if name.isEmpty then [] else ' ' :: name) ++ [mark]

end PlainSum

namespace Call

/-- A tool that says a line about each operand. -/
def eachLine (call : Call) (operands : List Octets) (line : Octets → Bytes → Octets) : Tool :=
  call.bySource operands fun name content => [.emit 1 (Bytes.ofOctets (line name content))]

/-- The name that a digest tells for a source. -/
def sourceName (name : Octets) : Octets := if name.isEmpty then ['-'] else name

/-- The options that matter only when digests are checked. -/
def checkingOnly : List String := ["ignore-missing", "status", "warn", "quiet", "strict"]

/-- Why options about digests do not go together; the advice follows. -/
def digestMisuse? (options : Options) (isChecking isTagged : Bool) (isBinary : Option Bool)
    (textMode : String) : Option String :=
  if isTagged && isBinary = some false then some textMode
  else if options.has "z" && isChecking then
    some "the --zero option is not supported when verifying checksums"
  else if options.has "tag" && isChecking then
    some "the --tag option is meaningless when verifying checksums"
  else if isBinary.isSome && isChecking then
    some "the --binary and --text options are meaningless when verifying checksums"
  else if isChecking then none
  else (checkingOnly.find? fun name => options.has (if name = "warn" then "w" else name)).map
    fun name => s!"the --{name} option is meaningful only when verifying checksums"

/-- The check that options ask for. -/
def checkOf (options : Options) : DigestCheck :=
  let last := options.last? ["status", "w", "quiet"]
  ⟨last = some "quiet", last = some "status", last = some "w", options.has "strict",
    options.has "ignore-missing"⟩

/-- Check what the operands say. -/
def checkDigests (call : Call) (options : Options) (only : Option Digest.Algorithm) : Tool :=
  call.bySource options.operands fun name content =>
    [.look fun facts => (checkOf options).checkList call.name only facts.files name content]

/-- How many bytes a digest is to have. -/
def digestSize (options : Options) (algorithm : Digest.Algorithm) : Except (List String) Nat :=
  match options.value? "l" with
  | none => .ok algorithm.size
  | some text =>
    let wrong := s!"invalid length: {String.ofList (quoted text)}"
    match Integer.natural? 10 text with
    | none => .error [wrong]
    | some bits =>
      if 512 < bits then .error [wrong, s!"maximum digest length for '{algorithm.tag}' is 512 bits"]
      else if bits % 8 ≠ 0 then .error [wrong, "length is not a multiple of 8"]
      else .ok (if bits = 0 then algorithm.size else bits / 8)

/-- The jobs of a tool that refuses to go on, with several complaints. -/
def refusing (call : Call) (messages : List String) : Tool :=
  call.jobs (messages.map (fun message => .complain call.name message.toList) ++ [.finish 1])

/-- Tell or check digests of one kind. -/
def digest (algorithm : Digest.Algorithm) (call : Call) : Tool :=
  let isSized := algorithm.name = "blake2b"
  let table : OptionTable := ⟨if isSized then "bctwzl:" else "bctwz",
    [("binary", 'b'), ("check", 'c'), ("text", 't'), ("warn", 'w'), ("zero", 'z')] ++
      (if isSized then [("length", 'l')] else []),
    ["ignore-missing", "quiet", "status", "strict", "tag"], false⟩
  call.withOptions table 1 fun options =>
    match digestSize options algorithm with
    | .error messages => call.refusing messages
    | .ok size =>
      let isTagged := options.has "tag"
      let isBinary := (options.last? ["b", "t", "tag"]).map fun key => key != "t"
      match digestMisuse? options (options.has "c") isTagged isBinary
          "--tag does not support --text mode" with
      | some message => call.misused 1 message.toList
      | none =>
        if options.has "c" then call.checkDigests options (some algorithm)
        else
          let plan : DigestPlan := ⟨algorithm, size, isTagged, isBinary = some true,
            if options.has "z" then '\x00' else '\n', false, false⟩
          call.eachLine options.operands fun name content => plan.line (sourceName name) content

/-- Tell short sums. -/
def shortSum (call : Call) : Tool :=
  call.withOptions ⟨"rs", [("sysv", 's')], [], false⟩ 1 fun options =>
    let sum : PlainSum := if options.last? ["r", "s"] = some "s" then .plain else .rotating
    let isNamed := !options.operands.isEmpty
    call.eachLine options.operands fun name content =>
      sum.line false '\n' (if isNamed then sourceName name else []) content

/-- The names of the sums and digests that can be asked for. -/
def sumNames : List String :=
  ["bsd", "sysv", "crc", "md5", "sha1", "sha224", "sha256", "sha384", "sha512", "blake2b", "sm3"]

/-- The values of the option that asks for a sum, under its long name. -/
def onlyAlgorithm (options : Options) : Options :=
  let flags := options.flags.filter fun flag => flag.1 = "a"
  { options with flags := flags.map fun flag => ("algorithm", flag.2) }

/-- Tell or check sums and digests of all kinds. -/
def anySum (call : Call) : Tool :=
  let table : OptionTable := ⟨"a:bctl:wz",
    [("algorithm", 'a'), ("binary", 'b'), ("check", 'c'), ("length", 'l'), ("text", 't'),
      ("warn", 'w'), ("zero", 'z')],
    ["ignore-missing", "quiet", "status", "strict", "tag", "untagged", "raw", "base64", "debug"],
    false⟩
  call.withOptions table 1 fun options =>
    match choice (onlyAlgorithm options) "algorithm" sumNames with
    | .error complaint => call.misused 1 complaint
    | .ok chosen =>
      let name := chosen.getD "crc"
      let isChecking := options.has "c"
      let plain? : Option PlainSum := match name with
        | "crc" => some .cyclic
        | "bsd" => some .rotating
        | "sysv" => some .plain
        | _ => none
      let isTagged := options.last? ["tag", "untagged"] ≠ some "untagged"
      let isBinary := (options.last? ["b", "t", "tag", "untagged"]).bind fun key =>
        if key = "untagged" then none else some (key != "t")
      if options.has "l" && name ≠ "blake2b" then
        call.refuse 1 "--length is only supported with --algorithm=blake2b".toList
      else if isChecking && plain?.isSome && chosen.isSome then
        call.refuse 1 "--check is not supported with --algorithm=\x7bbsd,sysv,crc\x7d".toList
      else if options.has "base64" && options.has "raw" then
        call.misused 1 "--base64 and --raw are mutually exclusive".toList
      else match digestMisuse? { options with flags := options.flags.filter (·.1 ≠ "tag") }
          isChecking isTagged isBinary "--text mode is only supported with --untagged" with
        | some message => call.misused 1 message.toList
        | none =>
          let mark := if options.has "z" then '\x00' else '\n'
          let isNamed := !options.operands.isEmpty
          if isChecking then
            call.checkDigests options (chosen.bind Digest.Algorithm.named?)
          else if options.has "raw" && 1 < options.operands.length then
            call.refuse 1 "the --raw option is not supported with multiple files".toList
          else match plain?, Digest.Algorithm.named? name with
            | some sum, _ =>
              call.eachLine options.operands fun name content =>
                sum.line (options.has "raw") mark (if isNamed then sourceName name else []) content
            | none, some algorithm =>
              match digestSize options algorithm with
              | .error messages => call.refusing messages
              | .ok size =>
                let plan : DigestPlan := ⟨algorithm, size, isTagged, isBinary = some true, mark,
                  options.has "raw", options.has "base64"⟩
                call.eachLine options.operands fun name content =>
                  plan.line (sourceName name) content
            | none, none => call.refuse 1 s!"unknown algorithm {name}".toList

end Call

end CorpusJudge
