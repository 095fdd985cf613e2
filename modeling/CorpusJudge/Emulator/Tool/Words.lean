import CorpusJudge.Emulator.Shell.Format
import CorpusJudge.Emulator.Tool.Call

/-!
# Tools that say something

Tools that make their output from their arguments and their environment alone.
-/

namespace CorpusJudge.Call

/-- Text with escapes, where options ask for them. -/
def echo (call : Call) : Tool :=
  let isFlag (word : Octets) : Bool :=
    word.head? = some '-' && 1 < word.length && word.tail.all "neE".toList.contains
  let flags := (call.arguments.takeWhile isFlag).flatMap List.tail
  let text := spaced (call.arguments.dropWhile isFlag)
  let isEscaped := (flags.reverse.find? (· ≠ 'n')) = some 'e'
  let (text, isCut) := if isEscaped then Shell.Format.unescapeOperand .tool text else (text, false)
  call.say (if flags.contains 'n' || isCut then text else text ++ ['\n'])

/-- The wording for a fault of a format. -/
def faultText : Shell.Fault → Octets
  | .noNumber operand => Quoting.always operand ++ ": expected a numeric value".toList
  | .trailing operand => Quoting.always operand ++ ": value not completely converted".toList
  | .outOfRange operand => Quoting.always operand ++ ": Numerical result out of range".toList
  | .noDirective text => text ++ ": invalid conversion specification".toList
  | .invalidDirective text => text ++ ": invalid conversion specification".toList
  | .excess operand =>
    "warning: ignoring excess arguments, starting with ".toList ++ Quoting.always operand

/-- Operands in a format. -/
def printf (call : Call) : Tool :=
  let words := if call.arguments.head? = some ['-', '-'] then call.arguments.tail
    else call.arguments
  match words with
  | [] => call.misused 1 "missing operand".toList
  | format :: operands =>
    let result := Shell.Format.apply .tool Quoting.whereNeeded format operands
    let jobs := result.said.reverse.map fun piece => match piece with
      | .ok text => Job.emit 1 (Bytes.ofOctets text)
      | .error fault => Job.complain call.name (faultText fault)
    let status := if result.faults.all Shell.Fault.isExcess then 0 else 1
    call.jobs (jobs ++ [.finish status])

/-- The same words again and again. -/
def yes (call : Call) : Tool :=
  call.withOptions ⟨"", [], [], true⟩ 1 fun options =>
    let words := if options.operands.isEmpty then [['y']] else options.operands
    let line := Bytes.ofOctets (spaced words ++ ['\n'])
    let piece := Piece.ofBytes (List.replicate (8192 / line.length + 1) line).flatten
    call.jobs [.forever piece]

/-- The last name in a path. -/
def lastName (path : Octets) : Octets :=
  let trimmed := (path.reverse.dropWhile (· = '/')).reverse
  if trimmed.isEmpty then path.take 1 else (trimmed.reverse.takeWhile (· ≠ '/')).reverse

/-- A path without its last name. -/
def folderName (path : Octets) : Octets :=
  let trimmed := (path.reverse.dropWhile (· = '/')).reverse
  let rest := trimmed.reverse.dropWhile (· ≠ '/')
  let folder := (rest.dropWhile (· = '/')).reverse
  if trimmed.isEmpty then (if path.isEmpty then ['.'] else path.take 1)
  else if rest.isEmpty then ['.']
  else if folder.isEmpty then ['/']
  else folder

/-- The last names in paths, without an ending. -/
def basename (call : Call) : Tool :=
  let table : OptionTable :=
    ⟨"as:z", [("multiple", 'a'), ("suffix", 's'), ("zero", 'z')], [], true⟩
  call.withOptions table 1 fun options =>
    call.withOperands options <|
      let isMultiple := options.has "a" || options.has "s"
      let mark := if options.has "z" then '\x00' else '\n'
      let shown (path ending : Octets) : Octets :=
        let base := lastName path
        (if ending.isSuffixOf base && ending ≠ base then base.take (base.length - ending.length)
          else base) ++ [mark]
      match options.operands with
      | path :: ending :: rest =>
        if isMultiple then
          call.say (options.operands.flatMap fun path => shown path ((options.value? "s").getD []))
        else match rest with
          | [] => call.say (shown path ending)
          | extra :: _ => call.misused 1 ("extra operand ".toList ++ quoted extra)
      | paths => call.say (paths.flatMap fun path => shown path ((options.value? "s").getD []))

/-- Paths without their last names. -/
def dirname (call : Call) : Tool :=
  call.withOptions ⟨"z", [("zero", 'z')], [], false⟩ 1 fun options =>
    call.withOperands options <|
      let mark := if options.has "z" then '\x00' else '\n'
      call.say (options.operands.flatMap fun path => folderName path ++ [mark])

/-- The folder. -/
def pwd (call : Call) : Tool :=
  call.withOptions ⟨"LP", [("logical", 'L'), ("physical", 'P')], [], false⟩ 1 fun options =>
    let text := Shell.nameOctets ("/" ++ "/".intercalate call.facts.files.base) ++ ['\n']
    call.jobs
      ((if options.operands.isEmpty then []
        else [.complain call.name "ignoring non-option arguments".toList]) ++
        [.emit 1 (Bytes.ofOctets text)])

/-- The environment, or the values of some of its variables. -/
def printenv (call : Call) : Tool :=
  call.withOptions ⟨"0", [("null", '0')], [], true⟩ 2 fun options =>
    let mark := if options.has "0" then '\x00' else '\n'
    if options.operands.isEmpty then
      call.say (call.environment.flatMap fun (name, value) =>
        name.toList ++ '=' :: value ++ [mark])
    else
      let values := options.operands.map fun name => call.environment.lookup (String.ofList name)
      call.say ((values.filterMap id).flatMap fun value => value ++ [mark])
        (if values.all Option.isSome then 0 else 1)

/-- The microseconds of a time in seconds, or in the unit behind it. -/
def duration? (text : Octets) : Option Nat :=
  match Quantity.read? .extended text with
  | some (.finite false numerator denominator, _, rest) =>
    let unit? := match rest with
      | [] => some 1
      | ['s'] => some 1
      | ['m'] => some 60
      | ['h'] => some 3600
      | ['d'] => some 86400
      | _ => none
    unit?.map fun unit => numerator * unit * 1000000 / denominator
  | some (.infinite false, _, []) => some 1000000000000000
  | _ => none

/-- Wait for some time. -/
def sleep (call : Call) : Tool :=
  call.withOptions ⟨"", [], [], false⟩ 1 fun options =>
    call.withOperands options <|
      match options.operands.filter fun operand => (duration? operand).isNone with
      | [] => call.jobs [.pause ((options.operands.filterMap duration?).foldl (· + ·) 0)]
      | wrong =>
        let complaints := wrong.map fun operand =>
          Job.complain call.name ("invalid time interval ".toList ++ quoted operand)
        call.jobs (complaints ++ [.emit 2 (Bytes.ofOctets call.advice), .finish 1])

/-- Whether names are fit for files. -/
def checkPaths (call : Call) : Tool :=
  call.withOptions ⟨"pP", [], ["portability"], false⟩ 1 fun options =>
    call.withOperands options <|
      let isPortable := options.has "p" || options.has "portability"
      let allowed (character : Char) : Bool :=
        character.isAlphanum || "._-/".toList.contains character
      let complaints := options.operands.filterMap fun path =>
        match path.find? (!allowed ·) with
        | some character =>
          if isPortable then
            some ("non-portable character ".toList ++ quoted [character] ++
              " in file name ".toList ++ quoted path)
          else none
        | none =>
          if path.isEmpty then
            some (if isPortable then "empty file name".toList
              else quoted path ++ ": No such file or directory".toList)
          else none
      call.jobs (complaints.map (Job.complain call.name) ++
        [.finish (if complaints.isEmpty then 0 else 1)])

/-! ## What tools say of the machine

Tools that tell who is at work, and on what machine: there is one user, and nobody sits in front of
it. -/

/-- Who is at work. -/
def identity (call : Call) : Tool :=
  let table : OptionTable :=
    ⟨"agGnruzZ", [("user", 'u'), ("group", 'g'), ("groups", 'G'), ("name", 'n'), ("real", 'r'),
      ("zero", 'z')], [], false⟩
  call.withOptions table 1 fun options =>
    let asked := options.hasAny ["u", "g", "G"]
    let line := if asked then if options.has "n" then "root" else "0"
      else "uid=0(root) gid=0(root) groups=0(root)"
    match options.operands.find? fun name => name ≠ "root".toList && name ≠ ['0'] with
    | some name => call.refuse 1 (quoted name ++ ": no such user".toList)
    | none =>
      if options.has "n" && !asked then
        call.refuse 1 "cannot print only names or real IDs in default format".toList
      else call.say (line.toList ++ ['\n'])

/-- What the machine is called. -/
def systemName (call : Call) : Tool :=
  let table : OptionTable :=
    ⟨"asnrvmpio", [("all", 'a'), ("kernel-name", 's'), ("nodename", 'n'), ("kernel-release", 'r'),
      ("kernel-version", 'v'), ("machine", 'm'), ("processor", 'p'), ("hardware-platform", 'i'),
      ("operating-system", 'o')], [], false⟩
  call.withOptions table 1 fun options =>
    call.withoutOperands options <|
      let parts := [("s", "Linux"), ("n", "localhost"), ("r", "6.1.0"), ("v", "#1 SMP"),
        ("m", "x86_64"), ("p", "x86_64"), ("i", "x86_64"), ("o", "GNU/Linux")]
      let shown := if options.has "a" then parts
        else match parts.filter fun (key, _) => options.has key with
          | [] => parts.take 1
          | chosen => chosen
      call.say ((" ".intercalate (shown.map Prod.snd)).toList ++ ['\n'])

/-- A tool that says one thing, whatever its options. -/
def saysOnly (text : String) (call : Call) : Tool :=
  call.withOptions ⟨"", [], [], false⟩ 1 fun options =>
    call.withoutOperands options (call.say (text.toList ++ ['\n']))

/-- The groups of some users. -/
def groups (call : Call) : Tool :=
  call.withOptions ⟨"", [], [], false⟩ 1 fun options =>
    match options.operands with
    | [] => call.say "root\n".toList
    | users =>
      call.jobs (users.flatMap fun user =>
        if user = "root".toList then [.emit 1 (Bytes.ofOctets "root : root\n".toList)]
        else [.complain call.name (Quoting.always user ++ ": no such user".toList), .finish 1])

/-- The name under which somebody came in: nobody did. -/
def loginName (call : Call) : Tool :=
  call.withOptions ⟨"", [], [], false⟩ 1 fun options =>
    call.withoutOperands options (call.refuse 1 "no login name".toList)

/-- The terminal: there is none. -/
def terminal (call : Call) : Tool :=
  call.withOptions ⟨"s", [("silent", 's'), ("quiet", 's')], [], false⟩ 2 fun options =>
    match options.operands with
    | [] => call.say (if options.has "s" then [] else "not a tty\n".toList) 1
    | extra :: _ => call.misused 2 ("extra operand ".toList ++ quoted extra)

/-- How many processors there are, less some that are to be left alone. -/
def processors (call : Call) : Tool :=
  call.withOptions ⟨"", [], ["all", "ignore:"], false⟩ 1 fun options =>
    call.withoutOperands options <|
      match (options.value? "ignore").map (boundedNumber "invalid number" 0) with
      | some (.error message) => call.refuse 1 message
      | some (.ok count) => call.say ((toString (max 1 (4 - count))).toList ++ ['\n'])
      | none => call.say "4\n".toList

/-- Wait until files are safe: they are. -/
def sync (call : Call) : Tool :=
  call.withOptions ⟨"df", [("data", 'd'), ("file-system", 'f')], [], false⟩ 1 fun options =>
    let complaints := options.operands.filterMap fun operand =>
      match call.facts.files.find (Shell.pathOf operand) with
      | .ok _ => none
      | .error error => some (Job.complain call.name
          ("error opening ".toList ++ Quoting.always operand ++ s!": {error.reason}".toList))
    call.jobs (complaints ++ [.finish (if complaints.isEmpty then 0 else 1)])

/-- Succeed or fail, whatever the arguments. -/
def settle (status : Nat) (call : Call) : Tool :=
  match call.arguments with
  | [['-', '-', 'h', 'e', 'l', 'p']] =>
    call.say s!"Usage: {call.name} [ignored command line arguments]\n".toList status
  | _ => call.say [] status

end CorpusJudge.Call
