import CorpusJudge.Emulator.Tool.Calendar
import CorpusJudge.Emulator.Tool.Call
import CorpusJudge.Emulator.Tool.Record.Reader

/-!
# Editing files and processing records

The tool that carries out programs for records.
-/

namespace CorpusJudge.Call

/-! ## Editing files

The tool that passes lines through a script. -/

open Shell (pathOf)

/-- The options for editing. -/
def editTable : OptionTable where
  letters := "bsnrzuEe:f:l:i::V:"
  synonyms := [("binary", 'b'), ("separate", 's'), ("quiet", 'n'), ("silent", 'n'),
    ("regexp-extended", 'r'), ("null-data", 'z'), ("zero-terminated", 'z'), ("unbuffered", 'u'),
    ("expression", 'e'), ("file", 'f'), ("line-length", 'l'), ("in-place", 'i')]
  names := ["debug", "posix", "follow-symlinks", "sandbox", "help", "version"]

/-- A part of a script: its text and the file it comes from, if it comes from one. -/
structure ScriptPart where
  text : Octets
  file : Option Octets

/-- The parts of a script that options and operands give, and the other operands. -/
def scriptParts (files : FileTree) (options : Options) :
    Except Octets (List ScriptPart × List Octets) := do
  let given ← (options.flags.filter fun (key, _) => key = "e" || key = "f").mapM fun (key, value) =>
    if key = "e" then pure (⟨value, none⟩ : ScriptPart)
    else
      let path := if value = ['-'] then "/dev/stdin".toList else value
      match files.read (pathOf path) with
      | .ok content =>
        let text := Bytes.octets content
        pure ⟨if text.getLast? = some '\n' then text.dropLast else text, some value⟩
      | .error error =>
        throw ("couldn't open file ".toList ++ value ++ s!": {error.reason}".toList)
  match given, options.operands with
  | [], script :: operands => return ([⟨script, none⟩], operands)
  | given, operands => return (given, operands)

/-- Where a script has a mistake, in front of what is wrong. -/
def mistakeText (parts : List ScriptPart) (script : Octets) (mistake : Edit.Mistake) : Octets :=
  match mistake.left with
  | none =>
    if mistake.isLate then mistake.message.toList
    else s!"-e expression #1, char 0: {mistake.message}".toList
  | some left =>
    let rec locate (number passed : Nat) : List ScriptPart → Octets
      | [] => s!"-e expression #{number}, char 0: ".toList
      | part :: rest =>
        let position := script.length - left - passed
        let next := number + if part.file.isNone then 1 else 0
        if part.text.length < position && !rest.isEmpty then
          locate next (passed + part.text.length + 1) rest
        else match part.file with
          | some path =>
            let line := ((part.text.take position).filter (· = '\n')).length + 1
            "file ".toList ++ path ++ s!" line {line}: ".toList
          | none => s!"-e expression #{number}, char {position}: ".toList
    locate 1 0 parts ++ mistake.message.toList

/-- The files that a script writes to. -/
def writtenFiles (commands : Array Edit.Command) : List Octets :=
  (commands.toList.filterMap fun command => match command.act with
    | .write path => some path
    | .writeFirst path => some path
    | .substitute substitution => substitution.file
    | _ => none).eraseDups

/-- Pass lines through a script. -/
def edit (call : Call) : Tool :=
  let usage (complaint : List Job) (descriptor status : Nat) : Tool :=
    call.jobs (complaint ++ [.emit descriptor (Bytes.ofOctets
      "Usage: sed [OPTION]... \x7bscript-only-if-no-other-script\x7d [input-file]...\n\n".toList),
      .finish status])
  match Options.read editTable call.arguments with
  | .error fault => usage [.complain call.name fault.message] 2 1
  | .ok options =>
    if options.has "help" then usage [] 1 0
    else if options.has "version" then call.say "sed\n".toList
    else match scriptParts call.facts.files options with
      | .error complaint => call.refuse 1 complaint
      | .ok ([], _) => usage [] 2 1
      | .ok (parts, operands) =>
        let script := Text.joined '\n' (parts.map ScriptPart.text)
        let isExtended := options.hasAny ["E", "r"]
        match Edit.read isExtended script with
        | .error mistake => call.refuse (if mistake.isLate then 4 else 1) (mistakeText parts script mistake)
        | .ok commands =>
          let isEmptyMark := script.take 2 = ['#', 'n'] && (script.drop 2).head?.all (· = '\n')
          let paths := writtenFiles commands
          let standing (path : Octets) : Option Nat :=
            if path = "/dev/stdout".toList then some 1
            else if path = "/dev/stderr".toList then some 2
            else none
          let files := paths.zipIdx.map fun (path, index) => (path, (standing path).getD (120 + index))
          let opening := files.filterMap fun (path, descriptor) =>
            if descriptor < 120 then none else some (Job.openOutput descriptor path false)
          let inPlace := options.value? "i"
          let plan : Edit.Plan := {
            commands := commands
            isQuiet := options.has "n" || isEmptyMark
            isSeparate := options.has "s" || inPlace.isSome
            mark := if options.has "z" then '\x00' else '\n'
            width := ((options.value? "l").bind (Integer.natural? 10)).getD 70
            inPlace := inPlace
            files := files
            environment := call.environment }
          let source (operand : Octets) : List Job :=
            if operand = ['-'] && inPlace.isNone then [.consume none]
            else match call.facts.files.find (pathOf operand) with
              | .ok (_, .folder) =>
                if inPlace.isSome then
                  [.complain call.name ("couldn't edit ".toList ++ operand ++
                    ": not a regular file".toList), .finish 4]
                else [.flush, .complain call.name ("read error on ".toList ++ operand ++
                  ": Is a directory".toList), .quit 4]
              | _ => [.consume (some operand)]
          if inPlace.isSome && operands.isEmpty then call.refuse 4 "no input files".toList
          else
            { name := call.name
              wording := .cantRead
              jobs := opening ++
                (if operands.isEmpty then [.consume none] else operands.flatMap source) ++ [.conclude]
              filter := .lines plan.mark [] (.edit { plan := plan })
              isDirect := options.has "u"
              isHasty := true
              failure := 2 }

end CorpusJudge.Call

namespace CorpusJudge.Call

/-! ## Processing records -/

open Shell (pathOf)

/-- How programs for records are called. -/
structure RecordOptions where
  separator : Option Octets := none
  values : List Octets := []
  files : List Octets := []
  operands : List Octets := []
  asksHelp : Bool := false
  asksVersion : Bool := false

/-- What the tool for records says about its use. -/
def recordUsage : String :=
  "Usage: mawk [Options] [Program] [file ...]\n\nProgram:\n" ++
  "    The -f option value is the name of a file containing program text.\n" ++
  "    If no -f option is given, a \"--\" ends option processing; the following\n" ++
  "    parameters are the program text.\n\nOptions:\n" ++
  "    -f program-file  Program  text is read from file instead of from the\n" ++
  "                     command-line.  Multiple -f options are accepted.\n" ++
  "    -F value         sets the field separator, FS, to value.\n" ++
  "    -v var=value     assigns value to program variable var.\n" ++
  "    --               unambiguous end of options.\n\n" ++
  "    Implementation-specific options are prefixed with \"-W\".  They can be\n" ++
  "    abbreviated:\n\n" ++
  "    -W version       show version information and exit.\n" ++
  "    -W compat        pre-POSIX 2001.\n" ++
  "    -W dump          show assembler-like listing of program and exit.\n" ++
  "    -W help          show this message and exit.\n" ++
  "    -W interactive   set unbuffered output, line-buffered input.\n" ++
  "    -W exec file     use file as program as well as last option.\n" ++
  "    -W posix         stricter POSIX checking.\n" ++
  "    -W random=number set initial random seed.\n" ++
  "    -W sprintf=number adjust size of sprintf buffer.\n" ++
  "    -W usage         show this message and exit.\n"

/-- Take an extension that a word or its beginning names. -/
def extension (word : Octets) (options : RecordOptions) : Except Octets RecordOptions :=
  let names := ["compat", "dump", "exec", "help", "interactive", "posix", "random", "sprintf", "usage",
    "version"]
  let name := word.takeWhile (· ≠ '=')
  match names.find? fun known => !name.isEmpty && name.isPrefixOf known.toList with
  | some known =>
    if known = "help" || known = "usage" then .ok { options with asksHelp := true }
    else if known = "version" then .ok { options with asksVersion := true }
    else .ok options
  | none => .error ("vacuous option: -W \"".toList ++ word ++ ['"'])

/-- Read how programs for records are called; the failure is a complaint. -/
def recordOptions (options : RecordOptions) : List Octets → Except Octets RecordOptions
  | [] => .ok options
  | ['-', '-'] :: rest => .ok { options with operands := rest }
  | ('-' :: '-' :: word) :: rest => do recordOptions (← extension word options) rest
  | ['-', letter] :: rest => do
    if !"FWfv".toList.contains letter then
      throw ("not an option: -".toList ++ [letter])
    else match rest with
      | [] => throw ("option -".toList ++ [letter] ++ " lacks argument".toList)
      | value :: rest => recordOptions (← given letter value) rest
  | ('-' :: letter :: value) :: rest => do
    if !"FWfv".toList.contains letter then
      throw ("not an option: -".toList ++ letter :: value)
    else recordOptions (← given letter value) rest
  | operands => .ok { options with operands := operands }
where
  /-- Take an option with its value. -/
  given (letter : Char) (value : Octets) : Except Octets RecordOptions :=
    match letter with
    | 'F' => .ok { options with separator := some value }
    | 'v' =>
      if (Record.Running.assignment? value).isSome then
        .ok { options with values := options.values ++ [value] }
      else .error ("improper assignment: -v ".toList ++ value)
    | 'f' => .ok { options with files := options.files ++ [value] }
    | _ => extension value options

/-- The text of a program in files, or the file that cannot be opened and why. -/
def programText (call : Call) (files : List Octets) : Except Octets Octets := do
  let texts ← files.mapM fun name => do
    let path := if name = ['-'] then "/dev/stdin".toList else name
    match call.facts.files.read (pathOf path) with
    | .ok content => return Bytes.octets content
    | .error error =>
      throw ("cannot open \"".toList ++ name ++ s!"\" ({error.reason})".toList)
  return ['\n'].intercalate texts

/-- Process records by a program. -/
def processRecords (given : Call) : Tool :=
  let call := given.withShortName
  match recordOptions {} call.arguments with
  | .error complaint => call.refuse 2 complaint
  | .ok options =>
    if options.asksHelp then call.say recordUsage.toList
    else if options.asksVersion then call.say "mawk 1.3.4 20240123\n".toList
    else
      let source : Except Octets (Option Octets × List Octets) :=
        match options.files, options.operands with
        | [], [] => .ok (none, [])
        | [], text :: operands => .ok (some text, operands)
        | files, operands => (call.programText files).map fun text => (some text, operands)
      match source with
      | .error complaint => call.refuse 2 complaint
      | .ok (none, _) =>
        if call.arguments.isEmpty then call.jobs [.emit 2 (Bytes.ofString recordUsage)]
        else call.jobs []
      | .ok (some text, operands) =>
        match Record.Program.ofText text with
        | .error mistakes =>
          let place := match options.files with
            | [file] => file ++ ": ".toList
            | _ => []
          call.jobs (mistakes.map (fun mistake =>
            let line := if mistake.isBrief then s!"{mistake.line}: ".toList
              else s!"line {mistake.line}: ".toList
            .complain call.name (place ++ line ++ mistake.message)) ++ [.finish 2])
        | .ok program =>
          let zone := call.zone false
          let setting : Record.Setting := {
            tool := call.name
            environment := call.environment
            now := call.facts.files.clock / 1000000
            showTime := fun seconds format =>
              (ClockTime.ofSeconds zone seconds 0).text format }
          let separator := options.separator.map fun text => ("FS", text)
          let values := separator.toList ++ options.values.filterMap Record.Running.assignment?
          let session := Record.Session.start setting program (given.name.toList :: operands) values
          { name := call.name, jobs := [.proceed], filter := .records session, isHasty := true }

end CorpusJudge.Call
