import CorpusJudge.Emulator.Shell.Fields
import CorpusJudge.Emulator.Tool.Filter
import CorpusJudge.Emulator.Tool.Options

/-!
# Calls of tools

A tool is called with arguments, in an environment, and in view of files.  What most tools have in
common stands here: reading options, complaining about them, and reading operands one after the
other.
-/

namespace CorpusJudge

open Shell (pathOf nameOctets)

/-- A call of a tool: the name it goes by and its arguments, its environment, and what it can find
out. -/
structure Call where
  name : String
  arguments : List Octets
  environment : List (String × Octets)
  facts : Facts

/-- Words with blanks between them. -/
def spaced (words : List Octets) : Octets := [' '].intercalate words

/-- What stands in quotes in a complaint. -/
def quoted (text : Octets) : Octets := Quoting.named text

namespace Call

/-- A call with other arguments. -/
def withArguments (call : Call) (arguments : List Octets) : Call :=
  { call with arguments := arguments }

/-- A call by the last part of the name. -/
def withShortName (call : Call) : Call :=
  { call with name := String.ofList (call.name.toList.reverse.takeWhile (· ≠ '/')).reverse }

/-- A tool that does some jobs. -/
def jobs (call : Call) (jobs : List Job) : Tool where
  name := call.name
  jobs := jobs

/-- A tool that says something and ends with a status. -/
def say (call : Call) (output : Octets) (status : Nat := 0) : Tool :=
  call.jobs [.emit 1 (Bytes.ofOctets output), .finish status]

/-- A tool that complains and ends with a status. -/
def refuse (call : Call) (status : Nat) (message : Octets) : Tool :=
  call.jobs [.complain call.name message, .finish status]

/-- The advice at the end of a complaint about how a tool is called. -/
def advice (call : Call) : Octets :=
  s!"Try '{call.name} --help' for more information.\n".toList

/-- A tool that complains about how it is called. -/
def misused (call : Call) (status : Nat) (message : Octets) : Tool :=
  call.jobs
    [.complain call.name message, .emit 2 (Bytes.ofOctets call.advice), .finish status]

/-- The complaint about a value that is not among those an option can have. -/
def choiceFault (name : String) (value : Octets) (choices : List String) : Octets :=
  "invalid argument ".toList ++ quoted value ++ s!" for '--{name}'\nValid arguments are:".toList ++
    choices.flatMap fun choice => s!"\n  - '{choice}'".toList

/-- The value that a word or the beginning of one stands for, if the option is given. -/
def choice (options : Options) (name : String) (choices : List String) :
    Except Octets (Option String) :=
  match options.value? name with
  | none => .ok none
  | some [] => .ok (some "")
  | some word =>
    match choices.find? fun choice => choice.toList = word with
    | some choice => .ok (some choice)
    | none =>
      match choices.filter fun choice => word.isPrefixOf choice.toList with
      | [choice] => .ok (some choice)
      | _ => .error (choiceFault name word choices)

/-- A number in a range that an option gives, or a complaint in some words. -/
def boundedNumber (words : String) (least : Nat) (text : Octets) : Except Octets Nat :=
  match Integer.natural? 10 text with
  | none => .error (s!"{words}: ".toList ++ quoted text)
  | some value =>
    if value < least then
      .error (s!"{words}: ".toList ++ quoted text ++ ": Numerical result out of range".toList)
    else .ok value

/-- A tool whose options have to be readable.  Every tool can be asked how it is used. -/
def withOptions (call : Call) (table : OptionTable) (status : Nat) (make : Options → Tool) : Tool :=
  let known := { table with names := "help" :: "version" :: table.names }
  match Options.read known call.arguments with
  | .error fault => call.misused status fault.message
  | .ok options =>
    if options.has "help" then call.say s!"Usage: {call.name} [OPTION]... [OPERAND]...\n".toList
    else if options.has "version" then call.say (call.name.toList ++ ['\n'])
    else make options

/-- A tool that needs at least one operand. -/
def withOperands (call : Call) (options : Options) (tool : Tool) : Tool :=
  if options.operands.isEmpty then call.misused 1 "missing operand".toList else tool

/-- A tool that has no operands. -/
def withoutOperands (call : Call) (options : Options) (tool : Tool) : Tool :=
  match options.operands with
  | [] => tool
  | operand :: _ => call.misused 1 ("extra operand ".toList ++ Quoting.named operand)

/-- The jobs of reading operands one after the other, or standard input if there are none. -/
def reading (operands : List Octets) : List Job :=
  if operands.isEmpty then [.consume none]
  else operands.map fun operand => .consume (if operand = ['-'] then none else some operand)

/-- A tool that passes what it reads through a filter. -/
def filtering (call : Call) (operands : List Octets) (filter : Filter) : Tool where
  name := call.name
  jobs := reading operands ++ [.conclude]
  filter := filter

/-- A tool that turns each line into something, in view of its number and of whether its end is
marked. -/
def byLine (call : Call) (operands : List Octets) (act : Nat → Octets → Bool → Octets) : Tool :=
  call.filtering operands (.lines '\n' [] (.each 0 act))

/-- A tool that reads everything before it says something. -/
def gathering (call : Call) (operands : List Octets)
    (finish : List (Octets × Bytes) → List Job) : Tool :=
  call.filtering operands (.gather [] none finish)

/-- A tool that does something with the content of each operand in turn. -/
def bySource (call : Call) (operands : List Octets) (act : Octets → Bytes → List Job) : Tool :=
  call.filtering operands (.bySource { closing := act })

/-- A tool that looks at files or changes them. -/
def changing (call : Call) (change : FileTree → Change) : Tool :=
  call.jobs [.change change]

/-- Go on only if all files that operands name can be read. -/
def insist (call : Call) (operands : List Octets) (status : Nat) : Job :=
  .look fun facts =>
    let problem? (operand : Octets) : Option FileError :=
      if operand = ['-'] then none
      else match facts.files.find (pathOf operand) with
        | .ok (_, .folder) => some .isDirectory
        | .ok _ => none
        | .error error => some error
    match operands.findSome? fun operand => (problem? operand).map fun error => (operand, error) with
    | some (operand, error) =>
      [.complain call.name (Quoting.asName operand ++ s!": {error.reason}".toList), .quit status]
    | none => []

/-- A tool with so many operands at least and at most. -/
def withAtMost (call : Call) (least most : Nat) (options : Options) (tool : Tool) : Tool :=
  match options.operands.drop most, options.operands with
  | extra :: _, _ => call.misused 1 ("extra operand ".toList ++ quoted extra)
  | [], operands =>
    if least ≤ operands.length then tool
    else match operands.getLast? with
      | none => call.misused 1 "missing operand".toList
      | some last => call.misused 1 ("missing operand after ".toList ++ quoted last)

end Call

end CorpusJudge
