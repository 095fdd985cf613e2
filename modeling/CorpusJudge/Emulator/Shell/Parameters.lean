import CorpusJudge.Emulator.Shell.State

/-!
# Parameters

What the parameters of a shell are: its arguments, what it knows about itself, and its variables.
-/

namespace CorpusJudge.Shell.Switches

/-! ## Switches

What can be switched on and off in the extended dialect: the options, most of which have a letter, and the
further behaviour that has names only. -/

/-- The options by their names, with their letters. -/
def options : List (String × Option Char) :=
  [("allexport", some 'a'), ("braceexpand", some 'B'), ("emacs", none), ("errexit", some 'e'),
    ("errtrace", some 'E'), ("functrace", some 'T'), ("hashall", some 'h'), ("histexpand", some 'H'),
    ("history", none), ("ignoreeof", none), ("interactive-comments", none), ("keyword", some 'k'),
    ("monitor", some 'm'), ("noclobber", some 'C'), ("noexec", some 'n'), ("noglob", some 'f'),
    ("nolog", none), ("notify", some 'b'), ("nounset", some 'u'), ("onecmd", some 't'),
    ("physical", some 'P'), ("pipefail", none), ("posix", none), ("privileged", some 'p'),
    ("verbose", some 'v'), ("vi", none), ("xtrace", some 'x')]

/-- The letters of options in the order in which a shell lists them. -/
def letters : List Char := "abefhkmnptuvxBCEHPTcs".toList

/-- The names of further behaviour, and whether it is on at first. -/
def behaviour : List (String × Bool) :=
  [("autocd", false), ("assoc_expand_once", false), ("cdable_vars", false), ("cdspell", false),
    ("checkhash", false), ("checkjobs", false), ("checkwinsize", true), ("cmdhist", true),
    ("compat31", false), ("compat32", false), ("compat40", false), ("compat41", false),
    ("compat42", false), ("compat43", false), ("compat44", false), ("complete_fullquote", true),
    ("direxpand", false), ("dirspell", false), ("dotglob", false), ("execfail", false),
    ("expand_aliases", false), ("extdebug", false), ("extglob", false), ("extquote", true),
    ("failglob", false), ("force_fignore", true), ("globasciiranges", true), ("globskipdots", true),
    ("globstar", false), ("gnu_errfmt", false), ("histappend", false), ("histreedit", false),
    ("histverify", false), ("hostcomplete", true), ("huponexit", false), ("inherit_errexit", false),
    ("interactive_comments", true), ("lastpipe", false), ("lithist", false),
    ("localvar_inherit", false), ("localvar_unset", false), ("login_shell", false),
    ("mailwarn", false), ("no_empty_cmd_completion", false), ("nocaseglob", false),
    ("nocasematch", false), ("noexpand_translation", false), ("nullglob", false),
    ("patsub_replacement", true), ("progcomp", true), ("progcomp_alias", false),
    ("promptvars", true), ("restricted_shell", false), ("shift_verbose", false), ("sourcepath", true),
    ("varredir_close", false), ("xpg_echo", false)]

/-- What is on at first. -/
def initial : List String :=
  "interactive-comments" :: behaviour.filterMap fun (name, isOn) => if isOn then some name else none

/-- Whether an option is on. -/
def isOptionOn (shell : State) (name : String) : Bool :=
  match options.lookup name with
  | some (some letter) => shell.has letter
  | _ => shell.switches.contains name

/-- A shell in which some behaviour is switched. -/
def switch (shell : State) (name : String) (isOn : Bool) : State :=
  let others := shell.switches.filter (· ≠ name)
  { shell with switches := if isOn then name :: others else others }

/-- A shell in which the option with a letter is switched. -/
def switchLetter (shell : State) (letter : Char) (isOn : Bool) : State :=
  let others := shell.options.filter (· ≠ letter)
  { shell with options := if isOn then letter :: others else others }

/-- A shell in which an option is switched by its name. -/
def switchOption (shell : State) (name : String) (isOn : Bool) : State :=
  match options.lookup name with
  | some (some letter) => switchLetter shell letter isOn
  | _ => switch shell name isOn

/-- A row of a table of what is on. -/
def row (name : String) (isOn : Bool) : Octets :=
  name.toList ++ List.replicate (15 - name.length) ' ' ++ '\t' :: (if isOn then "on\n" else "off\n").toList

/-- The options and whether they are on, as a table or as commands. -/
def optionTable (isTable : Bool) (shell : State) : Octets :=
  options.flatMap fun (name, _) =>
    let isOn := isOptionOn shell name
    if isTable then row name isOn
    else (if isOn then "set -o " else "set +o ").toList ++ name.toList ++ ['\n']

/-- Further behaviour and whether it is on, as a table or as commands, for some names. -/
def behaviourTable (isTable : Bool) (shell : State) (names : List String) : Octets :=
  names.flatMap fun name =>
    let isOn := shell.switches.contains name
    if isTable then row name isOn
    else (if isOn then "shopt -s " else "shopt -u ").toList ++ name.toList ++ ['\n']

end CorpusJudge.Shell.Switches

namespace CorpusJudge.Shell

/-! ## Parameters -/

namespace State

/-- The next random number, and where the ones behind it come from. -/
def nextRandom (seed : Nat) : Nat × Nat :=
  let start := if seed = 0 then 123459876 else seed
  let next := 16807 * (start % 127773) + 2147483647 * 2836 - 2836 * (start / 127773)
  let next := next % 2147483647
  (Nat.xor (next % 65536) (next / 65536) % 32768, next)

/-- What the extended dialect knows under the name of a variable. -/
def known? (shell : State) (name : String) : Option Octets :=
  let number (value : Nat) : Option Octets := some (toString value).toList
  match name with
  | "LINENO" => number shell.line
  | "BASHPID" => number shell.root
  | "BASH_SUBSHELL" => number shell.depth
  | "SECONDS" => some (toString ((shell.clock - shell.begun) / 1000000)).toList
  | "EPOCHSECONDS" => some (toString (shell.clock / 1000000)).toList
  | "EPOCHREALTIME" =>
    let fraction := (toString (shell.clock % 1000000)).toList
    some ((toString (shell.clock / 1000000)).toList ++ '.' ::
      List.replicate (6 - fraction.length) '0' ++ fraction)
  | "RANDOM" => number (nextRandom shell.seed).1
  | "FUNCNAME" => shell.callers.head?.map fun caller => caller.name.toList
  | "BASH_SOURCE" => some (shell.title.getD shell.name)
  | "BASH_COMMAND" => some (Printing.headline (writtenCommand shell.spoken))
  | "PIPESTATUS" =>
    number (match shell.stageStatuses with
      | first :: _ => first
      | [] => shell.status)
  | "DIRSTACK" => some shell.here.toList
  | "SHELLOPTS" =>
    let isOn := fun (name, _) => Switches.isOptionOn shell name
    some (":".intercalate ((Switches.options.filter isOn).map Prod.fst)).toList
  | "BASHOPTS" =>
    let isOn := fun (name, _) => shell.switches.contains name
    some (":".intercalate ((Switches.behaviour.filter isOn).map Prod.fst)).toList
  | _ => none

/-- The elements of what the extended dialect knows under the name of a variable. -/
def knownElements? (shell : State) (name : String) : Option (List Octets) :=
  let number (value : Nat) : Octets := (toString value).toList
  match name with
  | "PIPESTATUS" =>
    some (match shell.stageStatuses with
      | [] => [number shell.status]
      | statuses => statuses.map number)
  | "FUNCNAME" =>
    some (if shell.callers.isEmpty then []
      else shell.callers.map (fun caller => caller.name.toList) ++ ["main".toList])
  | "BASH_LINENO" => some (shell.callers.map (fun caller => number caller.line) ++ [['0']])
  | "BASH_SOURCE" =>
    some ((shell.title :: shell.callers.map Caller.title).map fun title => title.getD shell.name)
  | "DIRSTACK" => some ((shell.here :: shell.folders).map String.toList)
  | "GROUPS" => some [['0']]
  | _ => none

/-- The value of a parameter that is not a list. -/
def parameter? (shell : State) (name : String) : Option Octets :=
  match name with
  | "#" => some (toString shell.arguments.length).toList
  | "?" => some (toString shell.status).toList
  | "$" => some (toString shell.root).toList
  | "!" => shell.background.map fun process => (toString process).toList
  | "-" =>
    some (if shell.isExtended then Switches.letters.filter shell.has else shell.options)
  | "0" => some shell.name
  | _ =>
    match Integer.natural? 10 name.toList with
    | some place => shell.arguments[place - 1]?
    | none =>
      match (if shell.isExtended then shell.known? name else none) with
      | some value => some value
      | none => shell.vars.value? name

/-- The values of a variable by their keys. -/
def entries (shell : State) (name : String) : List (Octets × Octets) :=
  match (if shell.isExtended then shell.knownElements? name else none) with
  | some values => (Elements.ofList values).entries
  | none => ((shell.vars.find? name).map Variable.entries).getD []

/-- Whether the values of a variable have keys. -/
def isTable (shell : State) (name : String) : Bool :=
  ((shell.vars.find? name).bind Variable.elements).any Elements.isTable

/-- The value of a variable for a key. -/
def element? (shell : State) (name : String) (key : Octets) : Option Octets :=
  (shell.entries name).lookup key

/-- A shell with a value for a key of a variable. -/
def assignElement (shell : State) (name : String) (key value : Octets) : State :=
  let name := shell.vars.resolve name
  let old := (shell.vars.lookup name).getD .blank
  let elements := old.toElements.put key (old.cased value)
  { shell with
    vars := shell.vars.put name { old with value := none, elements := some elements } }

/-- The first place behind all values of a variable. -/
def extent (shell : State) (name : String) : Nat :=
  match shell.knownElements? name with
  | some values => values.length
  | none => ((shell.vars.find? name).map fun found => found.toElements.extent).getD 0

end State

end CorpusJudge.Shell
