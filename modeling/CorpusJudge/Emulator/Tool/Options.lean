import CorpusJudge.Bytes
import CorpusJudge.Text.Classes

/-!
# Options and quoting

A tool's arguments are options and operands.  An option is a letter behind a dash or a name behind
two; it may take a value.  Names may be cut short as long as only one option is meant.
-/

namespace CorpusJudge

/-- Whether an option takes a value. -/
inductive Arity where
  | none
  | required
  | optional
  deriving DecidableEq

/-- The options that a tool knows: letters, with a colon behind those that take a value and two
behind those that may take one; longer names for letters; and names of options without a letter,
marked by colons in the same way.  With `isStrict`, everything behind the first operand is an
operand. -/
structure OptionTable where
  letters : String
  synonyms : List (String × Char) := []
  names : List String := []
  isStrict : Bool := false

/-- What is wrong with an option. -/
inductive OptionFault where
  | unknownLetter (letter : Char)
  | lacksValue (letter : Char)
  | unknownName (text : Octets)
  | ambiguous (text : Octets) (candidates : List String)
  | nameLacksValue (name : String)
  | takesNoValue (name : String)

/-- The wording of the fault. -/
def OptionFault.message : OptionFault → Octets
  | unknownLetter letter => s!"invalid option -- '{String.ofList [letter]}'".toList
  | lacksValue letter => s!"option requires an argument -- '{String.ofList [letter]}'".toList
  | unknownName text => "unrecognized option '--".toList ++ text ++ ['\'']
  | ambiguous text candidates =>
    "option '--".toList ++ text ++ "' is ambiguous; possibilities:".toList ++
      candidates.flatMap fun name => s!" '--{name}'".toList
  | nameLacksValue name => s!"option '--{name}' requires an argument".toList
  | takesNoValue name => s!"option '--{name}' doesn't allow an argument".toList

/-- The options and operands among the arguments of a tool, in order.  An option is known by its
letter, or by its name if it has no letter. -/
structure Options where
  flags : List (String × Octets)
  operands : List Octets

namespace OptionTable

/-- How a letter is marked behind it in a list of letters. -/
def arityOf : List Char → Arity
  | ':' :: ':' :: _ => .optional
  | ':' :: _ => .required
  | _ => .none

/-- Whether a letter is listed, and whether it takes a value. -/
def arityIn? (letter : Char) : List Char → Option Arity
  | [] => Option.none
  | known :: rest => if known = letter && known ≠ ':' then some (arityOf rest) else arityIn? letter rest

/-- Whether a letter is an option, and whether it takes a value. -/
def letterArity? (table : OptionTable) (letter : Char) : Option Arity :=
  arityIn? letter table.letters.toList

/-- All names, with the options they stand for. -/
def named (table : OptionTable) : List (String × String × Arity) :=
  table.synonyms.map (fun (name, letter) =>
    (name, String.ofList [letter], (table.letterArity? letter).getD .none)) ++
  table.names.map fun name =>
    let plain := name.toList.takeWhile (· ≠ ':')
    (String.ofList plain, String.ofList plain, arityOf (name.toList.drop plain.length))

/-- The option that a name or the beginning of one stands for. -/
def resolve (table : OptionTable) (text : Octets) : Except OptionFault (String × String × Arity) :=
  match table.named.find? fun (name, _) => name.toList = text with
  | some found => .ok found
  | none =>
    match table.named.filter fun (name, _) => text.isPrefixOf name.toList with
    | [] => .error (.unknownName text)
    | first :: others =>
      if others.all fun (_, target) => target = first.2 then .ok first
      else .error (.ambiguous text ((first :: others).map Prod.fst))

end OptionTable

namespace Options

/-- Whether an option is given. -/
def has (options : Options) (key : String) : Bool :=
  (options.flags.lookup key).isSome

/-- Whether one of some options is given. -/
def hasAny (options : Options) (keys : List String) : Bool :=
  keys.any options.has

/-- The last value of an option. -/
def value? (options : Options) (key : String) : Option Octets :=
  options.flags.reverse.lookup key

/-- All values of an option. -/
def values (options : Options) (key : String) : List Octets :=
  options.flags.filterMap fun (other, value) => if other = key then some value else none

/-- The last of some options that is given. -/
def last? (options : Options) (keys : List String) : Option String :=
  (options.flags.reverse.find? fun (key, _) => keys.contains key).map Prod.fst

/-- An option in front of others. -/
def withFlag (key : String) (value : Octets) (options : Options) : Options :=
  { options with flags := (key, value) :: options.flags }

/-- An operand in front of others. -/
def withOperand (operand : Octets) (options : Options) : Options :=
  { options with operands := operand :: options.operands }

/-- Read arguments as far as `fuel` letters and arguments go. -/
def readFrom (table : OptionTable) : Nat → List Octets → Except OptionFault Options
  | 0, arguments => .ok ⟨[], arguments⟩
  | fuel + 1, arguments =>
    match arguments with
    | [] => .ok ⟨[], []⟩
    | ['-', '-'] :: rest => .ok ⟨[], rest⟩
    | ('-' :: '-' :: text) :: rest => do
      let name := text.takeWhile (· ≠ '=')
      let (shown, key, arity) ← table.resolve name
      match (text.drop name.length), arity with
      | '=' :: _, .none => throw (.takesNoValue shown)
      | '=' :: value, _ => (readFrom table fuel rest).map (withFlag key value)
      | _, .required =>
        match rest with
        | value :: rest => (readFrom table fuel rest).map (withFlag key value)
        | [] => throw (.nameLacksValue shown)
      | _, _ => (readFrom table fuel rest).map (withFlag key [])
    | ('-' :: letter :: more) :: rest =>
      let key := String.ofList [letter]
      match table.letterArity? letter with
      | none => .error (.unknownLetter letter)
      | some .none =>
        let rest := if more.isEmpty then rest else ('-' :: more) :: rest
        if more.head? = some '-' then .error (.unknownLetter '-')
        else (readFrom table fuel rest).map (withFlag key [])
      | some .optional => (readFrom table fuel rest).map (withFlag key more)
      | some .required =>
        if !more.isEmpty then (readFrom table fuel rest).map (withFlag key more)
        else match rest with
          | value :: rest => (readFrom table fuel rest).map (withFlag key value)
          | [] => .error (.lacksValue letter)
    | operand :: rest =>
      if table.isStrict then .ok ⟨[], arguments⟩
      else (readFrom table fuel rest).map (withOperand operand)

/-- Read the arguments of a tool. -/
def read (table : OptionTable) (arguments : List Octets) : Except OptionFault Options :=
  readFrom table (arguments.foldl (fun size argument => size + argument.length + 1) 1) arguments

end Options

end CorpusJudge

namespace CorpusJudge.Quoting

/-! ## Quoting

How tools show names: between quotes, so that a shell would read them back, or with escapes for what
cannot be printed. -/

/-- Whether a byte shows itself. -/
def isPrintable (character : Char) : Bool := ' ' ≤ character && character ≤ '~'

/-- The escape of a byte that does not show itself. -/
def escape (character : Char) : Octets :=
  match character with
  | '\x07' => ['\\', 'a']
  | '\x08' => ['\\', 'b']
  | '\t' => ['\\', 't']
  | '\n' => ['\\', 'n']
  | '\x0b' => ['\\', 'v']
  | '\x0c' => ['\\', 'f']
  | '\r' => ['\\', 'r']
  | _ =>
    let digits := Nat.toDigits 8 character.toNat
    '\\' :: List.replicate (3 - digits.length) '0' ++ digits

/-- Whether a character keeps its meaning between quotes of either kind. -/
def isHarmless (isFirst : Bool) (character : Char) : Bool :=
  character.isAlphanum || " %+,-./:]_\x7b\x7d'".toList.contains character ||
    (isFirst && (character = '#' || character = '~'))

/-- Whether a character needs quotes to mean itself to a shell. -/
def isSpecial (isFirst : Bool) (character : Char) : Bool :=
  " !\"$&()*;<=>[^\x60|?\\'".toList.contains character || !isPrintable character ||
    (isFirst && (character = '#' || character = '~'))

/-- A text behind an opening single quote, up to the closing one.  What cannot be printed stands as
escapes between quotes of another kind; `isEscaping` tells whether those are open. -/
def between (isEscaping : Bool) : Octets → Octets
  | [] => ['\'']
  | character :: rest =>
    if isPrintable character then
      (if isEscaping then ['\'', '\''] else []) ++
        (if character = '\'' then "'\\''".toList else [character]) ++ between false rest
    else (if isEscaping then [] else "'$'".toList) ++ escape character ++ between true rest

/-- A text as a shell would read it back, always in quotes. -/
def always (text : Octets) : Octets :=
  let marked := text.zipIdx
  if text.contains '\'' && marked.all fun (character, index) => isHarmless (index = 0) character then
    '"' :: text ++ ['"']
  else '\'' :: between false text

/-- A text as a shell would read it back, in quotes where it needs them. -/
def whereNeeded (text : Octets) : Octets :=
  let marked := text.zipIdx
  if text.isEmpty then ['\'', '\'']
  else if marked.any fun (character, index) => isSpecial (index = 0) character then always text
  else text

/-- A name in front of a colon, in quotes where it needs them or has a colon itself. -/
def asName (text : Octets) : Octets :=
  if text.contains ':' then always text else whereNeeded text

/-- A text between single quotes with escapes. -/
def named (text : Octets) : Octets :=
  '\'' :: text.flatMap (fun character =>
    if character = '\'' || character = '\\' then ['\\', character]
    else if isPrintable character then [character]
    else escape character) ++ ['\'']

end CorpusJudge.Quoting
