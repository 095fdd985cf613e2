import CorpusJudge.Bytes
import CorpusJudge.Text.Integer

/-!
# Quotation

Values in the extended dialect are shown so that they can be read back: between single quotes, between
double ones, with backslashes, or, if some of their bytes cannot be shown, with escapes.
-/

namespace CorpusJudge.Shell.Quotation

/-- Whether some byte of a value cannot be shown as it is. -/
def needsEscapes (value : Octets) : Bool :=
  value.any fun character => character < ' ' || '~' < character

/-- A character with the escape that stands for it. -/
def escaped (character : Char) : Octets :=
  match character with
  | '\x1b' => ['\\', 'E']
  | '\x07' => ['\\', 'a']
  | '\x08' => ['\\', 'b']
  | '\t' => ['\\', 't']
  | '\n' => ['\\', 'n']
  | '\x0b' => ['\\', 'v']
  | '\x0c' => ['\\', 'f']
  | '\r' => ['\\', 'r']
  | '\\' => ['\\', '\\']
  | '\'' => ['\\', '\'']
  | _ =>
    if character < ' ' || '~' < character then
      let digits := Nat.toDigits 8 character.toNat
      '\\' :: List.replicate (3 - digits.length) '0' ++ digits
    else [character]

/-- A value with escapes between quotes behind a dollar sign. -/
def withEscapes (value : Octets) : Octets :=
  ['$', '\''] ++ value.flatMap escaped ++ ['\'']

/-- A value between single quotes. -/
def single (value : Octets) : Octets :=
  if value = ['\''] then ['\\', '\'']
  else '\'' :: value.flatMap (fun character =>
    if character = '\'' then "'\\''".toList else [character]) ++ ['\'']

/-- A value that can be read back as a word. -/
def reusable (value : Octets) : Octets :=
  if needsEscapes value then withEscapes value else single value

/-- A value that can be read back, between double quotes. -/
def double (value : Octets) : Octets :=
  if needsEscapes value then withEscapes value
  else '"' :: value.flatMap (fun character =>
    if "\"\\$\x60".toList.contains character then ['\\', character] else [character]) ++ ['"']

/-- Whether a character has a meaning for the shell. -/
def isMark (character : Char) : Bool :=
  " \t\n'\"\\|&;()<>!\x7b\x7d*[?]^$\x60".toList.contains character

/-- Whether a tilde or a number sign stands where it has a meaning. -/
def startsMark (value : Octets) : Bool :=
  value.head? = some '~' || value.head? = some '#'

/-- A value with backslashes where they are needed. -/
def guarded (value : Octets) : Octets :=
  if value.isEmpty then ['\'', '\'']
  else if needsEscapes value then withEscapes value
  else
    let text := value.flatMap fun character =>
      if isMark character || character = ',' then ['\\', character] else [character]
    if startsMark value then '\\' :: text else text

/-- A value with quotes only where they are needed. -/
def plain (value : Octets) : Octets :=
  if needsEscapes value then withEscapes value
  else if value.any isMark || startsMark value then single value
  else value

/-- A value as it is shown while commands are executed. -/
def traced (value : Octets) : Octets :=
  if value.any isMark || startsMark value then single value
  else if needsEscapes value then withEscapes value
  else value

/-- A word of a command that is shown. -/
def shown (value : Octets) : Octets :=
  if value.isEmpty then ['\'', '\''] else traced value

end CorpusJudge.Shell.Quotation
