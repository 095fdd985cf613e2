import CorpusJudge.Json.Value

/-!
# Writing JSON

A value is laid out over lines: each item of an array and each member of an object has one of its
own, indented by two spaces for each level.
-/

namespace CorpusJudge.Json

/-- How an octet of a text is written between quotes: quotes and backslashes behind a backslash,
control characters by letter where they have one and by number otherwise. -/
def writtenOctet (octet : Char) : Octets :=
  if octet = '"' then ['\\', '"']
  else if octet = '\\' then ['\\', '\\']
  else if octet = '\x08' then ['\\', 'b']
  else if octet = '\t' then ['\\', 't']
  else if octet = '\n' then ['\\', 'n']
  else if octet = '\x0c' then ['\\', 'f']
  else if octet = '\r' then ['\\', 'r']
  else if octet < ' ' then '\\' :: 'u' :: '0' :: '0' :: Bytes.hexOfByte octet.toNat.toUInt8
  else [octet]

/-- How a text is written between quotes. -/
def writtenText (text : String) : Octets :=
  (Bytes.octets (Bytes.ofString text)).flatMap writtenOctet

namespace Value

/-- The string for a text. -/
def ofText (text : String) : Value :=
  .string (writtenText text)

/-- The number for a natural number. -/
def ofNat (value : Nat) : Value :=
  .number (Nat.toDigits 10 value)

/-- The object with some members. -/
def ofMembers (members : List (String × Value)) : Value :=
  .object (members.map fun (name, value) => (writtenText name, value))

end Value

/-- A line break and the indentation of a level. -/
def lineBreak (level : Nat) : Octets :=
  '\n' :: List.replicate (2 * level) ' '

mutual

/-- The lines of a value that begins at some level. -/
def layout (level : Nat) : Value → Octets
  | .null => ['n', 'u', 'l', 'l']
  | .boolean true => ['t', 'r', 'u', 'e']
  | .boolean false => ['f', 'a', 'l', 's', 'e']
  | .number written => written
  | .string written => '"' :: written ++ ['"']
  | .array [] => ['[', ']']
  | .array items => '[' :: layoutItems (level + 1) items ++ lineBreak level ++ [']']
  | .object [] => ['\x7b', '\x7d']
  | .object members => '\x7b' :: layoutMembers (level + 1) members ++ lineBreak level ++ ['\x7d']

/-- The lines of an array's items, with commas between them. -/
def layoutItems (level : Nat) : List Value → Octets
  | [] => []
  | [item] => lineBreak level ++ layout level item
  | item :: rest => lineBreak level ++ layout level item ++ ',' :: layoutItems level rest

/-- The lines of an object's members, with commas between them. -/
def layoutMembers (level : Nat) : List (Octets × Value) → Octets
  | [] => []
  | [(name, value)] => lineBreak level ++ '"' :: name ++ '"' :: ':' :: ' ' :: layout level value
  | (name, value) :: rest =>
    lineBreak level ++ '"' :: name ++ '"' :: ':' :: ' ' :: layout level value ++
      ',' :: layoutMembers level rest

end

/-- The document that holds a value. -/
def document (value : Value) : Bytes :=
  Bytes.ofOctets (layout 0 value)

end CorpusJudge.Json
