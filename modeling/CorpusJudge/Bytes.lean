/-!
# Byte strings

Solutions, program output and file contents are byte strings; nothing about them is assumed to
be text.
-/

namespace CorpusJudge

/-- A byte string. -/
abbrev Bytes := List UInt8

/-- A byte string written out as characters, the one with its number for each byte. -/
abbrev Octets := List Char

/-- Whether octets stand before others in byte order or are the same. -/
def Octets.atMost : Octets → Octets → Bool
  | [], _ => true
  | _ :: _, [] => false
  | left :: lefts, right :: rights => left < right || (left = right && Octets.atMost lefts rights)

namespace Bytes

/-- The UTF-8 form of a text. -/
def ofString (text : String) : Bytes :=
  text.toList.flatMap String.utf8EncodeChar

/-- Each byte as the character with its number, so that formats of ASCII marks and arbitrary
bytes between them can be read character by character. -/
def octets (bytes : Bytes) : Octets :=
  bytes.map fun byte => Char.ofNat byte.toNat

/-- The bytes that octets stand for. -/
def ofOctets (octets : Octets) : Bytes :=
  octets.map fun octet => octet.toNat.toUInt8

/-- One of the sixteen digits of hexadecimal notation, in lower case. -/
def hexDigit (value : Nat) : Char :=
  if value < 10 then Char.ofNat (48 + value) else Char.ofNat (87 + value)

/-- Two lower-case hexadecimal digits for one byte. -/
def hexOfByte (byte : UInt8) : List Char :=
  [hexDigit (byte.toNat / 16), hexDigit (byte.toNat % 16)]

/-- Two lower-case hexadecimal digits for each byte. -/
def toHex (bytes : Bytes) : String :=
  String.ofList (bytes.flatMap hexOfByte)

/-- The value of a hexadecimal digit in either case. -/
def hexValue? (character : Char) : Option Nat :=
  if '0' ≤ character ∧ character ≤ '9' then some (character.toNat - 48)
  else if 'a' ≤ character ∧ character ≤ 'f' then some (character.toNat - 87)
  else if 'A' ≤ character ∧ character ≤ 'F' then some (character.toNat - 55)
  else none

/-- The bytes written by pairs of hexadecimal digits. -/
def ofHexDigits? : List Char → Option Bytes
  | [] => some []
  | high :: low :: rest => do
    let upper ← hexValue? high
    let lower ← hexValue? low
    let bytes ← ofHexDigits? rest
    return (16 * upper + lower).toUInt8 :: bytes
  | [_] => none

/-- The bytes written in hexadecimal notation, two digits each. -/
def ofHex? (text : String) : Option Bytes :=
  ofHexDigits? text.toList

/-- Whether the second byte string stands somewhere in the first as one piece. -/
def containsBlock : Bytes → Bytes → Bool
  | [], block => block.isEmpty
  | byte :: rest, block => block.isPrefixOf (byte :: rest) || containsBlock rest block

end Bytes

end CorpusJudge
