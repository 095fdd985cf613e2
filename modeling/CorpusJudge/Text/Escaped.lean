import CorpusJudge.Bytes

/-!
# Escaped bytes

A diagnostic shows arbitrary bytes on one line of printable ASCII.  `escape` writes them,
`unescape?` reads them back.
-/

namespace CorpusJudge.Escaped

/-- How one byte is written: printable ASCII as itself, quotes and backslash behind a backslash,
tab and line breaks by letter, and all else as two hexadecimal digits. -/
def escapeByte (byte : UInt8) : List Char :=
  if byte = 9 then ['\\', 't']
  else if byte = 10 then ['\\', 'n']
  else if byte = 13 then ['\\', 'r']
  else if byte = 34 then ['\\', '"']
  else if byte = 39 then ['\\', '\'']
  else if byte = 92 then ['\\', '\\']
  else if 32 ≤ byte ∧ byte ≤ 126 then [Char.ofNat byte.toNat]
  else '\\' :: 'x' :: Bytes.hexOfByte byte

/-- Bytes as printable ASCII. -/
def escape (bytes : Bytes) : List Char :=
  bytes.flatMap escapeByte

/-- The bytes that an escaped form stands for. -/
def unescape? : List Char → Option Bytes
  | [] => some []
  | '\\' :: 'x' :: high :: low :: rest => do
    let upper ← Bytes.hexValue? high
    let lower ← Bytes.hexValue? low
    let bytes ← unescape? rest
    return (16 * upper + lower).toUInt8 :: bytes
  | '\\' :: 't' :: rest => (unescape? rest).map (9 :: ·)
  | '\\' :: 'n' :: rest => (unescape? rest).map (10 :: ·)
  | '\\' :: 'r' :: rest => (unescape? rest).map (13 :: ·)
  | '\\' :: '"' :: rest => (unescape? rest).map (34 :: ·)
  | '\\' :: '\'' :: rest => (unescape? rest).map (39 :: ·)
  | '\\' :: '\\' :: rest => (unescape? rest).map (92 :: ·)
  | '\\' :: _ => none
  | '"' :: _ => none
  | character :: rest =>
    if ' ' ≤ character ∧ character ≤ '~' then
      (unescape? rest).map (character.toNat.toUInt8 :: ·)
    else none

/-- The most bytes an excerpt shows. -/
def excerptLength : Nat := 100

/-- The first bytes of an output, escaped, between double quotes. -/
def excerpt (bytes : Bytes) : String :=
  String.ofList ('"' :: escape (bytes.take excerptLength) ++ ['"'])

end CorpusJudge.Escaped
