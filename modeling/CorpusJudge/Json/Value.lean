import CorpusJudge.Bytes
import CorpusJudge.Text.Utf8

/-!
# JSON values

A JSON document as a tree.  Strings are kept the way they are written, byte for byte between
their quotes; only a string that is asked for has to be meaningful.
-/

namespace CorpusJudge.Json

/-- A JSON value.  Octets stand for the bytes of the document. -/
inductive Value where
  | null
  | boolean (value : Bool)
  | number (written : List Char)
  | string (written : List Char)
  | array (items : List Value)
  | object (members : List (List Char × Value))

/-- The number written by four hexadecimal digits and what follows them. -/
def codeUnit? : List Char → Option (Nat × List Char)
  | first :: second :: third :: fourth :: rest => do
    let first ← Bytes.hexValue? first
    let second ← Bytes.hexValue? second
    let third ← Bytes.hexValue? third
    let fourth ← Bytes.hexValue? fourth
    return (((first * 16 + second) * 16 + third) * 16 + fourth, rest)
  | _ => none

/-- The octets of a character's UTF-8 form. -/
def encodedChar (code : Nat) : List Char :=
  Bytes.octets (String.utf8EncodeChar (Char.ofNat code))

/-- What a one-letter escape stands for. -/
def simpleEscape? : Char → Option Char
  | '"' => some '"'
  | '\\' => some '\\'
  | '/' => some '/'
  | 'b' => some '\x08'
  | 'f' => some '\x0c'
  | 'n' => some '\n'
  | 'r' => some '\r'
  | 't' => some '\t'
  | _ => none

/-- The character written by an escape `\u` and what follows it.  Characters beyond the sixteen-bit
range are written as two surrogates; a surrogate alone is no character. -/
def escapedChar? (text : List Char) : Option (Nat × List Char) := do
  let (unit, rest) ← codeUnit? text
  if 0xDC00 ≤ unit ∧ unit ≤ 0xDFFF then none
  else if 0xD800 ≤ unit ∧ unit ≤ 0xDBFF then
    match rest with
    | '\\' :: 'u' :: more => do
      let (low, rest) ← codeUnit? more
      guard (0xDC00 ≤ low && low ≤ 0xDFFF)
      return (0x10000 + (unit - 0xD800) * 0x400 + (low - 0xDC00), rest)
    | _ => none
  else return (unit, rest)

/-- The octets that a written string stands for, in front of which the reversed octets `done` have
already been read. -/
def resolveEscapes? (fuel : Nat) (done : List Char) (written : List Char) : Option (List Char) :=
  match fuel, written with
  | _, [] => some done.reverse
  | 0, _ => none
  | fuel + 1, '\\' :: 'u' :: rest => do
    let (code, rest) ← escapedChar? rest
    resolveEscapes? fuel ((encodedChar code).reverse ++ done) rest
  | fuel + 1, '\\' :: letter :: rest => do
    let octet ← simpleEscape? letter
    resolveEscapes? fuel (octet :: done) rest
  | _ + 1, ['\\'] => none
  | fuel + 1, octet :: rest => resolveEscapes? fuel (octet :: done) rest

/-- The text that a written string stands for. -/
def textOf? (written : List Char) : Option String := do
  let octets ← resolveEscapes? written.length [] written
  Utf8.decode? (Bytes.ofOctets octets)

end CorpusJudge.Json
