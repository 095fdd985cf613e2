import CorpusJudge.Bytes

/-!
# UTF-8

A byte string is read from the left into characters and malformed pieces.  A malformed piece is
the longest start of a character that cannot be completed, or a single byte that starts none.
The bytes are text when there is no malformed piece; for display each piece becomes the
replacement character.
-/

namespace CorpusJudge.Utf8

/-- A character of which some bytes have been read: the bits so far, how many bytes are missing,
and the range in which the next one must lie. -/
structure Partial where
  bits : Nat
  missing : Nat
  least : UInt8
  greatest : UInt8

/-- Where reading stands: the pieces read, last one first, and the character that is not yet
complete. -/
structure Progress where
  pieces : List (Option Char)
  pending : Option Partial

/-- Read a byte that has to start a character.  The narrower ranges after four of the lead bytes
keep out overlong forms, surrogates and numbers beyond the last character. -/
def start (pieces : List (Option Char)) (byte : UInt8) : Progress :=
  let wait (bits missing : Nat) (least greatest : UInt8) : Progress :=
    ⟨pieces, some ⟨bits, missing, least, greatest⟩⟩
  let code := byte.toNat
  if code < 0x80 then ⟨some (Char.ofNat code) :: pieces, none⟩
  else if code < 0xC2 then ⟨none :: pieces, none⟩
  else if code < 0xE0 then wait (code - 0xC0) 1 0x80 0xBF
  else if code = 0xE0 then wait 0 2 0xA0 0xBF
  else if code = 0xED then wait 13 2 0x80 0x9F
  else if code < 0xF0 then wait (code - 0xE0) 2 0x80 0xBF
  else if code = 0xF0 then wait 0 3 0x90 0xBF
  else if code < 0xF4 then wait (code - 0xF0) 3 0x80 0xBF
  else if code = 0xF4 then wait 4 3 0x80 0x8F
  else ⟨none :: pieces, none⟩

/-- Read one more byte. -/
def feed (progress : Progress) (byte : UInt8) : Progress :=
  match progress.pending with
  | none => start progress.pieces byte
  | some pending =>
    if pending.least ≤ byte ∧ byte ≤ pending.greatest then
      let bits := pending.bits * 64 + (byte.toNat - 0x80)
      if pending.missing ≤ 1 then ⟨some (Char.ofNat bits) :: progress.pieces, none⟩
      else ⟨progress.pieces, some ⟨bits, pending.missing - 1, 0x80, 0xBF⟩⟩
    else start (none :: progress.pieces) byte

/-- The characters of a byte string in order, `none` for each malformed piece. -/
def pieces (bytes : Bytes) : List (Option Char) :=
  let progress := bytes.foldl feed ⟨[], none⟩
  match progress.pending with
  | none => progress.pieces.reverse
  | some _ => (none :: progress.pieces).reverse

/-- The text that the bytes encode, if they encode one. -/
def decode? (bytes : Bytes) : Option String :=
  ((pieces bytes).mapM id).map String.ofList

/-- Whether the bytes encode a text. -/
def isText (bytes : Bytes) : Bool :=
  (pieces bytes).all Option.isSome

/-- The bytes as a text for display. -/
def display (bytes : Bytes) : String :=
  String.ofList ((pieces bytes).map (·.getD '\ufffd'))

end CorpusJudge.Utf8
