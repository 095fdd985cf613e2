import CorpusJudge.Bytes

/-!
# SHA-256

The digest that identifies the content of a file.  A message is padded to blocks of 64 bytes, and
every block is mixed into eight words in 64 rounds.
-/

namespace CorpusJudge.Sha256

/-- A 32-bit word; sums wrap around. -/
abbrev Word := UInt32

/-- The words that a digest is gathered in. -/
structure Registers where
  a : Word
  b : Word
  c : Word
  d : Word
  e : Word
  f : Word
  g : Word
  h : Word
  deriving DecidableEq, Repr

namespace Registers

/-- The registers before the first block. -/
def initial : Registers :=
  ⟨0x6a09e667, 0xbb67ae85, 0x3c6ef372, 0xa54ff53a, 0x510e527f, 0x9b05688c, 0x1f83d9ab, 0x5be0cd19⟩

/-- Sums register by register. -/
def add (left right : Registers) : Registers :=
  ⟨left.a + right.a, left.b + right.b, left.c + right.c, left.d + right.d, left.e + right.e,
    left.f + right.f, left.g + right.g, left.h + right.h⟩

/-- The registers before the first block of the shorter digest. -/
def initialShort : Registers :=
  ⟨0xc1059ed8, 0x367cd507, 0x3070dd17, 0xf70e5939, 0xffc00b31, 0x68581511, 0x64f98fa7, 0xbefa4fa4⟩

/-- The registers in order. -/
def words (registers : Registers) : List Word :=
  [registers.a, registers.b, registers.c, registers.d, registers.e, registers.f, registers.g,
    registers.h]

end Registers

/-- The constant of each round. -/
def roundConstants : List Word := [
  0x428a2f98, 0x71374491, 0xb5c0fbcf, 0xe9b5dba5, 0x3956c25b, 0x59f111f1, 0x923f82a4, 0xab1c5ed5,
  0xd807aa98, 0x12835b01, 0x243185be, 0x550c7dc3, 0x72be5d74, 0x80deb1fe, 0x9bdc06a7, 0xc19bf174,
  0xe49b69c1, 0xefbe4786, 0x0fc19dc6, 0x240ca1cc, 0x2de92c6f, 0x4a7484aa, 0x5cb0a9dc, 0x76f988da,
  0x983e5152, 0xa831c66d, 0xb00327c8, 0xbf597fc7, 0xc6e00bf3, 0xd5a79147, 0x06ca6351, 0x14292967,
  0x27b70a85, 0x2e1b2138, 0x4d2c6dfc, 0x53380d13, 0x650a7354, 0x766a0abb, 0x81c2c92e, 0x92722c85,
  0xa2bfe8a1, 0xa81a664b, 0xc24b8b70, 0xc76c51a3, 0xd192e819, 0xd6990624, 0xf40e3585, 0x106aa070,
  0x19a4c116, 0x1e376c08, 0x2748774c, 0x34b0bcb5, 0x391c0cb3, 0x4ed8aa4a, 0x5b9cca4f, 0x682e6ff3,
  0x748f82ee, 0x78a5636f, 0x84c87814, 0x8cc70208, 0x90befffa, 0xa4506ceb, 0xbef9a3f7, 0xc67178f2]

/-- A word with its bits moved round to the right. -/
def rotate (word count : Word) : Word :=
  (word >>> count) ||| (word <<< (32 - count))

/-- What an old word of the schedule contributes to a new one. -/
def smallSigma (first second shift word : Word) : Word :=
  rotate word first ^^^ rotate word second ^^^ (word >>> shift)

/-- What a register contributes to a round. -/
def bigSigma (first second third word : Word) : Word :=
  rotate word first ^^^ rotate word second ^^^ rotate word third

/-- The next word of a schedule, of which the words so far are given latest first. -/
def nextWord (recent : List Word) : Word :=
  smallSigma 17 19 10 (recent.getD 1 0) + recent.getD 6 0 +
    smallSigma 7 18 3 (recent.getD 14 0) + recent.getD 15 0

/-- A schedule with some words more, latest first. -/
def lengthen : Nat → List Word → List Word
  | 0, recent => recent
  | count + 1, recent => lengthen count (nextWord recent :: recent)

/-- The word for each round, from the sixteen words of a block. -/
def schedule (block : List Word) : List Word :=
  (lengthen 48 block.reverse).reverse

/-- One round, with its constant and its word. -/
def round (registers : Registers) (mixed : Word × Word) : Registers :=
  let ⟨a, b, c, d, e, f, g, h⟩ := registers
  let choice := (e &&& f) ^^^ (~~~e &&& g)
  let majority := (a &&& b) ^^^ (a &&& c) ^^^ (b &&& c)
  let first := h + bigSigma 6 11 25 e + choice + mixed.1 + mixed.2
  let second := bigSigma 2 13 22 a + majority
  ⟨first + second, a, b, c, d + first, e, f, g⟩

/-- The registers after one more block. -/
def compress (registers : Registers) (block : List Word) : Registers :=
  registers.add ((roundConstants.zip (schedule block)).foldl round registers)

/-- A number in some bytes, most significant byte first. -/
def bigEndian (width value : Nat) : Bytes :=
  (List.range width).reverse.map fun place => (value >>> (8 * place)).toUInt8

/-- A message with a mark at its end, zeros, and its length in bits, which fills whole blocks. -/
def pad (message : Bytes) : Bytes :=
  let zeros := (119 - message.length % 64) % 64
  message ++ 0x80 :: List.replicate zeros 0 ++ bigEndian 8 (8 * message.length)

/-- Four bytes as a word, most significant byte first. -/
def word (a b c d : UInt8) : Word :=
  (a.toUInt32 <<< 24) ||| (b.toUInt32 <<< 16) ||| (c.toUInt32 <<< 8) ||| d.toUInt32

/-- Bytes as words, in whole groups of four. -/
def wordsOf : Bytes → List Word
  | a :: b :: c :: d :: rest => word a b c d :: wordsOf rest
  | _ => []

/-- The registers after so many blocks. -/
def absorb : Nat → Registers → List Word → Registers
  | 0, registers, _ => registers
  | count + 1, registers, words =>
    absorb count (compress registers (words.take 16)) (words.drop 16)

/-- The digest of a message that starts from some registers. -/
def digestFrom (start : Registers) (message : Bytes) : Bytes :=
  let padded := pad message
  let registers := absorb (padded.length / 64) start (wordsOf padded)
  registers.words.flatMap fun word => bigEndian 4 word.toNat

/-- The digest of a message: 32 bytes. -/
def digest : Bytes → Bytes := digestFrom .initial

/-- The shorter digest of a message: 28 bytes. -/
def shortDigest (message : Bytes) : Bytes := (digestFrom .initialShort message).take 28

/-- The digest of a message as 64 lower-case hexadecimal digits. -/
def hexDigest (message : Bytes) : String :=
  (digest message).toHex

end CorpusJudge.Sha256
