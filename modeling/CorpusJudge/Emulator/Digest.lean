import CorpusJudge.Bytes
import CorpusJudge.Sha256

/-!
# Digests

A digest takes a message in block by block.  The last block holds a mark, zeros, and the length of the
message in bits; then the words of each block are mixed into what has been gathered.  Digests go by
names, and a line can tell the digest of a file.
-/

namespace CorpusJudge.Digest

/-- A number in some bytes, least significant byte first. -/
def littleEndian (width value : Nat) : Bytes :=
  (List.range width).map fun place => (value >>> (8 * place)).toUInt8

/-- A number in some bytes, most significant byte first. -/
def bigEndian (width value : Nat) : Bytes := (littleEndian width value).reverse

/-- The number that bytes write, least significant byte first. -/
def numberOf (bytes : Bytes) : Nat :=
  bytes.foldr (fun byte value => 256 * value + byte.toNat) 0

/-- A message with a mark at its end, zeros, and its length in bits behind them, which fills whole
blocks of some size. -/
def padded (block : Nat) (length : Nat → Bytes) (message : Bytes) : Bytes :=
  let last := length (8 * message.length)
  let used := (message.length + 1 + last.length) % block
  message ++ 0x80 :: List.replicate ((block - used) % block) 0 ++ last

/-- The groups of one size behind those that stand in reverse, of which there are so many. -/
def groupsBehind {α : Type} (size : Nat) (reversed : List (List α)) :
    Nat → List α → List (List α)
  | 0, _ => reversed.reverse
  | count + 1, items => groupsBehind size (items.take size :: reversed) count (items.drop size)

/-- A list in groups of one size, of which there are so many. -/
def groups {α : Type} (size count : Nat) (items : List α) : List (List α) :=
  groupsBehind size [] count items

/-- The blocks of some size that bytes fill. -/
def blocks (size : Nat) (bytes : Bytes) : List Bytes :=
  groups size (bytes.length / size) bytes

/-- A 32-bit word with its bits moved round to the left. -/
def rotateLeft (word : UInt32) (count : UInt32) : UInt32 :=
  (word <<< count) ||| (word >>> (32 - count))

/-- A 64-bit word with its bits moved round to the right. -/
def rotateRight (word : UInt64) (count : UInt64) : UInt64 :=
  (word >>> count) ||| (word <<< (64 - count))

end CorpusJudge.Digest

namespace CorpusJudge.Digest.Md5

/-! ## MD5

A digest of 16 bytes.  Every block of 64 bytes is mixed into four words in 64 rounds, which take the
words of the block in four different orders. -/

/-- The four words that a digest is gathered in. -/
structure Registers where
  a : UInt32
  b : UInt32
  c : UInt32
  d : UInt32

namespace Registers

/-- The registers before the first block. -/
def initial : Registers := ⟨0x67452301, 0xefcdab89, 0x98badcfe, 0x10325476⟩

/-- Sums register by register. -/
def add (left right : Registers) : Registers :=
  ⟨left.a + right.a, left.b + right.b, left.c + right.c, left.d + right.d⟩

/-- The bytes of the registers. -/
def bytes (registers : Registers) : Bytes :=
  [registers.a, registers.b, registers.c, registers.d].flatMap fun word =>
    littleEndian 4 word.toNat

end Registers

/-- The constant of each round. -/
def roundConstants : List UInt32 := [
  0xd76aa478, 0xe8c7b756, 0x242070db, 0xc1bdceee, 0xf57c0faf, 0x4787c62a, 0xa8304613, 0xfd469501,
  0x698098d8, 0x8b44f7af, 0xffff5bb1, 0x895cd7be, 0x6b901122, 0xfd987193, 0xa679438e, 0x49b40821,
  0xf61e2562, 0xc040b340, 0x265e5a51, 0xe9b6c7aa, 0xd62f105d, 0x02441453, 0xd8a1e681, 0xe7d3fbc8,
  0x21e1cde6, 0xc33707d6, 0xf4d50d87, 0x455a14ed, 0xa9e3e905, 0xfcefa3f8, 0x676f02d9, 0x8d2a4c8a,
  0xfffa3942, 0x8771f681, 0x6d9d6122, 0xfde5380c, 0xa4beea44, 0x4bdecfa9, 0xf6bb4b60, 0xbebfbc70,
  0x289b7ec6, 0xeaa127fa, 0xd4ef3085, 0x04881d05, 0xd9d4d039, 0xe6db99e5, 0x1fa27cf8, 0xc4ac5665,
  0xf4292244, 0x432aff97, 0xab9423a7, 0xfc93a039, 0x655b59c3, 0x8f0ccc92, 0xffeff47d, 0x85845dd1,
  0x6fa87e4f, 0xfe2ce6e0, 0xa3014314, 0x4e0811a1, 0xf7537e82, 0xbd3af235, 0x2ad7d2bb, 0xeb86d391]

/-- By how many bits the rounds of each quarter move their words round. -/
def shifts : List (List UInt32) :=
  [[7, 12, 17, 22], [5, 9, 14, 20], [4, 11, 16, 23], [6, 10, 15, 21]]

/-- What a round makes of three registers, and the place of the word that it takes from the block. -/
def mixed (round : Nat) (b c d : UInt32) : UInt32 × Nat :=
  match round / 16 with
  | 0 => ((b &&& c) ||| (~~~b &&& d), round)
  | 1 => ((d &&& b) ||| (~~~d &&& c), (5 * round + 1) % 16)
  | 2 => (b ^^^ c ^^^ d, (3 * round + 5) % 16)
  | _ => (c ^^^ (b ||| ~~~d), 7 * round % 16)

/-- One round, given its constant and its number. -/
def round (words : Array UInt32) (registers : Registers) (step : UInt32 × Nat) : Registers :=
  let (constant, number) := step
  let ⟨a, b, c, d⟩ := registers
  let (choice, place) := mixed number b c d
  let shift := (shifts.getD (number / 16) []).getD (number % 4) 0
  ⟨d, b + rotateLeft (a + choice + constant + words.getD place 0) shift, b, c⟩

/-- The registers after one more block. -/
def absorb (registers : Registers) (block : Bytes) : Registers :=
  let words := ((blocks 4 block).map fun group => (numberOf group).toUInt32).toArray
  registers.add (roundConstants.zipIdx.foldl (round words) registers)

/-- The digest of a message. -/
def digest (message : Bytes) : Bytes :=
  ((blocks 64 (padded 64 (littleEndian 8) message)).foldl absorb .initial).bytes

end CorpusJudge.Digest.Md5

namespace CorpusJudge.Digest.Sha1

/-! ## SHA-1

A digest of 20 bytes.  Every block of 64 bytes is mixed into five words in 80 rounds. -/

/-- The five words that a digest is gathered in. -/
structure Registers where
  a : UInt32
  b : UInt32
  c : UInt32
  d : UInt32
  e : UInt32

namespace Registers

/-- The registers before the first block. -/
def initial : Registers := ⟨0x67452301, 0xefcdab89, 0x98badcfe, 0x10325476, 0xc3d2e1f0⟩

/-- Sums register by register. -/
def add (left right : Registers) : Registers :=
  ⟨left.a + right.a, left.b + right.b, left.c + right.c, left.d + right.d, left.e + right.e⟩

/-- The bytes of the registers. -/
def bytes (registers : Registers) : Bytes :=
  [registers.a, registers.b, registers.c, registers.d, registers.e].flatMap fun word =>
    bigEndian 4 word.toNat

end Registers

/-- The words for so many further rounds; the words so far are given latest first. -/
def lengthen : Nat → List UInt32 → List UInt32
  | 0, recent => recent
  | count + 1, recent =>
    let next := rotateLeft
      (recent.getD 2 0 ^^^ recent.getD 7 0 ^^^ recent.getD 13 0 ^^^ recent.getD 15 0) 1
    lengthen count (next :: recent)

/-- What a round makes of three registers, and its constant. -/
def mixed (round : Nat) (b c d : UInt32) : UInt32 × UInt32 :=
  match round / 20 with
  | 0 => ((b &&& c) ||| (~~~b &&& d), 0x5a827999)
  | 1 => (b ^^^ c ^^^ d, 0x6ed9eba1)
  | 2 => ((b &&& c) ||| (b &&& d) ||| (c &&& d), 0x8f1bbcdc)
  | _ => (b ^^^ c ^^^ d, 0xca62c1d6)

/-- One round, given its word and its number. -/
def round (registers : Registers) (step : UInt32 × Nat) : Registers :=
  let (word, number) := step
  let ⟨a, b, c, d, e⟩ := registers
  let (choice, constant) := mixed number b c d
  ⟨rotateLeft a 5 + choice + e + constant + word, a, rotateLeft b 30, c, d⟩

/-- The registers after one more block. -/
def absorb (registers : Registers) (block : Bytes) : Registers :=
  let words := (blocks 4 block).map fun group => (numberOf group.reverse).toUInt32
  registers.add ((lengthen 64 words.reverse).reverse.zipIdx.foldl round registers)

/-- The digest of a message. -/
def digest (message : Bytes) : Bytes :=
  ((blocks 64 (padded 64 (bigEndian 8) message)).foldl absorb .initial).bytes

end CorpusJudge.Digest.Sha1

namespace CorpusJudge.Digest.Sha512

/-! ## SHA-512

A digest of 64 bytes, and a shorter one of 48.  Every block of 128 bytes is mixed into eight words of
64 bits in 80 rounds. -/

/-- The eight words that a digest is gathered in. -/
structure Registers where
  a : UInt64
  b : UInt64
  c : UInt64
  d : UInt64
  e : UInt64
  f : UInt64
  g : UInt64
  h : UInt64

namespace Registers

/-- Registers with some words. -/
def ofList : List UInt64 → Registers
  | [a, b, c, d, e, f, g, h] => ⟨a, b, c, d, e, f, g, h⟩
  | _ => ⟨0, 0, 0, 0, 0, 0, 0, 0⟩

/-- Sums register by register. -/
def add (left right : Registers) : Registers :=
  ⟨left.a + right.a, left.b + right.b, left.c + right.c, left.d + right.d, left.e + right.e,
    left.f + right.f, left.g + right.g, left.h + right.h⟩

/-- The bytes of the registers. -/
def bytes (registers : Registers) : Bytes :=
  [registers.a, registers.b, registers.c, registers.d, registers.e, registers.f, registers.g,
    registers.h].flatMap fun word => bigEndian 8 word.toNat

end Registers

/-- The words before the first block of a digest of 64 bytes. -/
def initial : List UInt64 := [
  0x6a09e667f3bcc908, 0xbb67ae8584caa73b, 0x3c6ef372fe94f82b, 0xa54ff53a5f1d36f1,
  0x510e527fade682d1, 0x9b05688c2b3e6c1f, 0x1f83d9abfb41bd6b, 0x5be0cd19137e2179]

/-- The words before the first block of a digest of 48 bytes. -/
def initialShort : List UInt64 := [
  0xcbbb9d5dc1059ed8, 0x629a292a367cd507, 0x9159015a3070dd17, 0x152fecd8f70e5939,
  0x67332667ffc00b31, 0x8eb44a8768581511, 0xdb0c2e0d64f98fa7, 0x47b5481dbefa4fa4]

/-- The constant of each round. -/
def roundConstants : List UInt64 := [
  0x428a2f98d728ae22, 0x7137449123ef65cd, 0xb5c0fbcfec4d3b2f, 0xe9b5dba58189dbbc,
  0x3956c25bf348b538, 0x59f111f1b605d019, 0x923f82a4af194f9b, 0xab1c5ed5da6d8118,
  0xd807aa98a3030242, 0x12835b0145706fbe, 0x243185be4ee4b28c, 0x550c7dc3d5ffb4e2,
  0x72be5d74f27b896f, 0x80deb1fe3b1696b1, 0x9bdc06a725c71235, 0xc19bf174cf692694,
  0xe49b69c19ef14ad2, 0xefbe4786384f25e3, 0x0fc19dc68b8cd5b5, 0x240ca1cc77ac9c65,
  0x2de92c6f592b0275, 0x4a7484aa6ea6e483, 0x5cb0a9dcbd41fbd4, 0x76f988da831153b5,
  0x983e5152ee66dfab, 0xa831c66d2db43210, 0xb00327c898fb213f, 0xbf597fc7beef0ee4,
  0xc6e00bf33da88fc2, 0xd5a79147930aa725, 0x06ca6351e003826f, 0x142929670a0e6e70,
  0x27b70a8546d22ffc, 0x2e1b21385c26c926, 0x4d2c6dfc5ac42aed, 0x53380d139d95b3df,
  0x650a73548baf63de, 0x766a0abb3c77b2a8, 0x81c2c92e47edaee6, 0x92722c851482353b,
  0xa2bfe8a14cf10364, 0xa81a664bbc423001, 0xc24b8b70d0f89791, 0xc76c51a30654be30,
  0xd192e819d6ef5218, 0xd69906245565a910, 0xf40e35855771202a, 0x106aa07032bbd1b8,
  0x19a4c116b8d2d0c8, 0x1e376c085141ab53, 0x2748774cdf8eeb99, 0x34b0bcb5e19b48a8,
  0x391c0cb3c5c95a63, 0x4ed8aa4ae3418acb, 0x5b9cca4f7763e373, 0x682e6ff3d6b2b8a3,
  0x748f82ee5defb2fc, 0x78a5636f43172f60, 0x84c87814a1f0ab72, 0x8cc702081a6439ec,
  0x90befffa23631e28, 0xa4506cebde82bde9, 0xbef9a3f7b2c67915, 0xc67178f2e372532b,
  0xca273eceea26619c, 0xd186b8c721c0c207, 0xeada7dd6cde0eb1e, 0xf57d4f7fee6ed178,
  0x06f067aa72176fba, 0x0a637dc5a2c898a6, 0x113f9804bef90dae, 0x1b710b35131c471b,
  0x28db77f523047d84, 0x32caab7b40c72493, 0x3c9ebe0a15c9bebc, 0x431d67c49c100d4c,
  0x4cc5d4becb3e42b6, 0x597f299cfc657e2a, 0x5fcb6fab3ad6faec, 0x6c44198c4a475817]

/-- What an old word contributes to a new one. -/
def smallSigma (first second shift word : UInt64) : UInt64 :=
  rotateRight word first ^^^ rotateRight word second ^^^ (word >>> shift)

/-- What a register contributes to a round. -/
def bigSigma (first second third word : UInt64) : UInt64 :=
  rotateRight word first ^^^ rotateRight word second ^^^ rotateRight word third

/-- The words for so many further rounds; the words so far are given latest first. -/
def lengthen : Nat → List UInt64 → List UInt64
  | 0, recent => recent
  | count + 1, recent =>
    let next := smallSigma 19 61 6 (recent.getD 1 0) + recent.getD 6 0 +
      smallSigma 1 8 7 (recent.getD 14 0) + recent.getD 15 0
    lengthen count (next :: recent)

/-- One round, given its constant and its word. -/
def round (registers : Registers) (step : UInt64 × UInt64) : Registers :=
  let ⟨a, b, c, d, e, f, g, h⟩ := registers
  let choice := (e &&& f) ^^^ (~~~e &&& g)
  let majority := (a &&& b) ^^^ (a &&& c) ^^^ (b &&& c)
  let first := h + bigSigma 14 18 41 e + choice + step.1 + step.2
  let second := bigSigma 28 34 39 a + majority
  ⟨first + second, a, b, c, d + first, e, f, g⟩

/-- The registers after one more block. -/
def absorb (registers : Registers) (block : Bytes) : Registers :=
  let words := (blocks 8 block).map fun group => (numberOf group.reverse).toUInt64
  let schedule := (lengthen 64 words.reverse).reverse
  registers.add ((roundConstants.zip schedule).foldl round registers)

/-- The digest of a message that starts from some words. -/
def digestFrom (start : List UInt64) (message : Bytes) : Bytes :=
  ((blocks 128 (padded 128 (bigEndian 16) message)).foldl absorb (.ofList start)).bytes

/-- The digest of a message. -/
def digest : Bytes → Bytes := digestFrom initial

/-- The shorter digest of a message. -/
def shortDigest (message : Bytes) : Bytes := (digestFrom initialShort message).take 48

end CorpusJudge.Digest.Sha512

namespace CorpusJudge.Digest.Blake2

/-! ## BLAKE2b

A digest of at most 64 bytes.  Every block of 128 bytes is mixed into eight words of 64 bits together
with the count of the bytes so far; each of the 12 rounds takes the words of the block in an order of
its own. -/

/-- The orders in which rounds take the words of a block; the last two rounds start over. -/
def orders : List (List Nat) := [
  [0, 1, 2, 3, 4, 5, 6, 7, 8, 9, 10, 11, 12, 13, 14, 15],
  [14, 10, 4, 8, 9, 15, 13, 6, 1, 12, 0, 2, 11, 7, 5, 3],
  [11, 8, 12, 0, 5, 2, 15, 13, 10, 14, 3, 6, 7, 1, 9, 4],
  [7, 9, 3, 1, 13, 12, 11, 14, 2, 6, 5, 10, 4, 0, 15, 8],
  [9, 0, 5, 7, 2, 4, 10, 15, 14, 1, 11, 12, 6, 8, 3, 13],
  [2, 12, 6, 10, 0, 11, 8, 3, 4, 13, 7, 5, 15, 14, 1, 9],
  [12, 5, 1, 15, 14, 13, 4, 10, 0, 7, 6, 3, 9, 2, 8, 11],
  [13, 11, 7, 14, 12, 1, 3, 9, 5, 0, 15, 4, 8, 6, 2, 10],
  [6, 15, 14, 9, 11, 3, 0, 8, 12, 2, 13, 7, 1, 4, 10, 5],
  [10, 2, 8, 4, 7, 6, 1, 5, 15, 11, 9, 14, 3, 12, 13, 0]]

/-- The places of the four words that each of the eight steps of a round mixes. -/
def quarters : List (Nat × Nat × Nat × Nat) :=
  [(0, 4, 8, 12), (1, 5, 9, 13), (2, 6, 10, 14), (3, 7, 11, 15),
    (0, 5, 10, 15), (1, 6, 11, 12), (2, 7, 8, 13), (3, 4, 9, 14)]

/-- Mix four words with two words of the block. -/
def mix (words : Array UInt64) (places : Nat × Nat × Nat × Nat) (first second : UInt64) :
    Array UInt64 :=
  let (i, j, k, l) := places
  let a := words.getD i 0 + words.getD j 0 + first
  let d := rotateRight (words.getD l 0 ^^^ a) 32
  let c := words.getD k 0 + d
  let b := rotateRight (words.getD j 0 ^^^ c) 24
  let a := a + b + second
  let d := rotateRight (d ^^^ a) 16
  let c := c + d
  let b := rotateRight (b ^^^ c) 63
  (((words.setIfInBounds i a).setIfInBounds j b).setIfInBounds k c).setIfInBounds l d

/-- One round, given the order in which it takes the words of the block. -/
def round (block words : Array UInt64) (order : List Nat) : Array UInt64 :=
  quarters.zipIdx.foldl (fun words (places, step) =>
    let word (offset : Nat) : UInt64 := block.getD (order.getD (2 * step + offset) 0) 0
    mix words places (word 0) (word 1)) words

/-- What has been gathered after one more block, up to which there are so many bytes. -/
def absorb (gathered : List UInt64) (count : Nat) (isLast : Bool) (block : Bytes) : List UInt64 :=
  let filled := block ++ List.replicate (128 - block.length) 0
  let words := ((blocks 8 filled).map fun group => (numberOf group).toUInt64).toArray
  let marks := [0, 0, 0, 0, count.toUInt64, (count >>> 64).toUInt64, if isLast then ~~~0 else 0, 0]
  let start := gathered ++ (Sha512.initial.zip marks).map fun (word, mark) => word ^^^ mark
  let after := (orders ++ orders.take 2).foldl (round words) start.toArray
  gathered.zipIdx.map fun (word, place) =>
    word ^^^ after.getD place 0 ^^^ after.getD (place + 8) 0

/-- The digest of a message, of so many bytes. -/
def digest (size : Nat) (message : Bytes) : Bytes :=
  let start := match Sha512.initial with
    | first :: rest => (first ^^^ 0x01010000 ^^^ size.toUInt64) :: rest
    | [] => []
  let whole := (message.length - 1) / 128
  let gathered := (groups 128 whole message).zipIdx.foldl
    (fun gathered (block, number) => absorb gathered (128 * (number + 1)) false block) start
  let last := absorb gathered message.length true (message.drop (128 * whole))
  (last.flatMap fun word => littleEndian 8 word.toNat).take size

end CorpusJudge.Digest.Blake2

namespace CorpusJudge.Digest

/-! ## Check sums

Short sums of the bytes of a file, which tell whether it has been changed by accident. -/

/-- A remainder of 32 bits with one bit more of the dividend, modulo the polynomial of the sum. -/
def remainderStep (rest : UInt32) : UInt32 :=
  if rest &&& 0x80000000 = 0 then rest <<< 1 else (rest <<< 1) ^^^ 0x04c11db7

/-- A remainder with one byte more of the dividend. -/
def remainderOf (rest : UInt32) (byte : UInt8) : UInt32 :=
  (List.range 8).foldl (fun rest _ => remainderStep rest) (rest ^^^ (byte.toUInt32 <<< 24))

/-- The bytes of a number without the zeros above them, least significant byte first. -/
def shortBytes : Nat → Nat → Bytes
  | 0, _ => []
  | fuel + 1, value => if value = 0 then [] else value.toUInt8 :: shortBytes fuel (value / 256)

/-- The cyclic sum: the remainder of the bytes and of their count, with all bits turned round. -/
def cyclicSum (message : Bytes) : Nat :=
  let count := shortBytes 8 message.length
  (~~~((message ++ count).foldl remainderOf 0)).toNat

/-- The sum of 16 bits that is moved round by a bit in front of each byte. -/
def rotatingSum (message : Bytes) : Nat :=
  message.foldl (fun sum byte => (sum / 2 + sum % 2 * 32768 + byte.toNat) % 65536) 0

/-- The sum of all bytes, folded to 16 bits. -/
def plainSum (message : Bytes) : Nat :=
  let sum := message.foldl (fun sum byte => (sum + byte.toNat) % 4294967296) 0
  let folded := sum % 65536 + sum / 65536
  folded % 65536 + folded / 65536

/-! ## Algorithms -/

/-- A digest: the name it is asked for by, its name in front of a file's, and how many bytes it has. -/
structure Algorithm where
  name : String
  tag : String
  size : Nat
  compute : Nat → Bytes → Bytes

namespace Algorithm

/-- A digest of 16 bytes. -/
def md5 : Algorithm := ⟨"md5", "MD5", 16, fun _ => Md5.digest⟩

/-- A digest of 20 bytes. -/
def sha1 : Algorithm := ⟨"sha1", "SHA1", 20, fun _ => Sha1.digest⟩

/-- A digest of 28 bytes. -/
def sha224 : Algorithm := ⟨"sha224", "SHA224", 28, fun _ => Sha256.shortDigest⟩

/-- A digest of 32 bytes. -/
def sha256 : Algorithm := ⟨"sha256", "SHA256", 32, fun _ => Sha256.digest⟩

/-- A digest of 48 bytes. -/
def sha384 : Algorithm := ⟨"sha384", "SHA384", 48, fun _ => Sha512.shortDigest⟩

/-- A digest of 64 bytes. -/
def sha512 : Algorithm := ⟨"sha512", "SHA512", 64, fun _ => Sha512.digest⟩

/-- A digest of 64 bytes that may be shorter. -/
def blake2 : Algorithm := ⟨"blake2b", "BLAKE2b", 64, Blake2.digest⟩

/-- The digests there are. -/
def all : List Algorithm := [md5, sha1, sha224, sha256, sha384, sha512, blake2]

/-- The digest with a name. -/
def named? (name : String) : Option Algorithm := all.find? (·.name = name)

/-- The digest that a text starts with the name of, and what follows; a longer name wins. -/
def tagged? (text : Octets) : Option (Algorithm × Octets) :=
  match all.filter fun algorithm => algorithm.tag.toList.isPrefixOf text with
  | [] => none
  | found :: _ => some (found, text.drop found.tag.length)

end Algorithm

/-- Whether a file's name has characters that are written as escapes in front of it. -/
def isProblematic (name : Octets) : Bool :=
  name.any fun character => character = '\\' || character = '\n' || character = '\r'

/-- A name with its escapes. -/
def escapedName (name : Octets) : Octets :=
  name.flatMap fun character => match character with
    | '\\' => ['\\', '\\']
    | '\n' => ['\\', 'n']
    | '\r' => ['\\', 'r']
    | _ => [character]

/-- The name that was written with escapes; some texts write none. -/
def unescapedName? : Octets → Option Octets
  | [] => some []
  | '\\' :: '\\' :: rest => (unescapedName? rest).map ('\\' :: ·)
  | '\\' :: 'n' :: rest => (unescapedName? rest).map ('\n' :: ·)
  | '\\' :: 'r' :: rest => (unescapedName? rest).map ('\r' :: ·)
  | '\\' :: _ => none
  | character :: rest => (unescapedName? rest).map (character :: ·)

/-- A file with the digest that it is said to have. -/
structure Claim where
  algorithm : Algorithm
  size : Nat
  digits : Octets
  name : Octets

/-- Whether a character is a blank. -/
def isBlank (character : Char) : Bool := character = ' ' || character = '\t'

/-- The number of bytes that hexadecimal digits write, if they are nothing else. -/
def sizeOf? (digits : Octets) : Option Nat :=
  if digits.length % 2 = 0 && digits.all fun digit => (Bytes.hexValue? digit).isSome then
    some (digits.length / 2)
  else none

/-- A name in a line, of which escapes are part if a mark in front of the line says so. -/
def nameIn? (isEscaped : Bool) (text : Octets) : Option Octets :=
  if isEscaped then unescapedName? text else some text

/-- What a line says behind the tag of a digest. -/
def taggedClaim? (algorithm : Algorithm) (isEscaped : Bool) (text : Octets) : Option Claim := do
  let (size, text) ← match text with
    | '-' :: rest =>
      let digits := rest.takeWhile Char.isDigit
      let bits ← digits.foldlM (fun value digit =>
        (Bytes.hexValue? digit).map (10 * value + ·)) 0
      if algorithm.name = "blake2b" && 0 < bits && bits % 8 = 0 && bits ≤ 512 then
        pure (bits / 8, rest.drop digits.length)
      else none
    | _ => pure (algorithm.size, text)
  let text := if text.head? = some ' ' then text.drop 1 else text
  match text with
  | '(' :: inside =>
    let behind := (inside.reverse.takeWhile (· ≠ ')')).reverse
    if behind.length = inside.length then none
    else
      let name ← nameIn? isEscaped (inside.take (inside.length - behind.length - 1))
      match behind.dropWhile isBlank with
      | '=' :: rest =>
        let digits := rest.dropWhile isBlank
        if sizeOf? digits = some size then return ⟨algorithm, size, digits, name⟩ else none
      | _ => none
  | _ => none

/-- What a line says in which the digest stands in front of the name.  One blank alone may stand
between them only if it did so in the first line. -/
def plainClaim? (algorithm : Algorithm) (anySize : Bool) (isClose : Option Bool) (isEscaped : Bool)
    (text : Octets) : Option (Claim × Bool) := do
  let digits := text.takeWhile fun digit => (Bytes.hexValue? digit).isSome
  let size ← sizeOf? digits
  let fits := if anySize then 0 < size && size ≤ algorithm.size else size = algorithm.size
  if !fits then none
  match text.drop digits.length with
  | blank :: rest =>
    if !isBlank blank || rest.isEmpty then none
    let isMarked := rest.length ≠ 1 && (rest.head? = some ' ' || rest.head? = some '*')
    if !isMarked && isClose = some false then none
    let nowClose := !isMarked || isClose = some true
    let name ← nameIn? isEscaped (if nowClose then rest else rest.drop 1)
    return (⟨algorithm, size, digits, name⟩, nowClose)
  | [] => none

end CorpusJudge.Digest
