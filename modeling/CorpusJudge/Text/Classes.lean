/-!
# Character classes

The named classes of ASCII characters that patterns refer to, as ranges of characters.
-/

namespace CorpusJudge.Text

/-! ## Ranges of code points

Unicode properties are given as lists of inclusive ranges. -/

/-- The first and the last code point of a range. -/
abbrev CodeRange := Nat × Nat

/-- Whether a character lies in one of the ranges. -/
def inRanges (ranges : List CodeRange) (character : Char) : Bool :=
  ranges.any fun (first, last) => first ≤ character.toNat && character.toNat ≤ last

/-! ## White space

The characters with the Unicode property `White_Space`. -/

/-- Whether a character is white space. -/
def isBlank (character : Char) : Bool :=
  let code := character.toNat
  (9 ≤ code && code ≤ 13) || code = 0x20 || code = 0x85 || code = 0xA0 || code = 0x1680 ||
    (0x2000 ≤ code && code ≤ 0x200A) || code = 0x2028 || code = 0x2029 || code = 0x202F ||
    code = 0x205F || code = 0x3000

/-- A text without the white space at its start. -/
def skipBlanks (text : List Char) : List Char :=
  text.dropWhile isBlank

/-! ## Named classes -/

/-- A range of characters, both ends included. -/
abbrev CharRange := Char × Char

/-- Whether a character lies in one of some ranges. -/
def liesIn (ranges : List CharRange) (character : Char) : Bool :=
  ranges.any fun (first, last) => first ≤ character && character ≤ last

/-- The ranges of a named class of characters. -/
def classRanges? : String → Option (List CharRange)
  | "alpha" => some [('A', 'Z'), ('a', 'z')]
  | "digit" => some [('0', '9')]
  | "alnum" => some [('0', '9'), ('A', 'Z'), ('a', 'z')]
  | "upper" => some [('A', 'Z')]
  | "lower" => some [('a', 'z')]
  | "space" => some [('\t', '\r'), (' ', ' ')]
  | "blank" => some [('\t', '\t'), (' ', ' ')]
  | "punct" => some [('!', '/'), (':', '@'), ('[', '\x60'), ('\x7b', '~')]
  | "print" => some [(' ', '~')]
  | "graph" => some [('!', '~')]
  | "cntrl" => some [('\x00', '\x1f'), ('\x7f', '\x7f')]
  | "xdigit" => some [('0', '9'), ('A', 'F'), ('a', 'f')]
  | _ => none

end CorpusJudge.Text
