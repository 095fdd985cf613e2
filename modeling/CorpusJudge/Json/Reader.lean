import CorpusJudge.Json.Value

/-!
# Reading JSON

A document is one value between white space.  Nesting may be as deep as the document is long.
-/

namespace CorpusJudge.Json

/-- Whether an octet is white space between tokens. -/
def isSpace (octet : Char) : Bool :=
  octet = ' ' || octet = '\n' || octet = '\t' || octet = '\r'

/-- A text without the white space at its start. -/
def skipSpace (text : List Char) : List Char :=
  text.dropWhile isSpace

/-- The rest of a string behind its opening quote: the octets up to the closing quote, in front of
which the reversed octets `done` have been read, and what follows. -/
def readString? (done : List Char) : List Char → Option (List Char × List Char)
  | [] => none
  | '"' :: rest => some (done.reverse, rest)
  | ['\\'] => none
  | '\\' :: letter :: rest =>
    if letter = 'u' then
      if (codeUnit? rest).isSome then readString? (letter :: '\\' :: done) rest else none
    else if (simpleEscape? letter).isSome then readString? (letter :: '\\' :: done) rest
    else none
  | octet :: rest => if octet < ' ' then none else readString? (octet :: done) rest

/-- The digits at the start of a text, at least one, and what follows them. -/
def readDigits? (text : List Char) : Option (List Char × List Char) :=
  match text.span Char.isDigit with
  | ([], _) => none
  | parts => some parts

/-- The whole part of a number: no zero may lead further digits. -/
def readWhole? : List Char → Option (List Char × List Char)
  | '0' :: rest => if (rest.head?.map Char.isDigit).getD false then none else some (['0'], rest)
  | text => readDigits? text

/-- The decimals of a number, if it has any. -/
def readDecimals? : List Char → Option (List Char × List Char)
  | '.' :: rest => (readDigits? rest).map fun (digits, after) => ('.' :: digits, after)
  | text => some ([], text)

/-- The exponent of a number, if it has one. -/
def readExponent? : List Char → Option (List Char × List Char)
  | mark :: rest =>
    if mark = 'e' ∨ mark = 'E' then
      match rest with
      | '+' :: more => (readDigits? more).map fun (digits, after) => (mark :: '+' :: digits, after)
      | '-' :: more => (readDigits? more).map fun (digits, after) => (mark :: '-' :: digits, after)
      | more => (readDigits? more).map fun (digits, after) => (mark :: digits, after)
    else some ([], mark :: rest)
  | [] => some ([], [])

/-- A number without its sign. -/
def readUnsigned? (text : List Char) : Option (List Char × List Char) := do
  let (whole, text) ← readWhole? text
  let (decimals, text) ← readDecimals? text
  let (exponent, text) ← readExponent? text
  return (whole ++ decimals ++ exponent, text)

/-- A number. -/
def readNumber? : List Char → Option (List Char × List Char)
  | '-' :: rest => (readUnsigned? rest).map fun (written, after) => ('-' :: written, after)
  | text => readUnsigned? text

/-- The text behind a word that has to come next. -/
def readWord? (word : String) (text : List Char) : Option (List Char) :=
  if word.toList.isPrefixOf text then some (text.drop word.length) else none

/-- A member's name behind its opening quote, with the colon that follows it. -/
def readName? (text : List Char) : Option (List Char × List Char) := do
  let (name, rest) ← readString? [] text
  match skipSpace rest with
  | ':' :: rest => some (name, rest)
  | _ => none

mutual

/-- A value behind optional white space, and what follows it. -/
def readValue? : Nat → List Char → Option (Value × List Char)
  | 0, _ => none
  | fuel + 1, text =>
    match skipSpace text with
    | 'n' :: rest => (readWord? "ull" rest).map (.null, ·)
    | 't' :: rest => (readWord? "rue" rest).map (.boolean true, ·)
    | 'f' :: rest => (readWord? "alse" rest).map (.boolean false, ·)
    | '"' :: rest => (readString? [] rest).map fun (written, after) => (.string written, after)
    | '[' :: rest =>
      match skipSpace rest with
      | ']' :: after => some (.array [], after)
      | items => (readItems? fuel [] items).map fun (items, after) => (.array items, after)
    | '\x7b' :: rest =>
      match skipSpace rest with
      | '\x7d' :: after => some (.object [], after)
      | members =>
        (readMembers? fuel [] members).map fun (members, after) => (.object members, after)
    | text => (readNumber? text).map fun (written, after) => (.number written, after)

/-- The items of an array up to its closing bracket, behind those already read. -/
def readItems? : Nat → List Value → List Char → Option (List Value × List Char)
  | 0, _, _ => none
  | fuel + 1, done, text => do
    let (item, rest) ← readValue? fuel text
    match skipSpace rest with
    | ',' :: more => readItems? fuel (item :: done) more
    | ']' :: after => some ((item :: done).reverse, after)
    | _ => none

/-- The members of an object up to its closing brace, behind those already read. -/
def readMembers? : Nat → List (List Char × Value) → List Char →
    Option (List (List Char × Value) × List Char)
  | 0, _, _ => none
  | fuel + 1, done, text => do
    let '"' :: rest := skipSpace text | none
    let (name, rest) ← readName? rest
    let (value, rest) ← readValue? fuel rest
    match skipSpace rest with
    | ',' :: more => readMembers? fuel ((name, value) :: done) more
    | '\x7d' :: after => some (((name, value) :: done).reverse, after)
    | _ => none

end

/-- The value that a document holds, if it holds one and nothing else. -/
def read? (document : Bytes) : Option Value := do
  let (value, rest) ← readValue? (2 * document.length + 1) document.octets
  guard (skipSpace rest).isEmpty
  return value

end CorpusJudge.Json
