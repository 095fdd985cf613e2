import CorpusJudge.Emulator.Tool.Call

/-!
# Expressions in words

Each word is an operator or an operand.  Operators of six strengths stand between operands; four
more stand in front of them.
-/

namespace CorpusJudge

namespace WordExpression

/-- Reading words: those that are left, and the one before them. -/
abbrev Reading (α : Type) := StateT (List Octets × Octets) (Except Octets) α

/-- The operators of a strength, the weakest first. -/
def operators : Nat → List String
  | 0 => ["|"]
  | 1 => ["&"]
  | 2 => ["<", "<=", "=", "==", "!=", ">=", ">"]
  | 3 => ["+", "-"]
  | 4 => ["*", "/", "%"]
  | 5 => [":"]
  | _ => []

/-- The number that a text writes. -/
def number? (text : Octets) : Option Int :=
  if text.head? = some '+' then none else Integer.signed? 10 text

/-- Whether a value is nothing or zero. -/
def isNull (value : Octets) : Bool :=
  value.isEmpty || number? value = some 0

/-- The value of a whole number. -/
def ofInt (value : Int) : Octets := (toString value).toList

/-- The number that an operand has to be. -/
def asNumber (text : Octets) : Except Octets Int :=
  match number? text with
  | some value => .ok value
  | none => .error "non-integer argument".toList

/-- A text compared with a pattern from its start: what the first group holds, or how much matches. -/
def compared (text pattern : Octets) : Except Octets Octets := do
  match Regex.ofText ⟨false, false⟩ pattern with
  | .error fault => throw fault.message.toList
  | .ok regex =>
    let matching := regex.matchingOf false false text
    let places := regex.ends matching (.atStart text)
    match places with
    | [] => return if 0 < regex.groupCount then [] else ['0']
    | first :: others =>
      let finish := others.foldl (fun best next =>
        if best.behind < next.behind then next else best) first
      if 0 < regex.groupCount then
        let found := Regex.Match.between text (.atStart text) finish
        return (found.groups.lookup 1).getD []
      else return ofInt finish.behind

/-- What an operator makes of two values. -/
def combined (operator : String) (left right : Octets) : Except Octets Octets := do
  let truth (holds : Bool) : Octets := if holds then ['1'] else ['0']
  let compare (texts : Bool) (numbers : Int → Int → Bool) : Octets :=
    match number? left, number? right with
    | some first, some second => truth (numbers first second)
    | _, _ => truth texts
  match operator with
  | "|" => return if !isNull left then left else if isNull right then ['0'] else right
  | "&" => return if isNull left || isNull right then ['0'] else left
  | "<" => return compare (!Octets.atMost right left) fun first second => first < second
  | "<=" => return compare (Octets.atMost left right) fun first second => first ≤ second
  | "=" => return compare (left = right) fun first second => first = second
  | "==" => return compare (left = right) fun first second => first = second
  | "!=" => return compare (left ≠ right) fun first second => first ≠ second
  | ">=" => return compare (Octets.atMost right left) fun first second => second ≤ first
  | ">" => return compare (!Octets.atMost left right) fun first second => second < first
  | "+" => return ofInt ((← asNumber left) + (← asNumber right))
  | "-" => return ofInt ((← asNumber left) - (← asNumber right))
  | "*" => return ofInt ((← asNumber left) * (← asNumber right))
  | ":" => compared left right
  | _ =>
    let first ← asNumber left
    let second ← asNumber right
    if second = 0 then throw "division by zero".toList
    return ofInt (if operator = "/" then first.tdiv second else first.tmod second)

/-- The next word, which has to be there. -/
def next : Reading Octets := do
  match ← get with
  | ([], before) => throw ("syntax error: missing argument after ".toList ++ quoted before)
  | (word :: rest, _) =>
    set (rest, word)
    return word

/-- Part of a text, by its place and length. -/
def part (text place length : Octets) : Octets :=
  match number? place, number? length with
  | some place, some length =>
    if 0 < place && 0 < length then (text.drop (place - 1).toNat).take length.toNat else []
  | _, _ => []

/-- The place of the first character of a text that is one of some others. -/
def placeOf (text wanted : Octets) : Nat :=
  match text.findIdx? wanted.contains with
  | some index => index + 1
  | none => 0

mutual

/-- An operand of a strength with the operators of that strength behind it. -/
def level (evaluates : Bool) : Nat → Nat → Reading Octets
  | 0, _ => throw "syntax error".toList
  | fuel + 1, strength => do
    if strength = 6 then operand evaluates fuel
    else
      let left ← level evaluates fuel (strength + 1)
      more evaluates fuel strength left
termination_by structural fuel => fuel

/-- The operators of a strength behind a value, with their operands. -/
def more (evaluates : Bool) : Nat → Nat → Octets → Reading Octets
  | 0, _, left => return left
  | fuel + 1, strength, left => do
    match ← get with
    | ([], _) => return left
    | (word :: rest, _) =>
      let operator := String.ofList word
      if (operators strength).contains operator then
        set (rest, word)
        let needed := evaluates &&
          !(operator = "|" && !isNull left) && !(operator = "&" && isNull left)
        let right ← level needed fuel (strength + 1)
        let value ← if evaluates then liftM (combined operator left right) else pure left
        more evaluates fuel strength value
      else return left
termination_by structural fuel => fuel

/-- An operand, perhaps with an operator in front of it. -/
def operand (evaluates : Bool) : Nat → Reading Octets
  | 0 => throw "syntax error".toList
  | fuel + 1 => do
    let word ← next
    match String.ofList word with
    | "+" => next
    | "(" =>
      let value ← level evaluates fuel 0
      match ← get with
      | ([], before) => throw ("syntax error: expecting ')' after ".toList ++ quoted before)
      | ([')'] :: rest, _) =>
        set (rest, [')'])
        return value
      | (other :: _, _) =>
        throw ("syntax error: expecting ')' instead of ".toList ++ quoted other)
    | ")" => throw "syntax error: unexpected ')'".toList
    | "length" => return ofInt (← operand evaluates fuel).length
    | "match" =>
      let text ← operand evaluates fuel
      let pattern ← operand evaluates fuel
      if evaluates then liftM (compared text pattern) else return []
    | "index" =>
      let text ← operand evaluates fuel
      return ofInt (placeOf text (← operand evaluates fuel))
    | "substr" =>
      let text ← operand evaluates fuel
      let place ← operand evaluates fuel
      return part text place (← operand evaluates fuel)
    | _ => return word
termination_by structural fuel => fuel

end

/-- The value of an expression. -/
def value (words : List Octets) : Except Octets Octets := do
  let (result, rest, _) ← (level true (8 * words.length + 16) 0).run (words, [])
  match rest with
  | [] => return result
  | extra :: _ => throw ("syntax error: unexpected argument ".toList ++ quoted extra)

end WordExpression

namespace Call

/-- The value of an expression, and by the status whether it is nothing or zero. -/
def expression (call : Call) : Tool :=
  match call.arguments with
  | [] => call.misused 2 "missing operand".toList
  | words =>
    match WordExpression.value (if words.head? = some "--".toList then words.tail else words) with
    | .error complaint => call.refuse 2 complaint
    | .ok result => call.say (result ++ ['\n']) (if WordExpression.isNull result then 1 else 0)

end Call

end CorpusJudge
