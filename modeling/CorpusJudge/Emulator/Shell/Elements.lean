import CorpusJudge.Bytes
import CorpusJudge.Text.Integer

/-!
# Elements of variables

A variable of the extended dialect may hold several values: for places in a row, of which some may be
empty, or for keys.
-/

namespace CorpusJudge.Shell

/-- The values of a variable by their places, in ascending order, or by their keys, latest first. -/
inductive Elements where
  | row (items : List (Nat × Octets))
  | table (items : List (Octets × Octets))

namespace Elements

/-- Into which of the drawers of a table a key goes. -/
def drawer (key : Octets) : Nat :=
  let sum := key.foldl (fun (sum : Nat) character =>
    let code := character.toNat
    let wide := if code < 128 then code else 4294967040 + code
    Nat.xor (sum * 16777619 % 4294967296) wide) 2166136261
  sum % 1024

/-- The keys and values in the order in which they are listed. -/
def entries : Elements → List (Octets × Octets)
  | row items => items.map fun (place, value) => ((toString place).toList, value)
  | table items => items.mergeSort fun (left, _) (right, _) => drawer left ≤ drawer right

/-- The first place behind all values. -/
def extent : Elements → Nat
  | row items => (items.getLast?.map fun (place, _) => place + 1).getD 0
  | table _ => 0

/-- Whether values have keys. -/
def isTable : Elements → Bool
  | row _ => false
  | table _ => true

/-- The value for a key, which is a number for values in a row. -/
def get? (elements : Elements) (key : Octets) : Option Octets :=
  match elements with
  | row items => (Integer.natural? 10 key).bind fun place => items.lookup place
  | table items => items.lookup key

/-- Put a value at a place in ascending order. -/
def insert (place : Nat) (value : Octets) : List (Nat × Octets) → List (Nat × Octets)
  | [] => [(place, value)]
  | (other, old) :: rest =>
    if other < place then (other, old) :: insert place value rest
    else if other = place then (place, value) :: rest
    else (place, value) :: (other, old) :: rest

/-- Give a value to a key. -/
def put (elements : Elements) (key value : Octets) : Elements :=
  match elements with
  | row items =>
    let place := (Integer.natural? 10 key).getD 0
    if items.getLast?.all fun (last, _) => last < place then row (items ++ [(place, value)])
    else row (insert place value items)
  | table items =>
    if (items.lookup key).isSome then
      table (items.map fun (other, old) => (other, if other = key then value else old))
    else table ((key, value) :: items)

/-- Take a key and its value away. -/
def drop (elements : Elements) (key : Octets) : Elements :=
  match elements with
  | row items => row (items.filter fun (place, _) => some place ≠ Integer.natural? 10 key)
  | table items => table (items.filter fun (other, _) => other ≠ key)

/-- Values in a row without gaps. -/
def ofList (values : List Octets) : Elements :=
  row (values.zipIdx.map fun (value, place) => (place, value))

end Elements

end CorpusJudge.Shell
