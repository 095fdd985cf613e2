import CorpusJudge.Proofs.Json.Documents
import CorpusJudge.Proofs.Text.Integer
import Mathlib.Data.List.Forall2

/-!
# Schemas

A schema says which JSON values are acceptable.  Objects have exactly the properties that their
schema names.
-/

namespace CorpusJudge.Json

/-- A condition on a value. -/
abbrev Schema := Value → Prop

namespace Schema

/-- A string for a text with some property. -/
def text (holds : String → Prop) : Schema := fun value =>
  ∃ written text, value = .string written ∧ textOf? written = some text ∧ holds text

/-- Any string. -/
def anyText : Schema := text fun _ => True

/-- One of some strings. -/
def oneOf (texts : List String) : Schema := text (· ∈ texts)

/-- The string for one text. -/
def constant (expected : String) : Schema := oneOf [expected]

/-- Either `null` or what another schema says. -/
def nullable (schema : Schema) : Schema := fun value => value = .null ∨ schema value

/-- A truth value. -/
def boolean : Schema := fun value => ∃ truth, value = .boolean truth

/-- A whole number that is not less than another. -/
def integer (least : Nat) : Schema := fun value =>
  ∃ written number, value = .number written ∧ Integer.natural? 10 written = some number ∧
    least ≤ number

/-- Any value at all. -/
def anything : Schema := fun _ => True

/-- The numeral of one number. -/
def number (expected : Nat) : Schema := (· = .number (Nat.toDigits 10 expected))

/-- One truth value. -/
def truth (expected : Bool) : Schema := (· = .boolean expected)

/-- The string for a text, or `null` where there is none. -/
def constantOrNull : Option String → Schema
  | some expected => constant expected
  | none => (· = .null)

/-- An array with an item for each of some schemas, in their order. -/
def items (schemas : List Schema) : Schema := fun value =>
  ∃ values, value = .array values ∧
    List.Forall₂ (fun schema item => schema item) schemas values

/-- An array whose items are all acceptable. -/
def array (items : Schema) : Schema := fun value =>
  ∃ values, value = .array values ∧ ∀ item ∈ values, items item

/-- An object that has every property once, no other one, and an acceptable value for each. -/
def object (properties : List (String × Schema)) : Schema := fun value =>
  ∃ members, value = .object members ∧
    (members.map fun member => textOf? member.1).Perm
      (properties.map fun property => some property.1) ∧
    ∀ member ∈ members, ∀ property ∈ properties,
      textOf? member.1 = some property.1 → property.2 member.2

/-! ## Values that are written -/

theorem text_ofText {holds : String → Prop} {content : String} (has : holds content) :
    text holds (.ofText content) :=
  ⟨_, content, rfl, textOf?_writtenText content, has⟩

theorem anyText_ofText (text : String) : anyText (.ofText text) :=
  text_ofText trivial

theorem constant_ofText (text : String) : constant text (.ofText text) :=
  text_ofText (List.mem_singleton_self text)

theorem boolean_boolean (truth : Bool) : boolean (.boolean truth) :=
  ⟨truth, rfl⟩

theorem integer_ofNat {least number : Nat} (enough : least ≤ number) :
    integer least (.ofNat number) :=
  ⟨_, number, rfl,
    Integer.natural?_ten.2
      ⟨Integer.isNumeral_toDigits number, (Integer.numeral_toDigits number).symm⟩,
    enough⟩

theorem array_map {α : Type} {items : List α} {schema : Schema} {toJson : α → Value}
    (acceptable : ∀ item ∈ items, schema (toJson item)) :
    array schema (.array (items.map toJson)) := by
  refine ⟨_, rfl, fun value member => ?_⟩
  obtain ⟨item, there, rfl⟩ := List.mem_map.mp member
  exact acceptable item there

theorem items_map {α β : Type} {schemas : α → Schema} {toJson : β → Value} {wanted : List α}
    {given : List β} (fits : List.Forall₂ (fun one other => schemas one (toJson other)) wanted given) :
    items (wanted.map schemas) (.array (given.map toJson)) :=
  ⟨_, rfl, List.forall₂_map_left_iff.mpr (List.forall₂_map_right_iff.mpr fits)⟩

section

variable {properties : List (String × Schema)} {members : List (String × Value)}

/-- The members have the names of the properties in order, and acceptable values. -/
abbrev Fits (properties : List (String × Schema)) (members : List (String × Value)) : Prop :=
  List.Forall₂ (fun property member => property.1 = member.1 ∧ property.2 member.2)
    properties members

theorem Fits.names (fits : Fits properties members) :
    properties.map Prod.fst = members.map Prod.fst := by
  induction fits with
  | nil => rfl
  | cons same _ ih => rw [List.map_cons, List.map_cons, same.1, ih]

/-- Names are distinct, so the value of a member is acceptable to any property of that name. -/
theorem Fits.acceptable (fits : Fits properties members)
    (distinct : (properties.map Prod.fst).Nodup) {property : String × Schema}
    (listed : property ∈ properties) {member : String × Value} (there : member ∈ members)
    (same : member.1 = property.1) : property.2 member.2 := by
  induction fits with
  | nil => cases listed
  | @cons first head others rest now fits ih =>
      obtain ⟨new, distinct⟩ := List.nodup_cons.mp distinct
      have names := Fits.names fits
      rcases List.mem_cons.mp listed with rfl | listed
      · rcases List.mem_cons.mp there with rfl | there
        · exact now.2
        · exact absurd (names ▸ List.mem_map.mpr ⟨member, there, same⟩) new
      · rcases List.mem_cons.mp there with rfl | there
        · rw [now.1, same] at new
          exact absurd (List.mem_map_of_mem listed) new
        · exact ih distinct listed there

/-- An object is acceptable if it has the properties in order. -/
theorem object_ofMembers (distinct : (properties.map Prod.fst).Nodup)
    (fits : Fits properties members) : object properties (.ofMembers members) := by
  refine ⟨_, rfl, ?_, ?_⟩
  · have names := congrArg (List.map some) fits.names
    simp only [List.map_map, Function.comp_def] at names ⊢
    simp only [textOf?_writtenText, names]
    exact .refl _
  · intro written mapped property listed same
    obtain ⟨⟨name, value⟩, there, rfl⟩ := List.mem_map.mp mapped
    have named : (name, value).1 = property.1 := by simpa using same
    exact fits.acceptable distinct listed there named

end

end Schema

end CorpusJudge.Json
