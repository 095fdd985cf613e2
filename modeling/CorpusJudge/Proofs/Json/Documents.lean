import CorpusJudge.Json.Writer
import CorpusJudge.Proofs.Json.Reading
import CorpusJudge.Proofs.Json.Spelling

/-!
# JSON documents

What is written for a text can stand between quotes, and stands for that text.  Whatever is well
formed in itself is laid out by the grammar, so that a document that is written for a value is read back
as that value.
-/

namespace CorpusJudge.Json

variable {octet digit letter : Char} {digits written : Octets} {value code : Nat}

/-! ## Octets -/

/-- A text of octets: it can be part of a document. -/
def IsNarrow (text : Octets) : Prop :=
  ∀ octet ∈ text, octet.toNat < 256

instance (text : Octets) : Decidable (IsNarrow text) :=
  List.decidableBAll (fun octet : Char => octet.toNat < 256) text

theorem IsNarrow.append {one other : Octets} (left : IsNarrow one) (right : IsNarrow other) :
    IsNarrow (one ++ other) :=
  fun octet member => (List.mem_append.mp member).elim (left octet) (right octet)

theorem IsNarrow.cons {octet : Char} {text : Octets} (small : octet.toNat < 256)
    (rest : IsNarrow text) : IsNarrow (octet :: text) :=
  List.forall_mem_cons.mpr ⟨small, rest⟩

/-! ## How an octet is written -/

/-- An octet is written behind a backslash, by number if it is a control character without a letter
of its own, or as itself. -/
inductive IsWritten (octet : Char) : Octets → Prop
  | escaped {letter : Char} : Abbreviates letter octet → IsWritten octet ['\\', letter]
  | numbered {digits : Octets} : octet < ' ' → CodeUnit digits octet.toNat →
      IsWritten octet ('\\' :: 'u' :: digits)
  | plain : octet ≠ '"' → octet ≠ '\\' → ¬octet < ' ' → IsWritten octet [octet]

theorem hexDigit_spec (small : value < 16) : HexDigit (Bytes.hexDigit value) value :=
  hexValue?_eq_some.1 (Bytes.hexValue?_hexDigit small)

theorem codeUnit_hexOfByte (byte : UInt8) :
    CodeUnit ('0' :: '0' :: Bytes.hexOfByte byte) byte.toNat := by
  have bound := byte.toNat_lt
  have zero : HexDigit '0' 0 := by decide
  have unit := CodeUnit.digits zero zero
    (hexDigit_spec (show byte.toNat / 16 < 16 by omega))
    (hexDigit_spec (show byte.toNat % 16 < 16 by omega))
  rwa [Nat.zero_mul, Nat.zero_add, Nat.div_add_mod'] at unit

theorem writtenOctet_isWritten (octet : Char) : IsWritten octet (writtenOctet octet) := by
  unfold writtenOctet
  split_ifs with quote backslash back tab line page carriage control
  · exact .escaped (quote ▸ .quote)
  · exact .escaped (backslash ▸ .backslash)
  · exact .escaped (back ▸ .backspace)
  · exact .escaped (tab ▸ .tab)
  · exact .escaped (line ▸ .lineBreak)
  · exact .escaped (page ▸ .formFeed)
  · exact .escaped (carriage ▸ .carriageReturn)
  · have small : octet.toNat < 32 := control
    have unit := codeUnit_hexOfByte octet.toNat.toUInt8
    rw [Nat.toUInt8_eq, UInt8.toNat_ofNat_of_lt' (show octet.toNat < 256 by omega)] at unit
    exact .numbered control unit
  · exact .plain quote backslash control

/-! ## Standing between quotes -/

theorem IsWritten.isBody (isWritten : IsWritten octet written) {rest : Octets} (body : IsBody rest) :
    IsBody (written ++ rest) := by
  cases isWritten with
  | escaped stands => exact .escape stands body
  | numbered _ unit => exact .unit unit body
  | plain noQuote noBackslash noControl => exact .plain noQuote noBackslash noControl body

theorem writtenText_isBody (text : String) : IsBody (writtenText text) := by
  rw [writtenText]
  induction Bytes.octets (Bytes.ofString text) with
  | nil => exact .nil
  | cons octet octets ih => exact (writtenOctet_isWritten octet).isBody ih

/-! ## Standing for a text -/

theorem IsWritten.resolves (isWritten : IsWritten octet written) {rest : Octets} {bytes : Bytes}
    (resolves : Resolves rest bytes) :
    Resolves (written ++ rest) (octet.toNat.toUInt8 :: bytes) := by
  have escaped {escape : Octets} (ascii : octet.toNat < 0x80) (escapes : Escapes escape octet) :
      Resolves (escape ++ rest) (octet.toNat.toUInt8 :: bytes) := by
    have whole := Resolves.escape escapes resolves
    rw [← Bytes.ofOctets_octets (String.utf8EncodeChar octet), octets_encode_ascii ascii] at whole
    exact whole
  cases isWritten with
  | escaped stands => exact escaped stands.ascii.2 (.letter stands)
  | numbered control unit =>
      have small : octet.toNat < 32 := control
      exact escaped (by omega) (.number unit)
  | plain _ noBackslash _ => exact .plain noBackslash resolves

/-- A written text stands for itself. -/
@[simp] theorem textOf?_writtenText (text : String) : textOf? (writtenText text) = some text := by
  have resolves (octets : Octets) :
      Resolves (octets.flatMap writtenOctet) (Bytes.ofOctets octets) := by
    induction octets with
    | nil => exact .nil
    | cons octet octets ih => exact (writtenOctet_isWritten octet).resolves ih
  have whole := resolves (Bytes.octets (Bytes.ofString text))
  rw [Bytes.ofOctets_octets] at whole
  exact textOf?_eq_some_iff_resolves.2 whole

/-! ## Octets of texts -/

theorem Abbreviates.narrow (stands : Abbreviates letter octet) : letter.toNat < 256 := by
  cases stands <;> decide

theorem HexDigit.narrow (hex : HexDigit digit value) : digit.toNat < 256 := by
  obtain ⟨small, rfl | rfl⟩ := hex
  · decide +revert
  · decide +revert

theorem CodeUnit.narrow (unit : CodeUnit digits code) : IsNarrow digits := by
  cases unit with
  | digits first second third fourth =>
      exact .cons first.narrow (.cons second.narrow (.cons third.narrow (.cons fourth.narrow nofun)))

theorem IsWritten.narrow (isWritten : IsWritten octet written) (small : octet.toNat < 256) :
    IsNarrow written := by
  cases isWritten with
  | escaped stands => exact .cons (by decide) (.cons stands.narrow nofun)
  | numbered _ unit => exact .cons (by decide) (.cons (by decide) unit.narrow)
  | plain => exact .cons small nofun

/-- A written text has octets only. -/
theorem writtenText_isNarrow (text : String) : IsNarrow (writtenText text) := by
  intro octet member
  obtain ⟨source, there, member⟩ := List.mem_flatMap.mp member
  exact (writtenOctet_isWritten source).narrow (Bytes.octets_narrow there) octet member

/-! ## What can be written -/

/-- The octets can stand between quotes in a document. -/
def IsQuotable (written : Octets) : Prop :=
  IsBody written ∧ IsNarrow written

/-- What is read as a string up to the last quote can stand between quotes. -/
theorem isQuotable_of_readString? (read : readString? [] (written ++ ['"']) = some (written, []))
    (narrow : IsNarrow written) : IsQuotable written := by
  obtain ⟨body, isBody, rfl, -⟩ := isBody_of_readString? read
  exact ⟨isBody, narrow⟩

theorem writtenText_isQuotable (text : String) : IsQuotable (writtenText text) :=
  ⟨writtenText_isBody text, writtenText_isNarrow text⟩

/-- Numbers, strings and names are well formed, throughout the value. -/
inductive IsWritable : Value → Prop
  | null : IsWritable .null
  | boolean (value : Bool) : IsWritable (.boolean value)
  | number {written : Octets} : IsNumber written → IsNarrow written → IsWritable (.number written)
  | string {written : Octets} : IsQuotable written → IsWritable (.string written)
  | array {items : List Value} : (∀ item ∈ items, IsWritable item) → IsWritable (.array items)
  | object {members : List (Octets × Value)} :
      (∀ member ∈ members, IsQuotable member.1) →
      (∀ member ∈ members, IsWritable member.2) → IsWritable (.object members)

theorem IsWritable.ofText (text : String) : IsWritable (.ofText text) :=
  .string (writtenText_isQuotable text)

theorem IsWritable.ofMembers {members : List (String × Value)}
    (writable : ∀ member ∈ members, IsWritable member.2) : IsWritable (.ofMembers members) := by
  refine .object (fun written mapped => ?_) fun written mapped => ?_
  · obtain ⟨member, -, rfl⟩ := List.mem_map.mp mapped
    exact writtenText_isQuotable member.1
  · obtain ⟨member, there, rfl⟩ := List.mem_map.mp mapped
    exact writable member there

/-- Only the number zero is written with a zero in front. -/
theorem toDigits_head {number : Nat} (positive : 0 < number) :
    (Nat.toDigits 10 number).head? ≠ some '0' := by
  have digits : ∀ digit < 10, 0 < digit → Nat.digitChar digit ≠ '0' := by decide
  induction number using Nat.strongRecOn with
  | ind number ih =>
      by_cases single : number < 10
      · rw [Nat.toDigits_of_lt_base single]
        simpa using digits number single positive
      · rw [Nat.toDigits_of_base_le (by decide) (by omega),
          List.head?_append_of_ne_nil _ Nat.toDigits_ne_nil]
        exact ih (number / 10) (by omega) (by omega)

theorem toDigits_isDigit {number : Nat} {digit : Char} (member : digit ∈ Nat.toDigits 10 number) :
    digit.isDigit = true :=
  Nat.isDigit_of_mem_toDigits (by decide) (by decide) member

theorem isNumber_toDigits (number : Nat) : IsNumber (Nat.toDigits 10 number) := by
  have whole : IsWhole (Nat.toDigits 10 number) := by
    rcases Nat.eq_zero_or_pos number with rfl | positive
    · exact .zero
    · exact .positive ⟨Nat.toDigits_ne_nil, fun _ => toDigits_isDigit⟩ (toDigits_head positive)
  have parts := IsUnsigned.parts whole .absent .absent
  rw [List.append_nil, List.append_nil] at parts
  exact .positive parts

theorem IsWritable.ofNat (number : Nat) : IsWritable (.ofNat number) := by
  refine .number (isNumber_toDigits number) fun octet member => ?_
  have digit := toDigits_isDigit member
  simp only [Char.isDigit, Bool.and_eq_true, decide_eq_true_eq] at digit
  exact Nat.lt_of_le_of_lt (show octet.toNat ≤ 57 from digit.2) (by decide)

/-! ## Lines -/

theorem isBlank_lineBreak (level : Nat) : IsBlank (lineBreak level) := by
  intro octet member
  rcases List.mem_cons.mp member with rfl | member
  · exact .inr (.inl rfl)
  · exact .inl (List.eq_of_mem_replicate member)

section

attribute [local simp] layout layoutItems layoutMembers

theorem layout_array (level : Nat) (item : Value) (rest : List Value) :
    layout level (.array (item :: rest)) =
      '[' :: layoutItems (level + 1) (item :: rest) ++ lineBreak level ++ [']'] := by
  simp

theorem layout_object (level : Nat) (member : Octets × Value) (rest : List (Octets × Value)) :
    layout level (.object (member :: rest)) =
      '\x7b' :: layoutMembers (level + 1) (member :: rest) ++ lineBreak level ++ ['\x7d'] := by
  simp

theorem layoutItems_cons (level : Nat) (item second : Value) (more : List Value) :
    layoutItems level (item :: second :: more) =
      lineBreak level ++ layout level item ++ ',' :: layoutItems level (second :: more) := by
  simp

theorem layoutMembers_cons (level : Nat) (name : Octets) (value : Value)
    (second : Octets × Value) (more : List (Octets × Value)) :
    layoutMembers level ((name, value) :: second :: more) =
      lineBreak level ++ '"' :: name ++ '"' :: ':' :: ' ' :: layout level value ++
        ',' :: layoutMembers level (second :: more) := by
  simp

end

/-! ## Values -/

/-- A laid out item stands behind a line break, and perhaps in front of another one. -/
theorem Writes.onLine {value : Value} {text after : Octets} (writes : Writes (.value value) text)
    (level : Nat) (isAfter : IsBlank after) :
    Writes (.padded value) (lineBreak level ++ text ++ after) :=
  .padded (isBlank_lineBreak level) writes isAfter

theorem writes_layoutItems (level closing : Nat) {items : List Value} (nonempty : items ≠ [])
    (writes : ∀ item ∈ items, Writes (.value item) (layout level item)) :
    Writes (.items items) (layoutItems level items ++ lineBreak closing) := by
  induction items with
  | nil => exact absurd rfl nonempty
  | cons item others ih =>
      obtain ⟨first, writes⟩ := List.forall_mem_cons.mp writes
      cases others with
      | nil =>
          rw [layoutItems]
          exact .lastItem (first.onLine level (isBlank_lineBreak closing))
      | cons second more =>
          have next := Writes.nextItem (first.onLine level isBlank_nil)
            (ih (List.cons_ne_nil second more) writes)
          rw [List.append_nil] at next
          rw [layoutItems_cons, List.append_assoc]
          exact next

/-- A laid out member stands behind a line break, and perhaps in front of another one. -/
theorem Writes.memberOnLine {name : Octets} {value : Value} {text after : Octets} (named : IsBody name)
    (writes : Writes (.value value) text) (level : Nat) (isAfter : IsBlank after) :
    Writes (.member name value)
      (lineBreak level ++ '"' :: name ++ '"' :: ':' :: ' ' :: text ++ after) := by
  have space : IsBlank [' '] := List.forall_mem_singleton.mpr (.inl rfl)
  have member := Writes.member (isBlank_lineBreak level) named isBlank_nil
    (.padded space writes isAfter)
  simpa using member

theorem writes_layoutMembers (level closing : Nat) {members : List (Octets × Value)}
    (nonempty : members ≠ []) (named : ∀ member ∈ members, IsBody member.1)
    (writes : ∀ member ∈ members, Writes (.value member.2) (layout level member.2)) :
    Writes (.members members) (layoutMembers level members ++ lineBreak closing) := by
  induction members with
  | nil => exact absurd rfl nonempty
  | cons member others ih =>
      obtain ⟨firstName, named⟩ := List.forall_mem_cons.mp named
      obtain ⟨first, writes⟩ := List.forall_mem_cons.mp writes
      cases others with
      | nil =>
          rw [layoutMembers]
          exact .lastMember (.memberOnLine firstName first level (isBlank_lineBreak closing))
      | cons second more =>
          have next := Writes.nextMember (.memberOnLine firstName first level isBlank_nil)
            (ih (List.cons_ne_nil second more) named writes)
          rw [List.append_nil] at next
          rw [layoutMembers_cons, List.append_assoc]
          exact next

/-- A value that can be written is written by its lines. -/
theorem IsWritable.writes {value : Value} (writable : IsWritable value) (level : Nat) :
    Writes (.value value) (layout level value) := by
  induction writable generalizing level with
  | null =>
      rw [layout]
      exact .wordNull
  | boolean value =>
      cases value with
      | false =>
          rw [layout]
          exact .wordFalse
      | true =>
          rw [layout]
          exact .wordTrue
  | number number =>
      rw [layout]
      exact .number number
  | string quotable =>
      rw [layout]
      exact .string quotable.1
  | @array items _ writes =>
      cases items with
      | nil =>
          rw [layout]
          exact .noItems isBlank_nil
      | cons item others =>
          rw [layout_array]
          exact .array (writes_layoutItems (level + 1) level (List.cons_ne_nil item others)
            fun item member => writes item member (level + 1))
  | @object members named _ writes =>
      cases members with
      | nil =>
          rw [layout]
          exact .noMembers isBlank_nil
      | cons member others =>
          rw [layout_object]
          exact .object (writes_layoutMembers (level + 1) level (List.cons_ne_nil member others)
            (fun member there => (named member there).1)
            fun member there => writes member there (level + 1))

/-! ## Octets of values -/

theorem isNarrow_lineBreak (level : Nat) : IsNarrow (lineBreak level) := by
  refine .cons (by decide) fun octet member => ?_
  obtain rfl := List.eq_of_mem_replicate member
  decide

theorem isNarrow_layoutItems (level : Nat) {items : List Value}
    (narrow : ∀ item ∈ items, IsNarrow (layout level item)) :
    IsNarrow (layoutItems level items) := by
  induction items with
  | nil =>
      rw [layoutItems]
      exact fun octet member => absurd member List.not_mem_nil
  | cons item others ih =>
      have first := (isNarrow_lineBreak level).append (narrow item List.mem_cons_self)
      cases others with
      | nil =>
          rw [layoutItems]
          exact first
      | cons second more =>
          rw [layoutItems_cons]
          exact first.append (.cons (by decide)
            (ih fun other member => narrow other (List.mem_cons_of_mem _ member)))

theorem isNarrow_member (level : Nat) {name : Octets} {value : Value} (named : IsNarrow name)
    (narrow : IsNarrow (layout level value)) :
    IsNarrow (lineBreak level ++ '"' :: name ++ '"' :: ':' :: ' ' :: layout level value) := by
  refine ((isNarrow_lineBreak level).append (.cons ?_ named)).append
    (.cons ?_ (.cons ?_ (.cons ?_ narrow)))
  all_goals decide

theorem isNarrow_layoutMembers (level : Nat) {members : List (Octets × Value)}
    (named : ∀ member ∈ members, IsNarrow member.1)
    (narrow : ∀ member ∈ members, IsNarrow (layout level member.2)) :
    IsNarrow (layoutMembers level members) := by
  induction members with
  | nil =>
      rw [layoutMembers]
      exact fun octet member => absurd member List.not_mem_nil
  | cons member others ih =>
      obtain ⟨name, value⟩ := member
      have first := isNarrow_member level (named _ List.mem_cons_self)
        (narrow (name, value) List.mem_cons_self)
      cases others with
      | nil =>
          rw [layoutMembers]
          exact first
      | cons second more =>
          rw [layoutMembers_cons]
          exact first.append (.cons (by decide)
            (ih (fun other member => named other (List.mem_cons_of_mem _ member))
              fun other member => narrow other (List.mem_cons_of_mem _ member)))

/-- Only octets are laid out. -/
theorem IsWritable.isNarrow {value : Value} (writable : IsWritable value) (level : Nat) :
    IsNarrow (layout level value) := by
  induction writable generalizing level with
  | null =>
      rw [layout]
      decide
  | boolean value =>
      cases value <;> rw [layout] <;> decide
  | number _ narrow =>
      rw [layout]
      exact narrow
  | string quotable =>
      rw [layout]
      exact .cons (by decide) (.append quotable.2 (by decide))
  | @array items _ narrow =>
      cases items with
      | nil =>
          rw [layout]
          decide
      | cons item others =>
          rw [layout_array]
          have inside := isNarrow_layoutItems (level + 1) fun item member =>
            narrow item member (level + 1)
          refine ((IsNarrow.cons ?_ inside).append (isNarrow_lineBreak level)).append ?_
          · decide
          · decide
  | @object members named _ narrow =>
      cases members with
      | nil =>
          rw [layout]
          decide
      | cons member others =>
          rw [layout_object]
          have inside := isNarrow_layoutMembers (level + 1)
            (fun member there => (named member there).2)
            fun member there => narrow member there (level + 1)
          refine ((IsNarrow.cons ?_ inside).append (isNarrow_lineBreak level)).append ?_
          · decide
          · decide

/-- The document that is written for a value holds it. -/
theorem holds_document {value : Value} (writable : IsWritable value) :
    Holds (document value) value := by
  have octets : (document value).octets = layout 0 value :=
    Bytes.octets_ofOctets (writable.isNarrow 0)
  have writes := Writes.padded isBlank_nil (writable.writes 0) isBlank_nil
  rw [List.nil_append, List.append_nil, ← octets] at writes
  exact writes

/-- The document that is written for a value is read back as that value. -/
theorem read?_document {value : Value} (writable : IsWritable value) :
    read? (document value) = some value :=
  read?_eq_some.2 (holds_document writable)

end CorpusJudge.Json
