import CorpusJudge.Problem.Metadata
import CorpusJudge.Proofs.Entries
import CorpusJudge.Proofs.Json.Documents

/-!
# Reading problem metadata

An object says what the input and the output of a problem are, however their names and texts are spelled
and whatever else it holds.  Only a name that spells no text, a member that stands twice or that is
neither a string nor null, or a document that is not JSON keeps it from being read.
-/

namespace CorpusJudge.Metadata

open Json

variable {document : Bytes} {members others own foreign : List (Octets × Value)}
variable {name text : String} {value : Value}

/-! ## What an object says -/

/-- One member has the name and the value, and no other one has the name. -/
def Once (members : List (Octets × Value)) (name : String) (value : Value) : Prop :=
  ∃ before key after, members = before ++ (key, value) :: after ∧ Spells name.toList key ∧
    ∀ member ∈ before ++ after, ¬ Spells name.toList member.1

/-- The members say the text under the name, spelled in any way, or say nothing, which counts as the
empty text. -/
inductive Carries (members : List (Octets × Value)) (name : String) : String → Prop where
  | absent : (∀ member ∈ members, ¬ Spells name.toList member.1) → Carries members name ""
  | null : Once members name .null → Carries members name ""
  | text {written : Octets} {text : String} : Once members name (.string written) →
      Spells text.toList written → Carries members name text

/-- Two members have the name. -/
def Repeats (members : List (Octets × Value)) (name : String) : Prop :=
  ∃ one other, [one, other].Sublist members ∧ Spells name.toList one.1 ∧ Spells name.toList other.1

/-! ## Members by name -/

/-- The strings that names and values of the members are written as consist of octets. -/
def AreNarrow (members : List (Octets × Value)) : Prop :=
  ∀ member ∈ members, (∀ octet ∈ member.1, octet.toNat < 256) ∧
    ∀ written, member.2 = .string written → ∀ octet ∈ written, octet.toNat < 256

theorem Holds.areNarrow (holds : Holds document (.object members)) : AreNarrow members := by
  rintro ⟨key, value⟩ member
  refine ⟨holds.narrow (.object (.member member .name)), ?_⟩
  rintro written rfl
  exact holds.narrow (.object (.member member (.memberValue .string)))

theorem AreNarrow.textOf?_eq_some (narrow : AreNarrow members) {member : Octets × Value}
    (listed : member ∈ members) : textOf? member.1 = some name ↔ Spells name.toList member.1 :=
  Json.textOf?_eq_some (narrow member listed).1

theorem once_iff (narrow : AreNarrow members) :
    Once members name value ↔ Entries.givenTo textOf? members name = [value] := by
  rw [Entries.givenTo_eq_singleton]
  refine exists_congr fun before => exists_congr fun key => exists_congr fun after =>
    and_congr_right ?_
  rintro rfl
  have others {member : Octets × Value} (listed : member ∈ before ++ after) :
      ¬ Spells name.toList member.1 ↔ textOf? member.1 ≠ some name := by
    have inside : member ∈ before ++ (key, value) :: after := by
      rcases List.mem_append.mp listed with listed | listed
      · exact List.mem_append_left _ listed
      · exact List.mem_append_right _ (.tail _ listed)
    exact (not_congr (narrow.textOf?_eq_some inside)).symm
  have own : (key, value) ∈ before ++ (key, value) :: after :=
    List.mem_append_right _ (.head _)
  rw [← narrow.textOf?_eq_some own]
  exact and_congr_right fun _ => forall₂_congr fun _ listed => others listed

theorem memberText?_eq_some : memberText? value = some text ↔
    value = .null ∧ text = "" ∨ ∃ written, value = .string written ∧ textOf? written = some text := by
  cases value <;> simp [memberText?, eq_comm]

/-- What is said under a name is told by what is given to it: nothing, or one text or null. -/
theorem carries_iff (narrow : AreNarrow members) : Carries members name text ↔
    Entries.givenTo textOf? members name = [] ∧ text = "" ∨
      ∃ value, Entries.givenTo textOf? members name = [value] ∧ memberText? value = some text := by
  have absent : (∀ member ∈ members, ¬ Spells name.toList member.1) ↔
      Entries.givenTo textOf? members name = [] := by
    rw [Entries.givenTo_eq_nil]
    exact forall₂_congr fun _ listed => (not_congr (narrow.textOf?_eq_some listed)).symm
  have spells {written : Octets} {text : String}
      (given : Entries.givenTo textOf? members name = [.string written]) :
      textOf? written = some text ↔ Spells text.toList written := by
    obtain ⟨member, listed, -, string⟩ := Entries.mem_givenTo.1 (given ▸ List.mem_singleton_self _)
    exact Json.textOf?_eq_some ((narrow member listed).2 written string)
  constructor
  · rintro (none | once | ⟨once, spelled⟩)
    · exact .inl ⟨absent.mp none, rfl⟩
    · exact .inr ⟨.null, (once_iff narrow).mp once, rfl⟩
    · have given := (once_iff narrow).mp once
      exact .inr ⟨_, given, (spells given).mpr spelled⟩
  · rintro (⟨none, rfl⟩ | ⟨value, given, read⟩)
    · exact .absent (absent.mpr none)
    · rcases memberText?_eq_some.1 read with ⟨rfl, rfl⟩ | ⟨written, rfl, read⟩
      · exact .null ((once_iff narrow).mpr given)
      · exact .text ((once_iff narrow).mpr given) ((spells given).mp read)

/-! ## What is read -/

theorem uniqueText?_eq_some {under : List (String × Value)} (named : named? members = some under)
    (narrow : AreNarrow members) :
    uniqueText? under name = some text ↔ Carries members name text := by
  have given := Entries.map_filter named name
  rw [carries_iff narrow, ← given, uniqueText?]
  generalize under.filter (·.1 = name) = listed
  match listed with
  | [] =>
      constructor
      · rintro ⟨⟩
        exact .inl ⟨rfl, rfl⟩
      · rintro (⟨-, rfl⟩ | ⟨_, none, -⟩)
        · rfl
        · cases none
  | [(_, value)] => simp
  | _ :: _ :: _ => simp

/-- An object is read exactly if its names are texts and it says what input and output are. -/
theorem ofDocument?_eq_some (holds : Holds document (.object members)) {input output : String} :
    ofDocument? document = some ⟨input, output⟩ ↔
      (∀ member ∈ members, ∃ name : String, Spells name.toList member.1) ∧
        Carries members "input" input ∧ Carries members "output" output := by
  have narrow := Holds.areNarrow holds
  have spelled : (∀ member ∈ members, ∃ name : String, Spells name.toList member.1) ↔
      ∃ under, named? members = some under := by
    refine Iff.trans ?_ Entries.exists_named?_iff.symm
    exact forall₂_congr fun _ listed => exists_congr fun _ => (narrow.textOf?_eq_some listed).symm
  rw [ofDocument?, read?_eq_some.2 holds, Option.bind_some, spelled]
  simp only [ofValue?, Option.bind_eq_bind, Option.bind_eq_some_iff, Option.pure_def,
    Option.some.injEq, Metadata.mk.injEq]
  constructor
  · rintro ⟨under, named, _, readInput, _, readOutput, rfl, rfl⟩
    exact ⟨⟨under, named⟩, (uniqueText?_eq_some named narrow).mp readInput,
      (uniqueText?_eq_some named narrow).mp readOutput⟩
  · rintro ⟨⟨under, named⟩, input, output⟩
    exact ⟨under, named, _, (uniqueText?_eq_some named narrow).mpr input, _,
      (uniqueText?_eq_some named narrow).mpr output, rfl, rfl⟩

/-- Nothing is said under a name that something is given to twice. -/
theorem Carries.unrepeated (narrow : AreNarrow members) (carries : Carries members name text) :
    ¬ Repeats members name := by
  rintro ⟨one, other, listed, oneNamed, otherNamed⟩
  have oneName := (narrow.textOf?_eq_some (listed.subset (.head _))).mpr oneNamed
  have otherName := (narrow.textOf?_eq_some (listed.subset (.tail _ (.head _)))).mpr otherNamed
  have twice : [one.2, other.2].Sublist (Entries.givenTo textOf? members name) := by
    have given := listed.filterMap fun member =>
      if textOf? member.1 = some name then some member.2 else none
    simpa [Entries.givenTo, oneName, otherName] using given
  have length := twice.length_le
  rcases (carries_iff narrow).mp carries with ⟨none, -⟩ | ⟨value, given, -⟩
  · simp [none] at length
  · simp [given] at length

/-- What is said under a name is a text or null. -/
theorem Carries.textual (narrow : AreNarrow members) (carries : Carries members name text)
    {member : Octets × Value} (listed : member ∈ members) (named : Spells name.toList member.1) :
    member.2 = .null ∨ ∃ written, member.2 = .string written := by
  have given : member.2 ∈ Entries.givenTo textOf? members name :=
    Entries.mem_givenTo.2 ⟨member, listed, (narrow.textOf?_eq_some listed).mpr named, rfl⟩
  rcases (carries_iff narrow).mp carries with ⟨none, -⟩ | ⟨value, single, read⟩
  · rw [none] at given
    cases given
  · rw [single, List.mem_singleton] at given
    rcases memberText?_eq_some.1 read with ⟨null, -⟩ | ⟨written, string, -⟩
    · exact .inl (given.trans null)
    · exact .inr ⟨written, given.trans string⟩

/-- Members with other names do not matter for what is given to a name, and neither does the order of
members. -/
theorem givenTo_perm_own (same : members.Perm (own ++ foreign))
    (unnamed : ∀ member ∈ foreign, textOf? member.1 ≠ some name) :
    (Entries.givenTo textOf? members name).Perm (Entries.givenTo textOf? own name) := by
  have given : (Entries.givenTo textOf? members name).Perm
      (Entries.givenTo textOf? (own ++ foreign) name) := Entries.givenTo_perm same name
  rwa [Entries.givenTo_append, Entries.givenTo_eq_nil.2 unnamed, List.append_nil] at given

theorem carries_congr (narrow : AreNarrow members) (narrowOthers : AreNarrow others)
    (same : (Entries.givenTo textOf? members name).Perm (Entries.givenTo textOf? others name)) :
    Carries members name text ↔ Carries others name text := by
  have nothing : Entries.givenTo textOf? members name = [] ↔
      Entries.givenTo textOf? others name = [] := by
    rw [← List.length_eq_zero_iff, ← List.length_eq_zero_iff, same.length_eq]
  have single (value : Value) : Entries.givenTo textOf? members name = [value] ↔
      Entries.givenTo textOf? others name = [value] := by
    rw [← List.perm_singleton, ← List.perm_singleton]
    exact ⟨same.symm.trans, same.trans⟩
  rw [carries_iff narrow, carries_iff narrowOthers, nothing]
  simp only [single]

/-- The member is neither the input nor the output of a problem. -/
def IsForeign (member : Octets × Value) : Prop :=
  ∃ name : String, Spells name.toList member.1 ∧ name ∉ ["input", "output"]

theorem IsForeign.textOf?_ne {member : Octets × Value} (isForeign : IsForeign member)
    (known : name ∈ ["input", "output"]) : textOf? member.1 ≠ some name := by
  obtain ⟨own, spelled, unknown⟩ := isForeign
  rw [textOf?_eq_some_iff_resolves.2 spelled.resolves]
  rintro ⟨⟩
  exact unknown known

/-- Whatever its order and its other members are, an object is read the same. -/
theorem ofDocument?_congr {other : Bytes} {foreignOther : List (Octets × Value)}
    (holds : Holds document (.object members)) (holdsOther : Holds other (.object others))
    (same : members.Perm (own ++ foreign)) (sameOther : others.Perm (own ++ foreignOther))
    (areForeign : ∀ member ∈ foreign ++ foreignOther, IsForeign member) :
    ofDocument? document = ofDocument? other := by
  obtain ⟨left, right⟩ := List.forall_mem_append.mp areForeign
  have carries {name text : String} (known : name ∈ ["input", "output"]) :
      Carries members name text ↔ Carries others name text := by
    refine carries_congr (Holds.areNarrow holds) (Holds.areNarrow holdsOther) ?_
    exact (givenTo_perm_own same fun member listed => (left member listed).textOf?_ne known).trans
      (givenTo_perm_own sameOther fun member listed =>
        (right member listed).textOf?_ne known).symm
  have ofOwn {members foreign : List (Octets × Value)} (same : members.Perm (own ++ foreign))
      (areForeign : ∀ member ∈ foreign, IsForeign member) :
      (∀ member ∈ members, ∃ name : String, Spells name.toList member.1) ↔
        ∀ member ∈ own, ∃ name : String, Spells name.toList member.1 := by
    simp only [same.mem_iff]
    rw [List.forall_mem_append, and_iff_left_iff_imp]
    intro _ member listed
    obtain ⟨name, spelled, -⟩ := areForeign member listed
    exact ⟨name, spelled⟩
  refine Option.ext fun metadata => ?_
  obtain ⟨input, output⟩ := metadata
  rw [ofDocument?_eq_some holds, ofDocument?_eq_some holdsOther, carries (by simp),
    carries (by simp), ofOwn same left, ofOwn sameOther right]

/-- What an object says the input and output are is read, exactly if each of its names spells a text and
it says nothing else about them.  A member that stands twice, one that is neither a string nor null, a
name that spells no text, and anything that is not JSON keep a document from being read.  The order of the
members does not matter, and neither does what others hold. -/
theorem ofDocument?_faithful (document : Bytes) :
    (∀ members input output, Holds document (.object members) →
      (ofDocument? document = some ⟨input, output⟩ ↔
        (∀ member ∈ members, ∃ name : String, Spells name.toList member.1) ∧
          Carries members "input" input ∧ Carries members "output" output)) ∧
    (∀ members, Holds document (.object members) →
      (∃ name ∈ ["input", "output"], Repeats members name) ∨
      (∃ name ∈ ["input", "output"], ∃ member ∈ members, Spells name.toList member.1 ∧
        member.2 ≠ .null ∧ ∀ written, member.2 ≠ .string written) ∨
      (∃ member ∈ members, ∀ name : String, ¬ Spells name.toList member.1) →
        ofDocument? document = none) ∧
    (∀ members text rest, Writes (.padded (.object members)) text → document.octets = text ++ rest →
      ¬ IsBlank rest → ofDocument? document = none) ∧
    ((∀ value, ¬ Holds document value) → ofDocument? document = none) ∧
    (∀ members other others own foreign foreignOther, Holds document (.object members) →
      Holds other (.object others) → members.Perm (own ++ foreign) →
      others.Perm (own ++ foreignOther) → (∀ member ∈ foreign ++ foreignOther, IsForeign member) →
      ofDocument? document = ofDocument? other) := by
  refine ⟨fun members input output holds => ofDocument?_eq_some holds,
    fun members holds spoiled => ?_, fun members text rest writes whole more => ?_, fun none => ?_,
    fun members other others own foreign foreignOther holds holdsOther same sameOther areForeign =>
      ofDocument?_congr holds holdsOther same sameOther areForeign⟩
  · refine Option.eq_none_iff_forall_ne_some.mpr fun metadata read => ?_
    obtain ⟨input, output⟩ := metadata
    have narrow := Holds.areNarrow holds
    obtain ⟨spelled, saysInput, saysOutput⟩ := (ofDocument?_eq_some holds).mp read
    have carries {name : String} (known : name ∈ ["input", "output"]) :
        ∃ text, Carries members name text := by
      rcases List.mem_cons.mp known with rfl | known
      · exact ⟨input, saysInput⟩
      · exact ⟨output, List.mem_singleton.mp known ▸ saysOutput⟩
    rcases spoiled with ⟨name, known, repeats⟩ | ⟨name, known, member, listed, named, noNull, noText⟩ |
      ⟨member, listed, unspelled⟩
    · obtain ⟨text, said⟩ := carries known
      exact said.unrepeated narrow repeats
    · obtain ⟨text, said⟩ := carries known
      rcases said.textual narrow listed named with null | ⟨written, string⟩
      · exact noNull null
      · exact noText written string
    · obtain ⟨name, spells⟩ := spelled member listed
      exact unspelled name spells
  · rw [ofDocument?, read?_eq_none writes nofun whole more, Option.bind_none]
  · refine Option.eq_none_iff_forall_ne_some.mpr fun metadata read => ?_
    obtain ⟨value, held, -⟩ := Option.bind_eq_some_iff.mp read
    exact none value (read?_eq_some.1 held)

/-- What is given to a name can be looked at. -/
theorem carries_of_map (narrow : AreNarrow members)
    (given : (Entries.givenTo textOf? members name).map memberText? = [some text]) :
    Carries members name text := by
  obtain ⟨value, single, read⟩ := List.map_eq_singleton_iff.mp given
  exact (carries_iff narrow).mpr (.inr ⟨value, single, read⟩)

/-- Members with a foreign one in front, in which the name of the input and the text of the output are
spelled in another way than they would be written. -/
def spelledMembers : List (Octets × Value) :=
  [(writtenText "x", .array [.ofNat 1, .ofMembers [("output", .null)]]),
    (writtenText "output", .string "\\u00e9\\ud83d\\ude00".toList),
    ("\\u0069nput".toList, .ofText "é\n")]

theorem ofDocument?_faithful_sample :
    Holds (Json.document (.object spelledMembers)) (.object spelledMembers) ∧
      (∀ member ∈ spelledMembers, ∃ name : String, Spells name.toList member.1) ∧
      Carries spelledMembers "input" "é\n" ∧ Carries spelledMembers "output" "é😀" ∧
      ofDocument? (Json.document (.object spelledMembers)) = some ⟨"é\n", "é😀"⟩ := by
  have name : IsQuotable "\\u0069nput".toList :=
    isQuotable_of_readString? (by decide +kernel) (by decide +kernel)
  have text : IsQuotable "\\u00e9\\ud83d\\ude00".toList :=
    isQuotable_of_readString? (by decide +kernel) (by decide +kernel)
  have foreign : IsWritable (.array [.ofNat 1, .ofMembers [("output", .null)]]) := by
    refine .array (List.forall_mem_cons.mpr ⟨.ofNat 1, List.forall_mem_singleton.mpr ?_⟩)
    exact .ofMembers (List.forall_mem_singleton.mpr .null)
  have writable : IsWritable (.object spelledMembers) := by
    refine .object ?_ ?_
    · simp only [spelledMembers, List.forall_mem_cons]
      exact ⟨writtenText_isQuotable "x", writtenText_isQuotable "output", name, nofun⟩
    · simp only [spelledMembers, List.forall_mem_cons]
      exact ⟨foreign, .string text, .ofText "é\n", nofun⟩
  have holds := holds_document writable
  have narrow := Holds.areNarrow holds
  have named : ∀ member ∈ spelledMembers, (textOf? member.1).isSome = true := by decide +kernel
  have spelled : ∀ member ∈ spelledMembers, ∃ name : String, Spells name.toList member.1 := by
    intro member listed
    obtain ⟨name, read⟩ := Option.isSome_iff_exists.mp (named member listed)
    exact ⟨name, (narrow.textOf?_eq_some listed).mp read⟩
  have input : Carries spelledMembers "input" "é\n" := carries_of_map narrow (by decide +kernel)
  have output : Carries spelledMembers "output" "é😀" := carries_of_map narrow (by decide +kernel)
  obtain ⟨faithful, -⟩ := ofDocument?_faithful (Json.document (.object spelledMembers))
  exact ⟨holds, spelled, input, output,
    (faithful spelledMembers _ _ holds).mpr ⟨spelled, input, output⟩⟩

/-- Members of which a foreign one has a name that no text spells: an escape for half a character. -/
def unpairedMembers : List (Octets × Value) :=
  [("\\ud800".toList, .ofNat 1), (writtenText "input", .ofText "i"),
    (writtenText "output", .ofText "o")]

theorem ofDocument?_unpaired :
    Holds (Json.document (.object unpairedMembers)) (.object unpairedMembers) ∧
      Carries unpairedMembers "input" "i" ∧ Carries unpairedMembers "output" "o" ∧
      ofDocument? (Json.document (.object unpairedMembers)) = none := by
  have name : IsQuotable "\\ud800".toList :=
    isQuotable_of_readString? (by decide +kernel) (by decide +kernel)
  have writable : IsWritable (.object unpairedMembers) := by
    refine .object ?_ ?_
    · simp only [unpairedMembers, List.forall_mem_cons]
      exact ⟨name, writtenText_isQuotable "input", writtenText_isQuotable "output", nofun⟩
    · simp only [unpairedMembers, List.forall_mem_cons]
      exact ⟨.ofNat 1, .ofText "i", .ofText "o", nofun⟩
  have holds := holds_document writable
  have narrow := Holds.areNarrow holds
  exact ⟨holds, carries_of_map narrow (by decide +kernel), carries_of_map narrow (by decide +kernel),
    by decide +kernel⟩

end CorpusJudge.Metadata
