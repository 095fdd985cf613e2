import Mathlib.Data.List.Nodup

/-!
# Entries by name

Mappings and objects are lists of entries whose keys may or may not be names.  What they give to a name
can be told from the entries themselves, whatever their order.
-/

namespace CorpusJudge.Entries

variable {κ α : Type} {name? : κ → Option String} {entry : κ × α} {entries others : List (κ × α)}
variable {members : List (String × α)} {name : String}

/-- The entries under the names that their keys are, if each of them is one. -/
def named? (name? : κ → Option String) (entries : List (κ × α)) : Option (List (String × α)) :=
  entries.mapM fun (key, value) => (name? key).map (·, value)

/-- What the entries give to a name, each time that the name stands among them. -/
def givenTo (name? : κ → Option String) (entries : List (κ × α)) (name : String) : List α :=
  entries.filterMap fun entry => if name? entry.1 = some name then some entry.2 else none

theorem named?_cons : named? name? (entry :: entries) = some members ↔
    ∃ name rest, name? entry.1 = some name ∧ named? name? entries = some rest ∧
      members = (name, entry.2) :: rest := by
  simp only [named?, List.mapM_cons, Option.bind_eq_bind, Option.bind_eq_some_iff,
    Option.map_eq_some_iff, Option.pure_def, Option.some.injEq]
  constructor
  · rintro ⟨_, ⟨name, key, rfl⟩, rest, read, rfl⟩
    exact ⟨name, rest, key, read, rfl⟩
  · rintro ⟨name, rest, key, read, rfl⟩
    exact ⟨_, ⟨name, key, rfl⟩, rest, read, rfl⟩

theorem exists_named?_iff : (∃ members, named? name? entries = some members) ↔
    ∀ entry ∈ entries, ∃ name, name? entry.1 = some name := by
  induction entries with
  | nil => exact ⟨nofun, fun _ => ⟨[], rfl⟩⟩
  | cons entry entries ih =>
      rw [List.forall_mem_cons, ← ih]
      constructor
      · rintro ⟨_, named⟩
        obtain ⟨name, rest, key, read, -⟩ := named?_cons.1 named
        exact ⟨⟨name, key⟩, rest, read⟩
      · rintro ⟨⟨name, key⟩, rest, read⟩
        exact ⟨_, named?_cons.2 ⟨name, rest, key, read, rfl⟩⟩

/-- The names are those of the keys. -/
theorem map_some (named : named? name? entries = some members) :
    members.map (some ·.1) = entries.map (name? ·.1) := by
  induction entries generalizing members with
  | nil =>
      cases named
      rfl
  | cons entry entries ih =>
      obtain ⟨name, rest, key, read, rfl⟩ := named?_cons.1 named
      rw [List.map_cons, List.map_cons, ih read, key]

/-- The members with a name have what is given to it. -/
theorem map_filter (named : named? name? entries = some members) (name : String) :
    (members.filter (·.1 = name)).map (·.2) = givenTo name? entries name := by
  induction entries generalizing members with
  | nil =>
      cases named
      rfl
  | cons entry entries ih =>
      obtain ⟨own, rest, key, read, rfl⟩ := named?_cons.1 named
      unfold givenTo at ih ⊢
      rw [List.filterMap_cons, key]
      by_cases same : own = name
      · simp [same, ih read]
      · simp [same, ih read]

/-- Looking a name up finds what is given to it first. -/
theorem lookup_eq_head? (named : named? name? entries = some members) (name : String) :
    members.lookup name = (givenTo name? entries name).head? := by
  rw [← map_filter named]
  clear named
  induction members with
  | nil => rfl
  | cons member members ih =>
      obtain ⟨own, value⟩ := member
      rw [List.lookup_cons, ih]
      by_cases same : own = name
      · simp [same]
      · simp [same, beq_false_of_ne (Ne.symm same)]

/-- The names are distinct exactly if none is given something twice. -/
theorem nodup_iff (named : named? name? entries = some members) :
    (members.map (·.1)).Nodup ↔ ∀ name, (givenTo name? entries name).length ≤ 1 := by
  rw [List.nodup_iff_count_le_one]
  refine forall_congr' fun name => ?_
  rw [← map_filter named, List.length_map, ← List.countP_eq_length_filter, List.count,
    List.countP_map]
  rfl

theorem givenTo_perm (same : entries.Perm others) (name : String) :
    (givenTo name? entries name).Perm (givenTo name? others name) :=
  same.filterMap _

theorem givenTo_append (name : String) : givenTo name? (entries ++ others) name =
    givenTo name? entries name ++ givenTo name? others name :=
  List.filterMap_append

theorem mem_givenTo {value : α} : value ∈ givenTo name? entries name ↔
    ∃ entry ∈ entries, name? entry.1 = some name ∧ entry.2 = value := by
  simp [givenTo]

/-- Nothing is given to a name exactly if no key is that name. -/
theorem givenTo_eq_nil : givenTo name? entries name = [] ↔
    ∀ entry ∈ entries, name? entry.1 ≠ some name := by
  simp [givenTo]

/-- One thing is given to a name exactly if one entry has it, and no other one. -/
theorem givenTo_eq_singleton {value : α} : givenTo name? entries name = [value] ↔
    ∃ before key after, entries = before ++ (key, value) :: after ∧ name? key = some name ∧
      ∀ entry ∈ before ++ after, name? entry.1 ≠ some name := by
  have silent {entry : κ × α} : (if name? entry.1 = some name then some entry.2 else none) = none ↔
      name? entry.1 ≠ some name := by
    simp
  have given {entry : κ × α} : (if name? entry.1 = some name then some entry.2 else none) =
      some value ↔ name? entry.1 = some name ∧ entry.2 = value := by
    simp
  unfold givenTo
  simp only [List.filterMap_eq_cons_iff, List.filterMap_eq_nil_iff, silent, given]
  constructor
  · rintro ⟨before, ⟨key, _⟩, after, rfl, noneBefore, ⟨named, rfl⟩, noneAfter⟩
    exact ⟨before, key, after, rfl, named, List.forall_mem_append.mpr ⟨noneBefore, noneAfter⟩⟩
  · rintro ⟨before, key, after, rfl, named, noOther⟩
    obtain ⟨noneBefore, noneAfter⟩ := List.forall_mem_append.mp noOther
    exact ⟨before, (key, value), after, rfl, noneBefore, ⟨named, rfl⟩, noneAfter⟩

end CorpusJudge.Entries
