import CorpusJudge.Proofs.Files.Naming
import Mathlib.Data.List.Nodup

/-!
# Well-formed trees

A tree is well-formed when every location has at most one entry, and consists of names that entries
can have.  What lies directly inside a folder is then known from looking at single locations.
-/

namespace CorpusJudge.FileTree

/-- Every location has at most one entry, and is made of plain names; the root has none. -/
structure WellFormed (tree : FileTree) : Prop where
  distinct : (tree.entries.map Prod.fst).Nodup
  proper : ∀ entry ∈ tree.entries, entry.1 ≠ []
  plain : ∀ entry ∈ tree.entries, ∀ name ∈ entry.1, IsPlain name
  base : ∀ name ∈ tree.base, IsPlain name

variable {tree : FileTree}

/-! ## Looking up what was put -/

private theorem replaced_eq (entries : List (Location × Entry)) (location : Location)
    (entry : Entry) :
    (entries.map fun (place, old) => if place = location then (place, entry) else (place, old)) =
      entries.map fun pair => (pair.1, if pair.1 = location then entry else pair.2) := by
  refine List.map_congr_left fun pair _ => ?_
  simp only
  split <;> rfl

private theorem lookup_replaced (entries : List (Location × Entry)) (location place : Location)
    (entry : Entry) :
    (entries.map fun pair => (pair.1, if pair.1 = location then entry else pair.2)).lookup place =
      if place = location then (entries.lookup place).map fun _ => entry
      else entries.lookup place := by
  induction entries with
  | nil => simp
  | cons first rest ih =>
      rw [List.map_cons, List.lookup_cons, List.lookup_cons, ih]
      cases here : place == first.1 with
      | false => rfl
      | true =>
          have same : place = first.1 := by simpa using here
          by_cases replaced : place = location
          · simp [← same, replaced]
          · simp [← same, replaced]

/-- What putting an entry does to a tree. -/
theorem put_eq (tree : FileTree) (location : Location) (entry : Entry) :
    tree.put location entry = { tree with
      entries :=
        if (tree.entries.lookup location).isSome then
          tree.entries.map fun pair => (pair.1, if pair.1 = location then entry else pair.2)
        else tree.entries ++ [(location, entry)]
      details :=
        (location, ⟨if (tree.entries.lookup location).isSome then (tree.detail location).mode
            else tree.newMode entry, tree.clock⟩) ::
          tree.details.filter fun pair => decide (pair.1 ≠ location) } := by
  rw [← replaced_eq]
  cases present : (tree.entries.lookup location).isSome with
  | true => simp only [put, withDetail, present, if_true]
  | false =>
      simp only [put, withDetail, present, Bool.false_eq_true, if_false]
      cases entry <;> rfl

theorem put_entries (location : Location) (entry : Entry) :
    (tree.put location entry).entries =
      if (tree.entries.lookup location).isSome then
        tree.entries.map fun pair => (pair.1, if pair.1 = location then entry else pair.2)
      else tree.entries ++ [(location, entry)] := by
  rw [put_eq]

/-- Putting an entry changes what stands at its location, and nothing else. -/
theorem lookup_put {location : Location} (proper : location ≠ []) (entry : Entry)
    (place : Location) :
    (tree.put location entry).lookup place =
      if place = location then some entry else tree.lookup place := by
  simp only [lookup, put_entries]
  by_cases root : place = []
  · subst root
    simp [proper.symm]
  · simp only [root, if_false]
    by_cases same : place = location
    · subst same
      cases present : tree.entries.lookup place with
      | some old => simp [lookup_replaced, present]
      | none => simp [List.lookup_append, present]
    · have differs : (place == location) = false := by simpa using same
      cases present : tree.entries.lookup location with
      | some old => simp [lookup_replaced, same]
      | none => simp [List.lookup_append, same, differs, List.lookup_cons]

theorem isSome_lookup_iff (entries : List (Location × Entry)) (location : Location) :
    (entries.lookup location).isSome = true ↔ location ∈ entries.map Prod.fst := by
  induction entries with
  | nil => simp
  | cons first rest ih =>
      rw [List.lookup_cons, List.map_cons, List.mem_cons, ← ih]
      cases here : location == first.1 with
      | false =>
          have differs : location ≠ first.1 := by simpa using here
          simp [differs]
      | true =>
          have same : location = first.1 := by simpa using here
          simp [same]

theorem WellFormed.put (wellFormed : tree.WellFormed) {location : Location}
    (proper : location ≠ []) (plain : ∀ name ∈ location, IsPlain name) (entry : Entry) :
    (tree.put location entry).WellFormed := by
  have keys : (tree.put location entry).entries.map Prod.fst =
      if (tree.entries.lookup location).isSome then tree.entries.map Prod.fst
      else tree.entries.map Prod.fst ++ [location] := by
    rw [put_entries]
    split <;> simp [Function.comp_def]
  -- every key is an old one or the location itself
  have known {key : Location} (member : key ∈ (tree.put location entry).entries.map Prod.fst) :
      key ∈ tree.entries.map Prod.fst ∨ key = location := by
    rw [keys] at member
    split at member
    · exact .inl member
    · simpa using member
  refine ⟨?_, ?_, ?_, ?_⟩
  · rw [keys]
    split
    · exact wellFormed.distinct
    · next absent =>
        refine List.nodup_append.mpr
          ⟨wellFormed.distinct, List.nodup_cons.mpr ⟨List.not_mem_nil, .nil⟩, ?_⟩
        rintro key member _ last rfl
        obtain rfl : key = location := List.mem_singleton.mp last
        exact absent ((isSome_lookup_iff ..).mpr member)
  · intro other member
    rcases known (List.mem_map_of_mem member) with old | same
    · obtain ⟨pair, there, same⟩ := List.mem_map.mp old
      exact same ▸ wellFormed.proper pair there
    · exact same ▸ proper
  · intro other member
    rcases known (List.mem_map_of_mem member) with old | same
    · obtain ⟨pair, there, same⟩ := List.mem_map.mp old
      exact same ▸ wellFormed.plain pair there
    · exact same ▸ plain
  · rw [put_base]
    exact wellFormed.base

/-! ## Children -/

theorem lookup_eq_some (wellFormed : tree.WellFormed) {place : Location} (proper : place ≠ [])
    {entry : Entry} : tree.lookup place = some entry ↔ (place, entry) ∈ tree.entries := by
  simp only [lookup, proper, if_false]
  have distinct := wellFormed.distinct
  generalize tree.entries = entries at distinct ⊢
  induction entries with
  | nil => simp
  | cons first rest ih =>
      obtain ⟨fresh, distinct⟩ := List.nodup_cons.mp distinct
      refine Iff.trans ?_ ((or_congr_right (ih distinct)).trans List.mem_cons.symm)
      rw [List.lookup_cons]
      cases here : place == first.1 with
      | false =>
          have differs : place ≠ first.1 := by simpa using here
          simp [Prod.ext_iff, differs]
      | true =>
          obtain rfl : place = first.1 := by simpa using here
          have absent : rest.lookup first.1 = none := by
            rw [← Option.not_isSome_iff_eq_none, isSome_lookup_iff]
            exact fresh
          simp [Prod.ext_iff, absent, eq_comm]

/-- Among entries that are no links no place leads on. -/
theorem WellFormed.noLink (wellFormed : tree.WellFormed)
    (all : ∀ entry ∈ tree.entries, entry.2.isLink = false) (place : Location) (target : String) :
    tree.lookup place ≠ some (.link target) := by
  by_cases root : place = []
  · subst root
    rintro ⟨⟩
  · rw [ne_eq, lookup_eq_some wellFormed root]
    intro member
    cases all _ member

theorem nameInside?_eq_some {folder place : Location} {name : String} :
    nameInside? folder place = some name ↔ place = folder ++ [name] := by
  unfold nameInside?
  constructor
  · intro inside
    split at inside
    · next within =>
        obtain ⟨rest, rfl⟩ := List.isPrefixOf_iff_prefix.mp within
        rw [List.drop_left] at inside
        cases rest with
        | nil => cases inside
        | cons first more =>
            cases more with
            | nil => rw [Option.some.inj inside]
            | cons second more => cases inside
    · cases inside
  · rintro rfl
    simp

/-- What stands directly inside a folder is what its children are. -/
theorem mem_children (wellFormed : tree.WellFormed) {folder : Location} {name : String}
    {entry : Entry} :
    (name, entry) ∈ tree.children folder ↔ tree.lookup (folder ++ [name]) = some entry := by
  rw [lookup_eq_some wellFormed (by simp), children, List.mem_filterMap]
  constructor
  · rintro ⟨⟨place, old⟩, member, inside⟩
    obtain ⟨other, named, same⟩ := Option.map_eq_some_iff.mp inside
    obtain ⟨rfl, rfl⟩ := Prod.mk.inj same
    rwa [nameInside?_eq_some.1 named] at member
  · intro member
    exact ⟨_, member, by simp [nameInside?_eq_some.2 rfl]⟩

theorem children_nodup (wellFormed : tree.WellFormed) (folder : Location) :
    ((tree.children folder).map Prod.fst).Nodup := by
  have names : (tree.children folder).map Prod.fst =
      (tree.entries.map Prod.fst).filterMap (nameInside? folder) := by
    simp [children, List.map_filterMap, List.filterMap_map, Function.comp_def]
  rw [names]
  refine List.Nodup.filterMap (fun first second name inFirst inSecond => ?_) wellFormed.distinct
  rw [nameInside?_eq_some.1 inFirst, nameInside?_eq_some.1 inSecond]

theorem plain_of_mem_children (wellFormed : tree.WellFormed) {folder : Location} {name : String}
    {entry : Entry} (member : (name, entry) ∈ tree.children folder) : IsPlain name := by
  have there := (lookup_eq_some wellFormed (by simp)).mp ((mem_children wellFormed).mp member)
  exact wellFormed.plain _ there name (by simp)

/-- Folders in which the same things stand have the same children, but for the order. -/
theorem children_perm {left right : FileTree} (leftFormed : left.WellFormed)
    (rightFormed : right.WellFormed) {folder : Location}
    (same : ∀ name, left.lookup (folder ++ [name]) = right.lookup (folder ++ [name])) :
    (left.children folder).Perm (right.children folder) := by
  refine (List.perm_ext_iff_of_nodup (List.Nodup.of_map _ (children_nodup leftFormed folder))
    (List.Nodup.of_map _ (children_nodup rightFormed folder))).mpr fun entry => ?_
  rw [mem_children leftFormed, mem_children rightFormed, same]

/-! ## Where ways lead -/

/-- A way starts in a location of plain names, and so it leads to one. -/
theorem Way.plain {follow : Bool} {links : Nat} {here goal : Location} {names : List String}
    (way : Way tree follow links here names goal) (start : ∀ name ∈ here, IsPlain name)
    (undivided : ∀ name ∈ names, name ≠ "" ∧ '/' ∉ name.toList) : ∀ name ∈ goal, IsPlain name := by
  have step {here : Location} {name : String} {rest : List String}
      (start : ∀ name ∈ here, IsPlain name) (notDot : name ≠ ".") (notDots : name ≠ "..")
      (undivided : ∀ other ∈ name :: rest, other ≠ "" ∧ '/' ∉ other.toList) :
      ∀ other ∈ here ++ [name], IsPlain other := by
    intro other member
    rcases List.mem_append.mp member with before | last
    · exact start other before
    · obtain rfl := List.mem_singleton.mp last
      obtain ⟨notEmpty, undivided⟩ := undivided other List.mem_cons_self
      exact ⟨notEmpty, notDot, notDots, undivided⟩
  induction way with
  | here => exact start
  | dot way ih => exact ih start fun name member => undivided name (List.mem_cons_of_mem _ member)
  | dots way ih =>
      exact ih (fun name member => start name (List.dropLast_subset _ member))
        fun name member => undivided name (List.mem_cons_of_mem _ member)
  | folder notDot notDots fits there way ih =>
      exact ih (step start notDot notDots undivided)
        fun name member => undivided name (List.mem_cons_of_mem _ member)
  | @link links here goal name target rest notDot notDots fits there goesOn way ih =>
      refine ih ?_ ?_
      · split
        · exact fun name member => nomatch member
        · exact start
      · intro name member
        rcases List.mem_append.mp member with inTarget | later
        · exact Path.mem_namesIn inTarget
        · exact undivided name (List.mem_cons_of_mem _ later)
  | last notDot notDots fits noFolder noLink => exact step start notDot notDots undivided

/-- A path leads to a location of plain names. -/
theorem WellFormed.located (wellFormed : tree.WellFormed) {follow : Bool} {path : Path}
    {location : Location} (located : tree.locate follow path = .ok location) :
    ∀ name ∈ location, IsPlain name := by
  obtain ⟨-, way⟩ := way_of_locate located
  refine way.plain ?_ fun name member => Path.mem_namesIn member
  unfold startOf
  split
  · exact fun name member => nomatch member
  · exact wellFormed.base

/-- Writing a file leaves a tree well-formed. -/
theorem WellFormed.write (wellFormed : tree.WellFormed) {path : Path} {content : Bytes}
    {written : FileTree} (wrote : tree.write path content = .ok written) : written.WellFormed := by
  rcases write_eq_ok wrote with rfl | ⟨location, located, noFolder, rfl⟩
  · exact wellFormed
  · refine wellFormed.put ?_ (wellFormed.located located) _
    rintro rfl
    exact noFolder rfl

/-- Where a file is put, or put anew, all paths lead to where they led. -/
theorem locate_put {location : Location} (proper : location ≠ [])
    (isEnd : IsEnd (tree.lookup location) = true) (content : Bytes) (follow : Bool)
    (path : Path) (goal : Location) :
    (tree.put location (.file content)).locate follow path = .ok goal ↔
      tree.locate follow path = .ok goal := by
  refine (locate_alike (put_base ..) fun place _ => ?_).2 goal
  rw [lookup_put proper]
  split
  · next same => exact .inr ⟨same ▸ isEnd, rfl⟩
  · exact .inl rfl

/-- What replacing a file comes to when its content is written aside to a file or to no entry. -/
theorem replace_eq {path aside : Path} (content : Bytes) {scratch there : Location}
    (named : path.aside = aside)
    (plain : endsInSeparator aside = false ∧ endsInSeparator path = false)
    (noDots : endsInDots aside = false ∧ endsInDots path = false)
    (leads : ∀ follow, tree.locate follow aside = .ok scratch) (proper : scratch ≠ [])
    (file : ∀ entry, tree.lookup scratch = some entry → ∃ old, entry = .file old)
    (target : tree.locate false path = .ok there) (properThere : there ≠ []) :
    tree.replace path content =
      if tree.lookup there = some .folder then
        (.error (.rename path .isDirectory), tree.put scratch (.file content))
      else
        (.ok (), if scratch = there then tree.put scratch (.file content)
          else (tree.put scratch (.file content)).move scratch there) := by
  subst named
  have isEnd : IsEnd (tree.lookup scratch) = true := by
    cases occupied : tree.lookup scratch with
    | none => rfl
    | some entry =>
        obtain ⟨old, rfl⟩ := file entry occupied
        rfl
  have noFolder : tree.lookup scratch ≠ some .folder := fun isFolder => by
    simp [isFolder, IsEnd] at isEnd
  have wrote : tree.write path.aside content = .ok (tree.put scratch (.file content)) := by
    refine write_of_place plain.1 (placeForFile_eq_ok.2 ⟨leads true, noFolder⟩) ?_ ?_ ?_ content
    · exact fun device isDevice => by simpa using file _ isDevice
    · exact fun name isProgram => by simpa using file _ isProgram
    · exact fun obstacle isSealed => by simpa using file _ isSealed
  have stands := @lookup_put tree scratch proper (.file content)
  have leadsAlike := locate_put proper isEnd content false
  have renamed := rename_file (tree.put scratch (.file content)) path.aside
    ((leadsAlike _ _).mpr (leads false)) ((stands scratch).trans (if_pos rfl))
    ((leadsAlike _ _).mpr target) proper properThere plain.2 noDots.1 noDots.2
  have folder : (tree.put scratch (.file content)).lookup there = some .folder ↔
      tree.lookup there = some .folder := by
    rw [stands]
    split
    · next own => simp [own, noFolder]
    · rfl
  simp only [replace, wrote, renamed, folder]
  by_cases isFolder : tree.lookup there = some .folder
  · simp only [if_pos isFolder]
  · simp only [if_neg isFolder]

/-- A tree with a corpus of two problems, each with one solution; the first has its cache file. -/
def sample : FileTree where
  entries := [(["problems"], .folder), (["problems", "Double"], .folder),
    (["problems", "Double", "gs"], .folder),
    (["problems", "Double", "gs", "ada.1300000000.gs"], .file (Bytes.ofString "2*")),
    (["problems", "Double", "problem.json"], .file (Bytes.ofString "[\"1\",\"2\"]")),
    (["problems", "Echo"], .folder), (["problems", "Echo", "gs"], .folder),
    (["problems", "Echo", "gs", "eve.1300000000.gs"], .file (Bytes.ofString "~"))]
  base := []

theorem sample_wellFormed : sample.WellFormed where
  distinct := by decide
  proper := by decide
  plain := by decide +kernel
  base := by decide

theorem sample_root : sample.locate true ⟨"problems"⟩ = .ok ["problems"] := by
  have sound : faultOf ⟨"problems"⟩ = none := by decide +kernel
  have names : namesIn "problems" = ["problems"] := by decide +kernel
  have short : isTooLong "problems" = false := by decide +kernel
  have relative : Path.isAbsolute ⟨"problems"⟩ = false := by decide +kernel
  rw [locate_eq, sound]
  simp [names, startOf, relative, walk_name, short, sample, lookup]

theorem sample_folder {name : String} (listed : name ∈ ["Double", "Echo"]) :
    sample.locate true (Path.join ⟨"problems"⟩ name) = .ok ["problems", name] ∧
      sample.lookup ["problems", name] = some .folder := by
  have facts : ∀ name ∈ ["Double", "Echo"], IsPlain name ∧ isTooLong name = false ∧
      faultOf (Path.join ⟨"problems"⟩ name) = none ∧
      sample.lookup ["problems", name] = some .folder := by decide +kernel
  obtain ⟨plain, short, sound, there⟩ := facts name listed
  exact ⟨locate_child plain sample_root rfl sound short (by simp [there]), there⟩

/-- The paths of the sample tree lead where they say. -/
theorem sample_child {name child : String} (listed : name ∈ ["Double", "Echo"])
    (inside : child ∈ ["gs", "problem.json"]) :
    sample.locate true ((Path.join ⟨"problems"⟩ name).join child) =
      .ok ["problems", name, child] := by
  obtain ⟨leads, isFolder⟩ := sample_folder listed
  have facts : ∀ name ∈ ["Double", "Echo"], ∀ child ∈ ["gs", "problem.json"], IsPlain child ∧
      isTooLong child = false ∧ faultOf ((Path.join ⟨"problems"⟩ name).join child) = none ∧
      (sample.lookup ["problems", name, child]).all (!·.isLink) = true := by decide +kernel
  obtain ⟨plain, short, sound, noLink⟩ := facts name listed child inside
  refine locate_child plain leads isFolder sound short fun target there => ?_
  have there : sample.lookup ["problems", name, child] = some (.link target) := there
  rw [there] at noLink
  cases noLink

end CorpusJudge.FileTree
