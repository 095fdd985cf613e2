import CorpusJudge.Proofs.Files.WellFormed
import Mathlib.Data.List.Dedup

/-!
# Orders of enumeration

What lies in a folder is enumerated in the order in which a tree keeps it, and the same things can be
kept in any order.  A tree whose folders are enumerated in other orders holds the same things in the
same places.
-/

namespace CorpusJudge.FileTree

/-- An order in which the entries of every folder are enumerated. -/
abbrev Enumeration := Location → List (String × Entry)

/-- The folders in which something stands. -/
def parents (tree : FileTree) : List Location :=
  (tree.entries.map fun entry => entry.1.dropLast).dedup

/-- The tree with its folders enumerated in a given order. -/
def enumerated (tree : FileTree) (order : Enumeration) : FileTree :=
  { tree with
    entries := tree.parents.flatMap fun folder =>
      (order folder).map fun child => (folder ++ [child.1], child.2) }

/-- The order enumerates what is in every folder of the tree, each entry once. -/
def Enumerates (tree : FileTree) (order : Enumeration) : Prop :=
  ∀ folder, (order folder).Perm (tree.children folder)

variable {tree : FileTree} {order : Enumeration}

theorem mem_parents {folder : Location} :
    folder ∈ tree.parents ↔ ∃ place entry, (place, entry) ∈ tree.entries ∧ place.dropLast = folder := by
  simp [parents]

theorem parents_nodup (tree : FileTree) : tree.parents.Nodup :=
  List.nodup_dedup _

theorem mem_entries_child (formed : tree.WellFormed) {folder : Location} {child : String × Entry} :
    child ∈ tree.children folder ↔ (folder ++ [child.1], child.2) ∈ tree.entries := by
  rw [← lookup_eq_some formed (by simp), ← mem_children formed]

theorem entries_nodup (formed : tree.WellFormed) : tree.entries.Nodup :=
  .of_map _ formed.distinct

/-- Another order of enumeration keeps the same entries. -/
theorem enumerated_perm (formed : tree.WellFormed) (enumerates : tree.Enumerates order) :
    (tree.enumerated order).entries.Perm tree.entries := by
  have nodup : (tree.enumerated order).entries.Nodup := by
    apply List.nodup_flatMap.mpr
    constructor
    · intro folder _
      have children : (order folder).Nodup :=
        (enumerates folder).nodup_iff.mpr (.of_map _ (children_nodup formed folder))
      apply children.map
      intro one other same
      simpa [Prod.ext_iff] using same
    · apply tree.parents_nodup.imp
      rintro one other differ entry left right
      obtain ⟨child, -, rfl⟩ := List.mem_map.mp left
      obtain ⟨second, -, same⟩ := List.mem_map.mp right
      have places := congrArg Prod.fst same
      simp only [List.append_inj_left' places rfl] at differ
      exact differ rfl
  apply (List.perm_ext_iff_of_nodup nodup (entries_nodup formed)).mpr
  rintro ⟨place, entry⟩
  simp only [enumerated, List.mem_flatMap, List.mem_map]
  constructor
  · rintro ⟨folder, -, child, listed, same⟩
    rw [← same]
    exact (mem_entries_child formed).mp ((enumerates folder).mem_iff.mp listed)
  · intro kept
    have proper : place ≠ [] := formed.proper _ kept
    have whole : place.dropLast ++ [place.getLast proper] = place :=
      List.dropLast_append_getLast proper
    refine ⟨place.dropLast, mem_parents.2 ⟨place, entry, kept, rfl⟩,
      (place.getLast proper, entry), ?_, by rw [whole]⟩
    apply (enumerates _).mem_iff.mpr
    apply (mem_entries_child formed).mpr
    rwa [whole]

theorem enumerated_wellFormed (formed : tree.WellFormed) (enumerates : tree.Enumerates order) :
    (tree.enumerated order).WellFormed := by
  have perm := enumerated_perm formed enumerates
  constructor
  · exact (perm.map Prod.fst).nodup_iff.mpr formed.distinct
  · intro entry kept
    exact formed.proper entry (perm.mem_iff.mp kept)
  · intro entry kept
    exact formed.plain entry (perm.mem_iff.mp kept)
  · exact formed.base

/-- In another order of enumeration, the same thing stands in every place. -/
theorem lookup_enumerated (formed : tree.WellFormed) (enumerates : tree.Enumerates order)
    (place : Location) : (tree.enumerated order).lookup place = tree.lookup place := by
  by_cases root : place = []
  · simp [lookup, root]
  · ext entry
    rw [lookup_eq_some (enumerated_wellFormed formed enumerates) root, lookup_eq_some formed root]
    exact (enumerated_perm formed enumerates).mem_iff

theorem nameInside?_concat (folder parent : Location) (name : String) :
    nameInside? folder (parent ++ [name]) = if parent = folder then some name else none := by
  split
  · next same => rw [same, nameInside?_eq_some]
  · next differ =>
      rw [Option.eq_none_iff_forall_not_mem]
      intro other inside
      have places := nameInside?_eq_some.1 inside
      exact differ (List.append_inj_left' places rfl)

/-- Where a folder is listed at most once, its items come up at most once. -/
theorem flatMap_folder {α : Type} {folders : List Location} (nodup : folders.Nodup)
    (folder : Location) (items : List α) :
    (folders.flatMap fun other => if other = folder then items else []) =
      if folder ∈ folders then items else [] := by
  induction folders with
  | nil => rfl
  | cons first rest ih =>
      obtain ⟨fresh, nodup⟩ := List.nodup_cons.mp nodup
      rw [List.flatMap_cons, ih nodup]
      by_cases same : first = folder
      · subst same
        simp [fresh]
      · simp [same, Ne.symm same]

/-- The folders are indeed enumerated in the given order. -/
theorem children_enumerated (formed : tree.WellFormed) (enumerates : tree.Enumerates order)
    (folder : Location) : (tree.enumerated order).children folder = order folder := by
  have own (parent : Location) :
      ((order parent).map fun child => (parent ++ [child.1], child.2)).filterMap
          (fun entry => (nameInside? folder entry.1).map (·, entry.2)) =
        if parent = folder then order folder else [] := by
    simp only [List.filterMap_map, Function.comp_def, nameInside?_concat]
    split
    · next same => simp [same]
    · simp
  simp only [children, enumerated, List.filterMap_flatMap, own]
  rw [flatMap_folder tree.parents_nodup]
  split
  · rfl
  · next nothing =>
      -- a folder in which nothing stands has no children, in whatever order
      symm
      apply List.eq_nil_iff_forall_not_mem.mpr
      intro child listed
      have kept := (mem_entries_child formed).mp ((enumerates folder).mem_iff.mp listed)
      exact nothing (mem_parents.2 ⟨_, _, kept, List.dropLast_concat⟩)

end CorpusJudge.FileTree
