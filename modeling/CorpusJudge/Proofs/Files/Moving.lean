import CorpusJudge.Proofs.Files.WellFormed
import Mathlib.Data.List.Induction

/-!
# What a request leaves alone

Putting an entry changes one location, and moving one changes the location that it leaves and the one
that it comes to, with what lies below them.  In a rooted tree nothing lies below a file, so that
everything else keeps its content and its mode.
-/

namespace CorpusJudge.FileTree

/-- Every entry lies in a folder, and relative paths start at one. -/
structure Rooted (tree : FileTree) : Prop where
  base : tree.lookup tree.base = some .folder
  inside : ∀ folder name, tree.lookup (folder ++ [name]) ≠ none → tree.lookup folder = some .folder

/-- Whether a location holds in a later tree what it held before: the same entry, with its mode, which can
be listed as before if it is a folder. -/
structure Keeps (before after : FileTree) (place : Location) : Prop where
  entry : after.lookup place = before.lookup place
  locked : before.lookup place ≠ none →
    after.locked.lookup place = before.locked.lookup place
  mode : before.lookup place ≠ none → (after.detail place).mode = (before.detail place).mode

theorem Keeps.refl (tree : FileTree) (place : Location) : tree.Keeps tree place :=
  ⟨rfl, fun _ => rfl, fun _ => rfl⟩

theorem Keeps.trans {before between after : FileTree} {place : Location}
    (first : before.Keeps between place) (second : between.Keeps after place) :
    before.Keeps after place :=
  ⟨second.entry.trans first.entry,
    fun there => (second.locked (first.entry ▸ there)).trans (first.locked there),
    fun there => (second.mode (first.entry ▸ there)).trans (first.mode there)⟩

/-! ## Looking up what was moved -/

/-- Among pairs whose keys are kept or not, a key that is kept has its first value. -/
theorem lookup_filter_key {value : Type} (kept : Location → Bool) (place : Location)
    (pairs : List (Location × value)) :
    (pairs.filter fun pair => kept pair.1).lookup place =
      if kept place then pairs.lookup place else none := by
  induction pairs with
  | nil => simp
  | cons first rest ih =>
      obtain ⟨key, held⟩ := first
      rw [List.filter_cons, List.lookup_cons]
      cases here : place == key with
      | false => cases kept key <;> simp [List.lookup_cons, here, ih]
      | true =>
          obtain rfl : place = key := by simpa using here
          cases isKept : kept place <;> simp [isKept, ih]

/-- A location with its beginning exchanged, if it starts with that. -/
def moved? (source target place : Location) : Option Location :=
  if source.isPrefixOf place then some (target ++ place.drop source.length) else none

theorem moved?_eq_some {source target place goal : Location} :
    moved? source target place = some goal ↔
      ∃ rest, place = source ++ rest ∧ goal = target ++ rest := by
  unfold moved?
  split
  next within =>
    obtain ⟨rest, rfl⟩ := List.isPrefixOf_iff_prefix.mp within
    simp [eq_comm]
  next apart =>
    refine ⟨nofun, ?_⟩
    rintro ⟨rest, rfl, rfl⟩
    simp at apart

/-- Moving there and moving back are inverse to each other. -/
theorem moved?_back {source target place goal : Location} :
    moved? source target place = some goal ↔ moved? target source goal = some place := by
  rw [moved?_eq_some, moved?_eq_some]
  exact exists_congr fun rest => And.comm

/-- Among pairs whose keys have been moved, a key has the value of the key that was moved there. -/
theorem lookup_moved {value : Type} (source target place : Location)
    (pairs : List (Location × value)) :
    (pairs.filterMap fun pair => (moved? source target pair.1).map (·, pair.2)).lookup place =
      (moved? target source place).bind fun origin => pairs.lookup origin := by
  induction pairs with
  | nil => cases moved? target source place <;> rfl
  | cons first rest ih =>
      obtain ⟨key, held⟩ := first
      rw [List.filterMap_cons]
      cases goes : moved? source target key with
      | none =>
          rw [Option.map_none, ih]
          refine Option.bind_congr fun origin back => ?_
          have differs : origin ≠ key := by
            rintro rfl
            cases goes.symm.trans (moved?_back.2 back)
          simp [List.lookup_cons, beq_false_of_ne differs]
      | some goal =>
          rw [Option.map_some, List.lookup_cons, ih]
          cases here : place == goal with
          | true =>
              obtain rfl : place = goal := by simpa using here
              simp [moved?_back.1 goes]
          | false =>
              refine Option.bind_congr fun origin back => ?_
              have differs : origin ≠ key := by
                rintro rfl
                simp [Option.some.inj (goes.symm.trans (moved?_back.2 back))] at here
              simp [List.lookup_cons, beq_false_of_ne differs]

/-- Pairs after an entry has been moved: those at either location go, and those from the source come
back at the target. -/
theorem lookup_relocated {value : Type} (source target place : Location)
    (pairs : List (Location × value)) :
    (((pairs.filter fun pair => !source.isPrefixOf pair.1).filter fun pair =>
        !target.isPrefixOf pair.1) ++
      pairs.filterMap fun pair => (moved? source target pair.1).map (·, pair.2)).lookup place =
      if target.isPrefixOf place then pairs.lookup (source ++ place.drop target.length)
      else if source.isPrefixOf place then none
      else pairs.lookup place := by
  rw [List.lookup_append, lookup_filter_key (fun place => !target.isPrefixOf place),
    lookup_filter_key (fun place => !source.isPrefixOf place), lookup_moved, moved?]
  cases target.isPrefixOf place <;> cases source.isPrefixOf place <;> simp

variable {tree : FileTree} {source target : Location}

/-- Moving an entry brings what stands at its location, and below it, to the target. -/
theorem lookup_move (proper : source ≠ []) (properTarget : target ≠ []) (place : Location) :
    (tree.move source target).lookup place =
      if target.isPrefixOf place then tree.lookup (source ++ place.drop target.length)
      else if source.isPrefixOf place then none
      else tree.lookup place := by
  have entries : (tree.move source target).entries.lookup place = _ :=
    lookup_relocated source target place tree.entries
  rw [lookup, entries]
  by_cases root : place = []
  · subst root
    simp [lookup, proper, properTarget]
  · simp [lookup, root, proper]

theorem details_move (place : Location) :
    (tree.move source target).details.lookup place =
      if target.isPrefixOf place then tree.details.lookup (source ++ place.drop target.length)
      else if source.isPrefixOf place then none
      else tree.details.lookup place :=
  lookup_relocated source target place tree.details

theorem locked_move (place : Location) :
    (tree.move source target).locked.lookup place =
      if target.isPrefixOf place then tree.locked.lookup (source ++ place.drop target.length)
      else if source.isPrefixOf place then none
      else tree.locked.lookup place :=
  lookup_relocated source target place tree.locked

/-! ## Everything else -/

/-- A location keeps its mode where neither its entry nor its noted detail changes. -/
theorem Keeps.of_lookup {before after : FileTree} {place : Location}
    (entry : after.lookup place = before.lookup place)
    (locked : after.locked.lookup place = before.locked.lookup place)
    (details : after.details.lookup place = before.details.lookup place) :
    before.Keeps after place := by
  have usual : after.usualDetail place = before.usualDetail place := by
    simp only [usualDetail, entry]
  refine ⟨entry, fun _ => locked, fun _ => ?_⟩
  rw [detail, details, usual, detail]

theorem keeps_put {location place : Location} (proper : location ≠ []) (differs : place ≠ location)
    (entry : Entry) : tree.Keeps (tree.put location entry) place := by
  refine .of_lookup ((lookup_put proper entry place).trans (if_neg differs))
    (by rw [put_locked]) ?_
  rw [put_eq, List.lookup_cons, beq_false_of_ne differs]
  exact (lookup_filter_key (fun key => decide (key ≠ location)) place _).trans
    (if_pos (decide_eq_true differs))

theorem keeps_move {place : Location} (proper : source ≠ []) (properTarget : target ≠ [])
    (apart : source.isPrefixOf place = false) (apartTarget : target.isPrefixOf place = false) :
    tree.Keeps (tree.move source target) place := by
  refine .of_lookup ?_ ?_ ?_
  · rw [lookup_move proper properTarget, apart, apartTarget]
    rfl
  · rw [locked_move, apart, apartTarget]
    rfl
  · rw [details_move, apart, apartTarget]
    rfl

/-- Replacing what is not among some entries leaves them as they are. -/
theorem map_replaced_absent {entries : List (Location × Entry)} {location : Location}
    (absent : entries.lookup location = none) (entry : Entry) :
    (entries.map fun pair => (pair.1, if pair.1 = location then entry else pair.2)) = entries := by
  conv => rhs; rw [← List.map_id entries]
  refine List.map_congr_left fun pair member => ?_
  have differs : pair.1 ≠ location := fun same => by
    simpa [same] using List.lookup_eq_none_iff.mp absent pair member
  rw [if_neg differs]
  rfl

/-- A file that is put twice is as if it had been put once. -/
theorem put_put {location : Location} (proper : location ≠ []) (old new : Bytes) :
    (tree.put location (.file old)).put location (.file new) = tree.put location (.file new) := by
  have present : ((tree.put location (.file old)).entries.lookup location).isSome = true := by
    have stands := @lookup_put tree location proper (.file old) location
    rw [lookup, if_neg proper, if_pos rfl] at stands
    rw [stands]
    rfl
  have mode : ((tree.put location (.file old)).detail location).mode =
      if (tree.entries.lookup location).isSome then (tree.detail location).mode
      else tree.newMode (.file new) := by
    rw [detail, put_eq, List.lookup_cons_self]
    rfl
  rw [put_eq (tree.put location (.file old)), if_pos present, if_pos present, mode, put_eq tree,
    put_eq tree]
  congr 1
  · split
    · simp only [List.map_map]
      refine List.map_congr_left fun pair _ => ?_
      simp only [Function.comp]
      split <;> rfl
    · next absent =>
      rw [List.map_append, map_replaced_absent (Option.not_isSome_iff_eq_none.mp absent)]
      simp
  · simp

/-! ## Rooted trees -/

namespace Rooted

/-- Looking at the single entries tells whether a tree is rooted. -/
theorem of_entries (base : tree.lookup tree.base = some .folder)
    (inside : ∀ entry ∈ tree.entries, tree.lookup entry.1.dropLast = some .folder) :
    tree.Rooted := by
  refine ⟨base, fun folder name there => ?_⟩
  rw [lookup, if_neg (by simp), ← Option.isSome_iff_ne_none, isSome_lookup_iff] at there
  obtain ⟨entry, member, same⟩ := List.mem_map.mp there
  have within := inside entry member
  rwa [same, List.dropLast_concat] at within

variable (rooted : tree.Rooted)

include rooted

/-- Nothing lies below what is no folder. -/
theorem below {place : Location} (noFolder : tree.lookup place ≠ some .folder)
    {below : Location} (proper : below ≠ []) : tree.lookup (place ++ below) = none := by
  induction below using List.reverseRecOn with
  | nil => exact absurd rfl proper
  | append_singleton front name ih =>
      rw [← List.append_assoc]
      cases there : tree.lookup (place ++ front ++ [name]) with
      | none => rfl
      | some entry =>
          have isFolder := rooted.inside (place ++ front) name (there ▸ Option.some_ne_none entry)
          by_cases start : front = []
          · subst start
            exact absurd (List.append_nil place ▸ isFolder) noFolder
          · cases (ih start).symm.trans isFolder

theorem dropLast {folder : Location} (isFolder : tree.lookup folder = some .folder) :
    tree.lookup folder.dropLast = some .folder := by
  rcases List.eq_nil_or_concat folder with rfl | ⟨front, name, rfl⟩
  · exact isFolder
  · rw [List.concat_eq_append] at isFolder ⊢
    rw [List.dropLast_concat]
    exact rooted.inside front name (isFolder ▸ Option.some_ne_none _)

/-- A way that starts in a folder leads to a folder or into one, and to no link where links are
followed. -/
theorem arrives {follow : Bool} {links : Nat} {here goal : Location} {names : List String}
    (way : Way tree follow links here names goal) (start : tree.lookup here = some .folder) :
    tree.lookup goal = some .folder ∨ ∃ folder name, goal = folder ++ [name] ∧
      tree.lookup folder = some .folder ∧
      (follow = true → ∀ target, tree.lookup goal ≠ some (.link target)) := by
  induction way with
  | here => exact .inl start
  | dot way ih => exact ih start
  | dots way ih => exact ih (rooted.dropLast start)
  | folder notDot notDots fits there way ih => exact ih there
  | link notDot notDots fits there goesOn way ih =>
      refine ih ?_
      split
      · rfl
      · exact start
  | @last links here name notDot notDots fits noFolder noLink =>
      exact .inr ⟨here, name, rfl, start, noLink⟩

/-- A file has its place in a folder, and never in that of a link. -/
theorem placed {path : Path} {location : Location}
    (place : tree.placeForFile path = .ok location) :
    (∃ folder name, location = folder ++ [name] ∧ tree.lookup folder = some .folder) ∧
      IsEnd (tree.lookup location) = true := by
  obtain ⟨located, noFolder⟩ := placeForFile_eq_ok.1 place
  have start : tree.lookup (tree.startOf path) = some .folder := by
    unfold startOf
    split
    · rfl
    · exact rooted.base
  rcases rooted.arrives (way_of_locate located).2 start with isFolder | within
  · exact absurd isFolder noFolder
  · obtain ⟨folder, name, inside, isFolder, noLink⟩ := within
    refine ⟨⟨folder, name, inside, isFolder⟩, ?_⟩
    cases there : tree.lookup location with
    | none => rfl
    | some entry =>
        cases entry with
        | folder => exact absurd there noFolder
        | link target => exact absurd there (noLink rfl target)
        | _ => rfl

/-- Writing a file leaves a tree rooted. -/
theorem write {path : Path} {content : Bytes} {written : FileTree}
    (wrote : tree.write path content = .ok written) : written.Rooted := by
  obtain ⟨-, location, place, ⟨-, rfl⟩ | ⟨-, -, -, rfl⟩⟩ := place_of_write wrote
  · exact rooted
  · obtain ⟨⟨parent, own, rfl, isFolder⟩, -⟩ := rooted.placed place
    have noFolder := (placeForFile_eq_ok.1 place).2
    have stands := @lookup_put tree _ (List.concat_ne_nil own parent)
      (.file content)
    have stays {folder : Location} (isFolder : tree.lookup folder = some .folder) :
        (tree.put (parent ++ [own]) (.file content)).lookup folder = some .folder := by
      rw [stands, if_neg, isFolder]
      rintro rfl
      exact noFolder isFolder
    refine ⟨?_, fun folder name there => stays ?_⟩
    · rw [put_base]
      exact stays rooted.base
    · rw [stands] at there
      split at there
      · next same => exact (List.append_inj' same rfl).1 ▸ isFolder
      · exact rooted.inside folder name there

/-- What is no folder moves alone, to the place of what is none either, and everything else stays. -/
theorem move {source target : Location} (proper : source ≠ []) (properTarget : target ≠ [])
    (noFolder : tree.lookup source ≠ some .folder)
    (noFolderThere : tree.lookup target ≠ some .folder) :
    (tree.move source target).lookup target = tree.lookup source ∧
      (source ≠ target → (tree.move source target).lookup source = none) ∧
      ∀ place, place ≠ target → place ≠ source → tree.Keeps (tree.move source target) place := by
  have moved := @lookup_move tree source target proper properTarget
  have nothing {below : Location} (further : below ≠ []) :
      (tree.move source target).lookup (target ++ below) = none := by
    rw [moved, if_pos (by simp), List.drop_left]
    exact rooted.below noFolder further
  refine ⟨?_, fun differs => ?_, fun place notTarget notSource => ?_⟩
  · rw [moved, if_pos (by simp), List.drop_length, List.append_nil]
  · cases within : target.isPrefixOf source with
    | true =>
        obtain ⟨below, same⟩ := List.isPrefixOf_iff_prefix.mp within
        have further : below ≠ [] := by
          rintro rfl
          exact differs (same.symm.trans (List.append_nil target))
        exact same ▸ nothing further
    | false =>
        rw [moved, within]
        simp
  · cases within : target.isPrefixOf place with
    | true =>
        obtain ⟨below, rfl⟩ := List.isPrefixOf_iff_prefix.mp within
        have further : below ≠ [] := by
          rintro rfl
          exact notTarget (List.append_nil target)
        have free := rooted.below noFolderThere further
        exact ⟨(nothing further).trans free.symm, fun there => absurd free there,
          fun there => absurd free there⟩
    | false =>
        cases left : source.isPrefixOf place with
        | true =>
            obtain ⟨below, rfl⟩ := List.isPrefixOf_iff_prefix.mp left
            have further : below ≠ [] := by
              rintro rfl
              exact notSource (List.append_nil source)
            have free := rooted.below noFolder further
            refine ⟨?_, fun there => absurd free there, fun there => absurd free there⟩
            rw [moved, within, free]
            simp
        | false => exact keeps_move proper properTarget left within

/-- A file that takes another path stands there afterwards, and nowhere else; everything else
stays. -/
theorem rename {source path : Path} {here : Location} {content : Bytes} {renamed : FileTree}
    (self : tree.locate false source = .ok here) (file : tree.lookup here = some (.file content))
    (done : tree.rename source path = .ok renamed) :
    ∃ there, tree.locate false path = .ok there ∧ renamed.base = tree.base ∧
      renamed.lookup there = some (.file content) ∧
      (here ≠ there → renamed.lookup here = none) ∧
      ∀ place, place ≠ there → place ≠ here → tree.Keeps renamed place := by
  obtain ⟨there, leads, proper, properThere, noFolder, rfl⟩ := of_rename_file _ _ self file done
  refine ⟨there, leads, ?_⟩
  split
  · next same => exact ⟨rfl, same ▸ file, fun differs => absurd same differs, fun _ _ _ => .refl ..⟩
  · obtain ⟨stands, gone, keeps⟩ := rooted.move proper properThere (by simp [file]) noFolder
    exact ⟨rfl, stands.trans file, gone, keeps⟩

end Rooted

end CorpusJudge.FileTree
