import CorpusJudge.Corpus
import CorpusJudge.Problem.Cache
import CorpusJudge.Proofs.Files.WellFormed
import CorpusJudge.Proofs.Text.Order

/-!
# The places of a corpus

What a run looks at is found in some places of the tree: on the way to the cache files, on the way
to the folders of solutions, and directly inside these.  In the course of a run, cache files appear
in some of these places that were empty; nothing else changes there.
-/

namespace CorpusJudge

/-- The places that have to do with some problems: those that resolving their paths looks at, and
those directly inside the folders of their solutions. -/
inductive Concerns (files : FileTree) (problems : List Problem) : Location → Prop where
  | metadata {problem : Problem} {place : Location} :
      problem ∈ problems → place ∈ files.placesOf true problem.metadataPath →
      Concerns files problems place
  | solutions {problem : Problem} {place : Location} :
      problem ∈ problems → place ∈ files.placesOf true problem.solutionsDir →
      Concerns files problems place
  | inside {problem : Problem} {folder : Location} (name : String) :
      problem ∈ problems → files.locate true problem.solutionsDir = .ok folder →
      Concerns files problems (folder ++ [name])

/-- The metadata paths of problems name different files, and none of these lies in a folder of
solutions. -/
structure Apart (files : FileTree) (problems : List Problem) : Prop where
  named : ∀ problem ∈ problems, ∃ place, files.locate true problem.metadataPath = .ok place
  different : problems.Pairwise fun first second => ∀ place,
    files.locate true first.metadataPath = .ok place →
      files.locate true second.metadataPath ≠ .ok place
  outside : ∀ problem ∈ problems, ∀ other ∈ problems, ∀ place folder,
    files.locate true problem.metadataPath = .ok place →
      files.locate true other.solutionsDir = .ok folder → ¬ folder <+: place

/-- In some places stands what stood there before, and paths start where they did. -/
structure Standing (places : Location → Prop) (before after : FileTree) : Prop where
  base : after.base = before.base
  lookup : ∀ place, places place → after.lookup place = before.lookup place

namespace Standing

variable {places : Location → Prop} {before between after tree written : FileTree}

theorem refl (places : Location → Prop) (tree : FileTree) : Standing places tree tree :=
  ⟨rfl, fun _ _ => rfl⟩

theorem trans (first : Standing places before between) (second : Standing places between after) :
    Standing places before after where
  base := second.base.trans first.base
  lookup := fun place among => (second.lookup place among).trans (first.lookup place among)

/-- Writing a file changes nothing but the place where it is put. -/
theorem write {path : Path} {content : Bytes} (wrote : tree.write path content = .ok written)
    (elsewhere : ∀ place, tree.locate true path = .ok place → ¬ places place) :
    Standing places tree written where
  base := FileTree.write_base wrote
  lookup := by
    intro place among
    rcases FileTree.write_eq_ok wrote with rfl | ⟨location, located, noFolder, rfl⟩
    · rfl
    · have proper : location ≠ [] := by
        rintro rfl
        exact noFolder rfl
      have apart : place ≠ location := by
        rintro rfl
        exact elsewhere place located among
      rw [FileTree.lookup_put proper, if_neg apart]

end Standing

/-- Nothing has changed in some places, nor about where paths start, and the tree is still well
formed. -/
structure Untouched (places : Location → Prop) (before after : FileTree) : Prop extends
    Standing places before after where
  wellFormed : before.WellFormed → after.WellFormed
  locked : ∀ place, places place → after.locked.lookup place = before.locked.lookup place

namespace Untouched

variable {places : Location → Prop} {before between after : FileTree}

theorem refl (places : Location → Prop) (tree : FileTree) : Untouched places tree tree :=
  ⟨.refl places tree, id, fun _ _ => rfl⟩

end Untouched

/-- Whether a problem's cache file is not there, although there is a place for it. -/
def Problem.isAbsent (files : FileTree) (problem : Problem) : Bool :=
  match files.locate true problem.metadataPath with
  | .ok place => (files.lookup place).isNone
  | .error _ => false

/-- What stands in the place of a cache file, which was empty, after the metadata has been asked
for. -/
def Problem.cached (source : Source) (problem : Problem) : Option Entry :=
  if FileTree.endsInSeparator problem.metadataPath then none
  else (source problem.name).toOption.map .file

/-- Files in the course of a run: in the places that concern the problems there is what there was at
the start, but for cache files that were fetched into empty places, and what can be listed is the same. -/
structure Filled (source : Source) (start : FileTree) (problems : List Problem)
    (files : FileTree) : Prop where
  wellFormed : files.WellFormed
  base : files.base = start.base
  lookup : ∀ place, Concerns start problems place →
    files.lookup place = start.lookup place ∨
      start.lookup place = none ∧ ∃ problem ∈ problems,
        start.locate true problem.metadataPath = .ok place ∧
          files.lookup place = problem.cached source
  locked : ∀ place, Concerns start problems place →
    files.locked.lookup place = start.locked.lookup place

variable {source : Source} {start files : FileTree} {problems : List Problem} {problem : Problem}

/-- Problems in different positions name different places. -/
theorem Apart.place_ne (apart : Apart start problems) {position other : Nat}
    (differ : position ≠ other) {first second : Problem} (here : problems[position]? = some first)
    (there : problems[other]? = some second) {place : Location}
    (located : start.locate true first.metadataPath = .ok place) :
    start.locate true second.metadataPath ≠ .ok place := by
  obtain ⟨inside, rfl⟩ := List.getElem?_eq_some_iff.mp here
  obtain ⟨otherInside, rfl⟩ := List.getElem?_eq_some_iff.mp there
  have different := List.pairwise_iff_getElem.mp apart.different
  rcases Nat.lt_or_gt_of_ne differ with before | behind
  · exact different position other inside otherInside before place located
  · exact fun same => different other position otherInside inside behind place same located

/-- Problems that name the same place are the same. -/
theorem Apart.unique (apart : Apart start problems) {other : Problem} (member : problem ∈ problems)
    (otherMember : other ∈ problems) {place : Location}
    (located : start.locate true problem.metadataPath = .ok place)
    (otherLocated : start.locate true other.metadataPath = .ok place) : problem = other := by
  obtain ⟨position, here⟩ := List.mem_iff_getElem?.mp member
  obtain ⟨otherPosition, there⟩ := List.mem_iff_getElem?.mp otherMember
  by_cases same : position = otherPosition
  · subst same
    exact Option.some.inj (here.symm.trans there)
  · exact absurd otherLocated (apart.place_ne same here there located)

theorem Problem.cached_cases (source : Source) (problem : Problem) :
    problem.cached source = none ∨ ∃ document, source problem.name = .ok document ∧
      FileTree.endsInSeparator problem.metadataPath = false ∧
      problem.cached source = some (.file document) := by
  unfold cached
  split
  · exact .inl rfl
  · next plain =>
      cases answer : source problem.name with
      | error error => exact .inl rfl
      | ok document => exact .inr ⟨document, rfl, by simpa using plain, rfl⟩

/-- What looking for a cache file finds where its path leads to. -/
theorem loadCached_eq {path : Path} {place : Location}
    (located : files.locate true path = .ok place) :
    loadCached files path =
      match files.lookup place with
      | some (.file content) => .ok (some content)
      | some (.sealed obstacle) => .error obstacle.error
      | some .folder => .error .isDirectory
      | some _ => .ok (some [])
      | none => .ok none := by
  rw [loadCached, FileTree.read_eq, located]
  simp only
  cases files.lookup place with
  | none => rfl
  | some entry =>
      cases entry with
      | sealed obstacle => cases obstacle <;> rfl
      | _ => rfl

/-- Which files there are in a folder, by name, depends on nothing but what its entries are. -/
theorem FileTree.sorted_files {left right : FileTree} (leftFormed : left.WellFormed)
    (rightFormed : right.WellFormed) {folder : Location}
    (same : ∀ name, left.lookup (folder ++ [name]) = right.lookup (folder ++ [name])) :
    (((left.children folder).filter fun (_, entry) => entry.isFile).map
        Prod.fst).mergeSort (· ≤ ·) =
      (((right.children folder).filter fun (_, entry) => entry.isFile).map
        Prod.fst).mergeSort (· ≤ ·) :=
  Text.sorted_perm (((children_perm leftFormed rightFormed same).filter _).map _)

namespace Problem

/-- A cache file is absent exactly if looking for it finds that there is none, but could be. -/
theorem isAbsent_iff {place : Location}
    (located : files.locate true problem.metadataPath = .ok place) :
    problem.isAbsent files = true ↔ loadCached files problem.metadataPath = .ok none := by
  rw [loadCached_eq located]
  simp only [isAbsent, located]
  cases files.lookup place with
  | none => simp
  | some entry => cases entry <;> simp

theorem empty_of_isAbsent {place : Location}
    (located : files.locate true problem.metadataPath = .ok place)
    (absent : problem.isAbsent files = true) : files.lookup place = none := by
  simpa [isAbsent, located] using absent

theorem listSolutions_eq (problem : Problem) (files : FileTree) :
    problem.listSolutions files =
      match files.locate true problem.solutionsDir with
      | .error error => .error (.unreadable problem.solutionsDir error)
      | .ok folder =>
          match files.lookup folder, files.locked.lookup folder with
          | some .folder, none =>
              .ok (((((files.children folder).filter fun (_, entry) => entry.isFile).map
                Prod.fst).mergeSort (· ≤ ·)).map problem.solutionsDir.join)
          | some .folder, some obstacle => .error (.unreadable problem.solutionsDir obstacle.error)
          | some _, _ => .error (.unreadable problem.solutionsDir .notDirectory)
          | none, _ => .error (.unreadable problem.solutionsDir .notFound) := by
  rw [listSolutions, FileTree.list_eq]
  cases files.locate true problem.solutionsDir with
  | error error => rfl
  | ok folder =>
      simp only
      cases files.lookup folder with
      | none => rfl
      | some entry =>
          cases entry with
          | folder => cases files.locked.lookup folder <;> rfl
          | _ => rfl

/-- A solution that is listed is a regular file directly inside the folder of solutions. -/
theorem mem_listSolutions (formed : files.WellFormed) {paths : List Path}
    (listed : problem.listSolutions files = .ok paths) {path : Path} (among : path ∈ paths) :
    ∃ folder name entry, files.locate true problem.solutionsDir = .ok folder ∧
      files.lookup folder = some .folder ∧ IsPlain name ∧
      files.lookup (folder ++ [name]) = some entry ∧ entry.isFile = true ∧
      path = problem.solutionsDir.join name := by
  rw [listSolutions_eq] at listed
  split at listed
  · cases listed
  · next folder located =>
      split at listed
      · next isFolder _ =>
          obtain rfl := Except.ok.inj listed
          obtain ⟨name, sorted, rfl⟩ := List.mem_map.mp among
          obtain ⟨⟨_, entry⟩, child, rfl⟩ := List.mem_map.mp (List.mem_mergeSort.mp sorted)
          obtain ⟨child, isFile⟩ := List.mem_filter.mp child
          exact ⟨folder, _, entry, located, isFolder, FileTree.plain_of_mem_children formed child,
            (FileTree.mem_children formed).mp child, isFile, rfl⟩
      · cases listed
      · cases listed
      · cases listed

/-- The path of a listed solution leads to the entry in the folder of solutions, or nowhere because
of how it is written. -/
theorem locate_listed (formed : files.WellFormed) {paths : List Path}
    (listed : problem.listSolutions files = .ok paths) {path : Path} (among : path ∈ paths) :
    ∃ folder name, files.locate true problem.solutionsDir = .ok folder ∧
      (files.locate true path = .ok (folder ++ [name]) ∨
        ∃ error, files.locate true path = .error error) ∧
      ∀ place ∈ files.placesOf true path,
        place ∈ files.placesOf true problem.solutionsDir ∨ place = folder ++ [name] := by
  obtain ⟨folder, name, entry, located, isFolder, plain, there, isFile, rfl⟩ :=
    mem_listSolutions formed listed among
  have noLink (target : String) : files.lookup (folder ++ [name]) ≠ some (.link target) := by
    rw [there]
    rintro ⟨⟩
    cases isFile
  obtain ⟨left, joined⟩ := FileTree.locate_join plain located isFolder
  obtain ⟨leads, places⟩ := joined true
  obtain ⟨last, lastPlaces⟩ := FileTree.walk_last true left plain noLink
  refine ⟨folder, name, located, ?_, fun place way =>
    (places place way).imp_right (lastPlaces place)⟩
  rw [leads]
  split
  · exact .inr ⟨_, rfl⟩
  · rw [last]
    split
    · exact .inr ⟨_, rfl⟩
    · exact .inl rfl

/-- What the path of a listed solution looks at concerns the problem. -/
theorem placesOf_listed (formed : files.WellFormed) (member : problem ∈ problems)
    {paths : List Path} (listed : problem.listSolutions files = .ok paths) {path : Path}
    (among : path ∈ paths) {place : Location} (way : place ∈ files.placesOf true path) :
    Concerns files problems place := by
  obtain ⟨folder, name, located, -, places⟩ := locate_listed formed listed among
  rcases places place way with before | rfl
  · exact .solutions member before
  · exact .inside name member located

end Problem

namespace Filled

/-- The files at the start. -/
theorem refl (source : Source) (problems : List Problem) (wellFormed : files.WellFormed) :
    Filled source files problems files :=
  ⟨wellFormed, rfl, fun _ _ => .inl rfl, fun _ _ => rfl⟩

/-- Whatever leaves the corpus alone leaves it filled. -/
theorem untouched (filled : Filled source start problems files) {after : FileTree}
    (same : Untouched (Concerns start problems) files after) :
    Filled source start problems after where
  wellFormed := same.wellFormed filled.wellFormed
  base := same.base.trans filled.base
  lookup := fun place concerns => by
    rw [same.lookup place concerns]
    exact filled.lookup place concerns
  locked := fun place concerns => (same.locked place concerns).trans (filled.locked place concerns)

theorem grows (filled : Filled source start problems files) {place : Location}
    (concerns : Concerns start problems place) :
    FileTree.Grows (start.lookup place) (files.lookup place) := by
  rcases filled.lookup place concerns with same | ⟨empty, problem, -, -, there⟩
  · exact .inl same
  · rcases problem.cached_cases source with none | ⟨document, -, -, file⟩
    · exact .inl (by rw [there, none, empty])
    · exact .inr ⟨empty, document, by rw [there, file]⟩

/-- The paths of the problems lead to where they led at the start. -/
theorem locate_metadata (filled : Filled source start problems files) (member : problem ∈ problems)
    (place : Location) :
    files.locate true problem.metadataPath = .ok place ↔
      start.locate true problem.metadataPath = .ok place :=
  (FileTree.locate_grows filled.base fun _ way => filled.grows (.metadata member way)).2 place

theorem locate_solutions (filled : Filled source start problems files) (member : problem ∈ problems)
    (folder : Location) :
    files.locate true problem.solutionsDir = .ok folder ↔
      start.locate true problem.solutionsDir = .ok folder :=
  (FileTree.locate_grows filled.base fun _ way => filled.grows (.solutions member way)).2 folder

/-- A problem's own cache file is as it was, or it was not there and holds what the source
answers. -/
theorem own (filled : Filled source start problems files) (apart : Apart start problems)
    (member : problem ∈ problems) {place : Location}
    (located : start.locate true problem.metadataPath = .ok place) :
    files.lookup place = start.lookup place ∨
      start.lookup place = none ∧ FileTree.endsInSeparator problem.metadataPath = false ∧
        ∃ document, source problem.name = .ok document ∧
          files.lookup place = some (.file document) := by
  rcases filled.lookup place (.metadata member (FileTree.mem_placesOf located)) with
    same | ⟨empty, other, otherMember, otherLocated, there⟩
  · exact .inl same
  · obtain rfl := apart.unique member otherMember located otherLocated
    rcases problem.cached_cases source with none | ⟨document, answer, ends, file⟩
    · exact .inl (by rw [there, none, empty])
    · exact .inr ⟨empty, ends, document, answer, by rw [there, file]⟩

/-- Nothing changes inside the folders of solutions. -/
theorem inside (filled : Filled source start problems files) (apart : Apart start problems)
    (member : problem ∈ problems) {folder : Location}
    (located : start.locate true problem.solutionsDir = .ok folder) (name : String) :
    files.lookup (folder ++ [name]) = start.lookup (folder ++ [name]) := by
  rcases filled.lookup _ (.inside name member located) with same | ⟨-, other, otherMember, there, -⟩
  · exact same
  · exact absurd (List.prefix_append folder [name])
      (apart.outside other otherMember problem member _ folder there located)

/-- The solutions of a problem are listed as they were at the start. -/
theorem listSolutions (filled : Filled source start problems files) (apart : Apart start problems)
    (formed : start.WellFormed) (member : problem ∈ problems) (paths : List Path) :
    problem.listSolutions files = .ok paths ↔ problem.listSolutions start = .ok paths := by
  rw [Problem.listSolutions_eq, Problem.listSolutions_eq]
  cases located : start.locate true problem.solutionsDir with
  | error error =>
      cases now : files.locate true problem.solutionsDir with
      | error error => simp
      | ok folder => simp [(filled.locate_solutions member folder).mp now] at located
  | ok folder =>
      rw [(filled.locate_solutions member folder).mpr located]
      simp only
      rcases filled.grows (.solutions member (FileTree.mem_placesOf located)) with
        same | ⟨empty, content, appeared⟩
      · rw [same, filled.locked folder (.solutions member (FileTree.mem_placesOf located))]
        cases there : start.lookup folder with
        | none => simp
        | some entry =>
            cases entry with
            | folder =>
                rw [FileTree.sorted_files filled.wellFormed formed
                  (filled.inside apart member located)]
            | _ => simp
      · simp [empty, appeared]

/-- A solution reads as it did at the start. -/
theorem read (filled : Filled source start problems files) (apart : Apart start problems)
    (formed : start.WellFormed) (member : problem ∈ problems) {paths : List Path}
    (listed : problem.listSolutions start = .ok paths) {path : Path} (among : path ∈ paths) :
    ∀ content, files.read path = .ok content ↔ start.read path = .ok content := by
  obtain ⟨folder, name, located, either, -⟩ := Problem.locate_listed formed listed among
  obtain ⟨-, same⟩ := FileTree.locate_grows filled.base fun place way =>
    filled.grows (Problem.placesOf_listed formed member listed among way)
  have inside := filled.inside apart member located name
  intro content
  rw [FileTree.read_eq, FileTree.read_eq]
  rcases either with found | ⟨error, lost⟩
  · rw [found, (same _).mpr found]
    simp only [inside]
  · rw [lost]
    cases now : files.locate true path with
    | error error => simp
    | ok location => simp [(same location).mp now] at lost

end Filled

end CorpusJudge
