import CorpusJudge.Proofs.Cache.Settled

/-!
# Scanning a corpus

A scan finds problems in the order of their names.  A scan from some name on therefore finds the end
of what a whole scan finds, and files that appear in the corpus in the meantime do not matter, since
only folders can be problems.
-/

namespace CorpusJudge

/-- A problem that a run reaches has a name that is not before the start in byte order. -/
theorem Resume.admits_eq (cursor : Resume) (name : String) :
    (!cursor.admits name) = decide (Bytes.ofString name < Bytes.ofString cursor.start) := by
  rw [Resume.admits, ← decide_not, decide_eq_decide, ← Text.ofString_le_iff, List.not_le]

namespace Corpus

variable (settings : Settings) (root : Path) (resume : Option Resume) (files : FileTree)

/-- The names among some that are those of problems to be looked at, in order. -/
def namesAmong (names : List String) : List String :=
  (names.mergeSort (· ≤ ·)).filter fun name =>
    selects settings resume name && isThere files (Problem.named settings root name)

theorem scan_eq :
    scan settings root resume files =
      if !files.isFolder root then .error (.missing root)
      else match files.list root with
      | .error error => .error (.unreadable root error)
      | .ok children =>
          .ok ((namesAmong settings root resume files (children.map Prod.fst)).map
            (Problem.named settings root)) := by
  unfold scan
  split
  · rfl
  · cases files.list root with
    | error error => rfl
    | ok children =>
        simp only [namesAmong, List.filter_map, List.filter_filter]
        congr 3
        funext name
        exact Bool.and_comm ..

variable {settings root resume files}

theorem namesAmong_pairwise (names : List String) :
    (namesAmong settings root resume files names).Pairwise (· ≤ ·) :=
  (Text.sorted_pairwise names).filter _

theorem namesAmong_nodup {names : List String} (nodup : names.Nodup) :
    (namesAmong settings root resume files names).Nodup :=
  List.Nodup.filter _ ((List.mergeSort_perm ..).nodup_iff.mpr nodup)

/-! ## From some name on -/

/-- Among sorted names, those that a run reaches are the last ones. -/
theorem filter_admits {names : List String} (sorted : names.Pairwise (· ≤ ·)) (cursor : Resume) :
    names.filter cursor.admits = names.dropWhile fun name => !cursor.admits name := by
  induction names with
  | nil => rfl
  | cons name rest ih =>
      obtain ⟨least, sorted⟩ := List.pairwise_cons.mp sorted
      rw [List.filter_cons, List.dropWhile_cons]
      cases admitted : cursor.admits name with
      | false => simpa using ih sorted
      | true =>
          have all : ∀ other ∈ rest, cursor.admits other = true := by
            intro other member
            simp only [Resume.admits, decide_eq_true_eq] at admitted ⊢
            exact String.le_trans admitted (least other member)
          simp [List.filter_eq_self.mpr all]

theorem namesAmong_from (cursor : Resume) (names : List String) :
    namesAmong settings root (some cursor) files names =
      (namesAmong settings root none files names).dropWhile fun name => !cursor.admits name := by
  rw [← filter_admits (namesAmong_pairwise names) cursor]
  simp only [namesAmong, List.filter_filter]
  congr 1
  funext name
  simp only [selects, Option.all_some, Option.all_none, Bool.and_true]
  cases cursor.admits name <;> simp

/-- A scan from some name on finds what a whole scan finds, less the problems in front whose names
come before that name in byte order. -/
theorem scan_from (cursor : Resume) :
    scan settings root (some cursor) files =
      (scan settings root none files).map
        (·.dropWhile fun problem =>
          decide (Bytes.ofString problem.name < Bytes.ofString cursor.start)) := by
  simp only [scan_eq]
  split
  · rfl
  · cases files.list root with
    | error error => rfl
    | ok children =>
        simp only [Except.map, List.dropWhile_map, ← Resume.admits_eq, namesAmong_from]
        rfl

/-- From the name of a problem on, that problem and those behind it are left. -/
theorem dropWhile_eq_drop {problems : List Problem} (distinct : (problems.map (·.name)).Nodup)
    (sorted : (problems.map (·.name)).Pairwise (· ≤ ·)) {position : Nat} {problem : Problem}
    (here : problems[position]? = some problem) :
    (problems.dropWhile fun other =>
      decide (Bytes.ofString other.name < Bytes.ofString problem.name)) =
      problems.drop position := by
  obtain ⟨inside, rfl⟩ := List.getElem?_eq_some_iff.mp here
  have before : ∀ other ∈ problems.take position,
      Bytes.ofString other.name < Bytes.ofString problems[position].name := by
    intro other member
    obtain ⟨earlier, within, rfl⟩ := List.mem_take_iff_getElem.mp member
    have first : earlier < position := by omega
    rw [← List.not_le, Text.ofString_le_iff]
    intro least
    have most := List.pairwise_iff_getElem.mp sorted earlier position (by simp; omega)
      (by simpa using inside) first
    rw [List.getElem_map, List.getElem_map] at most
    have same := String.le_antisymm most least
    have differ := List.pairwise_iff_getElem.mp distinct earlier position (by simp; omega)
      (by simpa using inside) first
    rw [List.getElem_map, List.getElem_map] at differ
    exact differ same
  have passed (rest : List Problem) :
      ((problems.take position ++ rest).dropWhile fun other =>
        decide (Bytes.ofString other.name < Bytes.ofString problems[position].name)) =
        rest.dropWhile _ :=
    List.dropWhile_append_of_pos fun other member => decide_eq_true (before other member)
  have whole := passed (problems.drop position)
  rw [List.take_append_drop] at whole
  rw [whole, List.drop_eq_getElem_cons inside,
    List.dropWhile_cons_of_neg (by simp [List.lt_irrefl])]

/-- The names of the problems that a scan finds are sorted and distinct. -/
theorem scan_names (formed : files.WellFormed) {problems : List Problem}
    (scanned : scan settings root resume files = .ok problems) :
    (problems.map (·.name)).Nodup ∧ (problems.map (·.name)).Pairwise (· ≤ ·) := by
  rw [scan_eq] at scanned
  split at scanned
  · cases scanned
  · cases listed : files.list root with
    | error error =>
        rw [listed] at scanned
        cases scanned
    | ok children =>
        rw [listed] at scanned
        obtain rfl := Except.ok.inj scanned
        have names (some : List String) :
            (some.map (Problem.named settings root)).map (·.name) = some := by
          rw [List.map_map]
          exact List.map_id some
        rw [names]
        refine ⟨namesAmong_nodup ?_, namesAmong_pairwise _⟩
        rw [FileTree.list_eq] at listed
        split at listed
        · cases listed
        · split at listed <;> cases listed
          exact FileTree.children_nodup formed _

/-! ## When files appear -/

/-- Whatever lies in the root of a corpus, taken for a problem. -/
def candidates (settings : Settings) (root : Path) (files : FileTree) : List Problem :=
  match files.list root with
  | .error _ => []
  | .ok children => children.map fun (name, _) => Problem.named settings root name

/-- The places that a corpus takes up: those that looking for its root, for what lies in it and for
everything about problems there looks at. -/
inductive Place (settings : Settings) (root : Path) (files : FileTree) : Location → Prop where
  | root {place : Location} :
      place ∈ files.placesOf true root → Place settings root files place
  | entry {folder : Location} (name : String) :
      files.locate true root = .ok folder → Place settings root files (folder ++ [name])
  | dir {problem : Problem} {place : Location} :
      problem ∈ candidates settings root files → place ∈ files.placesOf true problem.dir →
      Place settings root files place
  | about {place : Location} :
      Concerns files (candidates settings root files) place → Place settings root files place

/-- A scan succeeds only if the root is a folder that can be listed. -/
theorem scan_ok {problems : List Problem}
    (scanned : scan settings root resume files = .ok problems) :
    ∃ folder, files.locate true root = .ok folder ∧ files.lookup folder = some .folder ∧
      files.locked.lookup folder = none ∧
      problems = (namesAmong settings root resume files
        ((files.children folder).map Prod.fst)).map (Problem.named settings root) := by
  rw [scan_eq, FileTree.list_eq] at scanned
  split at scanned
  · cases scanned
  · cases located : files.locate true root with
    | error error =>
        rw [located] at scanned
        cases scanned
    | ok folder =>
        rw [located] at scanned
        simp only at scanned
        split at scanned
        · cases scanned
        · next listed =>
            split at listed <;> cases listed
            next there unlocked =>
              exact ⟨folder, rfl, there, unlocked, (Except.ok.inj scanned).symm⟩

theorem scan_folder {folder : Location} (located : files.locate true root = .ok folder)
    (there : files.lookup folder = some .folder) (unlocked : files.locked.lookup folder = none) :
    scan settings root resume files =
      .ok ((namesAmong settings root resume files ((files.children folder).map Prod.fst)).map
        (Problem.named settings root)) := by
  simp [scan_eq, FileTree.isFolder_eq, FileTree.list_eq, located, there, unlocked]

/-- A scan of a folder that cannot be listed fails because of what is in the way. -/
theorem scan_locked {folder : Location} {obstacle : Obstacle}
    (located : files.locate true root = .ok folder) (there : files.lookup folder = some .folder)
    (locked : files.locked.lookup folder = some obstacle) :
    scan settings root resume files = .error (.unreadable root obstacle.error) := by
  simp [scan_eq, FileTree.isFolder_eq, FileTree.list_eq, located, there, locked]

theorem scan_missing (noFolder : files.isFolder root = false) :
    scan settings root resume files = .error (.missing root) := by
  simp [scan, noFolder]

theorem scan_subset {problems : List Problem}
    (scanned : scan settings root resume files = .ok problems) :
    problems ⊆ candidates settings root files := by
  obtain ⟨folder, located, there, unlocked, rfl⟩ := scan_ok scanned
  intro problem member
  obtain ⟨name, among, rfl⟩ := List.mem_map.mp member
  have sorted := (List.mem_filter.mp among).1
  obtain ⟨child, inside, rfl⟩ := List.mem_map.mp (List.mem_mergeSort.mp sorted)
  rw [candidates, FileTree.list_eq, located]
  simp only [there, unlocked]
  exact List.mem_map.mpr ⟨child, inside, rfl⟩

/-- What is no folder is no problem. -/
theorem not_isThere (formed : files.WellFormed) {folder : Location} {name : String}
    {content : Bytes} (located : files.locate true root = .ok folder)
    (isFolder : files.lookup folder = some .folder)
    (file : files.lookup (folder ++ [name]) = some (.file content)) :
    isThere files (Problem.named settings root name) = false := by
  have plain := FileTree.plain_of_mem_children formed ((FileTree.mem_children formed).mpr file)
  obtain ⟨left, joined⟩ := FileTree.locate_join plain located isFolder
  have noLink (target : String) : files.lookup (folder ++ [name]) ≠ some (.link target) := by
    simp [file]
  obtain ⟨last, -⟩ := FileTree.walk_last true left plain noLink
  have noFolder : files.isFolder (root.join name) = false := by
    rw [FileTree.isFolder_eq, (joined true).1, last]
    split
    · rfl
    · next place found =>
        split at found
        · cases found
        · split at found
          · cases found
          · obtain rfl := Except.ok.inj found
            simp [file]
  simp [isThere, Problem.named, Problem.inDir, noFolder]

/-- Files that appear in a corpus are no new problems, and the old ones are still there. -/
theorem scan_grows {before after : FileTree} (formed : before.WellFormed)
    (laterFormed : after.WellFormed) (base : after.base = before.base)
    (grows : ∀ place, Place settings root before place →
      FileTree.Grows (before.lookup place) (after.lookup place))
    (locked : ∀ place, Place settings root before place →
      after.locked.lookup place = before.locked.lookup place) {problems : List Problem}
    (scanned : scan settings root resume before = .ok problems) :
    scan settings root resume after = .ok problems := by
  obtain ⟨folder, located, there, unlocked, rfl⟩ := scan_ok scanned
  have still := ((FileTree.locate_grows base fun place way => grows place (.root way)).2 folder).mpr
    located
  have thereStill : after.lookup folder = some .folder := by
    rcases grows folder (.root (FileTree.mem_placesOf located)) with same | ⟨empty, -⟩
    · rw [same, there]
    · simp [there] at empty
  have unlockedStill : after.locked.lookup folder = none := by
    rw [locked folder (.root (FileTree.mem_placesOf located)), unlocked]
  rw [scan_folder still thereStill unlockedStill]
  have candidate {name : String} {entry : Entry}
      (child : (name, entry) ∈ before.children folder) :
      Problem.named settings root name ∈ candidates settings root before := by
    rw [candidates, FileTree.list_eq, located]
    simp only [there, unlocked]
    exact List.mem_map.mpr ⟨_, child, rfl⟩
  have unchanged {name : String} {entry : Entry}
      (child : (name, entry) ∈ before.children folder) :
      isThere after (Problem.named settings root name) =
        isThere before (Problem.named settings root name) := by
    have member := candidate child
    rw [isThere, isThere,
      FileTree.isFolder_grows base fun place way => grows place (.dir member way),
      FileTree.isFolder_grows base fun place way => grows place (.about (.solutions member way))]
  congr 2
  refine Text.eq_of_perm_sorted (namesAmong_pairwise _) (namesAmong_pairwise _)
    ((List.perm_ext_iff_of_nodup (namesAmong_nodup (FileTree.children_nodup laterFormed folder))
      (namesAmong_nodup (FileTree.children_nodup formed folder))).mpr fun name => ?_)
  simp only [namesAmong, List.mem_filter, List.mem_mergeSort, Bool.and_eq_true, List.mem_map]
  constructor
  · rintro ⟨⟨⟨_, entry⟩, child, rfl⟩, selected, found⟩
    have now := (FileTree.mem_children laterFormed).mp child
    rcases grows _ (.entry _ located) with same | ⟨-, content, appeared⟩
    · have child := (FileTree.mem_children formed).mpr (same ▸ now)
      exact ⟨⟨_, child, rfl⟩, selected, unchanged child ▸ found⟩
    · rw [not_isThere laterFormed still thereStill appeared] at found
      cases found
  · rintro ⟨⟨⟨_, entry⟩, child, rfl⟩, selected, found⟩
    have begun := (FileTree.mem_children formed).mp child
    rcases grows _ (.entry _ located) with same | ⟨empty, -⟩
    · exact ⟨⟨_, (FileTree.mem_children laterFormed).mpr (same.trans begun), rfl⟩, selected,
        (unchanged child).symm ▸ found⟩
    · rw [begun] at empty
      cases empty

/-- A scan of the sample corpus finds the sample problems. -/
theorem scan_sample : scan .standard ⟨"problems"⟩ none .sample = .ok Problem.samples := by
  have children : (FileTree.sample.children ["problems"]).map Prod.fst = ["Double", "Echo"] := by
    decide +kernel
  have sorted : ["Double", "Echo"].Pairwise fun one other => decide (one ≤ other) = true := by
    decide +kernel
  have selected : ∀ name ∈ ["Double", "Echo"], selects .standard none name = true := by
    decide +kernel
  have there : ∀ name ∈ ["Double", "Echo"],
      isThere .sample (Problem.named .standard ⟨"problems"⟩ name) = true := by
    intro name listed
    obtain ⟨leads, isFolder⟩ := FileTree.sample_folder listed
    have solutions : FileTree.sample.locate true
        (Problem.named .standard ⟨"problems"⟩ name).solutionsDir = .ok ["problems", name, "gs"] :=
      FileTree.sample_child listed (.head _)
    have inside : ∀ name ∈ ["Double", "Echo"],
        FileTree.sample.lookup ["problems", name, "gs"] = some .folder := by decide +kernel
    simp only [isThere, FileTree.isFolder_eq, solutions, inside name listed]
    simp [Problem.named, Problem.inDir, leads, isFolder]
  rw [scan_folder FileTree.sample_root rfl rfl, children, namesAmong, List.mergeSort_of_pairwise sorted,
    List.filter_eq_self.mpr fun name listed => by rw [selected name listed, there name listed]; rfl]
  rfl

end Corpus

end CorpusJudge
