import CorpusJudge.Proofs.Corpus.Scan
import CorpusJudge.Proofs.Files.Enumerating

/-!
# What scans and listings find

A scan finds every problem whose name is not left out and whose folders are there, and nothing else; a
listing finds every regular file among the solutions of a problem.  Both are in strictly increasing
byte order of names, and so the order in which folders are enumerated makes no difference.
-/

namespace CorpusJudge

/-- The last name of a path is the one that was joined to it. -/
theorem Path.fileName?_join {dir : Path} {name : String} (plain : IsPlain name)
    (notEmpty : dir.text ≠ "") : (dir.join name).fileName? = some name := by
  obtain ⟨front, -, joined, -⟩ := join_segments plain notEmpty
  have idle : isIdle name = false := by
    simp [isIdle, plain.notEmpty, plain.notDot]
  have last : (dir.join name).segments.reverse.dropWhile isIdle =
      name :: (front.map String.ofList).reverse := by
    simp [segments, joined, idle]
  have notDots := plain.notDots
  simp only [fileName?, lastSegment?, last]
  rfl

/-! ## Folders that paths lead into -/

namespace FileTree

variable {tree : FileTree} {path dir : Path} {folder : Location} {name : String} {entry : Entry}

/-- The path leads to a folder in that place, be it through links. -/
structure LeadsInto (tree : FileTree) (path : Path) (folder : Location) : Prop where
  leads : tree.locate true path = .ok folder
  isFolder : tree.lookup folder = some .folder

/-- The path leads to a folder in that place, which can be listed. -/
structure OpensInto (tree : FileTree) (path : Path) (folder : Location) : Prop extends
    LeadsInto tree path folder where
  unlocked : tree.locked.lookup folder = none

theorem isFolder_iff_leadsInto :
    tree.isFolder path = true ↔ ∃ folder, tree.LeadsInto path folder := by
  rw [isFolder_eq]
  constructor
  · intro found
    split at found
    · cases found
    · next folder leads => exact ⟨folder, leads, by simpa using found⟩
  · rintro ⟨folder, leads, isFolder⟩
    simp [leads, isFolder]

/-- The operating system takes a name and the path that it makes: neither is too long, and nothing is
wrong with the text. -/
structure Accepts (path : Path) (name : String) : Prop where
  sound : faultOf path = none
  short : isTooLong name = false

/-- An entry of a folder that is no link is found there under its own path, if that can be asked for. -/
theorem leadsInto_child (plain : IsPlain name) (into : tree.LeadsInto dir folder)
    (there : tree.lookup (folder ++ [name]) = some entry) (noLink : entry.isLink = false) :
    (∃ place, tree.LeadsInto (dir.join name) place) ↔
      entry = .folder ∧ Accepts (dir.join name) name := by
  have goesNowhere (target : String) : tree.lookup (folder ++ [name]) ≠ some (.link target) := by
    intro link
    obtain rfl := Option.some.inj (there.symm.trans link)
    cases noLink
  obtain ⟨left, joined⟩ := locate_join plain into.leads into.isFolder
  obtain ⟨last, -⟩ := walk_last true left plain goesNowhere
  constructor
  · rintro ⟨place, leads, isFolder⟩
    rw [(joined true).1] at leads
    split at leads
    · cases leads
    · next sound =>
        rw [last] at leads
        split at leads
        · cases leads
        · next short =>
            obtain rfl := Except.ok.inj leads
            exact ⟨Option.some.inj (there.symm.trans isFolder), sound, by simpa using short⟩
  · rintro ⟨rfl, sound, short⟩
    exact ⟨folder ++ [name],
      locate_child plain into.leads into.isFolder sound short goesNowhere, there⟩

end FileTree

/-! ## Listings -/

/-- The file name of a path comes before that of another one in byte order. -/
def Path.Precedes (one other : Path) : Prop :=
  ∃ first ∈ one.fileName?, ∃ second ∈ other.fileName?,
    Bytes.ofString first < Bytes.ofString second

namespace Problem

variable {problem : Problem} {files : FileTree} {folder : Location}

/-- A regular file with that name lies in the folder of the problem's solutions, under that path. -/
structure Offers (problem : Problem) (files : FileTree) (folder : Location) (name : String)
    (path : Path) : Prop where
  file : ∃ entry, files.lookup (folder ++ [name]) = some entry ∧ entry.isFile = true
  path : path = problem.solutionsDir.join name

/-- The regular files in a folder, by name. -/
def filesIn (files : FileTree) (folder : Location) : List String :=
  (((files.children folder).filter fun (_, entry) => entry.isFile).map Prod.fst).mergeSort (· ≤ ·)

theorem mem_filesIn (formed : files.WellFormed) {name : String} :
    name ∈ filesIn files folder ↔
      ∃ entry, files.lookup (folder ++ [name]) = some entry ∧ entry.isFile = true := by
  simp only [filesIn, List.mem_mergeSort, List.mem_map, List.mem_filter]
  constructor
  · rintro ⟨⟨_, entry⟩, ⟨child, isFile⟩, rfl⟩
    exact ⟨entry, (FileTree.mem_children formed).mp child, isFile⟩
  · rintro ⟨entry, there, isFile⟩
    exact ⟨(name, entry), ⟨(FileTree.mem_children formed).mpr there, isFile⟩, rfl⟩

theorem plain_of_mem_filesIn (formed : files.WellFormed) {name : String}
    (member : name ∈ filesIn files folder) : IsPlain name := by
  obtain ⟨entry, there, -⟩ := (mem_filesIn formed).mp member
  exact FileTree.plain_of_mem_children formed ((FileTree.mem_children formed).mpr there)

theorem filesIn_increasing (formed : files.WellFormed) (folder : Location) :
    (filesIn files folder).Pairwise fun one other =>
      Bytes.ofString one < Bytes.ofString other := by
  apply Text.increasing_of_sorted (Text.sorted_pairwise _)
  apply (List.mergeSort_perm ..).nodup_iff.mpr
  exact (FileTree.children_nodup formed folder).sublist (List.filter_sublist.map Prod.fst)

/-- A listing of a folder succeeds, with the files that lie there. -/
theorem listSolutions_of_opensInto (into : files.OpensInto problem.solutionsDir folder) :
    problem.listSolutions files = .ok ((filesIn files folder).map problem.solutionsDir.join) := by
  rw [listSolutions_eq, into.leads]
  simp only [into.isFolder, into.unlocked, filesIn]

theorem mem_listing (formed : files.WellFormed) {path : Path} :
    path ∈ (filesIn files folder).map problem.solutionsDir.join ↔
      ∃ name, problem.Offers files folder name path := by
  rw [List.mem_map]
  constructor
  · rintro ⟨name, member, rfl⟩
    exact ⟨name, (mem_filesIn formed).mp member, rfl⟩
  · rintro ⟨name, file, rfl⟩
    exact ⟨name, (mem_filesIn formed).mpr file, rfl⟩

theorem listing_precedes (formed : files.WellFormed)
    (into : files.LeadsInto problem.solutionsDir folder) :
    ((filesIn files folder).map problem.solutionsDir.join).Pairwise Path.Precedes := by
  have notEmpty := FileTree.notEmpty_of_locate into.leads
  rw [List.pairwise_map]
  apply (filesIn_increasing formed folder).imp_of_mem
  intro one other member otherMember before
  have named {name : String} (member : name ∈ filesIn files folder) :
      (problem.solutionsDir.join name).fileName? = some name :=
    Path.fileName?_join (plain_of_mem_filesIn formed member) notEmpty
  exact ⟨one, named member, other, named otherMember, before⟩

/-- Trees in which the same things stand give the same listing, in whatever order they keep them. -/
theorem listSolutions_congr {other : FileTree} (formed : files.WellFormed)
    (otherFormed : other.WellFormed) (base : other.base = files.base)
    (locked : other.locked = files.locked)
    (same : ∀ place, other.lookup place = files.lookup place) :
    problem.listSolutions other = problem.listSolutions files := by
  rw [listSolutions_eq, listSolutions_eq, FileTree.locate_congr base fun place _ => same place]
  cases files.locate true problem.solutionsDir with
  | error error => rfl
  | ok folder =>
      simp only [same folder, locked]
      rw [FileTree.sorted_files otherFormed formed fun name => same (folder ++ [name])]

end Problem

/-! ## Scans -/

namespace Corpus

variable {settings : Settings} {root : Path} {resume : Option Resume} {files : FileTree}
variable {folder : Location}

/-- A name is not left out, be it as it is or in lower case, and not before the start of the run in byte
order. -/
structure Selects (settings : Settings) (resume : Option Resume) (name : String) : Prop where
  exact : name ∉ settings.exclusions.exact
  caseless : ∀ other ∈ settings.exclusions.caseless, Text.lowercase other ≠ Text.lowercase name
  reached : ∀ cursor ∈ resume, Bytes.ofString cursor.start ≤ Bytes.ofString name

/-- What lies in the root of a corpus under a name is a problem: the name is selected, and it is a folder
with a folder of solutions. -/
structure Finds (settings : Settings) (root : Path) (resume : Option Resume) (files : FileTree)
    (folder : Location) (name : String) : Prop where
  there : ∃ entry, files.lookup (folder ++ [name]) = some entry
  selected : Selects settings resume name
  dir : ∃ place, files.LeadsInto (root.join name) place
  solutions : ∃ place, files.LeadsInto ((root.join name).join settings.solutionsSubdir) place

theorem selects_iff {name : String} :
    selects settings resume name = true ↔ Selects settings resume name := by
  have reached : resume.all (·.admits name) = true ↔
      ∀ cursor ∈ resume, Bytes.ofString cursor.start ≤ Bytes.ofString name := by
    cases resume <;> simp [Resume.admits, Text.ofString_le_iff]
  have kept : (!settings.exclusions.excludes name) = true ↔ name ∉ settings.exclusions.exact ∧
      ∀ other ∈ settings.exclusions.caseless, Text.lowercase other ≠ Text.lowercase name := by
    simp [Exclusions.excludes]
  rw [selects, Bool.and_eq_true, kept, reached]
  constructor
  · rintro ⟨⟨exact, caseless⟩, reached⟩
    exact ⟨exact, caseless, reached⟩
  · rintro ⟨exact, caseless, reached⟩
    exact ⟨⟨exact, caseless⟩, reached⟩

theorem isThere_iff {problem : Problem} : isThere files problem = true ↔
    (∃ place, files.LeadsInto problem.dir place) ∧
      ∃ place, files.LeadsInto problem.solutionsDir place := by
  rw [isThere, Bool.and_eq_true, FileTree.isFolder_iff_leadsInto, FileTree.isFolder_iff_leadsInto]

theorem mem_namesAmong (formed : files.WellFormed) {name : String} :
    name ∈ namesAmong settings root resume files ((files.children folder).map Prod.fst) ↔
      Finds settings root resume files folder name := by
  have there : name ∈ (files.children folder).map Prod.fst ↔
      ∃ entry, files.lookup (folder ++ [name]) = some entry := by
    simp [FileTree.mem_children formed]
  rw [namesAmong, List.mem_filter, List.mem_mergeSort, Bool.and_eq_true, there, selects_iff,
    isThere_iff]
  constructor
  · rintro ⟨there, selected, dir, solutions⟩
    exact ⟨there, selected, dir, solutions⟩
  · rintro ⟨there, selected, dir, solutions⟩
    exact ⟨there, selected, dir, solutions⟩

/-- Trees in which the same things stand give the same scan, in whatever order they keep them. -/
theorem scan_congr {other : FileTree} (formed : files.WellFormed) (otherFormed : other.WellFormed)
    (base : other.base = files.base) (locked : other.locked = files.locked)
    (same : ∀ place, other.lookup place = files.lookup place) :
    scan settings root resume other = scan settings root resume files := by
  have leads : other.locate true root = files.locate true root :=
    FileTree.locate_congr base fun place _ => same place
  cases isFolder : files.isFolder root with
  | true =>
      obtain ⟨folder, into⟩ := FileTree.isFolder_iff_leadsInto.1 isFolder
      cases lock : files.locked.lookup folder with
      | none =>
          rw [scan_folder into.leads into.isFolder lock]
          exact scan_grows formed otherFormed base (fun place _ => .inl (same place))
            (fun _ _ => locked ▸ rfl) (scan_folder into.leads into.isFolder lock)
      | some obstacle =>
          rw [scan_locked into.leads into.isFolder lock, scan_locked (leads.trans into.leads)
            ((same folder).trans into.isFolder) (locked ▸ lock)]
  | false =>
      have still : other.isFolder root = false := by
        rw [← isFolder, FileTree.isFolder, FileTree.isFolder,
          FileTree.find_congr base fun place _ => same place]
      rw [scan_missing isFolder, scan_missing still]

/-- A scan of a folder that can be listed finds exactly the problems in it that are selected, and a
listing exactly the regular files among the solutions of a problem, both in strictly increasing byte
order of names.  A link is a problem if it leads to one; whatever else lies in the root is a problem
only if it is a folder.  In whatever order the entries of the folders are enumerated, what is found is
the same. -/
theorem scan_exactly (settings : Settings) (root : Path) (resume : Option Resume)
    (files : FileTree) (formed : files.WellFormed) :
    (∀ folder, files.OpensInto root folder →
      ∃ problems, scan settings root resume files = .ok problems ∧
        (∀ problem, problem ∈ problems ↔ ∃ name,
          Finds settings root resume files folder name ∧
            problem = Problem.named settings root name) ∧
        (problems.Pairwise fun one other =>
          Bytes.ofString one.name < Bytes.ofString other.name) ∧
        ∀ name entry, files.lookup (folder ++ [name]) = some entry → entry.isLink = false →
          ((∃ place, files.LeadsInto (root.join name) place) ↔
            entry = .folder ∧ FileTree.Accepts (root.join name) name)) ∧
    (∀ (problem : Problem) folder, files.OpensInto problem.solutionsDir folder →
      ∃ paths, problem.listSolutions files = .ok paths ∧
        (∀ path, path ∈ paths ↔ ∃ name, problem.Offers files folder name path) ∧
        paths.Pairwise Path.Precedes) ∧
    ∀ order, files.Enumerates order →
      (∀ folder, (files.enumerated order).children folder = order folder) ∧
        scan settings root resume (files.enumerated order) = scan settings root resume files ∧
        ∀ problem : Problem,
          problem.listSolutions (files.enumerated order) = problem.listSolutions files := by
  constructor
  · intro folder into
    refine ⟨_, scan_folder into.leads into.isFolder into.unlocked, ?_, ?_, ?_⟩
    · intro problem
      simp only [List.mem_map, mem_namesAmong formed, eq_comm]
    · rw [List.pairwise_map]
      exact Text.increasing_of_sorted (namesAmong_pairwise _)
        (namesAmong_nodup (FileTree.children_nodup formed folder))
    · intro name entry there noLink
      have child := (FileTree.mem_children formed).mpr there
      exact FileTree.leadsInto_child (FileTree.plain_of_mem_children formed child) into.toLeadsInto
        there noLink
  constructor
  · intro problem folder into
    exact ⟨_, Problem.listSolutions_of_opensInto into, fun _ => Problem.mem_listing formed,
      Problem.listing_precedes formed into.toLeadsInto⟩
  · intro order enumerates
    have otherFormed := FileTree.enumerated_wellFormed formed enumerates
    have same := FileTree.lookup_enumerated formed enumerates
    exact ⟨FileTree.children_enumerated formed enumerates,
      scan_congr formed otherFormed rfl rfl same,
      fun _ => Problem.listSolutions_congr formed otherFormed rfl rfl same⟩

/-- With its folders enumerated backwards, the sample corpus still has its problems in order. -/
theorem scan_exactly_sample :
    let backwards := FileTree.sample.enumerated fun folder =>
      (FileTree.sample.children folder).reverse
    (backwards.children ["problems"]).map Prod.fst = ["Echo", "Double"] ∧
      scan .standard ⟨"problems"⟩ none backwards = .ok Problem.samples ∧
      Problem.samples.Pairwise fun one other =>
        Bytes.ofString one.name < Bytes.ofString other.name := by
  intro backwards
  obtain ⟨scans, -, orders⟩ :=
    scan_exactly .standard ⟨"problems"⟩ none .sample FileTree.sample_wellFormed
  obtain ⟨children, same, -⟩ := orders _ fun folder => List.reverse_perm _
  obtain ⟨problems, scanned, -, increasing, -⟩ :=
    scans ["problems"] ⟨⟨FileTree.sample_root, rfl⟩, rfl⟩
  obtain rfl := Except.ok.inj (scan_sample.symm.trans scanned)
  refine ⟨?_, same.trans scanned, increasing⟩
  rw [children ["problems"], List.map_reverse]
  decide +kernel

end Corpus

end CorpusJudge
