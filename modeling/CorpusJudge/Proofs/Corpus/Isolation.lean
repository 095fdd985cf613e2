import CorpusJudge.Proofs.Corpus.Scan
import CorpusJudge.Proofs.Files.Components

/-!
# Isolation of problems

Every problem has its solutions and its cache file to itself if the configured names lead further
into the folders of the problems.  Settings with other names have no fault, though: a name that starts
at the root makes all problems share one path, and one that steps back, or takes no step at all, leaves
the folder of the problem or stays at it.
-/

namespace CorpusJudge

/-- Whether problems are apart on disk, as their paths are written: each has its solutions and its
metadata inside its own folder, and no two of them share either path. -/
structure Problem.Isolated (problems : List Problem) : Prop where
  metadata : ∀ one ∈ problems, ∀ other ∈ problems, one ≠ other →
    one.metadataPath.components ≠ other.metadataPath.components
  solutions : ∀ one ∈ problems, ∀ other ∈ problems, one ≠ other →
    one.solutionsDir.components ≠ other.solutionsDir.components
  inside : ∀ problem ∈ problems,
    problem.dir.Inside problem.metadataPath ∧ problem.dir.Inside problem.solutionsDir

/-- Whether the configured names lead further into the folder of a problem. -/
structure Settings.Nest (settings : Settings) : Prop where
  metadata : Path.Nested settings.metadataFile
  solutions : Path.Nested settings.solutionsSubdir

namespace Problem

variable {settings : Settings} {root : Path} {name other : String}

theorem named_dir_notEmpty (plain : IsPlain name) (notEmpty : root.text ≠ "") :
    (named settings root name).dir.text ≠ "" :=
  Path.join_notEmpty plain.relative notEmpty

theorem named_dir_components (plain : IsPlain name) (notEmpty : root.text ≠ "") :
    (named settings root name).dir.components = root.components ++ [.name name] := by
  rw [← Path.onward_of_plain plain]
  exact Path.components_join plain.relative notEmpty

theorem named_dir_ne (plain : IsPlain name) (otherPlain : IsPlain other)
    (notEmpty : root.text ≠ "") (differ : named settings root name ≠ named settings root other) :
    (named settings root name).dir.components ≠ (named settings root other).dir.components := by
  rw [named_dir_components plain notEmpty, named_dir_components otherPlain notEmpty]
  intro same
  have names : name = other := by simpa using same
  exact differ (by rw [names])

end Problem

namespace Corpus

variable {settings : Settings} {root : Path} {resume : Option Resume} {files : FileTree}
variable {problems : List Problem}

/-- The problems that a scan finds are named by entries of a folder with some path. -/
theorem of_mem_scan (formed : files.WellFormed)
    (scanned : scan settings root resume files = .ok problems) {problem : Problem}
    (member : problem ∈ problems) :
    root.text ≠ "" ∧ ∃ name, IsPlain name ∧ problem = Problem.named settings root name := by
  obtain ⟨folder, located, -, -, rfl⟩ := scan_ok scanned
  refine ⟨FileTree.notEmpty_of_locate located, ?_⟩
  obtain ⟨name, among, rfl⟩ := List.mem_map.mp member
  have child := List.mem_mergeSort.mp (List.mem_filter.mp among).1
  obtain ⟨⟨name, entry⟩, inside, rfl⟩ := List.mem_map.mp child
  exact ⟨name, FileTree.plain_of_mem_children formed inside, rfl⟩

/-- What lies under one configured name, for all problems that a scan finds: it lies inside the
folder of each problem if the name leads further into it, and a name that does not start at the root
lies there only then.  Different problems share it exactly if the name starts at the root. -/
theorem scan_join (formed : files.WellFormed)
    (scanned : scan settings root resume files = .ok problems) (component : String) :
    (∀ problem ∈ problems, (Path.mk component).isAbsolute = false →
      (problem.dir.Inside (problem.dir.join component) ↔ Path.Nested component)) ∧
    ∀ one ∈ problems, ∀ other ∈ problems, one ≠ other →
      ((one.dir.join component).components = (other.dir.join component).components ↔
        (Path.mk component).isAbsolute = true) := by
  constructor
  · intro problem member relative
    obtain ⟨notEmpty, name, plain, rfl⟩ := of_mem_scan formed scanned member
    exact Path.inside_join_iff relative (Problem.named_dir_notEmpty plain notEmpty)
  · intro one member other otherMember differ
    obtain ⟨notEmpty, name, plain, rfl⟩ := of_mem_scan formed scanned member
    obtain ⟨-, otherName, otherPlain, rfl⟩ := of_mem_scan formed scanned otherMember
    exact Path.join_components_eq_iff (Problem.named_dir_notEmpty plain notEmpty)
      (Problem.named_dir_notEmpty otherPlain notEmpty)
      (Problem.named_dir_ne plain otherPlain notEmpty differ)

/-- The paths of a problem that a scan finds are the configured names, joined to its folder. -/
theorem scan_paths (formed : files.WellFormed)
    (scanned : scan settings root resume files = .ok problems) {problem : Problem}
    (member : problem ∈ problems) :
    problem.metadataPath = problem.dir.join settings.metadataFile ∧
      problem.solutionsDir = problem.dir.join settings.solutionsSubdir := by
  obtain ⟨-, name, -, rfl⟩ := of_mem_scan formed scanned member
  exact ⟨rfl, rfl⟩

/-- The problems that a scan finds are apart from each other if the configured names lead further
into their folders.  As soon as it finds two problems, they are apart only then. -/
theorem scan_isolated (settings : Settings) (root : Path) (resume : Option Resume)
    (files : FileTree) (formed : files.WellFormed) (problems : List Problem)
    (scanned : scan settings root resume files = .ok problems) :
    (settings.Nest → Problem.Isolated problems) ∧
    ((∃ one ∈ problems, ∃ other ∈ problems, one ≠ other) →
      Problem.Isolated problems → settings.Nest) := by
  have paths {problem : Problem} (member : problem ∈ problems) :=
    scan_paths formed scanned member
  obtain ⟨insideMetadata, sharedMetadata⟩ := scan_join formed scanned settings.metadataFile
  obtain ⟨insideSolutions, sharedSolutions⟩ := scan_join formed scanned settings.solutionsSubdir
  constructor
  · rintro ⟨metadata, solutions⟩
    refine ⟨fun one member other otherMember differ same => ?_,
      fun one member other otherMember differ same => ?_, fun problem member => ?_⟩
    · rw [(paths member).1, (paths otherMember).1] at same
      have absolute := (sharedMetadata one member other otherMember differ).mp same
      simp [metadata.relative] at absolute
    · rw [(paths member).2, (paths otherMember).2] at same
      have absolute := (sharedSolutions one member other otherMember differ).mp same
      simp [solutions.relative] at absolute
    · rw [(paths member).1, (paths member).2]
      exact ⟨(insideMetadata problem member metadata.relative).mpr metadata,
        (insideSolutions problem member solutions.relative).mpr solutions⟩
  · rintro ⟨one, member, other, otherMember, differ⟩ isolated
    obtain ⟨metadata, solutions⟩ := isolated.inside one member
    have metadataApart := isolated.metadata one member other otherMember differ
    have solutionsApart := isolated.solutions one member other otherMember differ
    rw [(paths member).1] at metadata metadataApart
    rw [(paths member).2] at solutions solutionsApart
    rw [(paths otherMember).1, ne_eq, sharedMetadata one member other otherMember differ,
      Bool.not_eq_true] at metadataApart
    rw [(paths otherMember).2, ne_eq, sharedSolutions one member other otherMember differ,
      Bool.not_eq_true] at solutionsApart
    exact ⟨(insideMetadata one member metadataApart).mp metadata,
      (insideSolutions one member solutionsApart).mp solutions⟩

/-- The problems of the sample tree are apart. -/
theorem scan_isolated_sample :
    scan .standard ⟨"problems"⟩ none .sample = .ok Problem.samples ∧
      Problem.Isolated Problem.samples := by
  have nest : Settings.standard.Nest := ⟨by decide +kernel, by decide +kernel⟩
  exact ⟨scan_sample, (scan_isolated .standard ⟨"problems"⟩ none .sample
    FileTree.sample_wellFormed Problem.samples scan_sample).1 nest⟩

/-- How the cache files are called does not matter for which problems a scan finds. -/
theorem scan_metadataFile (settings : Settings) (root : Path) (resume : Option Resume)
    (files : FileTree) (component : String) :
    scan { settings with metadataFile := component } root resume files =
      (scan settings root resume files).map
        (·.map fun problem => { problem with metadataPath := problem.dir.join component }) := by
  simp only [scan_eq]
  split
  · rfl
  · cases files.list root with
    | error error => rfl
    | ok children =>
        simp only [Except.map, List.map_map]
        rfl

/-- Settings whose cache files start at the root have no fault, and yet the problems of the sample
tree share one cache file then, which lies in the folder of neither. -/
theorem scan_shares_absolute :
    let settings : Settings := { Settings.standard with metadataFile := "/shared.json" }
    settings.validate = .ok settings ∧
      ∃ one other : Problem, scan settings ⟨"problems"⟩ none .sample = .ok [one, other] ∧
        one ≠ other ∧ one.metadataPath = other.metadataPath ∧
        ¬one.dir.Inside one.metadataPath ∧ ¬other.dir.Inside other.metadataPath := by
  intro settings
  have scanned := scan_metadataFile .standard ⟨"problems"⟩ none .sample "/shared.json"
  rw [scan_sample] at scanned
  have shared : Path.components ⟨"/shared.json"⟩ = [.root, .name "shared.json"] := by
    decide +kernel
  -- where the folder of a problem starts, its shared path does not
  have outside (name : String) (relative : Path.components (Path.join ⟨"problems"⟩ name) =
      [.name "problems", .name name]) :
      ¬(Path.join ⟨"problems"⟩ name).Inside ⟨"/shared.json"⟩ := by
    rintro ⟨names, -, same⟩
    rw [shared, relative] at same
    cases same
  exact ⟨rfl, _, _, scanned, by decide +kernel, rfl, outside "Double" (by decide +kernel),
    outside "Echo" (by decide +kernel)⟩

end Corpus

end CorpusJudge
