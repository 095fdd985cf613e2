import CorpusJudge.Proofs.Files.Naming

/-!
# Components of paths

Without a look at any files, a path is a row of components: a mark of where it starts, if it says so,
and one component for every segment that is not idle.  A path lies inside a folder as it is written
when names follow the components of the folder.  Whether joining a text to a folder leads inside
depends on that text alone.
-/

namespace CorpusJudge.Path

/-- What a path is made of: the root or the current folder at its start, steps back, and names. -/
inductive Component where
  | root
  | here
  | back
  | name (name : String)
  deriving DecidableEq, Repr

/-- The component that a segment stands for, unless it is idle. -/
def component? (segment : String) : Option Component :=
  if isIdle segment then none
  else if segment = ".." then some .back
  else some (.name segment)

/-- The components that the segments of a path stand for. -/
def onward (path : Path) : List Component :=
  path.segments.filterMap component?

/-- The component that says where a path starts, if it does not start with a step. -/
def origin (path : Path) : List Component :=
  if path.isAbsolute then [.root]
  else if path.segments.head? = some "." then [.here]
  else []

/-- The components of a path.  Paths with the same components are the same path. -/
def components (path : Path) : List Component :=
  path.origin ++ path.onward

/-- Whether a path lies inside a folder as it is written: one or more names follow the components of
the folder. -/
def Inside (dir path : Path) : Prop :=
  ∃ names : List String, names ≠ [] ∧ path.components = dir.components ++ names.map .name

/-- Whether a text leads further into whatever folder it is joined to: it does not start at the root,
takes no step back, and takes some step. -/
structure Nested (component : String) : Prop where
  relative : (Path.mk component).isAbsolute = false
  noReturn : ".." ∉ (Path.mk component).segments
  leadsOn : ∃ segment ∈ (Path.mk component).segments, isIdle segment = false

instance (component : String) : Decidable (Nested component) :=
  decidable_of_iff
    ((Path.mk component).isAbsolute = false ∧ ".." ∉ (Path.mk component).segments ∧
      ∃ segment ∈ (Path.mk component).segments, isIdle segment = false)
    ⟨fun ⟨relative, noReturn, leadsOn⟩ => ⟨relative, noReturn, leadsOn⟩,
      fun nested => ⟨nested.relative, nested.noReturn, nested.leadsOn⟩⟩

/-! ## Steps and names -/

theorem component?_eq_back {segment : String} : component? segment = some .back ↔ segment = ".." := by
  unfold component?
  constructor
  · intro back
    split at back
    · cases back
    · split at back
      · assumption
      · cases back
  · rintro rfl
    decide

/-- The steps of a path are names alone if none of them goes back. -/
theorem onward_eq_names {path : Path} (noReturn : ".." ∉ path.segments) :
    path.onward = (path.segments.filter fun segment => !isIdle segment).map .name := by
  unfold onward
  generalize path.segments = segments at noReturn ⊢
  induction segments with
  | nil => rfl
  | cons segment rest ih =>
      obtain ⟨differs, noReturn⟩ := not_or.mp (mt List.mem_cons.mpr noReturn)
      rw [List.filterMap_cons, List.filter_cons, component?, ih noReturn]
      cases isIdle segment with
      | true => rfl
      | false => simp [Ne.symm differs]

theorem onward_names_iff {path : Path} :
    (∃ names : List String, names ≠ [] ∧ path.onward = names.map .name) ↔
      ".." ∉ path.segments ∧ ∃ segment ∈ path.segments, isIdle segment = false := by
  constructor
  · rintro ⟨names, some, same⟩
    have noReturn : ".." ∉ path.segments := by
      intro member
      have back : Component.back ∈ path.onward :=
        List.mem_filterMap.mpr ⟨"..", member, component?_eq_back.2 rfl⟩
      rw [same] at back
      obtain ⟨name, -, differs⟩ := List.mem_map.mp back
      cases differs
    refine ⟨noReturn, ?_⟩
    rw [onward_eq_names noReturn] at same
    obtain ⟨name, member⟩ := List.exists_mem_of_ne_nil _ some
    have among := List.mem_map_of_mem (f := Component.name) member
    rw [← same] at among
    obtain ⟨segment, kept, -⟩ := List.mem_map.mp among
    obtain ⟨member, busy⟩ := List.mem_filter.mp kept
    exact ⟨segment, member, by simpa using busy⟩
  · rintro ⟨noReturn, segment, member, busy⟩
    refine ⟨_, ?_, onward_eq_names noReturn⟩
    exact List.ne_nil_of_mem (List.mem_filter.mpr ⟨member, by simp [busy]⟩)

theorem onward_of_plain {name : String} (plain : IsPlain name) :
    (Path.mk name).onward = [.name name] := by
  have single : (Path.mk name).segments = [name] := by
    simp [segments, Text.segments_of_not_mem plain.undivided]
  simp [onward, single, component?, isIdle, plain.notEmpty, plain.notDot, plain.notDots]

/-! ## Joining -/

variable {dir : Path} {component : String}

/-- What starts at the root forgets the folder that it is joined to. -/
theorem join_absolute (absolute : (Path.mk component).isAbsolute = true) :
    dir.join component = ⟨component⟩ := by
  rw [join, if_pos absolute]

theorem join_notEmpty (relative : (Path.mk component).isAbsolute = false)
    (notEmpty : dir.text ≠ "") : (dir.join component).text ≠ "" := by
  obtain ⟨front, start, -⟩ := join_relative relative notEmpty
  intro empty
  rw [empty] at start
  have none : dir.text.toList = [] := List.head?_eq_none_iff.mp start.symm
  exact notEmpty (by simpa using none)

/-- What does not start at the root goes on from the folder that it is joined to. -/
theorem components_join (relative : (Path.mk component).isAbsolute = false)
    (notEmpty : dir.text ≠ "") :
    (dir.join component).components = dir.components ++ (Path.mk component).onward := by
  obtain ⟨front, start, joined, before⟩ := join_relative relative notEmpty
  have absolute : (dir.join component).isAbsolute = dir.isAbsolute := by
    rw [isAbsolute, start, isAbsolute]
  have segments : (dir.join component).segments =
      front.map String.ofList ++ (Path.mk component).segments := by
    simp [Path.segments, joined]
  have filled : front ≠ [] := by
    rintro rfl
    have whole := Text.joined_segments '/' dir.text.toList
    rcases before with same | same <;> rw [same] at whole
    · exact notEmpty (by simpa [Text.joined] using whole.symm)
    · exact notEmpty (by simpa [Text.joined] using whole.symm)
  obtain ⟨first, others, rfl⟩ := List.exists_cons_of_ne_nil filled
  -- an empty segment at the end of the folder is neither its first one nor a step
  have folder : dir.segments.head? = some (String.ofList first) ∧
      dir.onward = ((first :: others).map String.ofList).filterMap component? := by
    rcases before with same | same
    · simp [onward, Path.segments, same]
    · refine ⟨by simp [Path.segments, same], ?_⟩
      rw [onward, Path.segments, same, List.map_append, List.filterMap_append]
      exact List.append_nil _
  have origin : (dir.join component).origin = dir.origin := by
    simp [Path.origin, absolute, segments, folder.1]
  rw [components, components, origin, folder.2, onward, segments, List.filterMap_append,
    List.append_assoc]
  rfl

/-- A text that does not start at the root leads inside a folder exactly if it leads further into
any. -/
theorem inside_join_iff (relative : (Path.mk component).isAbsolute = false)
    (notEmpty : dir.text ≠ "") : dir.Inside (dir.join component) ↔ Nested component := by
  simp only [Inside, components_join relative notEmpty, List.append_cancel_left_eq,
    onward_names_iff]
  exact ⟨fun ⟨noReturn, leadsOn⟩ => ⟨relative, noReturn, leadsOn⟩,
    fun nested => ⟨nested.noReturn, nested.leadsOn⟩⟩

/-- Joined to different folders, a text leads to the same path exactly if it starts at the root. -/
theorem join_components_eq_iff {other : Path} (notEmpty : dir.text ≠ "")
    (otherNotEmpty : other.text ≠ "") (differ : dir.components ≠ other.components) :
    (dir.join component).components = (other.join component).components ↔
      (Path.mk component).isAbsolute = true := by
  cases absolute : (Path.mk component).isAbsolute with
  | true => simp [join_absolute absolute]
  | false => simp [components_join absolute, notEmpty, otherNotEmpty, differ]

end CorpusJudge.Path
