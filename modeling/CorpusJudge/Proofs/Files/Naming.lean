import CorpusJudge.Proofs.Files.Resolving
import CorpusJudge.Proofs.Text.Segments

/-!
# Names in paths

A name that an entry can have is one step of a path.  Joining it to the path of a folder adds that
step to the way that leads to the folder.
-/

namespace CorpusJudge

/-- Whether an entry can have a name: it is one step of a path, and not one that stays or goes
back. -/
structure IsPlain (name : String) : Prop where
  notEmpty : name ≠ ""
  notDot : name ≠ "."
  notDots : name ≠ ".."
  undivided : '/' ∉ name.toList

instance (name : String) : Decidable (IsPlain name) :=
  decidable_of_iff (name ≠ "" ∧ name ≠ "." ∧ name ≠ ".." ∧ '/' ∉ name.toList)
    ⟨fun ⟨notEmpty, notDot, notDots, undivided⟩ => ⟨notEmpty, notDot, notDots, undivided⟩,
      fun plain => ⟨plain.notEmpty, plain.notDot, plain.notDots, plain.undivided⟩⟩

namespace Path

/-- The steps of a path. -/
def steps (path : Path) : List String :=
  path.segments.filter (· ≠ "")

/-- The names in a path are its steps, and one more that stays where it is if a separator stands
at the end. -/
theorem namesIn_steps (path : Path) :
    FileTree.namesIn path.text = path.steps ∨ FileTree.namesIn path.text = path.steps ++ ["."] := by
  simp only [FileTree.namesIn]
  split
  · exact .inr rfl
  · exact .inl rfl

theorem mem_steps {path : Path} {name : String} (member : name ∈ path.steps) :
    name ≠ "" ∧ '/' ∉ name.toList := by
  obtain ⟨piece, notEmpty⟩ := List.mem_filter.mp member
  obtain ⟨text, segment, rfl⟩ := List.mem_map.mp piece
  refine ⟨by simpa using notEmpty, ?_⟩
  rw [String.toList_ofList]
  exact Text.not_mem_of_mem_segments segment

theorem mem_namesIn {text name : String} (member : name ∈ FileTree.namesIn text) :
    name ≠ "" ∧ '/' ∉ name.toList := by
  have either := namesIn_steps ⟨text⟩
  rcases either with same | same
  · exact mem_steps (same ▸ member)
  · rw [same] at member
    rcases List.mem_append.mp member with step | last
    · exact mem_steps step
    · rw [List.mem_singleton.mp last]
      decide

variable {dir : Path}

/-- Joining what does not start at the root adds its segments; one that was empty at the end goes. -/
theorem join_relative {component : String} (relative : (Path.mk component).isAbsolute = false)
    (notEmpty : dir.text ≠ "") :
    ∃ front : List (List Char),
      (dir.join component).text.toList.head? = dir.text.toList.head? ∧
      Text.segments '/' (dir.join component).text.toList =
        front ++ Text.segments '/' component.toList ∧
      (Text.segments '/' dir.text.toList = front ∨
        Text.segments '/' dir.text.toList = front ++ [[]]) := by
  have filled : dir.text.toList ≠ [] := by simpa using notEmpty
  obtain ⟨first, more, start⟩ := List.exists_cons_of_ne_nil filled
  unfold join
  rw [if_neg (by simp [relative])]
  split
  · next last => exact absurd (List.getLast?_eq_none_iff.mp last) filled
  · next last =>
      obtain ⟨front, whole⟩ := List.getLast?_eq_some_iff.mp last
      refine ⟨Text.segments '/' front, ?_, ?_, .inr ?_⟩
      · simp [String.toList_append, start]
      · rw [String.toList_append, whole, List.append_assoc, List.singleton_append,
          Text.segments_append]
      · rw [whole, Text.segments_append]
        rfl
  · have separated : (dir.text ++ "/" ++ component).toList =
        dir.text.toList ++ '/' :: component.toList := by
      simp [String.toList_append]
    refine ⟨Text.segments '/' dir.text.toList, ?_, ?_, .inl rfl⟩
    · rw [separated, start]
      rfl
    · rw [separated, Text.segments_append]

end Path

theorem IsPlain.relative {name : String} (plain : IsPlain name) :
    (Path.mk name).isAbsolute = false := by
  cases start : name.toList with
  | nil => simp [Path.isAbsolute, start]
  | cons first rest =>
      have differs : first ≠ '/' := by
        rintro rfl
        exact plain.undivided (start ▸ List.mem_cons_self)
      simp [Path.isAbsolute, start, differs]

namespace Path

variable {dir : Path} {name : String}

/-- Joining a name adds one segment; one that was empty at the end goes. -/
theorem join_segments (plain : IsPlain name) (notEmpty : dir.text ≠ "") :
    ∃ front : List (List Char),
      (dir.join name).text.toList.head? = dir.text.toList.head? ∧
      Text.segments '/' (dir.join name).text.toList = front ++ [name.toList] ∧
      (Text.segments '/' dir.text.toList = front ∨
        Text.segments '/' dir.text.toList = front ++ [[]]) := by
  have joined := join_relative plain.relative notEmpty
  rwa [Text.segments_of_not_mem plain.undivided] at joined

theorem join_isAbsolute (plain : IsPlain name) (notEmpty : dir.text ≠ "") :
    (dir.join name).isAbsolute = dir.isAbsolute := by
  obtain ⟨front, start, -⟩ := join_segments plain notEmpty
  rw [isAbsolute, start, isAbsolute]

theorem namesIn_join (plain : IsPlain name) (notEmpty : dir.text ≠ "") :
    FileTree.namesIn (dir.join name).text = dir.steps ++ [name] := by
  obtain ⟨front, -, joined, before⟩ := join_segments plain notEmpty
  have steps : dir.steps = (front.map String.ofList).filter (· ≠ "") := by
    rcases before with same | same <;> simp [steps, segments, same]
  have notEmpty := plain.notEmpty
  simp [FileTree.namesIn, joined, steps, notEmpty]

end Path

namespace FileTree

variable {tree : FileTree}

theorem namesIn_single {name : String} (plain : IsPlain name) : namesIn name = [name] := by
  have notEmpty := plain.notEmpty
  simp [namesIn, Text.segments_of_not_mem plain.undivided, notEmpty]

/-- What is wrong with the text of a path, whatever the files are. -/
def faultOf (path : Path) : Option FileError :=
  if path.text.toList.contains '\x00' then some .nulInPath
  else if path.text.isEmpty then some .notFound
  else if 4096 ≤ path.text.utf8ByteSize then some .nameTooLong
  else none

/-- Where resolving a path starts. -/
def startOf (tree : FileTree) (path : Path) : Location :=
  if path.isAbsolute then [] else tree.base

/-- The places that resolving a path looks at. -/
def placesOf (tree : FileTree) (follow : Bool) (path : Path) : List Location :=
  match faultOf path with
  | some _ => []
  | none => tree.trail follow maxLinks (tree.startOf path) (namesIn path.text)

theorem locate_eq (tree : FileTree) (follow : Bool) (path : Path) :
    tree.locate follow path =
      match faultOf path with
      | some error => .error error
      | none => tree.walk follow maxLinks (tree.startOf path) (namesIn path.text) := by
  simp only [locate, faultOf]
  split
  · rfl
  · split
    · rfl
    · split <;> rfl

/-- Where names lead from a folder on if no link is in the way. -/
def descend (tree : FileTree) (here : Location) : List String → Except FileError Location
  | [] => .ok here
  | "." :: rest => descend tree here rest
  | ".." :: rest => descend tree here.dropLast rest
  | name :: rest =>
    if isTooLong name then .error .nameTooLong
    else match tree.lookup (here ++ [name]) with
      | some .folder => descend tree (here ++ [name]) rest
      | some _ => if rest.isEmpty then .ok (here ++ [name]) else .error .notDirectory
      | none => if rest.isEmpty then .ok (here ++ [name]) else .error .notFound

theorem walk_descend (noLink : ∀ place target, tree.lookup place ≠ some (.link target))
    (follow : Bool) (links : Nat) (here : Location) (names : List String) :
    tree.walk follow links here names = tree.descend here names := by
  fun_induction descend tree here names with
  | case1 here => rw [walk_nil]
  | case2 here rest ih => rw [walk_dot, ih]
  | case3 here rest ih => rw [walk_dots, ih]
  | case4 here name rest notDot notDots tooLong =>
      rw [walk_name _ _ _ _ _ notDot notDots, if_pos tooLong]
  | case5 here name rest notDot notDots short there ih =>
      rw [walk_name _ _ _ _ _ notDot notDots, if_neg short, there]
      exact ih
  | case6 here name rest notDot notDots short entry noFolder there last
  | case7 here name rest notDot notDots short entry noFolder there last =>
      rw [walk_name _ _ _ _ _ notDot notDots, if_neg short, there]
      cases entry with
      | folder => exact absurd rfl noFolder
      | link target => exact absurd there (noLink _ target)
      | _ => simp [last]
  | case8 here name rest notDot notDots short there last
  | case9 here name rest notDot notDots short there last =>
      rw [walk_name _ _ _ _ _ notDot notDots, if_neg short, there]
      simp [last]

/-- In a tree without links, resolving a path goes down name by name. -/
theorem locate_descend (noLink : ∀ place target, tree.lookup place ≠ some (.link target))
    (follow : Bool) (path : Path) :
    tree.locate follow path =
      match faultOf path with
      | some error => .error error
      | none => tree.descend (tree.startOf path) (namesIn path.text) := by
  rw [locate_eq]
  cases faultOf path with
  | some error => rfl
  | none => exact walk_descend noLink _ _ _ _

theorem notEmpty_of_locate {follow : Bool} {path : Path} {location : Location}
    (located : tree.locate follow path = .ok location) : path.text ≠ "" := by
  intro empty
  simp [locate, empty] at located

theorem way_of_locate {follow : Bool} {path : Path} {location : Location}
    (located : tree.locate follow path = .ok location) :
    faultOf path = none ∧
      Way tree follow maxLinks (tree.startOf path) (namesIn path.text) location := by
  rw [locate_eq] at located
  split at located
  · cases located
  · next sound => exact ⟨sound, way_of_walk located⟩

theorem mem_placesOf {follow : Bool} {path : Path} {location : Location}
    (located : tree.locate follow path = .ok location) : location ∈ tree.placesOf follow path := by
  obtain ⟨sound, way⟩ := way_of_locate located
  rw [placesOf, sound]
  exact way.mem_trail

/-- What a path passes before it comes to its location are folders and links. -/
theorem passes_of_locate {follow : Bool} {path : Path} {location : Location}
    (located : tree.locate follow path = .ok location) :
    ∀ place ∈ (tree.placesOf follow path).dropLast, IsEnd (tree.lookup place) = false := by
  obtain ⟨sound, way⟩ := way_of_locate located
  rw [placesOf, sound]
  exact way.passes

/-- A path on which nothing changes before its location leads there also when something stands there
that is an end. -/
theorem locate_lands {before after : FileTree} {path : Path} {location : Location}
    (located : before.locate false path = .ok location) (base : after.base = before.base)
    (same : ∀ place ∈ (before.placesOf false path).dropLast,
      after.lookup place = before.lookup place)
    (isEnd : IsEnd (after.lookup location) = true) (follow : Bool) :
    after.locate follow path = .ok location := by
  obtain ⟨sound, way⟩ := way_of_locate located
  rw [placesOf, sound] at same
  rw [locate_eq, sound, startOf, base]
  exact way.lands same isEnd follow

/-- Where all places lead alike, a path leads to where it led. -/
theorem locate_alike {before after : FileTree} {follow : Bool} {path : Path}
    (base : after.base = before.base)
    (alike : ∀ place ∈ before.placesOf follow path,
      LeadsAlike (before.lookup place) (after.lookup place)) :
    after.placesOf follow path = before.placesOf follow path ∧
      ∀ location, after.locate follow path = .ok location ↔
        before.locate follow path = .ok location := by
  have start : after.startOf path = before.startOf path := by simp [startOf, base]
  simp only [placesOf, locate_eq, start] at alike ⊢
  cases fault : faultOf path with
  | some error => simp
  | none =>
      rw [fault] at alike
      exact walk_alike alike

/-- Where files only appear in empty places, a path leads to where it led. -/
theorem locate_grows {before after : FileTree} {follow : Bool} {path : Path}
    (base : after.base = before.base)
    (grows : ∀ place ∈ before.placesOf follow path,
      Grows (before.lookup place) (after.lookup place)) :
    after.placesOf follow path = before.placesOf follow path ∧
      ∀ location, after.locate follow path = .ok location ↔
        before.locate follow path = .ok location :=
  locate_alike base fun place member => (grows place member).leadsAlike

/-- Trees that agree in the places that a path looks at resolve it alike. -/
theorem locate_congr {before after : FileTree} {follow : Bool} {path : Path}
    (base : after.base = before.base)
    (same : ∀ place ∈ before.placesOf follow path, after.lookup place = before.lookup place) :
    after.locate follow path = before.locate follow path := by
  have start : after.startOf path = before.startOf path := by simp [startOf, base]
  simp only [placesOf, locate_eq, start] at same ⊢
  cases fault : faultOf path with
  | some error => rfl
  | none =>
      rw [fault] at same
      exact walk_congr same

theorem find_congr {before after : FileTree} {path : Path} (base : after.base = before.base)
    (same : ∀ place ∈ before.placesOf true path, after.lookup place = before.lookup place) :
    after.find path = before.find path := by
  rw [find_eq, find_eq, locate_congr base same]
  cases located : before.locate true path with
  | error error => rfl
  | ok place => simp only [same place (mem_placesOf located)]

theorem read_congr {before after : FileTree} {path : Path} (base : after.base = before.base)
    (same : ∀ place ∈ before.placesOf true path, after.lookup place = before.lookup place) :
    after.read path = before.read path := by
  rw [read, read, find_congr base same]

/-- Where files only appear in empty places, a path leads to a folder if it did so before. -/
theorem isFolder_grows {before after : FileTree} {path : Path} (base : after.base = before.base)
    (grows : ∀ place ∈ before.placesOf true path,
      Grows (before.lookup place) (after.lookup place)) :
    after.isFolder path = before.isFolder path := by
  obtain ⟨-, ends⟩ := locate_grows base grows
  rw [isFolder_eq, isFolder_eq]
  cases located : before.locate true path with
  | error error =>
      cases later : after.locate true path with
      | error _ => rfl
      | ok place => simp [(ends place).mp later] at located
  | ok place =>
      rw [(ends place).mpr located]
      rcases grows place (mem_placesOf located) with same | ⟨empty, content, appeared⟩
      · simp only [same]
      · simp [empty, appeared]

/-- A name joined to the path of a folder is looked for in that folder, unless something is wrong
with the text. -/
theorem locate_join {dir : Path} {name : String} {folder : Location} (plain : IsPlain name)
    (located : tree.locate true dir = .ok folder) (isFolder : tree.lookup folder = some .folder) :
    ∃ left, ∀ follow,
      tree.locate follow (dir.join name) =
          (match faultOf (dir.join name) with
          | some error => .error error
          | none => tree.walk follow left folder [name]) ∧
        ∀ place ∈ tree.placesOf follow (dir.join name),
          place ∈ tree.placesOf true dir ∨ place ∈ tree.trail follow left folder [name] := by
  have notEmpty := notEmpty_of_locate located
  have start : tree.startOf (dir.join name) = tree.startOf dir := by
    rw [startOf, Path.join_isAbsolute plain notEmpty, startOf]
  obtain ⟨sound, way⟩ := way_of_locate located
  -- whether or not the path of the folder ends in a separator, its steps lead there
  have steps : Way tree true maxLinks (tree.startOf dir) dir.steps folder ∧
      ∀ place ∈ tree.trail true maxLinks (tree.startOf dir) dir.steps,
        place ∈ tree.placesOf true dir := by
    simp only [placesOf, sound]
    rcases Path.namesIn_steps dir with same | same
    · rw [same] at way ⊢
      exact ⟨way, fun _ => id⟩
    · rw [same] at way ⊢
      exact way.withoutDot
  obtain ⟨left, goesOn⟩ := steps.1.append isFolder
  refine ⟨left, fun follow => ?_⟩
  obtain ⟨same, places⟩ := goesOn follow [name] (by simp)
  rw [locate_eq, placesOf, start, Path.namesIn_join plain notEmpty]
  cases faultOf (dir.join name) with
  | some error => exact ⟨rfl, by simp⟩
  | none => exact ⟨same, fun place member => (places place member).imp_left (steps.2 place)⟩

/-- The last step to something that is no link. -/
theorem walk_last (follow : Bool) (links : Nat) {folder : Location} {name : String}
    (plain : IsPlain name)
    (noLink : ∀ target, tree.lookup (folder ++ [name]) ≠ some (.link target)) :
    tree.walk follow links folder [name] =
        (if isTooLong name then .error .nameTooLong else .ok (folder ++ [name])) ∧
      ∀ place ∈ tree.trail follow links folder [name], place = folder ++ [name] := by
  rw [walk_name _ _ _ _ _ plain.notDot plain.notDots,
    trail_name _ _ _ _ _ plain.notDot plain.notDots]
  split
  · exact ⟨rfl, by simp⟩
  · cases there : tree.lookup (folder ++ [name]) with
    | none => simp
    | some entry =>
        cases entry with
        | link target => exact absurd there (noLink target)
        | folder => simp
        | file content => simp
        | sealed obstacle => simp
        | program program => simp
        | device device => simp

/-- A single name leads into the base, unless a link goes elsewhere from there. -/
theorem locate_single {name : String} (plain : IsPlain name) (sound : faultOf ⟨name⟩ = none)
    (short : isTooLong name = false)
    (noLink : ∀ target, tree.lookup (tree.base ++ [name]) ≠ some (.link target)) (follow : Bool) :
    tree.locate follow ⟨name⟩ = .ok (tree.base ++ [name]) := by
  rw [locate_eq, sound, startOf, plain.relative, namesIn_single plain]
  simp only [(walk_last follow _ plain noLink).1, short, Bool.false_eq_true, if_false]

/-- A single name that is an end is all that its path looks at. -/
theorem placesOf_single {name : String} (plain : IsPlain name) (sound : faultOf ⟨name⟩ = none)
    (short : isTooLong name = false) (isEnd : IsEnd (tree.lookup (tree.base ++ [name])) = true)
    (follow : Bool) : tree.placesOf follow ⟨name⟩ = [tree.base ++ [name]] := by
  rw [placesOf, sound, startOf, plain.relative, namesIn_single plain]
  simp only [Bool.false_eq_true, if_false]
  rw [trail_end plain.notDot plain.notDots isEnd, short, if_neg Bool.false_ne_true]

/-- A name joined to the path of a folder leads into that folder, unless a link goes elsewhere from
there. -/
theorem locate_child {dir : Path} {name : String} {folder : Location} (plain : IsPlain name)
    (located : tree.locate true dir = .ok folder) (isFolder : tree.lookup folder = some .folder)
    (sound : faultOf (dir.join name) = none) (short : isTooLong name = false)
    (noLink : ∀ target, tree.lookup (folder ++ [name]) ≠ some (.link target)) :
    tree.locate true (dir.join name) = .ok (folder ++ [name]) := by
  obtain ⟨left, joined⟩ := locate_join plain located isFolder
  rw [(joined true).1, sound]
  simp only [(walk_last true left plain noLink).1, short, Bool.false_eq_true, if_false]

end FileTree

end CorpusJudge
