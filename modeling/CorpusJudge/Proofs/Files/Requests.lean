import CorpusJudge.Workbench

/-!
# Requests about files

Every request about a path resolves the path first and then looks at one location.  Here each of
them has an equation that says so, and writing has its frame: one entry is put into the tree, and
nothing else changes about it.
-/

namespace CorpusJudge

/-- What cannot be opened is there all the same. -/
@[simp] theorem Obstacle.error_ne_notFound (obstacle : Obstacle) : obstacle.error ≠ .notFound := by
  cases obstacle <;> nofun

namespace FileTree

variable (tree : FileTree) (path : Path)

theorem find_eq :
    tree.find path =
      match tree.locate true path with
      | .error error => .error error
      | .ok location =>
          match tree.lookup location with
          | some entry => .ok (location, entry)
          | none => .error .notFound := by
  unfold find
  cases tree.locate true path with
  | error error => rfl
  | ok location =>
      simp only [bind, Except.bind]
      cases tree.lookup location <;> rfl

theorem isFolder_eq :
    tree.isFolder path =
      match tree.locate true path with
      | .error _ => false
      | .ok location => tree.lookup location == some .folder := by
  rw [isFolder, find_eq]
  cases tree.locate true path with
  | error error => rfl
  | ok location =>
      simp only
      cases tree.lookup location with
      | none => rfl
      | some entry => cases entry <;> rfl

theorem read_eq :
    tree.read path =
      match tree.locate true path with
      | .error error => .error error
      | .ok location =>
          match tree.lookup location with
          | some (.file content) => .ok content
          | some (.sealed obstacle) => .error obstacle.error
          | some .folder => .error .isDirectory
          | some _ => .ok []
          | none => .error .notFound := by
  rw [read, find_eq]
  cases tree.locate true path with
  | error error => rfl
  | ok location =>
      simp only
      cases tree.lookup location with
      | none => rfl
      | some entry => cases entry <;> rfl

theorem list_eq :
    tree.list path =
      match tree.locate true path with
      | .error error => .error error
      | .ok location =>
          match tree.lookup location, tree.locked.lookup location with
          | some .folder, none => .ok (tree.children location)
          | some .folder, some obstacle => .error obstacle.error
          | some _, _ => .error .notDirectory
          | none, _ => .error .notFound := by
  rw [list, find_eq]
  cases tree.locate true path with
  | error error => rfl
  | ok location =>
      cases present : tree.lookup location with
      | none => simp only [present]; rfl
      | some entry =>
          cases entry with
          | folder =>
              simp only [present, bind, Except.bind]
              cases tree.locked.lookup location <;> rfl
          | _ => simp only [present]; rfl

theorem write_eq (content : Bytes) :
    tree.write path content =
      if endsInSeparator path then
        match tree.locate false (withoutSeparator path) with
        | .error error => .error error
        | .ok _ => .error .isDirectory
      else
        match tree.locate true path with
        | .error error => .error error
        | .ok location =>
            match tree.lookup location with
            | some .folder => .error .isDirectory
            | some (.device _) => .ok tree
            | some (.program _) => .error .permissionDenied
            | some (.sealed obstacle) => .error obstacle.error
            | _ => .ok (tree.put location (.file content)) := by
  simp only [write, placeForFile]
  split
  · cases tree.locate false (withoutSeparator path) <;> rfl
  · cases tree.locate true path with
    | error error => rfl
    | ok location =>
        simp only [bind, Except.bind, pure, Except.pure, throw, throwThe, MonadExceptOf.throw]
        cases present : tree.lookup location with
        | none => simp only [present]
        | some entry => cases entry <;> simp only [present]

/-- The root is a folder, and so an empty place is not the root. -/
theorem ne_nil_of_lookup {location : Location} (empty : tree.lookup location = none) :
    location ≠ [] := by
  rintro rfl
  cases empty

/-- A path that ends in a separator is no place for a file. -/
theorem write_endsInSeparator (content : Bytes) (ends : endsInSeparator path = true) :
    ∃ error, tree.write path content = .error error := by
  rw [write_eq, if_pos ends]
  cases tree.locate false (withoutSeparator path) with
  | error error => exact ⟨error, rfl⟩
  | ok location => exact ⟨.isDirectory, rfl⟩

/-- A file is put into an empty place. -/
theorem write_empty (content : Bytes) {location : Location} (plain : endsInSeparator path = false)
    (located : tree.locate true path = .ok location) (empty : tree.lookup location = none) :
    tree.write path content = .ok (tree.put location (.file content)) := by
  simp [write_eq, plain, located, empty]

/-- A file takes another path, unless a folder stands there. -/
theorem rename_file {target : Path} {here there : Location} {content : Bytes}
    (self : tree.locate false path = .ok here) (file : tree.lookup here = some (.file content))
    (leads : tree.locate false target = .ok there) (proper : here ≠ []) (properThere : there ≠ [])
    (plain : endsInSeparator target = false) (noDots : endsInDots path = false)
    (noDotsThere : endsInDots target = false) :
    tree.rename path target =
      if tree.lookup there = some .folder then .error .isDirectory
      else .ok (if here = there then tree else tree.move here there) := by
  have found : tree.findSelf path = .ok (here, .file content) := by
    simp [findSelf, self, file, bind, Except.bind, pure, Except.pure]
  have reached : tree.locate false (withoutSeparator target) = .ok there := by
    rw [withoutSeparator, plain]
    exact leads
  have notBusy : (decide (there = []) || decide (here = []) || endsInDots path ||
      endsInDots target) = false := by
    simp [proper, properThere, noDots, noDotsThere]
  simp only [rename, found, reached, notBusy, plain, bind, Except.bind, Bool.and_false]
  cases occupied : tree.lookup there with
  | none => rfl
  | some entry => cases entry <;> rfl

/-- A file that takes another path moves to the place of that path, where no folder stands. -/
theorem of_rename_file {target : Path} {here : Location} {content : Bytes} {renamed : FileTree}
    (self : tree.locate false path = .ok here) (file : tree.lookup here = some (.file content))
    (done : tree.rename path target = .ok renamed) :
    ∃ there, tree.locate false target = .ok there ∧ here ≠ [] ∧ there ≠ [] ∧
      tree.lookup there ≠ some .folder ∧
      renamed = if here = there then tree else tree.move here there := by
  have found : tree.findSelf path = .ok (here, .file content) := by
    simp [findSelf, self, file, bind, Except.bind, pure, Except.pure]
  simp only [rename, found, bind, Except.bind, throw, throwThe, MonadExceptOf.throw] at done
  cases reached : tree.locate false (withoutSeparator target) with
  | error error =>
      rw [reached] at done
      cases done
  | ok there =>
      rw [reached] at done
      simp only at done
      split at done
      · cases done
      · next notBusy =>
          split at done
          · cases done
          · next plain =>
              have plain : endsInSeparator target = false := by simpa [Entry.isFolder] using plain
              have same : withoutSeparator target = target := by simp [withoutSeparator, plain]
              simp only [Bool.or_eq_true, decide_eq_true_eq, not_or] at notBusy
              refine ⟨there, same ▸ reached, notBusy.1.1.2, notBusy.1.1.1, ?_, ?_⟩
              · intro isFolder
                simp [isFolder] at done
              · cases occupied : tree.lookup there with
                | none => simpa [occupied, pure, Except.pure, eq_comm] using done
                | some entry =>
                    cases entry with
                    | folder => simp [occupied] at done
                    | _ => simpa [occupied, pure, Except.pure, eq_comm] using done

/-! ## What putting leaves alone -/

variable (location : Location)

@[simp] theorem put_base (entry : Entry) : (tree.put location entry).base = tree.base := by
  unfold put
  split <;> rfl

@[simp] theorem put_locked (entry : Entry) : (tree.put location entry).locked = tree.locked := by
  unfold put
  split <;> rfl

@[simp] theorem put_mask (entry : Entry) : (tree.put location entry).mask = tree.mask := by
  unfold put
  split <;> rfl

variable {tree path}

/-- A file has its place where its path leads to, unless a folder stands there. -/
theorem placeForFile_eq_ok {location : Location} :
    tree.placeForFile path = .ok location ↔
      tree.locate true path = .ok location ∧ tree.lookup location ≠ some .folder := by
  unfold placeForFile
  cases located : tree.locate true path with
  | error error => exact ⟨nofun, fun ⟨same, _⟩ => nomatch same⟩
  | ok place =>
      simp only [bind, Except.bind, pure, Except.pure, throw, throwThe, MonadExceptOf.throw,
        Except.ok.injEq]
      split
      next isFolder =>
        refine ⟨nofun, ?_⟩
        rintro ⟨rfl, noFolder⟩
        exact absurd isFolder noFolder
      next noFolder =>
        rw [Except.ok.injEq]
        constructor
        · rintro rfl
          exact ⟨rfl, noFolder⟩
        · exact And.left

theorem ne_nil_of_place {location : Location} (place : tree.placeForFile path = .ok location) :
    location ≠ [] := by
  rintro rfl
  exact (placeForFile_eq_ok.1 place).2 rfl

/-- Writing a file puts it in its place, unless a device takes the content there. -/
theorem place_of_write {content : Bytes} {written : FileTree}
    (wrote : tree.write path content = .ok written) :
    endsInSeparator path = false ∧ ∃ location, tree.placeForFile path = .ok location ∧
      ((∃ device, tree.lookup location = some (.device device)) ∧ written = tree ∨
        (∀ device, tree.lookup location ≠ some (.device device)) ∧
        (∀ name, tree.lookup location ≠ some (.program name)) ∧
        (∀ obstacle, tree.lookup location ≠ some (.sealed obstacle)) ∧
        written = tree.put location (.file content)) := by
  simp only [placeForFile_eq_ok]
  rw [write_eq] at wrote
  split at wrote
  · split at wrote <;> cases wrote
  · next plain =>
      refine ⟨by simpa using plain, ?_⟩
      split at wrote
      · cases wrote
      · next location located =>
          split at wrote
          · cases wrote
          · next device there =>
              cases wrote
              exact ⟨location, ⟨located, by simp [there]⟩, .inl ⟨⟨device, there⟩, rfl⟩⟩
          · cases wrote
          · cases wrote
          · next noFolder noDevice noProgram notSealed =>
              cases wrote
              exact ⟨location, ⟨located, noFolder⟩, .inr ⟨noDevice, noProgram, notSealed, rfl⟩⟩

/-- A file is put in its place, where neither a device nor a program stands, nor a file that cannot be
opened. -/
theorem write_of_place {location : Location} (plain : endsInSeparator path = false)
    (place : tree.placeForFile path = .ok location)
    (noDevice : ∀ device, tree.lookup location ≠ some (.device device))
    (noProgram : ∀ name, tree.lookup location ≠ some (.program name))
    (notSealed : ∀ error, tree.lookup location ≠ some (.sealed error)) (content : Bytes) :
    tree.write path content = .ok (tree.put location (.file content)) := by
  obtain ⟨located, noFolder⟩ := placeForFile_eq_ok.1 place
  rw [write_eq, plain, located]
  cases there : tree.lookup location with
  | none => simp [there]
  | some entry =>
      cases entry with
      | folder => exact absurd there noFolder
      | device device => exact absurd there (noDevice device)
      | program name => exact absurd there (noProgram name)
      | sealed obstacle => exact absurd there (notSealed obstacle)
      | _ => simp [there]

/-- Where some content can be written, any other can be, and it goes to the same place. -/
theorem write_alike {content : Bytes} {written : FileTree}
    (wrote : tree.write path content = .ok written) :
    (∀ other, tree.write path other = .ok tree) ∨
      ∃ location, tree.placeForFile path = .ok location ∧
        ∀ other, tree.write path other = .ok (tree.put location (.file other)) := by
  obtain ⟨plain, location, place, ⟨⟨device, there⟩, -⟩ | ⟨noDevice, noProgram, notSealed, -⟩⟩ :=
    place_of_write wrote
  · refine .inl fun other => ?_
    simp [write_eq, plain, (placeForFile_eq_ok.1 place).1, there]
  · exact .inr ⟨location, place, write_of_place plain place noDevice noProgram notSealed⟩

/-- Writing a file leaves the tree as it is or puts the file where the path leads to. -/
theorem write_eq_ok {content : Bytes} {written : FileTree}
    (wrote : tree.write path content = .ok written) :
    written = tree ∨ ∃ location, tree.locate true path = .ok location ∧
      tree.lookup location ≠ some .folder ∧ written = tree.put location (.file content) := by
  obtain ⟨-, location, place, ⟨-, same⟩ | ⟨-, -, -, put⟩⟩ := place_of_write wrote
  · exact .inl same
  · obtain ⟨located, noFolder⟩ := placeForFile_eq_ok.1 place
    exact .inr ⟨location, located, noFolder, put⟩

theorem write_base {content : Bytes} {written : FileTree}
    (wrote : tree.write path content = .ok written) : written.base = tree.base := by
  rcases write_eq_ok wrote with rfl | ⟨location, -, -, rfl⟩
  · rfl
  · exact put_base ..

theorem write_mask {content : Bytes} {written : FileTree}
    (wrote : tree.write path content = .ok written) : written.mask = tree.mask := by
  rcases write_eq_ok wrote with rfl | ⟨location, -, -, rfl⟩
  · rfl
  · exact put_mask ..

end FileTree

namespace Machine

variable [Kernel] {machine : Machine}

theorem withFiles_files {files : FileTree} (base : files.base = machine.files.base)
    (mask : files.mask = machine.files.mask) : (machine.withFiles files).files = files := by
  simp only [withFiles, ← base, ← mask]

/-- The files of a machine on which a file has been written. -/
theorem write_files {path : Path} {content : Bytes} {written : FileTree}
    (wrote : machine.files.write path content = .ok written) :
    (machine.withFiles written).files = written :=
  withFiles_files (FileTree.write_base wrote) (FileTree.write_mask wrote)

end Machine

end CorpusJudge
