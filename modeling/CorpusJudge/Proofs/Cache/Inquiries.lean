import CorpusJudge.Proofs.Cache.Stages
import CorpusJudge.Proofs.Harness.Dockets

/-!
# Inquiries for metadata

Metadata may be inquired for again and again, for any problems in any order, and the source may answer
otherwise every time.  What one inquiry does depends on what reading the cache file comes to at that
moment.  No inquiry changes anything but by making a cache file where nothing was, and so whatever can
be read once stays as it is.
-/

namespace CorpusJudge

/-! ## Files that only appear -/

/-- A later tree in which nothing has gone or changed, but files may have appeared in places that were
empty. -/
structure FileTree.Grown (before after : FileTree) : Prop where
  base : after.base = before.base
  grows : ∀ place, Grows (before.lookup place) (after.lookup place)

namespace FileTree

variable {before between after tree written : FileTree} {path : Path} {content : Bytes}

namespace Grown

theorem refl (tree : FileTree) : Grown tree tree :=
  ⟨rfl, fun _ => .inl rfl⟩

theorem trans (first : Grown before between) (second : Grown between after) :
    Grown before after where
  base := second.base.trans first.base
  grows := by
    intro place
    rcases first.grows place with same | ⟨empty, content, appeared⟩
    · exact same ▸ second.grows place
    · rcases second.grows place with same | ⟨stillEmpty, -⟩
      · exact .inr ⟨empty, content, same.trans appeared⟩
      · rw [appeared] at stillEmpty
        cases stillEmpty

/-- A file is put into an empty place. -/
theorem put {place : Location} (empty : tree.lookup place = none) (content : Bytes) :
    Grown tree (tree.put place (.file content)) where
  base := put_base ..
  grows := by
    intro other
    rw [lookup_put (ne_nil_of_lookup _ empty)]
    split
    · next same => exact .inr ⟨same ▸ empty, content, rfl⟩
    · exact .inl rfl

/-- What could be read can still be read, and is the same. -/
theorem read (grown : Grown before after) (readable : before.read path = .ok content) :
    after.read path = .ok content := by
  rw [read_eq] at readable ⊢
  cases located : before.locate true path with
  | error error =>
      rw [located] at readable
      cases readable
  | ok place =>
      rw [((locate_grows grown.base fun other _ => grown.grows other).2 place).mpr located]
      rw [located] at readable
      simp only at readable ⊢
      rcases grown.grows place with same | ⟨empty, -⟩
      · rw [same]
        exact readable
      · rw [empty] at readable
        cases readable

end Grown

/-- Where a file is not found and can be written, it is put into the empty place to which its path
leads. -/
theorem write_absent (absent : tree.read path = .error .notFound)
    (wrote : tree.write path content = .ok written) :
    ∃ place, tree.locate true path = .ok place ∧ tree.lookup place = none ∧
      written = tree.put place (.file content) := by
  rw [read_eq] at absent
  rw [write_eq] at wrote
  split at wrote
  · split at wrote <;> cases wrote
  · cases located : tree.locate true path with
    | error error =>
        rw [located] at wrote
        cases wrote
    | ok place =>
        rw [located] at absent wrote
        cases there : tree.lookup place with
        | none =>
            simp only [there] at wrote
            exact ⟨place, rfl, there, (Except.ok.inj wrote).symm⟩
        | some entry => cases entry <;> simp [there] at absent

end FileTree

/-! ## One inquiry -/

/-- An inquiry for the metadata of a problem, and the source as it is at that moment. -/
structure Inquiry where
  problem : Problem
  source : Source

namespace Inquiry

section

variable [Kernel]

/-- Make the inquiry. -/
def make (inquiry : Inquiry) : Work (Option Metadata) :=
  inquiry.problem.resolve inquiry.source

/-- What reading the cache file comes to. -/
def reading (inquiry : Inquiry) (files : FileTree) : Except FileError Bytes :=
  files.read inquiry.problem.metadataPath

/-- What the inquiry stores: the answer of the source, if the cache file is not found, the source
answers and the answer can be written. -/
def stored? (inquiry : Inquiry) (files : FileTree) : Option Bytes :=
  match inquiry.reading files, inquiry.source inquiry.problem.name with
  | .error .notFound, .ok content =>
    if (files.write inquiry.problem.metadataPath content).isOk then some content else none
  | _, _ => none

/-- What an inquiry can come to: its value, and the workbench that it leaves. -/
inductive Ends (inquiry : Inquiry) (bench : Workbench) : Option Metadata → Workbench → Prop where
  | found {content : Bytes} {left : Workbench} :
      inquiry.reading bench.machine.files = .ok content →
      left.machine = bench.machine → left.requests = bench.requests →
      Ends inquiry bench (Metadata.ofDocument? content) left
  | unreadable {error : FileError} {left : Workbench} :
      inquiry.reading bench.machine.files = .error error → error ≠ .notFound →
      left.machine = bench.machine → left.requests = bench.requests →
      Ends inquiry bench none left
  | failed {left : Workbench} :
      inquiry.reading bench.machine.files = .error .notFound →
      inquiry.stored? bench.machine.files = none →
      left.machine = bench.machine →
      left.requests = bench.requests ++ [inquiry.problem.name] → Ends inquiry bench none left
  | stored {content : Bytes} {place : Location} {left : Workbench} :
      inquiry.reading bench.machine.files = .error .notFound →
      inquiry.stored? bench.machine.files = some content →
      bench.machine.files.locate true inquiry.problem.metadataPath = .ok place →
      bench.machine.files.lookup place = none →
      left.machine = bench.machine.withFiles (bench.machine.files.put place (.file content)) →
      left.requests = bench.requests ++ [inquiry.problem.name] →
      Ends inquiry bench (Metadata.ofDocument? content) left

variable {inquiry : Inquiry} {bench left : Workbench} {value : Option Metadata}

omit [Kernel] in
theorem stored?_of_write {files written : FileTree} {content : Bytes}
    (absent : inquiry.reading files = .error .notFound)
    (answer : inquiry.source inquiry.problem.name = .ok content)
    (wrote : files.write inquiry.problem.metadataPath content = .ok written) :
    inquiry.stored? files = some content := by
  simp [stored?, absent, answer, wrote, Except.isOk, Except.toBool]

omit [Kernel] in
theorem stored?_of_error {files : FileTree} {content : Bytes} {error : FileError}
    (answer : inquiry.source inquiry.problem.name = .ok content)
    (failed : files.write inquiry.problem.metadataPath content = .error error) :
    inquiry.stored? files = none := by
  rw [stored?, answer]
  split
  · next same =>
      cases same
      simp [failed, Except.isOk, Except.toBool]
  · rfl

/-- From a document on, only a note can be added. -/
theorem make_document {document : Bytes}
    (there : (inquiry.problem.document? inquiry.source).run bench = (some document, left)) :
    ∃ last : Workbench, inquiry.make.run bench = (Metadata.ofDocument? document, last) ∧
      last.machine = left.machine ∧ last.requests = left.requests := by
  rw [make, Problem.resolve_run, there]
  simp only
  cases Metadata.ofDocument? document with
  | some metadata => exact ⟨left, rfl, rfl, rfl⟩
  | none =>
      refine ⟨_, rfl, rfl, ?_⟩
      simp [Workbench.requests_noting, Event.request?]

theorem make_none (failed : (inquiry.problem.document? inquiry.source).run bench = (none, left)) :
    inquiry.make.run bench = (none, left) := by
  rw [make, Problem.resolve_run, failed]

/-- Every inquiry comes to one of these. -/
theorem ends (inquiry : Inquiry) (bench : Workbench) :
    inquiry.Ends bench (inquiry.make.run bench).1 (inquiry.make.run bench).2 := by
  have document := inquiry.problem.document?_run inquiry.source bench
  cases found : bench.machine.files.read inquiry.problem.metadataPath with
  | ok content =>
      rw [loadCached, found] at document
      obtain ⟨last, made, machine, requests⟩ := make_document document
      rw [made]
      exact .found found machine requests
  | error error =>
      by_cases absent : error = .notFound
      · subst absent
        rw [loadCached, found] at document
        simp only [Problem.fetchAndStore_run] at document
        cases answer : inquiry.source inquiry.problem.name with
        | error error =>
            rw [answer] at document
            rw [make_none document]
            exact .failed found (by simp [stored?, answer]) rfl
              (by simp [Workbench.requests_noting, Event.request?])
        | ok content =>
            rw [answer] at document
            simp only [Work.run_write] at document
            cases wrote : bench.machine.files.write inquiry.problem.metadataPath content with
            | error error =>
                have noted : (bench.noting (.fetching inquiry.problem.name)).machine.files.write
                    inquiry.problem.metadataPath content = .error error := wrote
                rw [noted] at document
                rw [make_none document]
                exact .failed found (stored?_of_error answer wrote) rfl
                  (by simp [Workbench.requests_noting, Event.request?])
            | ok written =>
                have noted : (bench.noting (.fetching inquiry.problem.name)).machine.files.write
                    inquiry.problem.metadataPath content = .ok written := wrote
                rw [noted] at document
                obtain ⟨last, made, machine, requests⟩ := make_document document
                obtain ⟨place, located, empty, rfl⟩ := FileTree.write_absent found wrote
                rw [made]
                refine .stored found (stored?_of_write found answer wrote) located empty machine
                  (requests.trans ?_)
                simp [Workbench.requests, Workbench.noting, Event.request?]
      · have loaded : loadCached bench.machine.files inquiry.problem.metadataPath =
            .error error := by
          rw [loadCached, found]
          cases error <;> first | exact absurd rfl absent | rfl
        rw [loaded] at document
        rw [make_none document]
        exact .unreadable found absent rfl (by simp [Workbench.requests_noting, Event.request?])

/-- An inquiry that finds something else than that the cache file is missing does not depend on the
source. -/
theorem make_unasked (unasked : inquiry.reading bench.machine.files ≠ .error .notFound)
    (source : Source) :
    ({ inquiry with source } : Inquiry).make.run bench = inquiry.make.run bench := by
  have loaded : loadCached bench.machine.files inquiry.problem.metadataPath ≠ .ok none := by
    intro none
    rw [loadCached] at none
    split at none
    · cases none
    · next missing => exact unasked missing
    · cases none
  simp only [make, Problem.resolve_run, Problem.document?_run]
  cases found : loadCached bench.machine.files inquiry.problem.metadataPath with
  | error error => rfl
  | ok content? =>
      cases content? with
      | some content => rfl
      | none => exact absurd found loaded

omit [Kernel] in
/-- Something is stored only where the cache file is not found. -/
theorem absent_of_stored? {files : FileTree} {content : Bytes}
    (stored : inquiry.stored? files = some content) :
    inquiry.reading files = .error .notFound := by
  unfold stored? at stored
  split at stored
  · assumption
  · cases stored

/-- Whatever an inquiry comes to, at most a file has appeared. -/
theorem Ends.grown (ends : inquiry.Ends bench value left) :
    FileTree.Grown bench.machine.files left.machine.files := by
  cases ends with
  | found read machine => exact machine ▸ .refl _
  | unreadable read differs machine => exact machine ▸ .refl _
  | failed read stored machine => exact machine ▸ .refl _
  | stored read stored located empty machine =>
      rw [machine, Machine.withFiles_files (FileTree.put_base ..) (FileTree.put_mask ..)]
      exact .put empty _

/-- An inquiry asks, once, exactly if the cache file is not found. -/
theorem Ends.asks (ends : inquiry.Ends bench value left) :
    left.requests = bench.requests ++
      if inquiry.reading bench.machine.files = .error .notFound then [inquiry.problem.name]
      else [] := by
  cases ends with
  | found read machine requests => simp [read, requests]
  | unreadable read differs machine requests => simp [read, requests, differs]
  | failed read stored machine requests => simp [read, requests]
  | stored read stored located empty machine requests => simp [read, requests]

/-- What a cache file that can be read says is the value. -/
theorem Ends.of_readable (ends : inquiry.Ends bench value left) {content : Bytes}
    (readable : inquiry.reading bench.machine.files = .ok content) :
    value = Metadata.ofDocument? content ∧ left.machine = bench.machine ∧
      left.requests = bench.requests := by
  cases ends with
  | found read machine requests =>
      obtain rfl := Except.ok.inj (read.symm.trans readable)
      exact ⟨rfl, machine, requests⟩
  | unreadable read => cases read.symm.trans readable
  | failed read => cases read.symm.trans readable
  | stored read => cases read.symm.trans readable

/-- Without a cache file and without anything to store, there is no value. -/
theorem Ends.of_failure (ends : inquiry.Ends bench value left) {error : FileError}
    (fails : inquiry.reading bench.machine.files = .error error)
    (unstored : inquiry.stored? bench.machine.files = none) :
    value = none ∧ left.machine = bench.machine := by
  cases ends with
  | found read => cases read.symm.trans fails
  | unreadable read differs machine => exact ⟨rfl, machine⟩
  | failed read stored machine => exact ⟨rfl, machine⟩
  | stored read stored => cases stored.symm.trans unstored

/-- What is stored is a new file in the place of the cache file, and nothing else changes. -/
theorem Ends.of_stored (ends : inquiry.Ends bench value left) {content : Bytes}
    (stored : inquiry.stored? bench.machine.files = some content) :
    value = Metadata.ofDocument? content ∧
      inquiry.reading left.machine.files = .ok content ∧
      ∃ place, bench.machine.files.locate true inquiry.problem.metadataPath = .ok place ∧
        bench.machine.files.lookup place = none ∧
        left.machine =
          bench.machine.withFiles (bench.machine.files.put place (.file content)) ∧
        left.machine.files.lookup place = some (.file content) ∧
        ∀ other, other ≠ place →
          left.machine.files.lookup other = bench.machine.files.lookup other := by
  have grown := ends.grown
  have absent := absent_of_stored? stored
  cases ends with
  | found read => cases read.symm.trans absent
  | unreadable read differs => exact absurd (Except.error.inj (read.symm.trans absent)) differs
  | failed read unstored => cases unstored.symm.trans stored
  | @stored written place _ read same located empty machine =>
      obtain rfl := Option.some.inj (same.symm.trans stored)
      have files : left.machine.files = bench.machine.files.put place (.file written) := by
        rw [machine, Machine.withFiles_files (FileTree.put_base ..) (FileTree.put_mask ..)]
      have stands := @FileTree.lookup_put bench.machine.files place
        (FileTree.ne_nil_of_lookup _ empty) (.file written)
      have here : left.machine.files.lookup place = some (.file written) := by
        rw [files, stands, if_pos rfl]
      have still := ((FileTree.locate_grows grown.base fun other _ => grown.grows other).2
        place).mpr located
      refine ⟨rfl, ?_, place, located, empty, machine, here, fun other differs => ?_⟩
      · simp [reading, FileTree.read_eq, still, here]
      · rw [files, stands, if_neg differs]

/-- If the cache file can be read afterwards, what it says is the value. -/
theorem Ends.of_readable_after (ends : inquiry.Ends bench value left) {content : Bytes}
    (readable : inquiry.reading left.machine.files = .ok content) :
    value = Metadata.ofDocument? content := by
  cases ends with
  | found read machine =>
      rw [machine] at readable
      rw [Except.ok.inj (read.symm.trans readable)]
  | unreadable read differs machine => cases read.symm.trans (machine ▸ readable)
  | failed read stored machine => cases read.symm.trans (machine ▸ readable)
  | stored read stored located empty machine requests =>
      obtain ⟨-, written, -⟩ := Ends.of_stored
        (.stored read stored located empty machine requests) stored
      rw [Except.ok.inj (written.symm.trans readable)]

/-! ## Many inquiries -/

/-- What inquiries leave behind, made one after the other. -/
def after (inquiries : List Inquiry) (start : Workbench) : Workbench :=
  inquiries.foldl (fun bench inquiry => (inquiry.make.run bench).2) start

theorem after_grown (inquiries : List Inquiry) (start : Workbench) :
    FileTree.Grown start.machine.files (after inquiries start).machine.files := by
  induction inquiries generalizing start with
  | nil => exact .refl _
  | cons inquiry rest ih => exact (inquiry.ends start).grown.trans (ih _)

/-- What an inquiry comes to after others have been made.  It asks the source, once, if its cache file
is not found at that moment; otherwise its source plays no part.  A cache file that can be read says
what the value is.  Where it cannot be read and nothing is stored, there is no value and nothing
changes.  What is stored is a new file in the place of the cache file, which holds the answer of the
source word for word and says what the value is; no other place changes.  And once the cache file can be
read, every later inquiry for that problem has the same value, changes nothing and asks for nothing. -/
theorem fetches_once (start : Workbench) (before : List Inquiry) (inquiry : Inquiry) :
    let bench := after before start
    let files := bench.machine.files
    let value := (inquiry.make.run bench).1
    let left := (inquiry.make.run bench).2
    (left.requests = bench.requests ++
      if inquiry.reading files = .error .notFound then [inquiry.problem.name] else []) ∧
    (inquiry.reading files ≠ .error .notFound → ∀ source,
      ({ inquiry with source } : Inquiry).make.run bench = (value, left)) ∧
    (∀ content, inquiry.reading files = .ok content →
      value = Metadata.ofDocument? content ∧ left.machine = bench.machine) ∧
    (∀ error, inquiry.reading files = .error error → inquiry.stored? files = none →
      value = none ∧ left.machine = bench.machine) ∧
    (∀ content, inquiry.stored? files = some content →
      value = Metadata.ofDocument? content ∧ inquiry.reading left.machine.files = .ok content ∧
      ∃ place, files.locate true inquiry.problem.metadataPath = .ok place ∧
        files.lookup place = none ∧
        left.machine = bench.machine.withFiles (files.put place (.file content)) ∧
        left.machine.files.lookup place = some (.file content) ∧
        ∀ other, other ≠ place → left.machine.files.lookup other = files.lookup other) ∧
    ∀ content, inquiry.reading left.machine.files = .ok content →
      ∀ (between : List Inquiry) (again : Inquiry), again.problem = inquiry.problem →
        let later := after between left
        let next := again.make.run later
        next.1 = value ∧ next.2.machine = later.machine ∧ next.2.requests = later.requests := by
  intro bench files value left
  have ends : inquiry.Ends bench value left := inquiry.ends bench
  refine ⟨ends.asks, make_unasked, fun content readable => ?_,
    fun error fails unstored => ends.of_failure fails unstored,
    fun content stored => ends.of_stored stored, fun content readable between again same => ?_⟩
  · obtain ⟨meant, machine, -⟩ := ends.of_readable readable
    exact ⟨meant, machine⟩
  · intro later next
    have still : again.reading later.machine.files = .ok content := by
      rw [reading, same]
      exact (after_grown between left).read readable
    rw [ends.of_readable_after readable]
    exact (again.ends later).of_readable still

end

attribute [local instance] Platform.small in
/-- The first answer of a source is kept; that the next one is none does not matter any more. -/
theorem fetches_once_sample :
    let problem := Problem.named .standard ⟨"problems"⟩ "Echo"
    let inquiry : Inquiry := ⟨problem, Harness.sample.source⟩
    let again : Inquiry := ⟨problem, .unreachable Settings.standard.metadataUrl⟩
    let left := (inquiry.make.run .sample).2
    inquiry.reading left.machine.files = .ok (Bytes.ofString "[\"1\",\"1\"]") ∧
      (again.make.run left).1 = (inquiry.make.run .sample).1 ∧
      (again.make.run left).2.machine = left.machine ∧
      (again.make.run left).2.requests = left.requests := by
  intro problem inquiry again left
  have located : FileTree.sample.locate true problem.metadataPath =
      .ok ["problems", "Echo", "problem.json"] := FileTree.sample_child (by decide) (by decide)
  have empty : FileTree.sample.lookup ["problems", "Echo", "problem.json"] = none := by
    decide +kernel
  have absent : FileTree.sample.read problem.metadataPath = .error .notFound := by
    simp only [FileTree.read_eq, located, empty]
  have plain : FileTree.endsInSeparator problem.metadataPath = false := by decide +kernel
  have stored : inquiry.stored? FileTree.sample = some (Bytes.ofString "[\"1\",\"1\"]") :=
    stored?_of_write absent rfl (FileTree.write_empty .sample problem.metadataPath _ plain located
      empty)
  obtain ⟨-, -, -, -, stores, keeps⟩ := fetches_once .sample [] inquiry
  obtain ⟨-, readable, -⟩ := stores _ stored
  exact ⟨readable, keeps _ readable [] again rfl⟩

end Inquiry

end CorpusJudge
