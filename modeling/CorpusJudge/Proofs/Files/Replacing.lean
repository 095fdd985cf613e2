import CorpusJudge.Proofs.Files.Moving
import Mathlib.Logic.Relation

/-!
# Replacing a file

A file is replaced in steps, and may be left between any two of them: its new content is written
aside, some bytes after the others, and what was written aside takes its name.  Nobody makes sure that
the name aside is free, and nobody tidies up after a step that fails.
-/

namespace CorpusJudge

/-! ## Step by step -/

/-- How far replacing a file has come. -/
inductive ReplaceStage where
  | asked
  | writing (count : Nat)
  | ended (result : Except ReplaceError Unit)

/-- Replacing a file between two steps. -/
structure Replacing where
  files : FileTree
  stage : ReplaceStage

/-- One step of replacing a file.  The operating system makes the file aside, takes more bytes of the
content, and lets the file take the name once it has taken all of them.  It may refuse each of these,
for whatever reason. -/
inductive ReplaceStep (path : Path) (content : Bytes) : Replacing → Replacing → Prop where
  | make {files made : FileTree} : files.write path.aside [] = .ok made →
      ReplaceStep path content ⟨files, .asked⟩ ⟨made, .writing 0⟩
  | refuse {files : FileTree} (error : FileError) :
      ReplaceStep path content ⟨files, .asked⟩ ⟨files, .ended (.error (.write path.aside error))⟩
  | more {files longer : FileTree} {count later : Nat} : count ≤ later → later ≤ content.length →
      files.write path.aside (content.take later) = .ok longer →
      ReplaceStep path content ⟨files, .writing count⟩ ⟨longer, .writing later⟩
  | breakOff {files : FileTree} {count : Nat} (error : FileError) :
      ReplaceStep path content ⟨files, .writing count⟩
        ⟨files, .ended (.error (.write path.aside error))⟩
  | take {files renamed : FileTree} : files.rename path.aside path = .ok renamed →
      ReplaceStep path content ⟨files, .writing content.length⟩ ⟨renamed, .ended (.ok ())⟩
  | leave {files : FileTree} (error : FileError) :
      ReplaceStep path content ⟨files, .writing content.length⟩
        ⟨files, .ended (.error (.rename path error))⟩

namespace FileTree

variable {tree : FileTree} {path : Path} {content : Bytes}

/-- Whether replacing a file of a tree, left at some point, is explained by how far it has come: up to
there the first bytes have been written aside, and after a failure some of them, or none. -/
def Explains (tree : FileTree) (path : Path) (content : Bytes) : Replacing → Prop
  | ⟨files, .asked⟩ => files = tree
  | ⟨files, .writing count⟩ =>
    count ≤ content.length ∧ tree.write path.aside (content.take count) = .ok files
  | ⟨files, .ended (.ok _)⟩ => tree.replace path content = (.ok (), files)
  | ⟨files, .ended (.error _)⟩ =>
    files = tree ∨
      ∃ count ≤ content.length, tree.write path.aside (content.take count) = .ok files

/-- What is written again is as if it had been written at once. -/
theorem Rooted.write_again (rooted : tree.Rooted) {old : Bytes} {written : FileTree}
    (wrote : tree.write path old = .ok written) (new : Bytes) :
    written.write path new = tree.write path new := by
  obtain ⟨plain, location, place, ⟨⟨device, there⟩, rfl⟩ | ⟨noDevice, noProgram, notSealed, rfl⟩⟩ :=
    place_of_write wrote
  · rfl
  · have proper := ne_nil_of_place place
    have stands : (tree.put location (.file old)).lookup location = some (.file old) :=
      (lookup_put proper _ location).trans (if_pos rfl)
    have again : (tree.put location (.file old)).placeForFile path = .ok location :=
      placeForFile_eq_ok.2 ⟨(locate_put proper (rooted.placed place).2 old true path location).mpr
        (placeForFile_eq_ok.1 place).1, by simp [stands]⟩
    rw [write_of_place plain place noDevice noProgram notSealed, write_of_place plain again
      (by simp [stands]) (by simp [stands]) (by simp [stands]), put_put proper]

/-- Some bytes of the content are written aside in steps. -/
theorem Rooted.write_steps (rooted : tree.Rooted) {count : Nat} (within : count ≤ content.length)
    {staged : FileTree} (wrote : tree.write path.aside (content.take count) = .ok staged) :
    Relation.ReflTransGen (ReplaceStep path content) ⟨tree, .asked⟩ ⟨staged, .writing count⟩ := by
  obtain ⟨made, makes⟩ : ∃ made, tree.write path.aside [] = .ok made := by
    rcases write_alike wrote with same | ⟨location, -, puts⟩
    · exact ⟨tree, same []⟩
    · exact ⟨_, puts []⟩
  have rest : made.write path.aside (content.take count) = .ok staged :=
    (rooted.write_again makes _).trans wrote
  exact .tail (.single (.make makes)) (.more (Nat.zero_le _) within rest)

/-- The whole of a replacement is taken in steps. -/
theorem Rooted.replace_steps (rooted : tree.Rooted) (path : Path) (content : Bytes) :
    Relation.ReflTransGen (ReplaceStep path content) ⟨tree, .asked⟩
      ⟨(tree.replace path content).2, .ended (tree.replace path content).1⟩ := by
  cases wrote : tree.write path.aside content with
  | error error =>
      simp only [replace, wrote]
      exact .single (.refuse error)
  | ok staged =>
      have complete := rooted.write_steps (Nat.le_refl _) (by rwa [List.take_length])
      cases renamed : staged.rename path.aside path with
      | error error =>
          simp only [replace, wrote, renamed]
          exact complete.tail (.leave error)
      | ok after =>
          simp only [replace, wrote, renamed]
          exact complete.tail (.take renamed)

/-- A step goes on to what is explained. -/
theorem Rooted.explains_step (rooted : tree.Rooted) {before after : Replacing}
    (step : ReplaceStep path content before after) (explained : tree.Explains path content before) :
    tree.Explains path content after := by
  cases step with
  | make wrote =>
      obtain rfl : _ = tree := explained
      exact ⟨Nat.zero_le _, wrote⟩
  | refuse error => exact .inl explained
  | more _ within wrote => exact ⟨within, (rooted.write_again explained.2 _).symm.trans wrote⟩
  | breakOff error => exact .inr ⟨_, explained⟩
  | take renamed =>
      have wrote := explained.2
      rw [List.take_length] at wrote
      simp only [Explains, replace, wrote, renamed]
  | leave error => exact .inr ⟨_, explained⟩

/-- Wherever the steps have led, it is explained. -/
theorem Rooted.explains (rooted : tree.Rooted) {reached : Replacing}
    (steps : Relation.ReflTransGen (ReplaceStep path content) ⟨tree, .asked⟩ reached) :
    tree.Explains path content reached := by
  induction steps with
  | refl => exact rfl
  | tail _ step ih => exact rooted.explains_step step ih

/-! ## What is left behind -/

/-- Whether content for a file is written aside to a place of its own: no link leads from the name
aside to another place, and no device takes the content. -/
structure WritesAside (tree : FileTree) (path : Path) (scratch : Location) : Prop where
  place : tree.placeForFile path.aside = .ok scratch
  direct : tree.locate false path.aside = .ok scratch
  noDevice : ∀ device, tree.lookup scratch ≠ some (.device device)

/-- Whether a path comes to its place only at its end.  One that goes through the link that it ends at
does not lead back there once something else stands in the place of the link. -/
def EndsOnce (tree : FileTree) (path : Path) : Prop :=
  ∀ there, tree.locate false path = .ok there → there ∉ (tree.placesOf false path).dropLast

/-- Files in which one has been replaced: it holds the content, nothing is left aside, and everything
else stays. -/
structure Replaced (before after : FileTree) (path : Path) (content : Bytes)
    (scratch there : Location) : Prop where
  base : after.base = before.base
  leads : before.locate false path = .ok there
  holds : after.lookup there = some (.file content)
  found : before.EndsOnce path → after.find path = .ok (there, .file content)
  gone : scratch ≠ there → after.lookup scratch = none
  keeps : ∀ place, place ≠ there → place ≠ scratch → before.Keeps after place

/-- Files in which one has not been replaced: a part of the content stands aside, and everything else
stays, the file included unless it is reached by way of the place aside. -/
structure LeftAside (before after : FileTree) (path : Path) (part : Bytes) (scratch : Location) :
    Prop where
  place : before.placeForFile path.aside = .ok scratch
  holds : after.lookup scratch = some (.file part)
  keeps : ∀ place, place ≠ scratch → before.Keeps after place
  found : scratch ∉ before.placesOf true path → after.find path = before.find path

theorem replace_eq_ok {after : FileTree} :
    tree.replace path content = (.ok (), after) ↔
      ∃ staged, tree.write path.aside content = .ok staged ∧
        staged.rename path.aside path = .ok after := by
  unfold replace
  cases tree.write path.aside content with
  | error error => simp
  | ok staged =>
      simp only [Except.ok.injEq, exists_eq_left']
      cases staged.rename path.aside path <;> simp

variable {after : FileTree} {scratch : Location}

/-- A replacement that is over without a failure has replaced the file. -/
theorem WritesAside.replaced (aside : tree.WritesAside path scratch) (rooted : tree.Rooted)
    (done : tree.replace path content = (.ok (), after)) :
    ∃ there, tree.Replaced after path content scratch there := by
  obtain ⟨staged, wrote, renamed⟩ := replace_eq_ok.1 done
  obtain ⟨-, place, puts, written⟩ := place_of_write wrote
  obtain rfl : scratch = place := Except.ok.inj (aside.place.symm.trans puts)
  rcases written with ⟨⟨device, isDevice⟩, -⟩ | ⟨-, -, -, rfl⟩
  · exact absurd isDevice (aside.noDevice device)
  · have proper := ne_nil_of_place puts
    have leadsAlike := locate_put proper (rooted.placed puts).2 content false
    obtain ⟨there, reached, base, holds, gone, moved⟩ :=
      (rooted.write wrote).rename ((leadsAlike path.aside scratch).mpr aside.direct)
        ((lookup_put proper _ scratch).trans (if_pos rfl)) renamed
    have leads := (leadsAlike path there).mp reached
    have keeps (name : Location) (notThere : name ≠ there) (notScratch : name ≠ scratch) :
        tree.Keeps after name :=
      (keeps_put proper notScratch _).trans (moved name notThere notScratch)
    have stays := base.trans (put_base ..)
    refine ⟨there, stays, leads, holds, fun once => ?_, gone, keeps⟩
    -- what the path passes is neither the place itself nor the one aside, where it would have ended
    have passed : ∀ name ∈ (tree.placesOf false path).dropLast,
        after.lookup name = tree.lookup name := by
      intro name member
      have passable := passes_of_locate leads name member
      refine (keeps name ?_ ?_).entry
      · rintro rfl
        exact once name leads member
      · rintro rfl
        cases passable.symm.trans (rooted.placed puts).2
    rw [find_eq, locate_lands leads stays passed (by simp [holds, IsEnd]) true]
    simp [holds]

/-- What is written aside and goes no further leaves everything else alone. -/
theorem leftAside_of_write {part : Bytes} (wrote : tree.write path.aside part = .ok after) :
    after = tree ∨ ∃ scratch, tree.LeftAside after path part scratch := by
  obtain ⟨-, scratch, place, ⟨-, same⟩ | ⟨-, -, -, rfl⟩⟩ := place_of_write wrote
  · exact .inl same
  · have proper := ne_nil_of_place place
    have keeps (name : Location) (differs : name ≠ scratch) :
        tree.Keeps (tree.put scratch (.file part)) name := keeps_put proper differs _
    refine .inr ⟨scratch, place, (lookup_put proper _ scratch).trans (if_pos rfl), keeps, ?_⟩
    intro offWay
    refine find_congr (put_base ..) fun name member => (keeps name ?_).entry
    rintro rfl
    exact offWay member

/-- As long as a file has not been replaced, nothing has happened but that some of its content may
stand aside. -/
theorem Explains.unfinished {reached : Replacing} (explained : tree.Explains path content reached)
    (unfinished : reached.stage ≠ .ended (.ok ())) :
    reached.files = tree ∨ ∃ scratch, ∃ count ≤ content.length,
      tree.LeftAside reached.files path (content.take count) scratch := by
  obtain ⟨files, stage⟩ := reached
  have aside {count : Nat} (within : count ≤ content.length)
      (wrote : tree.write path.aside (content.take count) = .ok files) :
      files = tree ∨ ∃ scratch, ∃ count ≤ content.length,
        tree.LeftAside files path (content.take count) scratch :=
    (leftAside_of_write wrote).imp_right fun ⟨scratch, left⟩ => ⟨scratch, count, within, left⟩
  cases stage with
  | asked => exact .inl explained
  | writing count => exact aside explained.1 explained.2
  | ended result =>
      cases result with
      | ok value => exact absurd rfl unfinished
      | error error =>
          rcases explained with same | ⟨count, within, wrote⟩
          · exact .inl same
          · exact aside within wrote

/-- Wherever replacing a file is left, and whatever fails, the file holds all of the new content or
what it held before, provided that the name aside is one of its own and off the way to the file.  What
can be left behind is a part of the content under that name, and nothing else. -/
theorem replace_all_or_nothing (rooted : tree.Rooted) :
    Relation.ReflTransGen (ReplaceStep path content) ⟨tree, .asked⟩
        ⟨(tree.replace path content).2, .ended (tree.replace path content).1⟩ ∧
      ∀ reached, Relation.ReflTransGen (ReplaceStep path content) ⟨tree, .asked⟩ reached →
        (∀ scratch, tree.WritesAside path scratch → scratch ∉ tree.placesOf true path →
          tree.EndsOnce path →
          reached.files.find path = tree.find path ∨
            ∃ there, tree.locate false path = .ok there ∧
              reached.files.find path = .ok (there, .file content)) ∧
        (reached.stage = .ended (.ok ()) → ∀ scratch, tree.WritesAside path scratch →
          ∃ there, tree.Replaced reached.files path content scratch there) ∧
        (reached.stage ≠ .ended (.ok ()) →
          reached.files = tree ∨ ∃ scratch, ∃ count ≤ content.length,
            tree.LeftAside reached.files path (content.take count) scratch) := by
  refine ⟨rooted.replace_steps path content, fun reached steps => ?_⟩
  have explained := rooted.explains steps
  have all (done : reached.stage = .ended (.ok ())) (scratch : Location)
      (aside : tree.WritesAside path scratch) :
      ∃ there, tree.Replaced reached.files path content scratch there := by
    obtain ⟨files, stage⟩ := reached
    obtain rfl : stage = .ended (.ok ()) := done
    exact aside.replaced rooted explained
  refine ⟨fun scratch aside offWay once => ?_, all, explained.unfinished⟩
  by_cases done : reached.stage = .ended (.ok ())
  · obtain ⟨there, replaced⟩ := all done scratch aside
    exact .inr ⟨there, replaced.leads, replaced.found once⟩
  · refine .inl ?_
    rcases explained.unfinished done with same | ⟨place, count, within, left⟩
    · rw [same]
    · refine left.found ?_
      obtain rfl : scratch = place := Except.ok.inj (aside.place.symm.trans left.place)
      exact offWay

/-- How the names of a summary and of what is written aside for it are read. -/
theorem summary_names :
    (∀ name ∈ ["summary.json", "summary.tmp"], (Path.mk name).aside = ⟨"summary.tmp"⟩ ∧
      IsPlain name ∧ faultOf ⟨name⟩ = none ∧ isTooLong name = false ∧
      endsInSeparator ⟨name⟩ = false ∧ endsInDots ⟨name⟩ = false) := by
  decide +kernel

section

variable (base : tree.base = [])

include base

/-- A summary and what is written aside for it stand in the base. -/
theorem summary_leads {name : String} (listed : name ∈ ["summary.json", "summary.tmp"])
    (noLink : ∀ target, tree.lookup [name] ≠ some (.link target)) (follow : Bool) :
    tree.locate follow ⟨name⟩ = .ok [name] := by
  obtain ⟨-, plain, sound, short, -⟩ := summary_names name listed
  have single := @locate_single tree name plain sound short (by simpa [base] using noLink)
  simpa [base] using single follow

/-- What replacing a summary comes to where no link stands. -/
theorem replace_summary (content : Bytes)
    (noLink : ∀ target, tree.lookup ["summary.json"] ≠ some (.link target))
    (file : ∀ entry, tree.lookup ["summary.tmp"] = some entry → ∃ old, entry = .file old) :
    tree.replace ⟨"summary.json"⟩ content =
      if tree.lookup ["summary.json"] = some .folder then
        (.error (.rename ⟨"summary.json"⟩ .isDirectory),
          tree.put ["summary.tmp"] (.file content))
      else
        (.ok (), (tree.put ["summary.tmp"] (.file content)).move ["summary.tmp"]
          ["summary.json"]) := by
  obtain ⟨aside, -, -, -, plain, noDots⟩ := summary_names "summary.json" (by simp)
  obtain ⟨-, -, -, -, plainAside, noDotsAside⟩ := summary_names "summary.tmp" (by simp)
  have noLinkAside (target : String) : tree.lookup ["summary.tmp"] ≠ some (.link target) :=
    fun isLink => by simpa using file _ isLink
  exact replace_eq content aside ⟨plainAside, plain⟩ ⟨noDotsAside, noDots⟩
    (summary_leads base (by simp) noLinkAside) (by simp) file
    (summary_leads base (by simp) noLink false) (by simp)

/-- A summary can be left where nothing has either name. -/
theorem summary_replaced
    (free : ∀ name ∈ ["summary.json", "summary.tmp"], tree.lookup [name] = none)
    (content : Bytes) : (tree.replace ⟨"summary.json"⟩ content).1 = .ok () := by
  rw [replace_summary base content (by simp [free]) (by simp [free])]
  simp [free]

/-- Where nothing has either name, the content of a summary is written aside to a place of its own. -/
theorem summary_writesAside
    (free : ∀ name ∈ ["summary.json", "summary.tmp"], tree.lookup [name] = none) :
    tree.WritesAside ⟨"summary.json"⟩ ["summary.tmp"] ∧
      ["summary.tmp"] ∉ tree.placesOf true ⟨"summary.json"⟩ ∧
      tree.EndsOnce ⟨"summary.json"⟩ ∧
      tree.locate false ⟨"summary.json"⟩ = .ok ["summary.json"] := by
  obtain ⟨aside, plain, sound, short, -⟩ := summary_names "summary.json" (by simp)
  have leads {name : String} (listed : name ∈ ["summary.json", "summary.tmp"]) :=
    summary_leads base listed (by simp [free name listed])
  have places (follow : Bool) : tree.placesOf follow ⟨"summary.json"⟩ = [["summary.json"]] := by
    have single := @placesOf_single tree _ plain sound short (by simp [base, free, IsEnd]) follow
    simpa [base] using single
  refine ⟨⟨?_, ?_, by simp [free]⟩, ?_, ?_, leads (by simp) false⟩
  · rw [aside]
    exact placeForFile_eq_ok.2 ⟨leads (by simp) true, by simp [free]⟩
  · rw [aside]
    exact leads (by simp) false
  · simp [places]
  · intro there located
    simp [places]

end

theorem sample_rooted : sample.Rooted :=
  .of_entries rfl (by decide)

theorem sample_free : ∀ name ∈ ["summary.json", "summary.tmp"], sample.lookup [name] = none := by
  decide

/-- Content is written aside in the sample tree. -/
theorem sample_wrote {name : String} (listed : name ∈ ["summary.json", "summary.tmp"])
    (content : Bytes) :
    sample.write (Path.mk name).aside content =
      .ok (sample.put ["summary.tmp"] (.file content)) := by
  obtain ⟨aside, -⟩ := summary_names name listed
  obtain ⟨-, -, -, -, plain, -⟩ := summary_names "summary.tmp" (by simp)
  have free := sample_free "summary.tmp" (by simp)
  rw [aside]
  exact write_empty sample _ content plain (summary_leads rfl (by simp) (by simp [free]) true) free

/-- The sample tree holds no summary as long as it has not been written, and the whole of it then. -/
theorem replace_all_or_nothing_sample :
    sample.Rooted ∧
      (∃ reached, Relation.ReflTransGen (ReplaceStep ⟨"summary.json"⟩ [1, 2]) ⟨sample, .asked⟩
          reached ∧
        reached.files.lookup ["summary.tmp"] = some (.file [1]) ∧
        reached.files.find ⟨"summary.json"⟩ = sample.find ⟨"summary.json"⟩) ∧
      (sample.replace ⟨"summary.json"⟩ [1, 2]).2.find ⟨"summary.json"⟩ =
        .ok (["summary.json"], .file [1, 2]) := by
  obtain ⟨aside, offWay, once, leads⟩ := summary_writesAside rfl sample_free
  obtain ⟨whole, every⟩ := @replace_all_or_nothing sample ⟨"summary.json"⟩ [1, 2] sample_rooted
  have steps := @Rooted.write_steps sample ⟨"summary.json"⟩ [1, 2] sample_rooted 1 (by simp) _
    (sample_wrote (by simp) [1])
  refine ⟨sample_rooted, ⟨_, steps, rfl, ?_⟩, ?_⟩
  · obtain ⟨-, -, unfinished⟩ := every _ steps
    rcases unfinished (by simp) with same | ⟨place, count, -, left⟩
    · rw [same]
    · obtain rfl := Except.ok.inj (aside.place.symm.trans left.place)
      exact left.found offWay
  · obtain ⟨-, done, -⟩ := every _ whole
    obtain ⟨there, replaced⟩ := done (by rw [summary_replaced rfl sample_free]) _ aside
    obtain rfl := Except.ok.inj (leads.symm.trans replaced.leads)
    exact replaced.found once

/-- A tree with a single entry. -/
def single (name : String) (entry : Entry) : FileTree :=
  { entries := [([name], entry)], base := [] }

/-- Where a folder stands in the place of a file, its content is left aside; and where the name aside
is that of the file itself, the file holds a part of its content in between. -/
theorem replace_leaves_aside :
    ((single "summary.json" .folder).replace ⟨"summary.json"⟩ [1, 2]).1 =
        .error (.rename ⟨"summary.json"⟩ .isDirectory) ∧
      (single "summary.json" .folder).lookup ["summary.tmp"] = none ∧
      ((single "summary.json" .folder).replace ⟨"summary.json"⟩ [1, 2]).2.lookup ["summary.tmp"] =
        some (.file [1, 2]) ∧
      sample.find ⟨"summary.tmp"⟩ = .error .notFound ∧
      ∃ reached, Relation.ReflTransGen (ReplaceStep ⟨"summary.tmp"⟩ [1, 2]) ⟨sample, .asked⟩
          reached ∧
        reached.files.find ⟨"summary.tmp"⟩ = .ok (["summary.tmp"], .file [1]) := by
  have occupied : (single "summary.json" .folder).lookup ["summary.json"] = some .folder := rfl
  have empty : (single "summary.json" .folder).lookup ["summary.tmp"] = none := by decide
  have refused := @replace_summary (single "summary.json" .folder) rfl [1, 2] (by simp [occupied])
    (by simp [empty])
  rw [if_pos occupied] at refused
  have free := sample_free "summary.tmp" (by simp)
  have leads := @summary_leads sample rfl "summary.tmp" (by simp) (by simp [free]) true
  have steps := @Rooted.write_steps sample ⟨"summary.tmp"⟩ [1, 2] sample_rooted 1 (by simp) _
    (sample_wrote (by simp) [1])
  refine ⟨congrArg Prod.fst refused, empty, ?_, ?_, _, steps, ?_⟩
  · rw [refused]
    rfl
  · rw [find_eq, leads]
    rfl
  · rw [find_eq, (locate_put (by simp) rfl [1] true _ _).mpr leads]
    rfl

/-- A replacement that is over without a failure touches the file and the name aside.  It touches
nothing but the file just when that name was free, or is the file's own. -/
theorem replace_touches {after : FileTree} {scratch : Location} (rooted : tree.Rooted)
    (aside : tree.WritesAside path scratch)
    (done : tree.replace path content = (.ok (), after)) :
    ∃ there, tree.Replaced after path content scratch there ∧
      ((∀ place, place ≠ there → tree.Keeps after place) ↔
        scratch = there ∨ tree.lookup scratch = none) ∧
      (scratch = there ∨ tree.lookup scratch = none → ∀ other : Path,
        there ∉ tree.placesOf true other → after.find other = tree.find other) := by
  obtain ⟨there, replaced⟩ := aside.replaced rooted done
  have touches (free : scratch = there ∨ tree.lookup scratch = none) (place : Location)
      (differs : place ≠ there) : tree.Keeps after place := by
    by_cases own : place = scratch
    · subst own
      have free := free.resolve_left differs
      exact ⟨(replaced.gone differs).trans free.symm, fun there => absurd free there,
        fun there => absurd free there⟩
    · exact replaced.keeps place differs own
  refine ⟨there, replaced, ⟨fun keeps => ?_, touches⟩, fun free other apart => ?_⟩
  · by_cases own : scratch = there
    · exact .inl own
    · exact .inr ((keeps scratch own).entry.symm.trans (replaced.gone own))
  · refine find_congr replaced.base fun place member => (touches free place ?_).entry
    rintro rfl
    exact apart member

/-- Beside the solutions and the documents of the sample tree, a summary is written. -/
theorem replace_touches_sample :
    ∃ after, sample.Rooted ∧ sample.WritesAside ⟨"summary.json"⟩ ["summary.tmp"] ∧
      sample.replace ⟨"summary.json"⟩ [1, 2] = (.ok (), after) ∧
      after.lookup ["summary.json"] = some (.file [1, 2]) ∧
      ∀ place, place ≠ ["summary.json"] → sample.Keeps after place := by
  obtain ⟨aside, -, -, leads⟩ := summary_writesAside rfl sample_free
  have done : sample.replace ⟨"summary.json"⟩ [1, 2] =
      (.ok (), (sample.replace ⟨"summary.json"⟩ [1, 2]).2) :=
    Prod.ext (summary_replaced rfl sample_free _) rfl
  obtain ⟨there, replaced, touches, -⟩ := replace_touches sample_rooted aside done
  obtain rfl := Except.ok.inj (leads.symm.trans replaced.leads)
  exact ⟨_, sample_rooted, aside, done, replaced.holds, touches.mpr (.inr rfl)⟩

/-- A file that happens to have the name aside is lost. -/
theorem replace_removes_neighbour :
    ((single "summary.tmp" (.file [7])).replace ⟨"summary.json"⟩ [1, 2]).1 = .ok () ∧
      (single "summary.tmp" (.file [7])).lookup ["summary.tmp"] = some (.file [7]) ∧
      ((single "summary.tmp" (.file [7])).replace ⟨"summary.json"⟩ [1, 2]).2.lookup
        ["summary.tmp"] = none := by
  have replaced := @replace_summary (single "summary.tmp" (.file [7])) rfl [1, 2] nofun
    (fun entry there => ⟨[7], (Option.some.inj there).symm⟩)
  rw [if_neg (by decide)] at replaced
  rw [replaced]
  exact ⟨rfl, rfl, by decide⟩

end FileTree

end CorpusJudge
