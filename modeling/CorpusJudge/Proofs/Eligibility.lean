import CorpusJudge.Eligibility
import CorpusJudge.Proofs.Bytes
import CorpusJudge.Proofs.Solution
import CorpusJudge.Proofs.Text.Utf8

/-!
# Eligibility

A solution is eligible exactly when it keeps every rule, and otherwise the rule reported is the first
one that it breaks.  So neither the order of the windows and patterns nor repeating them matters to
eligibility, and more of them never make a solution eligible.
-/

namespace CorpusJudge

/-! ## Breaking a rule -/

/-- The item is the first of its list with a property. -/
def IsFirst {α : Type} (property : α → Prop) (items : List α) (item : α) : Prop :=
  property item ∧ ∃ before after, items = before ++ item :: after ∧
    ∀ earlier ∈ before, ¬property earlier

theorem find?_eq_some_iff_isFirst {α : Type} {property : α → Prop} {test : α → Bool}
    (decides : ∀ item, test item = true ↔ property item) {items : List α} {item : α} :
    items.find? test = some item ↔ IsFirst property items item := by
  simp [List.find?_eq_some_iff_append, IsFirst, ← decides]

theorem IsFirst.mem {α : Type} {property : α → Prop} {items : List α} {item : α}
    (first : IsFirst property items item) : item ∈ items := by
  obtain ⟨-, before, after, rfl, -⟩ := first
  simp

theorem exists_isFirst {α : Type} {property : α → Prop} {items : List α} {item : α}
    (listed : item ∈ items) (holds : property item) : ∃ first, IsFirst property items first := by
  classical
  cases found : items.find? (property ·) with
  | none => simpa [holds] using List.find?_eq_none.mp found item listed
  | some first => exact ⟨first, (find?_eq_some_iff_isFirst fun _ => decide_eq_true_iff).mp found⟩

/-- The first item with a property stands no later than any item with it. -/
theorem IsFirst.mem_concat {α : Type} {property : α → Prop} {items before after : List α}
    {item other : α} (first : IsFirst property items item) (split : items = before ++ other :: after)
    (holds : property other) : item ∈ before ++ [other] := by
  obtain ⟨-, front, back, same, none⟩ := first
  rcases List.append_eq_append_iff.mp (same.symm.trans split) with
    ⟨between, rfl, rest⟩ | ⟨between, rfl, rest⟩
  · cases between with
    | nil => simp_all
    | cons head tail => simp_all
  · cases between with
    | nil => simp_all
    | cons head tail =>
        obtain ⟨rfl, -⟩ := List.cons.inj rest
        exact absurd holds (none other (by simp))

/-- The place of a rule in the order in which the rules are checked. -/
def Ineligible.rank : Ineligible → Nat
  | .noExpectedOutput => 0
  | .emptySolution => 1
  | .malformedTimestamp _ => 2
  | .beforeMinDate _ => 3
  | .inWindow _ => 4
  | .notText => 5
  | .containsNul => 6
  | .rejectedPattern _ => 7

theorem Ineligible.rank_lt (reason : Ineligible) : reason.rank < 8 := by
  cases reason <;> simp [rank]

namespace Rules

variable {rules : Rules} {metadata : Metadata} {solution : Solution}

/-- The window does not let a file with that submission time count. -/
def Covers (solution : Solution) (time : Int) (window : Window) : Prop :=
  window.covers solution.fileName time = true

/-- The pattern stands in the source. -/
def Occurs (solution : Solution) (pattern : String) : Prop :=
  Bytes.ofString pattern <:+: solution.source

/-- The solution breaks a rule, whichever others it breaks. -/
def Breaks (rules : Rules) (metadata : Metadata) (solution : Solution) : Ineligible → Prop
  | .noExpectedOutput => metadata.output = ""
  | .emptySolution => solution.source = []
  | .malformedTimestamp error => error.Explains solution.fileName
  | .beforeMinDate time => CarriesTime solution.fileName time ∧ time < rules.minDate.seconds
  | .inWindow author => ∃ time window, CarriesTime solution.fileName time ∧
      IsFirst (Covers solution time) rules.windows window ∧ window.author = author
  | .notText => ∀ text, solution.source ≠ Bytes.ofString text
  | .containsNul => 0 ∈ solution.source
  | .rejectedPattern pattern => IsFirst (Occurs solution) rules.rejected pattern

/-- The solution keeps every rule. -/
structure Keeps (rules : Rules) (metadata : Metadata) (solution : Solution) (time : Int) :
    Prop where
  judgeable : metadata.output ≠ ""
  written : solution.source ≠ []
  dated : CarriesTime solution.fileName time
  recent : rules.minDate.seconds ≤ time
  counted : ∀ window ∈ rules.windows, ¬Covers solution time window
  isText : ∃ text, solution.source = Bytes.ofString text
  bare : 0 ∉ solution.source
  clean : ∀ pattern ∈ rules.rejected, ¬Occurs solution pattern

/-- A solution that breaks no rule keeps them all, and the other way round. -/
theorem exists_keeps_iff : (∃ time, rules.Keeps metadata solution time) ↔
    ∀ reason, ¬rules.Breaks metadata solution reason := by
  constructor
  · rintro ⟨time, keeps⟩ reason
    cases reason with
    | noExpectedOutput => exact keeps.judgeable
    | emptySolution => exact keeps.written
    | malformedTimestamp error =>
        intro explained
        have failed := timestampOf_eq_error.2 explained
        simp [timestampOf_eq_ok.2 keeps.dated] at failed
    | beforeMinDate early =>
        rintro ⟨carried, before⟩
        rw [carried.unique keeps.dated] at before
        exact absurd keeps.recent (Int.not_le.mpr before)
    | inWindow author =>
        rintro ⟨other, window, carried, first, -⟩
        rw [carried.unique keeps.dated] at first
        exact keeps.counted window first.mem first.1
    | notText =>
        obtain ⟨text, same⟩ := keeps.isText
        exact fun not => not text same
    | containsNul => exact keeps.bare
    | rejectedPattern pattern => exact fun first => keeps.clean pattern first.mem first.1
  · intro unbroken
    cases read : timestampOf solution.fileName with
    | error error =>
        exact absurd (timestampOf_eq_error.1 read) (unbroken (.malformedTimestamp error))
    | ok time =>
        have dated := timestampOf_eq_ok.1 read
        refine ⟨time, unbroken .noExpectedOutput, unbroken .emptySolution, dated, ?_, ?_, ?_,
          unbroken .containsNul, ?_⟩
        · exact Int.not_lt.mp fun early => unbroken (.beforeMinDate time) ⟨dated, early⟩
        · intro window listed covers
          obtain ⟨first, isFirst⟩ := exists_isFirst listed covers
          exact unbroken (.inWindow first.author) ⟨time, first, dated, isFirst, rfl⟩
        · exact not_forall_not.mp (unbroken .notText)
        · intro pattern listed occurs
          obtain ⟨first, isFirst⟩ := exists_isFirst listed occurs
          exact unbroken (.rejectedPattern first) isFirst

/-! ## Findings -/

/-- What the rule at a place finds by itself, whatever the others find. -/
def finding (rules : Rules) (metadata : Metadata) (solution : Solution) : Nat → Option Ineligible
  | 0 => if metadata.isJudgeable then none else some .noExpectedOutput
  | 1 => if solution.source.isEmpty then some .emptySolution else none
  | 2 =>
    match solution.timestamp with
    | .error error => some (.malformedTimestamp error)
    | .ok _ => none
  | 3 =>
    match solution.timestamp with
    | .error _ => none
    | .ok time => if time < rules.minDate.seconds then some (.beforeMinDate time) else none
  | 4 =>
    match solution.timestamp with
    | .error _ => none
    | .ok time =>
      (rules.windows.find? (·.covers solution.fileName time)).map (.inWindow ·.author)
  | 5 => if Utf8.isText solution.source then none else some .notText
  | 6 => if solution.source.contains 0 then some .containsNul else none
  | 7 =>
    (rules.rejected.find? fun pattern =>
      solution.source.containsBlock (Bytes.ofString pattern)).map .rejectedPattern
  | _ => none

/-- A check reports the first finding. -/
theorem check_eq (rules : Rules) (metadata : Metadata) (solution : Solution) :
    rules.check metadata solution =
      match (List.range 8).findSome? (rules.finding metadata solution) with
      | some reason => .error reason
      | none => .ok () := by
  have places : List.range 8 = [0, 1, 2, 3, 4, 5, 6, 7] := rfl
  simp only [places, List.findSome?, finding, check]
  cases metadata.isJudgeable with
  | false => rfl
  | true =>
  cases solution.source.isEmpty with
  | true => rfl
  | false =>
  cases solution.timestamp with
  | error error => rfl
  | ok time =>
  simp only [checkTime, checkSource]
  by_cases early : time < rules.minDate.seconds
  · simp only [if_pos early]
    rfl
  simp only [if_neg early]
  cases rules.windows.find? (·.covers solution.fileName time) with
  | some window => rfl
  | none =>
  cases Utf8.isText solution.source with
  | false => rfl
  | true =>
  cases solution.source.contains 0 with
  | true => rfl
  | false =>
  cases rules.rejected.find? fun pattern =>
      solution.source.containsBlock (Bytes.ofString pattern) with
  | some pattern => rfl
  | none => rfl

/-- A finding is about the rule at its place. -/
theorem rank_of_finding {rank : Nat} {reason : Ineligible}
    (found : rules.finding metadata solution rank = some reason) : reason.rank = rank := by
  unfold finding at found
  split at found
  all_goals grind [Ineligible.rank, Option.map_eq_some_iff]

/-- What the rules find is what is broken. -/
theorem finding_eq_some {reason : Ineligible} :
    rules.finding metadata solution reason.rank = some reason ↔
      rules.Breaks metadata solution reason := by
  cases reason with
  | noExpectedOutput => simp [finding, Ineligible.rank, Breaks, Metadata.isJudgeable]
  | emptySolution => simp [finding, Ineligible.rank, Breaks]
  | malformedTimestamp error =>
      rw [Breaks, ← timestampOf_eq_error]
      simp only [finding, Ineligible.rank, Solution.timestamp]
      cases timestampOf solution.fileName <;> simp
  | beforeMinDate early =>
      rw [Breaks, ← timestampOf_eq_ok]
      simp only [finding, Ineligible.rank, Solution.timestamp]
      cases timestampOf solution.fileName <;> grind
  | inWindow author =>
      simp only [Breaks, ← timestampOf_eq_ok, finding, Ineligible.rank, Solution.timestamp]
      cases timestampOf solution.fileName with
      | error error => simp
      | ok time =>
          have decides (window : Window) :
              window.covers solution.fileName time = true ↔ Covers solution time window :=
            Iff.rfl
          simp [find?_eq_some_iff_isFirst decides]
  | notText =>
      rw [Breaks, ← not_exists, ← Utf8.isText_iff]
      simp [finding, Ineligible.rank]
  | containsNul => simp [finding, Ineligible.rank, Breaks]
  | rejectedPattern pattern =>
      have decides (pattern : String) :
          solution.source.containsBlock (Bytes.ofString pattern) = true ↔ Occurs solution pattern :=
        Bytes.containsBlock_iff
      simp [finding, Ineligible.rank, Breaks, find?_eq_some_iff_isFirst decides]

theorem findSome?_range_eq_some {α : Type} {find : Nat → Option α} {count : Nat} {item : α} :
    (List.range count).findSome? find = some item ↔
      ∃ place < count, find place = some item ∧ ∀ earlier < place, find earlier = none := by
  induction count with
  | zero => simp
  | succ count ih =>
      rw [List.range_succ, List.findSome?_append, Option.or_eq_some_iff, ih]
      simp only [List.findSome?_eq_none_iff, List.mem_range, List.findSome?_singleton]
      constructor
      · rintro (⟨place, below, found, first⟩ | ⟨first, found⟩)
        · exact ⟨place, Nat.lt_succ_of_lt below, found, first⟩
        · exact ⟨count, Nat.lt_succ_self count, found, first⟩
      · rintro ⟨place, below, found, first⟩
        rcases Nat.lt_succ_iff_lt_or_eq.mp below with earlier | rfl
        · exact .inl ⟨place, earlier, found, first⟩
        · exact .inr ⟨first, found⟩

/-- A check passes exactly if no rule is broken. -/
theorem check_eq_ok : rules.check metadata solution = .ok () ↔
    ∀ reason, ¬rules.Breaks metadata solution reason := by
  rw [check_eq]
  constructor
  · intro passes reason broken
    have found := finding_eq_some.2 broken
    split at passes
    · cases passes
    · next none =>
        have place := List.mem_range.mpr reason.rank_lt
        simp [List.findSome?_eq_none_iff.mp none reason.rank place] at found
  · intro unbroken
    split
    · next reason found =>
        obtain ⟨place, -, found, -⟩ := findSome?_range_eq_some.1 found
        obtain rfl := rank_of_finding found
        exact absurd (finding_eq_some.1 found) (unbroken reason)
    · rfl

/-- A check fails exactly with the first reason that is broken. -/
theorem check_eq_error {reason : Ineligible} : rules.check metadata solution = .error reason ↔
    rules.Breaks metadata solution reason ∧
      ∀ other, rules.Breaks metadata solution other → reason.rank ≤ other.rank := by
  have first : rules.check metadata solution = .error reason ↔
      ∃ place < 8, rules.finding metadata solution place = some reason ∧
        ∀ earlier < place, rules.finding metadata solution earlier = none := by
    rw [check_eq, ← findSome?_range_eq_some]
    cases (List.range 8).findSome? (rules.finding metadata solution) <;> simp
  rw [first]
  constructor
  · rintro ⟨place, -, found, none⟩
    obtain rfl := rank_of_finding found
    refine ⟨finding_eq_some.1 found, fun other broken => Nat.le_of_not_lt fun earlier => ?_⟩
    have kept := finding_eq_some.2 broken
    simp [none other.rank earlier] at kept
  · rintro ⟨broken, least⟩
    refine ⟨reason.rank, reason.rank_lt, finding_eq_some.2 broken, fun earlier below => ?_⟩
    by_contra some
    obtain ⟨other, found⟩ := Option.ne_none_iff_exists'.mp some
    obtain rfl := rank_of_finding found
    exact absurd (least other (finding_eq_some.1 found)) (Nat.not_le_of_lt below)

theorem admits_iff : rules.admits metadata solution = true ↔
    ∃ time, rules.Keeps metadata solution time := by
  rw [exists_keeps_iff, ← check_eq_ok, admits]
  cases rules.check metadata solution with
  | error reason => simp [Except.isOk, Except.toBool]
  | ok done => simp [Except.isOk, Except.toBool]

/-! ## Other rules and other sources -/

/-- Rules with fewer windows and patterns are kept too. -/
theorem Keeps.of_subset {more : Rules} {time : Int} (keeps : more.Keeps metadata solution time)
    (date : more.minDate = rules.minDate) (windows : rules.windows ⊆ more.windows)
    (rejected : rules.rejected ⊆ more.rejected) : rules.Keeps metadata solution time :=
  { keeps with
    recent := date ▸ keeps.recent
    counted := fun window listed => keeps.counted window (windows listed)
    clean := fun pattern listed => keeps.clean pattern (rejected listed) }

end Rules

/-- The same file with more bytes on both sides of its source. -/
def Solution.between (front back : Bytes) (solution : Solution) : Solution :=
  { solution with source := front ++ solution.source ++ back }

namespace Rules

variable {rules : Rules} {metadata : Metadata} {solution : Solution} {front back : Bytes}

/-- More source makes a solution break no rule about anything but its text. -/
theorem Breaks.of_between {reason : Ineligible}
    (broken : rules.Breaks metadata (solution.between front back) reason) (early : reason.rank < 5) :
    rules.Breaks metadata solution reason := by
  cases reason with
  | emptySolution => simp_all [Breaks, Solution.between]
  | noExpectedOutput | malformedTimestamp | beforeMinDate | inWindow => exact broken
  | notText | containsNul | rejectedPattern => simp [Ineligible.rank] at early

theorem Occurs.between {pattern : String} (occurs : Occurs solution pattern) :
    Occurs (solution.between front back) pattern :=
  occurs.trans ⟨front, back, rfl⟩

/-- A solution that breaks a rule about its text breaks one that is checked no later however much
source is added. -/
theorem check_between {reason other : Ineligible} (late : 5 ≤ reason.rank)
    (failed : rules.check metadata solution = .error reason)
    (broken : rules.Breaks metadata (solution.between front back) other)
    (same : other.rank = reason.rank) :
    ∃ found, rules.check metadata (solution.between front back) = .error found ∧
      5 ≤ found.rank ∧ found.rank ≤ reason.rank := by
  obtain ⟨-, least⟩ := check_eq_error.1 failed
  cases result : rules.check metadata (solution.between front back) with
  | ok done => exact absurd broken (check_eq_ok.1 result other)
  | error found =>
      obtain ⟨breaks, first⟩ := check_eq_error.1 result
      refine ⟨found, rfl, Nat.le_of_not_lt fun early => ?_, same ▸ first other broken⟩
      exact absurd (least found (breaks.of_between early)) (by omega)

/-- A NUL byte stays where a source is written on to at either end. -/
theorem check_between_containsNul (front back : Bytes)
    (failed : rules.check metadata solution = .error .containsNul) :
    rules.check metadata (solution.between front back) = .error .notText ∨
      rules.check metadata (solution.between front back) = .error .containsNul := by
  have nul : 0 ∈ solution.source := (check_eq_error.1 failed).1
  have still : rules.Breaks metadata (solution.between front back) .containsNul := by
    simp [Breaks, Solution.between, nul]
  obtain ⟨found, result, late, early⟩ := check_between (by decide) failed still rfl
  cases found with
  | notText => exact .inl result
  | containsNul => exact .inr result
  | _ => simp [Ineligible.rank] at late early

/-- A rejected pattern stays where a source is written on to at either end, unless one that is looked
for earlier is found then. -/
theorem check_between_rejectedPattern (front back : Bytes) {pattern : String}
    (failed : rules.check metadata solution = .error (.rejectedPattern pattern)) :
    ∃ before after, rules.rejected = before ++ pattern :: after ∧
      (rules.check metadata (solution.between front back) = .error .notText ∨
        rules.check metadata (solution.between front back) = .error .containsNul ∨
        ∃ earlier ∈ before ++ [pattern],
          rules.check metadata (solution.between front back) =
            .error (.rejectedPattern earlier)) := by
  obtain ⟨occurs, before, after, split, -⟩ : IsFirst (Occurs solution) rules.rejected pattern :=
    (check_eq_error.1 failed).1
  have still : Occurs (solution.between front back) pattern := occurs.between
  obtain ⟨first, isFirst⟩ := exists_isFirst (by simp [split] : pattern ∈ rules.rejected) still
  have broken : rules.Breaks metadata (solution.between front back) (.rejectedPattern first) :=
    isFirst
  obtain ⟨found, result, late, -⟩ :=
    check_between (by simp [Ineligible.rank]) failed broken rfl
  refine ⟨before, after, split, ?_⟩
  cases found with
  | notText => exact .inl result
  | containsNul => exact .inr (.inl result)
  | rejectedPattern earlier =>
      have isEarlier : IsFirst (Occurs (solution.between front back)) rules.rejected earlier :=
        (check_eq_error.1 result).1
      exact .inr (.inr ⟨earlier, isEarlier.mem_concat split still, result⟩)
  | _ => simp [Ineligible.rank] at late

/-- A check passes exactly the solutions that keep every rule, and fails the others with the first
reason that is broken, of the windows and patterns with the first one in their lists.  Eligibility
depends only on which windows and patterns there are, and more of them never make a solution eligible.
A NUL byte or a rejected pattern stays in a source that is written on to at either end: only a rule
about the text that is checked no later may be found broken instead. -/
theorem check_decides (rules : Rules) (metadata : Metadata) (solution : Solution) :
    (rules.check metadata solution = .ok () ↔ ∃ time, rules.Keeps metadata solution time) ∧
      (∀ reason, rules.check metadata solution = .error reason ↔
        rules.Breaks metadata solution reason ∧
          ∀ other, rules.Breaks metadata solution other → reason.rank ≤ other.rank) ∧
      (rules.admits metadata solution = true ↔ rules.check metadata solution = .ok ()) ∧
      (∀ other : Rules, other.minDate = rules.minDate →
        (∀ window, window ∈ other.windows ↔ window ∈ rules.windows) →
        (∀ pattern, pattern ∈ other.rejected ↔ pattern ∈ rules.rejected) →
        other.admits metadata solution = rules.admits metadata solution) ∧
      (∀ more : Rules, more.minDate = rules.minDate → rules.windows ⊆ more.windows →
        rules.rejected ⊆ more.rejected → more.admits metadata solution = true →
        rules.admits metadata solution = true) ∧
      ∀ front back,
        (rules.check metadata solution = .error .containsNul →
          rules.check metadata (solution.between front back) = .error .notText ∨
            rules.check metadata (solution.between front back) = .error .containsNul) ∧
        ∀ pattern, rules.check metadata solution = .error (.rejectedPattern pattern) →
          ∃ before after, rules.rejected = before ++ pattern :: after ∧
            (rules.check metadata (solution.between front back) = .error .notText ∨
              rules.check metadata (solution.between front back) = .error .containsNul ∨
              ∃ earlier ∈ before ++ [pattern],
                rules.check metadata (solution.between front back) =
                  .error (.rejectedPattern earlier)) := by
  refine ⟨check_eq_ok.trans exists_keeps_iff.symm, fun _ => check_eq_error,
    admits_iff.trans (exists_keeps_iff.trans check_eq_ok.symm), ?_, ?_, fun front back =>
      ⟨check_between_containsNul front back, fun _ => check_between_rejectedPattern front back⟩⟩
  · intro other date windows rejected
    rw [Bool.eq_iff_iff, admits_iff, admits_iff]
    constructor
    · rintro ⟨time, keeps⟩
      exact ⟨time, keeps.of_subset date (fun _ => (windows _).mpr) fun _ => (rejected _).mpr⟩
    · rintro ⟨time, keeps⟩
      exact ⟨time, keeps.of_subset date.symm (fun _ => (windows _).mp) fun _ => (rejected _).mp⟩
  · intro more date windows rejected admitted
    obtain ⟨time, keeps⟩ := admits_iff.1 admitted
    exact admits_iff.2 ⟨time, keeps.of_subset date windows rejected⟩

/-- A file from 2008 that draws random numbers is rejected for it, and not eligible whatever is written
in front of its text and after it. -/
theorem check_decides_sample :
    let solution : Solution := ⟨⟨"gs/b.1230000000.gs"⟩, "b.1230000000.gs", Bytes.ofString "9rand"⟩
    Rules.standard.check ⟨"", "1"⟩ solution = .error (.rejectedPattern "rand") ∧
      ∀ front back, Rules.standard.admits ⟨"", "1"⟩ (solution.between front back) = false := by
  intro solution
  have rejected : Rules.standard.check ⟨"", "1"⟩ solution = .error (.rejectedPattern "rand") := by
    decide +kernel
  refine ⟨rejected, fun front back => ?_⟩
  obtain ⟨-, -, -, -, -, grown⟩ := check_decides Rules.standard ⟨"", "1"⟩ solution
  obtain ⟨before, after, -, result⟩ := (grown front back).2 "rand" rejected
  rcases result with result | result | ⟨earlier, -, result⟩
  all_goals simp [admits, result, Except.isOk, Except.toBool]

end Rules

end CorpusJudge
