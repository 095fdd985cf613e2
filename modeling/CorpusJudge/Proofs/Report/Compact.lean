import CorpusJudge.Proofs.Report.Terminal
import CorpusJudge.Proofs.Text.Escaped

/-!
# Compact reports

On a terminal, a compact report looks like a full one in which every pass that another pass follows at
once is missing.  Taking rows back never touches anything else: after each outcome, the terminal shows
the rows from before, perhaps without the row of the last pass, and the rows of that outcome.
-/

namespace CorpusJudge

/-- A control character. -/
def isControl (character : Char) : Bool :=
  character.toNat < 0x20 || (0x7f ≤ character.toNat && character.toNat < 0xa0)

/-- Nothing in the path can move anything on a terminal. -/
def Path.IsShowable (path : Path) : Prop :=
  ∀ character ∈ path.text.toList, isControl character = false

/-- The numbers of outcomes by verdict. -/
def Totals.of (outcomes : List Outcome) : Totals where
  passes := outcomes.countP (·.verdict.isPass)
  fails := outcomes.countP (!·.verdict.isPass)
  slow := outcomes.countP (·.verdict = .slow)

/-- The items of a list without those that are to be left out where such an item follows at once. -/
def dropRepeated {α : Type} (leftOut : α → Bool) : List α → List α
  | first :: second :: rest =>
    if leftOut first && leftOut second then dropRepeated leftOut (second :: rest)
    else first :: dropRepeated leftOut (second :: rest)
  | items => items

namespace Reporter

/-- The text for some outcomes and the report after them. -/
def recordAll (reporter : Reporter) : List Outcome → String × Reporter
  | [] => ("", reporter)
  | outcome :: rest =>
    let (text, next) := reporter.record outcome
    let (more, last) := next.recordAll rest
    (text ++ more, last)

/-- A whole report. -/
def report (compact colored : Bool) (outcomes : List Outcome) : String :=
  let (text, last) := (new compact colored).recordAll outcomes
  text ++ last.finish

/-- The row that tells the verdict on a solution. -/
def statusRow (colored : Bool) (outcome : Outcome) : Row :=
  ((new false colored).label outcome.verdict ++ " " ++ outcome.solution.text).toList

/-- The row that shows how actual and expected output begin. -/
def excerptRow (outcome : Outcome) : Row :=
  ("  actual=" ++ Escaped.excerpt outcome.actual ++ " expected=" ++
    Escaped.excerpt outcome.expected).toList

/-- The rows for an outcome. -/
def rowsOf (colored : Bool) (outcome : Outcome) : List Row :=
  if outcome.verdict.isPass then [statusRow colored outcome]
  else [statusRow colored outcome, excerptRow outcome]

/-- The row with the totals. -/
def totalsRow (totals : Totals) : Row := totals.summaryLine.toList

/-- Whether a row begins like that of a pass. -/
def isPassRow (colored : Bool) (row : Row) : Bool :=
  ((new false colored).label .pass ++ " ").toList.isPrefixOf row

/-! ## Rows are lines -/

variable {colored : Bool} {outcome : Outcome}

theorem isLine_statusRow (showable : outcome.solution.IsShowable) :
    Terminal.IsLine (statusRow colored outcome) := by
  have inRow : '\n' ∉ outcome.solution.text.toList := by
    intro member
    exact absurd (showable _ member) (by decide)
  cases colored <;> cases verdict : outcome.verdict <;>
    constructor <;>
    simp [statusRow, label, new, verdict, Verdict.label, colorCode, overwritePrevious, inRow]

theorem isLine_excerptRow (outcome : Outcome) : Terminal.IsLine (excerptRow outcome) := by
  have inRow (bytes : Bytes) : '\n' ∉ (Escaped.excerpt bytes).toList :=
    fun member => (Escaped.excerpt_isPrintable member).ne_break rfl
  constructor <;> simp [excerptRow, overwritePrevious, inRow]

theorem totalsRow_eq (totals : Totals) :
    totalsRow totals = Nat.toDigits 10 totals.passes ++ " passes, ".toList ++
      Nat.toDigits 10 totals.fails ++ " fails".toList := by
  simp [totalsRow, Totals.summaryLine, ToString.toString]

/-- The totals begin with a digit. -/
theorem totalsRow_begins (totals : Totals) :
    ∃ digit rest, totalsRow totals = digit :: rest ∧ digit.isDigit = true := by
  rw [totalsRow_eq]
  cases digits : Nat.toDigits 10 totals.passes with
  | nil => exact absurd digits Nat.toDigits_ne_nil
  | cons digit more =>
      have member : digit ∈ Nat.toDigits 10 totals.passes := by
        rw [digits]
        exact List.mem_cons_self
      exact ⟨digit, _, rfl, Nat.isDigit_of_mem_toDigits (by decide) (by decide) member⟩

theorem isLine_totalsRow (totals : Totals) : Terminal.IsLine (totalsRow totals) := by
  have inRow (number : Nat) : '\n' ∉ Nat.toDigits 10 number := by
    intro member
    exact absurd (Nat.isDigit_of_mem_toDigits (by decide) (by decide) member) (by decide)
  constructor
  · simp [totalsRow_eq, inRow]
  · obtain ⟨digit, rest, same, isDigit⟩ := totalsRow_begins totals
    rw [same]
    rintro ⟨more, begins⟩
    cases begins
    exact absurd isDigit (by decide)

/-! ## Rows of passes -/

theorem isPassRow_statusRow (colored : Bool) (outcome : Outcome) :
    isPassRow colored (statusRow colored outcome) = outcome.verdict.isPass := by
  rw [isPassRow, Bool.eq_iff_iff, List.isPrefixOf_iff_prefix]
  cases colored <;> cases verdict : outcome.verdict <;>
    simp [statusRow, label, new, verdict, Verdict.label, colorCode, Verdict.isPass]

theorem isPassRow_excerptRow (colored : Bool) (outcome : Outcome) :
    isPassRow colored (excerptRow outcome) = false := by
  rw [isPassRow, Bool.eq_false_iff, ne_eq, List.isPrefixOf_iff_prefix]
  cases colored <;> simp [excerptRow, label, new, Verdict.label, colorCode]

theorem isPassRow_totalsRow (colored : Bool) (totals : Totals) :
    isPassRow colored (totalsRow totals) = false := by
  obtain ⟨digit, rest, same, isDigit⟩ := totalsRow_begins totals
  rw [isPassRow, Bool.eq_false_iff, ne_eq, List.isPrefixOf_iff_prefix, same]
  cases colored <;> simp [label, new, Verdict.label, colorCode] <;> rintro rfl <;> cases isDigit

/-! ## What is written -/

/-- Rows as they are written, one line each. -/
def linesOf (rows : List Row) : List Char :=
  rows.flatMap (· ++ ['\n'])

theorem linesOf_cons (row : Row) (rows : List Row) :
    linesOf (row :: rows) = row ++ '\n' :: linesOf rows := by
  simp [linesOf]

/-- Whether an outcome takes back the row above. -/
def takesBack (reporter : Reporter) (outcome : Outcome) : Bool :=
  outcome.verdict.isPass && reporter.compact && reporter.lastWasPass

theorem record_toList (reporter : Reporter) (outcome : Outcome) :
    (reporter.record outcome).1.toList =
      (if reporter.takesBack outcome then overwritePrevious.toList else []) ++
        linesOf (rowsOf reporter.colored outcome) := by
  have lead (some : Bool) : (if some then overwritePrevious else "").toList =
      if some then overwritePrevious.toList else [] := by
    cases some <;> rfl
  have sameLabel : reporter.label outcome.verdict =
      (new false reporter.colored).label outcome.verdict := rfl
  have status : (reporter.statusLine outcome).toList =
      statusRow reporter.colored outcome ++ ['\n'] := by
    simp [statusLine, statusRow, sameLabel]
  have details : (excerptLine outcome).toList = excerptRow outcome ++ ['\n'] := by
    simp [excerptLine, excerptRow]
  simp only [record, String.toList_append, takesBack, lead, status, rowsOf]
  by_cases passed : outcome.verdict.isPass = true
  · simp [passed, linesOf]
  · simp [passed, linesOf, details]

theorem feed_linesOf {rows : List Row} (lines : ∀ row ∈ rows, Terminal.IsLine row)
    (above : List Row) (rest : List Char) :
    Terminal.feed ⟨above, []⟩ (linesOf rows ++ rest) = Terminal.feed ⟨above ++ rows, []⟩ rest := by
  induction rows generalizing above with
  | nil => simp [linesOf]
  | cons row rows ih =>
      have first := Terminal.feed_line (lines row List.mem_cons_self) above
        (linesOf rows ++ rest)
      have later := ih (fun other member => lines other (List.mem_cons_of_mem _ member))
        (above ++ [row])
      rw [linesOf_cons, List.append_assoc, List.cons_append, first, later, List.append_assoc,
        List.singleton_append]

/-- What one outcome does to the terminal. -/
theorem feed_record (reporter : Reporter) (showable : outcome.solution.IsShowable)
    (above : List Row) (rest : List Char) :
    Terminal.feed ⟨above, []⟩ ((reporter.record outcome).1.toList ++ rest) =
      Terminal.feed ⟨(if reporter.takesBack outcome then above.dropLast else above) ++
        rowsOf reporter.colored outcome, []⟩ rest := by
  have lines : ∀ row ∈ rowsOf reporter.colored outcome, Terminal.IsLine row := by
    intro row member
    unfold rowsOf at member
    split at member
    · rw [List.mem_singleton.mp member]
      exact isLine_statusRow showable
    · rcases List.mem_cons.mp member with rfl | member
      · exact isLine_statusRow showable
      · rw [List.mem_singleton.mp member]
        exact isLine_excerptRow outcome
  rw [record_toList]
  split
  · rw [List.append_assoc, Terminal.feed_overwritePrevious, feed_linesOf lines]
  · rw [List.nil_append, feed_linesOf lines]

attribute [local simp] recordAll

theorem recordAll_append (reporter : Reporter) (front back : List Outcome) :
    reporter.recordAll (front ++ back) =
      let (text, next) := reporter.recordAll front
      let (more, last) := next.recordAll back
      (text ++ more, last) := by
  induction front generalizing reporter with
  | nil => simp
  | cons outcome front ih => simp [ih, String.append_assoc]

theorem recordAll_concat (reporter : Reporter) (front : List Outcome) (outcome : Outcome) :
    reporter.recordAll (front ++ [outcome]) =
      ((reporter.recordAll front).1 ++ ((reporter.recordAll front).2.record outcome).1,
        ((reporter.recordAll front).2.record outcome).2) := by
  simp [recordAll_append]

/-- The state of a report after some outcomes: it knows whether the last one was a pass. -/
theorem new_recordAll (compact colored : Bool) (outcomes : List Outcome) :
    ((new compact colored).recordAll outcomes).2 =
      ⟨compact, colored, outcomes.getLast?.any (·.verdict.isPass), .of outcomes⟩ := by
  induction outcomes using List.reverseRecOn with
  | nil => rfl
  | append_singleton front outcome ih =>
      rw [recordAll_concat, ih]
      cases verdict : outcome.verdict <;>
        simp [record, Totals.of, Totals.add, verdict, Verdict.isPass]

end Reporter

/-! ## Leaving out repeated items -/

section

variable {α : Type} (leftOut : α → Bool)

attribute [local simp] dropRepeated

theorem dropRepeated_cons (first : α) (rest : List α) :
    dropRepeated leftOut (first :: rest) =
      if leftOut first && rest.head?.any leftOut then dropRepeated leftOut rest
      else first :: dropRepeated leftOut rest := by
  cases rest with
  | nil => simp
  | cons second rest => simp

/-- Items that nothing is taken from in between are cut apart. -/
theorem dropRepeated_append (front : List α) (item : α) (back : List α)
    (kept : ¬ (leftOut item && back.head?.any leftOut) = true) :
    dropRepeated leftOut (front ++ item :: back) =
      dropRepeated leftOut (front ++ [item]) ++ dropRepeated leftOut back := by
  induction front with
  | nil => simp [dropRepeated_cons, kept]
  | cons first front ih =>
      have begins : (front ++ item :: back).head? = (front ++ [item]).head? := by
        cases front <;> rfl
      rw [List.cons_append, List.cons_append, dropRepeated_cons, dropRepeated_cons, ih, begins]
      split <;> rfl

theorem dropRepeated_ne_nil {items : List α} (some : items ≠ []) : dropRepeated leftOut items ≠ [] := by
  fun_induction dropRepeated leftOut items with
  | case1 first second rest repeated ih => exact ih (by simp)
  | case2 first second rest kept ih => simp
  | case3 items short => exact some

/-- One more item takes the place of the last one if both are to be left out. -/
theorem dropRepeated_concat (front : List α) (item : α) :
    dropRepeated leftOut (front ++ [item]) =
      (if leftOut item && front.getLast?.any leftOut then (dropRepeated leftOut front).dropLast
        else dropRepeated leftOut front) ++ [item] := by
  induction front with
  | nil => simp
  | cons first front ih =>
      cases front with
      | nil => cases mine : leftOut first <;> cases other : leftOut item <;>
          simp [mine, other]
      | cons second front =>
          have some : dropRepeated leftOut (second :: front) ≠ [] :=
            dropRepeated_ne_nil leftOut (by simp)
          rw [List.cons_append, dropRepeated_cons, ih, dropRepeated_cons _ first (second :: front),
            List.getLast?_cons_cons, List.cons_append, List.head?_cons, List.head?_cons]
          split <;> split <;> simp [List.dropLast_cons_of_ne_nil some]

end

namespace Reporter

variable {colored : Bool} {outcomes : List Outcome}

/-- Among the rows of a report, the rows of passes are those of outcomes that are passes. -/
theorem dropRepeated_rows (colored : Bool) (outcomes : List Outcome) (totals : Totals) :
    dropRepeated (isPassRow colored) (outcomes.flatMap (rowsOf colored) ++ [totalsRow totals]) =
      (dropRepeated (·.verdict.isPass) outcomes).flatMap (rowsOf colored) ++
        [totalsRow totals] := by
  induction outcomes with
  | nil => simp [dropRepeated]
  | cons outcome rest ih =>
      have begins : (rest.flatMap (rowsOf colored) ++ [totalsRow totals]).head?.any
          (isPassRow colored) = rest.head?.any (·.verdict.isPass) := by
        cases rest with
        | nil => simp [isPassRow_totalsRow]
        | cons next rest =>
            by_cases passed : next.verdict.isPass = true <;>
              simp [rowsOf, passed, isPassRow_statusRow]
      by_cases passed : outcome.verdict.isPass = true
      · have rows : rowsOf colored outcome = [statusRow colored outcome] := by simp [rowsOf, passed]
        rw [List.flatMap_cons, rows, List.append_assoc, List.singleton_append, dropRepeated_cons,
          dropRepeated_cons, begins, isPassRow_statusRow, ih]
        split
        · rfl
        · rw [List.flatMap_cons, rows, List.append_assoc, List.singleton_append]
      · have rows : rowsOf colored outcome = [statusRow colored outcome, excerptRow outcome] := by
          simp [rowsOf, passed]
        simp [rows, dropRepeated_cons, isPassRow_statusRow, isPassRow_excerptRow, passed, ih]

/-- What a terminal shows of a full report so far. -/
theorem feed_full (showable : ∀ outcome ∈ outcomes, outcome.solution.IsShowable)
    (above : List Row) (rest : List Char) :
    Terminal.feed ⟨above, []⟩ (((new false colored).recordAll outcomes).1.toList ++ rest) =
      Terminal.feed ⟨above ++ outcomes.flatMap (rowsOf colored), []⟩ rest := by
  induction outcomes using List.reverseRecOn generalizing rest with
  | nil => simp [recordAll]
  | append_singleton front outcome ih =>
      have now := showable outcome (by simp)
      rw [recordAll_concat, String.toList_append, List.append_assoc,
        ih (fun other member => showable other (by simp [member])), feed_record _ now,
        new_recordAll]
      simp [takesBack]

/-- The rows of a compact report so far. -/
def compactRows (colored : Bool) (outcomes : List Outcome) : List Row :=
  (dropRepeated (·.verdict.isPass) outcomes).flatMap (rowsOf colored)

/-- With one more outcome, its rows come in addition, or in place of the row of the last pass. -/
theorem compactRows_concat (colored : Bool) (front : List Outcome) (outcome : Outcome) :
    ∃ kept, compactRows colored (front ++ [outcome]) = kept ++ rowsOf colored outcome ∧
      if outcome.verdict.isPass && front.getLast?.any (·.verdict.isPass) then
        ∃ last ∈ front.getLast?, compactRows colored front = kept ++ [statusRow colored last]
      else compactRows colored front = kept := by
  simp only [compactRows, dropRepeated_concat]
  split
  · next repeated =>
      simp only [Bool.and_eq_true, Option.any_eq_true] at repeated
      obtain ⟨-, last, ends, passed⟩ := repeated
      obtain ⟨init, rfl⟩ := List.getLast?_eq_some_iff.mp ends
      rw [dropRepeated_concat, List.dropLast_concat]
      have alone : rowsOf colored last = [statusRow colored last] := if_pos passed
      simp only [List.flatMap_append, List.flatMap_singleton, alone]
      exact ⟨_, rfl, last, ends, rfl⟩
  · exact ⟨_, by simp, rfl⟩

/-- What a terminal shows of a compact report so far. -/
theorem feed_compact (showable : ∀ outcome ∈ outcomes, outcome.solution.IsShowable)
    (above : List Row) (rest : List Char) :
    Terminal.feed ⟨above, []⟩ (((new true colored).recordAll outcomes).1.toList ++ rest) =
      Terminal.feed ⟨above ++ compactRows colored outcomes, []⟩ rest := by
  induction outcomes using List.reverseRecOn generalizing rest with
  | nil => simp [recordAll, compactRows, dropRepeated]
  | append_singleton front outcome ih =>
      have now := showable outcome (by simp)
      obtain ⟨kept, shown, before⟩ := compactRows_concat colored front outcome
      rw [recordAll_concat, String.toList_append, List.append_assoc,
        ih (fun other member => showable other (by simp [member])), feed_record _ now,
        new_recordAll, shown]
      simp only [takesBack, Bool.and_true]
      split at before
      · next repeated =>
          obtain ⟨last, -, same⟩ := before
          rw [if_pos repeated, same, ← List.append_assoc above, List.dropLast_concat,
            List.append_assoc]
      · next single => rw [if_neg single, before, List.append_assoc]

/-- On a terminal, below whatever it shows already, a compact report is the full one without the rows of
passes that the row of a pass follows at once.  Every other outcome keeps its rows, and so does the last
pass of each run of passes.  While the report is written, an outcome leaves all rows as they are, except
that a pass takes the place of the pass directly before it.  The totals are the same, and they are the
numbers of outcomes. -/
theorem compact_shows (colored : Bool) (above : List Row) (outcomes : List Outcome)
    (showable : ∀ outcome ∈ outcomes, outcome.solution.IsShowable) :
    let shows (text : String) : Terminal := Terminal.feed ⟨above, []⟩ text.toList
    let soFar (front : List Outcome) : Terminal := shows ((new true colored).recordAll front).1
    let rows := outcomes.flatMap (rowsOf colored) ++ [totalsRow (.of outcomes)]
    shows (report false colored outcomes) = ⟨above ++ rows, []⟩ ∧
      shows (report true colored outcomes) = ⟨above ++ dropRepeated (isPassRow colored) rows, []⟩ ∧
      (∀ front outcome back, outcomes = front ++ outcome :: back →
        (outcome.verdict.isPass && back.head?.any (·.verdict.isPass)) = false →
        ∃ earlier later, dropRepeated (isPassRow colored) rows =
          earlier ++ rowsOf colored outcome ++ later ++ [totalsRow (.of outcomes)]) ∧
      (∀ front outcome, front ++ [outcome] <+: outcomes →
        ∃ kept, soFar (front ++ [outcome]) = ⟨above ++ kept ++ rowsOf colored outcome, []⟩ ∧
          if outcome.verdict.isPass && front.getLast?.any (·.verdict.isPass) then
            ∃ last ∈ front.getLast?, soFar front = ⟨above ++ kept ++ [statusRow colored last], []⟩
          else soFar front = ⟨above ++ kept, []⟩) ∧
      ∀ compact, ((new compact colored).recordAll outcomes).2.totals = .of outcomes := by
  intro shows soFar rows
  have fullText : (report false colored outcomes).toList =
      ((new false colored).recordAll outcomes).1.toList ++
        (totalsRow (.of outcomes) ++ ['\n']) := by
    simp [report, new_recordAll, finish, totalsRow]
  have compactText : (report true colored outcomes).toList =
      ((new true colored).recordAll outcomes).1.toList ++
        (totalsRow (.of outcomes) ++ ['\n']) := by
    simp [report, new_recordAll, finish, totalsRow]
  have reduced : dropRepeated (isPassRow colored) rows =
      compactRows colored outcomes ++ [totalsRow (.of outcomes)] := dropRepeated_rows ..
  have soFar_eq (front : List Outcome) (within : front <+: outcomes) :
      soFar front = ⟨above ++ compactRows colored front, []⟩ := by
    have earlier : ∀ other ∈ front, other.solution.IsShowable := fun other member =>
      showable other (within.subset member)
    simpa using feed_compact earlier above []
  refine ⟨?_, ?_, ?_, ?_, fun compact => by rw [new_recordAll]⟩
  · simp only [shows, fullText, feed_full showable, Terminal.feed_line (isLine_totalsRow _)]
    simp [rows]
  · simp only [shows, compactText, feed_compact showable, Terminal.feed_line (isLine_totalsRow _)]
    simp [reduced]
  · rintro front outcome back rfl kept
    rw [reduced, compactRows, dropRepeated_append _ _ _ _ (by simp [kept]), dropRepeated_concat]
    simp only [List.flatMap_append, List.flatMap_singleton]
    exact ⟨_, _, rfl⟩
  · intro front outcome within
    obtain ⟨kept, shown, before⟩ := compactRows_concat colored front outcome
    have earlier := soFar_eq front ((List.prefix_append front [outcome]).trans within)
    refine ⟨kept, by rw [soFar_eq _ within, shown, List.append_assoc], ?_⟩
    split at before
    · next repeated =>
        obtain ⟨last, ends, same⟩ := before
        rw [if_pos repeated]
        exact ⟨last, ends, by rw [earlier, same, List.append_assoc]⟩
    · next single => rw [if_neg single, earlier, before]

/-- Three outcomes: two passes, and then a program that prints nothing. -/
def sampleOutcomes : List Outcome :=
  [⟨⟨"gs/a.1.gs"⟩, .pass, [49], [49]⟩, ⟨⟨"gs/b.2.gs"⟩, .pass, [49], [49]⟩,
    ⟨⟨"gs/c.3.gs"⟩, .fail, [], [49]⟩]

theorem compact_shows_sample :
    (∀ outcome ∈ sampleOutcomes, outcome.solution.IsShowable) ∧
      Terminal.feed ⟨[['$']], []⟩ (report true true sampleOutcomes).toList =
        ⟨['$'] :: (sampleOutcomes.drop 1).flatMap (rowsOf true) ++ [totalsRow ⟨2, 1, 0⟩], []⟩ := by
  have showable : ∀ outcome ∈ sampleOutcomes, outcome.solution.IsShowable := by
    simp [sampleOutcomes, Path.IsShowable, isControl]
  obtain ⟨-, shown, -⟩ := compact_shows true [['$']] sampleOutcomes showable
  refine ⟨showable, shown.trans ?_⟩
  rw [dropRepeated_rows]
  rfl

end Reporter

end CorpusJudge
