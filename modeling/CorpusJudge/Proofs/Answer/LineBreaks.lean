import CorpusJudge.Proofs.Answer
import CorpusJudge.Proofs.Harness.Completion

/-!
# Line breaks

Problem metadata is given to programs, and compared with what they print, after every pair of carriage
return and line break was replaced by the line break alone.  That leaves all but the last of several
carriage returns in front of a line break, which the normal form of an answer leaves out as well.  So
the replacement never decides a verdict.
-/

namespace CorpusJudge

/-! ## Replacing a block -/

namespace Bytes

/-- The block stands in the text behind the front, and nowhere before that. -/
structure FirstAt (block front back text : Bytes) : Prop where
  stands : text = front ++ block ++ back
  first : ∀ before after, text = before ++ block ++ after → front.length ≤ before.length

/-- What comes of a text when a block is replaced the first time that it stands there, from the left,
and then again in what follows. -/
inductive Replaces (block fresh : Bytes) : Bytes → Bytes → Prop where
  | nowhere {text : Bytes} : ¬block <:+: text → Replaces block fresh text text
  | first {text front back result : Bytes} :
      FirstAt block front back text → Replaces block fresh back result →
      Replaces block fresh text (front ++ fresh ++ result)

variable {block fresh front back text result : Bytes}

theorem FirstAt.isInfix (stands : FirstAt block front back text) : block <:+: text :=
  ⟨front, back, stands.stands.symm⟩

/-- A block stands in a text for the first time in one place. -/
theorem FirstAt.unique {before after : Bytes} (one : FirstAt block front back text)
    (two : FirstAt block before after text) : front = before ∧ back = after := by
  have length : front.length = before.length :=
    Nat.le_antisymm (one.first _ _ two.stands) (two.first _ _ one.stands)
  have whole : front ++ (block ++ back) = before ++ (block ++ after) := by
    rw [← List.append_assoc, ← List.append_assoc, ← one.stands, ← two.stands]
  obtain ⟨fronts, rests⟩ := List.append_inj whole length
  exact ⟨fronts, List.append_cancel_left rests⟩

/-- There is one way to replace a block. -/
theorem Replaces.unique {other : Bytes} (one : Replaces block fresh text result)
    (two : Replaces block fresh text other) : result = other := by
  induction one generalizing other with
  | nowhere absent =>
      cases two with
      | nowhere _ => rfl
      | first stands _ => exact absurd stands.isInfix absent
  | first stands _ ih =>
      cases two with
      | nowhere absent => exact absurd stands.isInfix absent
      | first again later =>
          obtain ⟨rfl, rfl⟩ := stands.unique again
          rw [ih later]

/-- A byte stays where it is if the block does not begin there. -/
theorem Replaces.cons {byte : UInt8} (apart : ¬block <+: byte :: text)
    (replaces : Replaces block fresh text result) :
    Replaces block fresh (byte :: text) (byte :: result) := by
  cases replaces with
  | nowhere absent =>
      apply Replaces.nowhere
      rw [List.infix_cons_iff]
      simp [apart, absent]
  | @first _ front back _ stands later =>
      have behind : FirstAt block (byte :: front) back (byte :: text) := by
        constructor
        · rw [stands.stands]
          rfl
        · intro before after whole
          cases before with
          | nil => exact absurd ⟨after, whole.symm⟩ apart
          | cons head before =>
              obtain ⟨-, whole⟩ := List.cons.inj whole
              exact Nat.succ_le_succ (stands.first before after whole)
      exact .first behind later

end Bytes

namespace Answer

open Bytes (Replaces FirstAt)

/-- A carriage return with a line break behind it. -/
def longBreak : Bytes := [carriageReturn, lineBreak]

variable {text front back : Bytes} {byte : UInt8}

/-! ## Unix breaks -/

@[simp] theorem unixBreaks_nil : unixBreaks [] = [] := rfl

@[simp] theorem unixBreaks_longBreak (rest : Bytes) :
    unixBreaks (carriageReturn :: lineBreak :: rest) = lineBreak :: unixBreaks rest := rfl

theorem longBreak_isPrefix_cons {rest : Bytes} :
    longBreak <+: byte :: rest ↔ byte = carriageReturn ∧ rest.head? = some lineBreak := by
  cases rest with
  | nil => simp [longBreak]
  | cons next rest => simp [longBreak, List.cons_prefix_cons, eq_comm]

theorem unixBreaks_cons (apart : ¬longBreak <+: byte :: text) :
    unixBreaks (byte :: text) = byte :: unixBreaks text := by
  rw [longBreak_isPrefix_cons] at apart
  rw [unixBreaks]
  intro rest isReturn begins
  exact apart ⟨isReturn, by rw [begins]; rfl⟩

/-- Two texts keep their breaks side by side, unless they make a long break together. -/
theorem unixBreaks_append
    (apart : front.getLast? = some carriageReturn → back.head? ≠ some lineBreak) :
    unixBreaks (front ++ back) = unixBreaks front ++ unixBreaks back := by
  fun_induction unixBreaks front with
  | case1 => rfl
  | case2 rest ih =>
      have later : rest.getLast? = some carriageReturn → back.head? ≠ some lineBreak := by
        intro ends
        apply apart
        cases rest with
        | nil => simp at ends
        | cons next rest => simpa using ends
      exact congrArg (lineBreak :: ·) (ih later)
  | case3 byte rest noBreak ih =>
      cases rest with
      | nil =>
          simp only [List.nil_append, List.cons_append, unixBreaks_nil]
          apply unixBreaks_cons
          rw [longBreak_isPrefix_cons]
          rintro ⟨rfl, begins⟩
          exact apart rfl begins
      | cons next rest =>
          have later := ih (by simpa using apart)
          rw [List.cons_append, unixBreaks_cons, later, List.cons_append]
          rw [longBreak_isPrefix_cons]
          rintro ⟨rfl, begins⟩
          exact noBreak rest rfl (by simpa [lineBreak] using begins)

/-- Of the carriage returns right in front of a line break the last one goes. -/
theorem unixBreaks_returns (returns : Nat) (back : Bytes) :
    unixBreaks (List.replicate returns carriageReturn ++ lineBreak :: back) =
      List.replicate (returns - 1) carriageReturn ++ lineBreak :: unixBreaks back := by
  match returns with
  | 0 =>
      apply unixBreaks_cons
      simp [longBreak_isPrefix_cons, lineBreak, carriageReturn]
  | 1 => exact unixBreaks_longBreak back
  | returns + 2 =>
      have fewer := unixBreaks_returns (returns + 1) back
      rw [List.replicate_succ, List.cons_append, unixBreaks_cons, fewer]
      · rfl
      · simp [longBreak_isPrefix_cons, List.replicate_succ, lineBreak, carriageReturn]

/-- Unix breaks are what replacing every long break comes to. -/
theorem unixBreaks_replaces (text : Bytes) : Replaces longBreak [lineBreak] text (unixBreaks text) := by
  fun_induction unixBreaks text with
  | case1 => exact .nowhere (by simp [longBreak])
  | case2 rest ih =>
      have stands : FirstAt longBreak [] rest (longBreak ++ rest) :=
        ⟨rfl, fun _ _ _ => Nat.zero_le _⟩
      exact .first stands ih
  | case3 byte rest noBreak ih =>
      apply ih.cons
      rw [longBreak_isPrefix_cons]
      rintro ⟨rfl, begins⟩
      obtain ⟨others, rfl⟩ := List.head?_eq_some_iff.mp begins
      exact noBreak others rfl rfl

theorem unixBreaks_eq_iff {result : Bytes} :
    unixBreaks text = result ↔ Replaces longBreak [lineBreak] text result := by
  constructor
  · rintro rfl
    exact unixBreaks_replaces text
  · exact (unixBreaks_replaces text).unique

/-! ## Unix breaks of answers -/

/-- What is replaced makes no difference to the normal form. -/
theorem normalForm_unixBreaks (text : Bytes) : normalForm (unixBreaks text) = normalForm text := by
  fun_induction unixBreaks text with
  | case1 => rfl
  | case2 rest ih =>
      calc normalForm (lineBreak :: unixBreaks rest)
          = normalForm (lineBreak :: rest) := by rw [normalForm_cons, ih, ← normalForm_cons]
        _ = normalForm (carriageReturn :: lineBreak :: rest) := (normalForm_return rest).symm
  | case3 byte rest _ ih => rw [normalForm_cons, ih, ← normalForm_cons]

theorem agrees_unixBreaks (actual text : Bytes) :
    agrees actual (unixBreaks text) = agrees actual text := by
  rw [agrees, agrees, normalForm_unixBreaks]

end Answer

/-- Judging a solution by a text with unix breaks comes to what judging it by the text itself comes
to. -/
theorem Harness.judge_unixBreaks [Kernel] (harness : Harness) (solution : Path) (input text : Bytes)
    (bench : Workbench) :
    (harness.judge solution input (Answer.unixBreaks text)).run bench =
      let (judged, left) := (harness.judge solution input text).run bench
      (judged.map ({ · with expected := Answer.unixBreaks text }), left) := by
  have verdict (execution : Execution) :
      verdictOn execution (Answer.unixBreaks text) = verdictOn execution text := by
    cases execution with
    | completed exitCode stdout stderr => simp only [verdictOn, Answer.agrees_unixBreaks]
    | timedOut overtime stdout => rfl
  have event (execution : Execution) :
      eventOf? solution execution (Answer.unixBreaks text) =
        eventOf? solution execution text := by
    cases execution with
    | completed exitCode stdout stderr => simp only [eventOf?, Answer.agrees_unixBreaks]
    | timedOut overtime stdout => cases overtime <;> rfl
  rw [judge_run, judge_run]
  rcases harness.executor solution input bench.machine with ⟨result, machine⟩
  cases result with
  | error error => rfl
  | ok execution => simp only [verdict, event, Except.map]

namespace Answer

open Bytes (Replaces)

/-- Unix breaks are what replacing every carriage return with a line break behind it by the line break
comes to, from the left: of the carriage returns right in front of a line break the last one goes, and
everything else stays.  The normal form of an answer leaves out what that leaves, and so a verdict on
what a problem's output was made into is the verdict on the output itself. -/
theorem unixBreaks_agrees (text : Bytes) (metadata : Metadata) :
    (∀ result, unixBreaks text = result ↔ Replaces longBreak [lineBreak] text result) ∧
    (∀ front returns back, front.getLast? ≠ some carriageReturn →
      text = front ++ List.replicate returns carriageReturn ++ lineBreak :: back →
      unixBreaks text = unixBreaks front ++ List.replicate (returns - 1) carriageReturn ++
        lineBreak :: unixBreaks back) ∧
    (lineBreak ∉ text → unixBreaks text = text) ∧
    normalForm (unixBreaks text) = normalForm text ∧
    (Replaces longBreak [lineBreak] (Bytes.ofString metadata.input) metadata.inputBytes ∧
      Replaces longBreak [lineBreak] (Bytes.ofString metadata.output) metadata.expectedBytes) ∧
    ∀ [Kernel] (harness : Harness) (solution : Path) (input : Bytes) (bench : Workbench),
      (harness.judge solution input metadata.expectedBytes).run bench =
        let (judged, left) :=
          (harness.judge solution input (Bytes.ofString metadata.output)).run bench
        (judged.map ({ · with expected := metadata.expectedBytes }), left) := by
  refine ⟨fun _ => unixBreaks_eq_iff, ?_, ?_, normalForm_unixBreaks text,
    ⟨unixBreaks_replaces _, unixBreaks_replaces _⟩,
    fun {_} harness solution input bench => harness.judge_unixBreaks solution input _ bench⟩
  · intro front returns back apart whole
    have noReturn : front.getLast? = some carriageReturn →
        (List.replicate returns carriageReturn ++ lineBreak :: back).head? ≠ some lineBreak :=
      fun ends => absurd ends apart
    rw [whole, List.append_assoc, unixBreaks_append noReturn, unixBreaks_returns,
      ← List.append_assoc]
  · intro noBreak
    rw [unixBreaks_eq_iff]
    apply Replaces.nowhere
    intro stands
    exact noBreak (stands.subset (by simp [longBreak]))

/-- Of three carriage returns before a line break two are left, and one at the end of a text stays. -/
theorem unixBreaks_agrees_sample :
    unixBreaks [49, 13, 13, 13, 10, 50, 13] = [49, 13, 13, 10, 50, 13] ∧
      normalForm [49, 13, 13, 10, 50, 13] = normalForm [49, 13, 13, 13, 10, 50, 13] := by
  obtain ⟨-, returns, -, same, -⟩ :=
    unixBreaks_agrees [49, 13, 13, 13, 10, 50, 13] ⟨"1", "1\r\r\r\n2\r"⟩
  have shortened := returns [49] 3 [50, 13] (by decide) rfl
  have result : unixBreaks [49, 13, 13, 13, 10, 50, 13] = [49, 13, 13, 10, 50, 13] := shortened
  exact ⟨result, result ▸ same⟩

end Answer

end CorpusJudge
