import CorpusJudge.Answer
import Mathlib.Data.List.DropRight
import Mathlib.Logic.Relation

/-!
# Normal forms of answers

The normal form stands for everything that agrees with an answer.  It has no carriage return before a
line break and no white space at its end, it is reached by edits that change nothing else, and answers
that such edits lead to from each other have the same one.
-/

namespace CorpusJudge.Answer

/-- There is nothing left to be taken away: no carriage return stands directly before a line break,
and the last byte is no white space. -/
structure IsNormal (answer : Bytes) : Prop where
  joined : ¬ [carriageReturn, lineBreak] <:+: answer
  trimmed : ∀ byte ∈ answer.getLast?, isBlank byte = false

/-- One carriage return directly before a line break comes or goes, or one byte of white space at the
very end. -/
inductive Edit : Bytes → Bytes → Prop where
  | insertReturn (front back : Bytes) :
      Edit (front ++ lineBreak :: back) (front ++ carriageReturn :: lineBreak :: back)
  | deleteReturn (front back : Bytes) :
      Edit (front ++ carriageReturn :: lineBreak :: back) (front ++ lineBreak :: back)
  | appendBlank (answer : Bytes) {byte : UInt8} :
      isBlank byte = true → Edit answer (answer ++ [byte])
  | removeBlank (answer : Bytes) {byte : UInt8} :
      isBlank byte = true → Edit (answer ++ [byte]) answer

/-! ## Normal forms byte by byte -/

/-- Put a byte in front of a normal form, unless it is white space with nothing behind it or a carriage
return before a line break. -/
def consNormal (byte : UInt8) (rest : Bytes) : Bytes :=
  if rest = [] ∧ isBlank byte = true then [] else consJoined byte rest

variable {byte : UInt8} {rest answer left right : Bytes}

theorem consJoined_eq_cons (apart : ¬ (byte = carriageReturn ∧ rest.head? = some lineBreak)) :
    consJoined byte rest = byte :: rest :=
  if_neg apart

@[simp] theorem consJoined_return (rest : Bytes) :
    consJoined carriageReturn (lineBreak :: rest) = lineBreak :: rest :=
  if_pos ⟨rfl, rfl⟩

@[simp] theorem consJoined_break (rest : Bytes) :
    consJoined lineBreak rest = lineBreak :: rest :=
  consJoined_eq_cons (by simp [lineBreak, carriageReturn])

theorem trimEnd_cons (byte : UInt8) (rest : Bytes) :
    trimEnd (byte :: rest) =
      if trimEnd rest = [] ∧ isBlank byte = true then [] else byte :: trimEnd rest := by
  simp only [trimEnd, List.reverse_cons, List.dropWhile_append, List.isEmpty_iff,
    List.reverse_eq_nil_iff]
  cases rest.reverse.dropWhile isBlank with
  | nil => cases blank : isBlank byte <;> simp [blank]
  | cons last front => simp

/-- What is left of an answer begins as the answer does. -/
theorem trimEnd_head? (some : trimEnd answer ≠ []) : (trimEnd answer).head? = answer.head? := by
  cases answer with
  | nil => exact absurd rfl some
  | cons byte rest =>
      rw [trimEnd_cons] at some ⊢
      split
      · next gone => exact absurd (if_pos gone) some
      · rfl

theorem trimEnd_consJoined (byte : UInt8) (rest : Bytes) :
    trimEnd (consJoined byte rest) = consNormal byte (trimEnd rest) := by
  by_cases joins : byte = carriageReturn ∧ rest.head? = some lineBreak
  · -- the carriage return goes; were all the rest white space, it would go as well
    obtain ⟨rfl, begins⟩ := joins
    rw [consJoined, if_pos ⟨rfl, begins⟩, consNormal]
    by_cases nothing : trimEnd rest = []
    · simp [nothing, isBlank, carriageReturn]
    · rw [if_neg (fun both => nothing both.1), consJoined,
        if_pos ⟨rfl, (trimEnd_head? nothing).trans begins⟩]
  · rw [consJoined_eq_cons joins, trimEnd_cons, consNormal]
    split
    · rfl
    · refine (consJoined_eq_cons fun both => joins ⟨both.1, ?_⟩).symm
      have something : trimEnd rest ≠ [] := by
        intro nothing
        simp [nothing] at both
      rw [← trimEnd_head? something, both.2]

theorem normalForm_nil : normalForm [] = [] := rfl

/-- The normal form grows from the end of an answer to its front. -/
theorem normalForm_cons (byte : UInt8) (rest : Bytes) :
    normalForm (byte :: rest) = consNormal byte (normalForm rest) :=
  trimEnd_consJoined byte (joinBreaks rest)

/-! ## The normal form is normal -/

theorem IsNormal.nil : IsNormal [] := ⟨by simp, by simp⟩

theorem isNormal_cons_iff :
    IsNormal (byte :: rest) ↔
      IsNormal rest ∧ ¬ (byte = carriageReturn ∧ rest.head? = some lineBreak) ∧
        ¬ (rest = [] ∧ isBlank byte = true) := by
  cases rest with
  | nil =>
      refine ⟨fun normal => ⟨.nil, by simp, ?_⟩, fun ⟨_, _, solid⟩ => ⟨?_, by simpa using solid⟩⟩
      · simpa using normal.trimmed
      · intro pair
        simpa using pair.length_le
  | cons next others =>
      have pair : [carriageReturn, lineBreak] <:+: byte :: next :: others ↔
          (byte = carriageReturn ∧ next = lineBreak) ∨
            [carriageReturn, lineBreak] <:+: next :: others := by
        rw [List.infix_cons_iff, List.cons_prefix_cons, List.cons_prefix_cons]
        simp [eq_comm]
      constructor
      · intro ⟨joined, trimmed⟩
        rw [pair, not_or] at joined
        exact ⟨⟨joined.2, by simpa using trimmed⟩, by simpa using joined.1, by simp⟩
      · intro ⟨⟨joined, trimmed⟩, apart, _⟩
        refine ⟨?_, by simpa using trimmed⟩
        rw [pair, not_or]
        exact ⟨by simpa using apart, joined⟩

theorem IsNormal.grow (normal : IsNormal rest) (byte : UInt8) :
    IsNormal (consNormal byte rest) := by
  rw [consNormal]
  split
  · exact .nil
  · next solid =>
      rw [consJoined]
      split
      · exact normal
      · next apart => exact isNormal_cons_iff.2 ⟨normal, apart, solid⟩

theorem normalForm_isNormal (answer : Bytes) : IsNormal (normalForm answer) := by
  induction answer with
  | nil => exact .nil
  | cons byte rest ih =>
      rw [normalForm_cons]
      exact ih.grow byte

/-- Nothing is taken away from an answer that is normal. -/
theorem IsNormal.normalForm_eq (normal : IsNormal answer) : normalForm answer = answer := by
  induction answer with
  | nil => rfl
  | cons byte rest ih =>
      obtain ⟨later, apart, solid⟩ := isNormal_cons_iff.1 normal
      rw [normalForm_cons, ih later, consNormal, if_neg solid, consJoined_eq_cons apart]

/-! ## Edits -/

theorem normalForm_return (back : Bytes) :
    normalForm (carriageReturn :: lineBreak :: back) = normalForm (lineBreak :: back) := by
  simp only [normalForm_cons]
  by_cases gone : normalForm back = []
  · simp [consNormal, gone, isBlank, carriageReturn, lineBreak]
  · simp [consNormal, gone]

theorem normalForm_append_congr (front : Bytes) (same : normalForm left = normalForm right) :
    normalForm (front ++ left) = normalForm (front ++ right) := by
  induction front with
  | nil => exact same
  | cons byte front ih => rw [List.cons_append, List.cons_append, normalForm_cons, normalForm_cons, ih]

theorem normalForm_append_blank (answer : Bytes) (blank : isBlank byte = true) :
    normalForm (answer ++ [byte]) = normalForm answer := by
  have alone : normalForm [byte] = normalForm [] := by
    simp [normalForm_cons, normalForm_nil, consNormal, blank]
  simpa using normalForm_append_congr answer alone

/-- No edit changes the normal form. -/
theorem Edit.normalForm_eq (edit : Edit left right) : normalForm left = normalForm right := by
  cases edit with
  | insertReturn front back => exact (normalForm_append_congr front (normalForm_return back)).symm
  | deleteReturn front back => exact normalForm_append_congr front (normalForm_return back)
  | appendBlank _ blank => exact (normalForm_append_blank left blank).symm
  | removeBlank _ blank => exact normalForm_append_blank right blank

/-- An edit can be made behind any byte. -/
theorem Edit.cons (byte : UInt8) (edit : Edit left right) : Edit (byte :: left) (byte :: right) := by
  cases edit with
  | insertReturn front back => exact .insertReturn (byte :: front) back
  | deleteReturn front back => exact .deleteReturn (byte :: front) back
  | appendBlank _ blank => exact .appendBlank (byte :: left) blank
  | removeBlank _ blank => exact .removeBlank (byte :: right) blank

/-- Every edit can be undone. -/
theorem Edit.reverse (edit : Edit left right) : Edit right left := by
  cases edit with
  | insertReturn front back => exact .deleteReturn front back
  | deleteReturn front back => exact .insertReturn front back
  | appendBlank _ blank => exact .removeBlank left blank
  | removeBlank _ blank => exact .appendBlank right blank

open Relation (ReflTransGen)

/-- Edits take away what the normal form leaves out, from the end of an answer to its front. -/
theorem edits_normalForm (answer : Bytes) : ReflTransGen Edit answer (normalForm answer) := by
  induction answer with
  | nil => exact .refl
  | cons byte rest ih =>
      have behind : ReflTransGen Edit (byte :: rest) (byte :: normalForm rest) :=
        ih.lift (byte :: ·) fun _ _ edit => edit.cons byte
      refine behind.trans ?_
      rw [normalForm_cons, consNormal]
      split
      · next gone =>
          rw [gone.1]
          exact .single (.removeBlank [] gone.2)
      · rw [consJoined]
        split
        · next joins =>
            obtain ⟨rfl, begins⟩ := joins
            obtain ⟨others, same⟩ := List.head?_eq_some_iff.mp begins
            rw [same]
            exact .single (.deleteReturn [] others)
        · exact .refl

/-- The normal form is one of the answers from which nothing can be taken away; those are the ones that
it does not change; and two answers agree exactly when edits lead from one to the other. -/
theorem normalForm_canonical (left right : Bytes) :
    IsNormal (normalForm left) ∧
      (normalForm left = left ↔ IsNormal left) ∧
      normalForm (normalForm left) = normalForm left ∧
      (agrees left right = true ↔ ReflTransGen Edit left right) := by
  refine ⟨normalForm_isNormal left, ⟨fun same => ?_, IsNormal.normalForm_eq⟩,
    (normalForm_isNormal left).normalForm_eq, ?_, fun edits => ?_⟩
  · rw [← same]
    exact normalForm_isNormal left
  · intro agree
    have same : normalForm left = normalForm right := by simpa [agrees] using agree
    have back : ReflTransGen Edit (normalForm right) right :=
      Relation.reflTransGen_swap.mp
        (ReflTransGen.mono (fun _ _ edit => edit.reverse) _ _ (edits_normalForm right))
    exact (edits_normalForm left).trans (same ▸ back)
  · have same : normalForm left = normalForm right := by
      induction edits with
      | refl => rfl
      | tail _ edit ih => exact ih.trans edit.normalForm_eq
    simp [agrees, same]

end CorpusJudge.Answer
