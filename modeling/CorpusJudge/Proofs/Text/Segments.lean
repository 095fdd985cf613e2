import CorpusJudge.Text.Segments

/-!
# Segments

What the segments of a text are made of, and which of them are the last ones.
-/

namespace CorpusJudge.Text

variable {separator : Char}

/-- A separator between two texts parts their segments. -/
theorem segments_append (front back : List Char) :
    segments separator (front ++ separator :: back) =
      segments separator front ++ segments separator back := by
  induction front with
  | nil => simp [segments, addToSegments]
  | cons character rest ih =>
      rw [List.cons_append, segments_cons, segments_cons, ih]
      unfold addToSegments
      split
      · rfl
      · cases pieces : segments separator rest with
        | nil => exact absurd pieces (segments_ne_nil separator rest)
        | cons first others => rfl

theorem segments_of_not_mem {text : List Char} (absent : separator ∉ text) :
    segments separator text = [text] := by
  induction text with
  | nil => rfl
  | cons character rest ih =>
      simp only [List.mem_cons, not_or] at absent
      rw [segments_cons, ih absent.2, addToSegments, if_neg (Ne.symm absent.1)]

theorem not_mem_of_mem_segments {text piece : List Char}
    (member : piece ∈ segments separator text) : separator ∉ piece := by
  induction text generalizing piece with
  | nil => simp_all [segments]
  | cons character rest ih =>
      rw [segments_cons] at member
      unfold addToSegments at member
      split at member
      · rcases List.mem_cons.mp member with rfl | later
        · exact List.not_mem_nil
        · exact ih later
      · next differs =>
          split at member
          · next empty => exact absurd empty (segments_ne_nil separator rest)
          · next first others pieces =>
              rcases List.mem_cons.mp member with rfl | later
              · have apart := ih (pieces ▸ List.mem_cons_self)
                simp [apart, Ne.symm differs]
              · exact ih (pieces ▸ List.mem_cons_of_mem _ later)

/-- The pieces in front of others are parted from them by a separator. -/
theorem joined_append {front back : List (List Char)} (some : front ≠ []) (more : back ≠ []) :
    joined separator (front ++ back) =
      joined separator front ++ separator :: joined separator back := by
  induction front with
  | nil => exact absurd rfl some
  | cons piece rest ih =>
      cases rest with
      | nil =>
          cases back with
          | nil => exact absurd rfl more
          | cons first others => simp [joined]
      | cons second others => simpa [joined] using ih (List.cons_ne_nil _ _)

/-- The last two segments are what stands on the two sides of the last separator, back to the one
before it or to the start of the text. -/
theorem segments_eq_concat_two {text second last : List Char} :
    (∃ front, segments separator text = front ++ [second, last]) ↔
      separator ∉ second ∧ separator ∉ last ∧ ∃ front,
        text = front ++ second ++ separator :: last ∧
          (front = [] ∨ ∃ before, front = before ++ [separator]) := by
  constructor
  · rintro ⟨front, pieces⟩
    have absent (piece : List Char) (member : piece ∈ front ++ [second, last]) :
        separator ∉ piece :=
      not_mem_of_mem_segments (pieces ▸ member)
    refine ⟨absent second (by simp), absent last (by simp), ?_⟩
    have whole := joined_segments separator text
    rw [pieces] at whole
    by_cases only : front = []
    · subst only
      exact ⟨[], by simpa [joined] using whole.symm, .inl rfl⟩
    · rw [joined_append only (List.cons_ne_nil _ _)] at whole
      exact ⟨joined separator front ++ [separator], by simpa [joined] using whole.symm,
        .inr ⟨_, rfl⟩⟩
  · rintro ⟨inSecond, inLast, front, rfl, rfl | ⟨before, rfl⟩⟩
    · exact ⟨[], by simp [segments_append, segments_of_not_mem, inSecond, inLast]⟩
    · refine ⟨segments separator before, ?_⟩
      rw [List.append_assoc, List.append_assoc, List.singleton_append, segments_append,
        segments_append, segments_of_not_mem inSecond, segments_of_not_mem inLast,
        List.singleton_append]

end CorpusJudge.Text
