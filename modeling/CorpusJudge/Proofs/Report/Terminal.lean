import CorpusJudge.Report
import Mathlib.Data.List.Infix

/-!
# Terminals

What a report looks like is up to the terminal that shows it.  A line break ends a row, and a row can
be taken back where the next one starts; everything else is text, colors included.
-/

namespace CorpusJudge

/-- The characters in one row of a terminal. -/
abbrev Row := List Char

/-- A terminal on which rows never wrap: the rows above the one that is being written, topmost first,
and what stands in that row so far. -/
structure Terminal where
  above : List Row
  row : Row
  deriving DecidableEq, Repr

namespace Terminal

/-- End the row. -/
def endRow (terminal : Terminal) : Terminal := ⟨terminal.above ++ [terminal.row], []⟩

/-- Put a character behind what stands in the row. -/
def write (terminal : Terminal) (character : Char) : Terminal :=
  { terminal with row := terminal.row ++ [character] }

/-- Go up to the row above and clear it. -/
def takeBack (terminal : Terminal) : Terminal := ⟨terminal.above.dropLast, []⟩

/-- The terminal after some characters have been sent to it. -/
def feed (terminal : Terminal) : List Char → Terminal
  | [] => terminal
  | '\n' :: rest => feed terminal.endRow rest
  | '\x1b' :: '[' :: '1' :: 'A' :: '\x1b' :: '[' :: '2' :: 'K' :: rest =>
    if terminal.row = [] then feed terminal.takeBack rest
    else feed (terminal.write '\x1b') ('[' :: '1' :: 'A' :: '\x1b' :: '[' :: '2' :: 'K' :: rest)
  | character :: rest => feed (terminal.write character) rest

@[simp] theorem feed_nil (terminal : Terminal) : terminal.feed [] = terminal := rfl

@[simp] theorem feed_break (terminal : Terminal) (rest : List Char) :
    terminal.feed ('\n' :: rest) = terminal.endRow.feed rest := rfl

/-- At the start of a row, the row above is taken back. -/
theorem feed_overwritePrevious (above : List Row) (rest : List Char) :
    feed ⟨above, []⟩ (Reporter.overwritePrevious.toList ++ rest) = feed ⟨above.dropLast, []⟩ rest :=
  rfl

/-- Text is written into the row. -/
theorem feed_cons {terminal : Terminal} {character : Char} {rest : List Char}
    (inRow : character ≠ '\n')
    (text : terminal.row ≠ [] ∨ ¬ Reporter.overwritePrevious.toList <+: character :: rest) :
    terminal.feed (character :: rest) = (terminal.write character).feed rest := by
  rw [feed.eq_def]
  split
  · next none => cases none
  · next same => cases same; exact absurd rfl inRow
  · next same =>
      cases same
      refine if_neg fun empty => ?_
      rcases text with written | other
      · exact written empty
      · exact other (List.prefix_append Reporter.overwritePrevious.toList _)
  · next same => cases same; rfl

/-- The rest of a line ends up in the row. -/
theorem feed_rest {above : List Row} {row line : Row} (rest : List Char) (begun : row ≠ [])
    (inRow : '\n' ∉ line) :
    feed ⟨above, row⟩ (line ++ '\n' :: rest) = feed ⟨above ++ [row ++ line], []⟩ rest := by
  induction line generalizing row with
  | nil => simp [endRow]
  | cons character line ih =>
      obtain ⟨first, later⟩ := List.ne_and_not_mem_of_not_mem_cons inRow
      rw [List.cons_append, feed_cons first.symm (.inl begun), write, ih (by simp) later]
      simp

/-- A line is text from its start on: it does not take back the row above. -/
structure IsLine (line : Row) : Prop where
  inRow : '\n' ∉ line
  text : ¬ Reporter.overwritePrevious.toList <+: line

/-- What follows a line does not turn it into something else. -/
theorem IsLine.before {line : Row} (isLine : IsLine line) (rest : List Char) :
    ¬ Reporter.overwritePrevious.toList <+: line ++ '\n' :: rest := by
  intro begins
  rcases List.prefix_or_prefix_of_prefix begins (List.prefix_append line _) with whole | part
  · exact isLine.text whole
  · obtain ⟨more, same⟩ := part
    rw [← same, List.prefix_append_right_inj, List.prefix_cons_iff] at begins
    rcases begins with rfl | ⟨later, rfl, -⟩
    · exact isLine.text (by rw [← same, List.append_nil])
    · have broken : '\n' ∈ Reporter.overwritePrevious.toList := by simp [← same]
      exact absurd broken (by decide)

/-- A line becomes a row of its own. -/
theorem feed_line {line : Row} (isLine : IsLine line) (above : List Row) (rest : List Char) :
    feed ⟨above, []⟩ (line ++ '\n' :: rest) = feed ⟨above ++ [line], []⟩ rest := by
  have text := isLine.before rest
  cases line with
  | nil => rfl
  | cons character line =>
      obtain ⟨first, later⟩ := List.ne_and_not_mem_of_not_mem_cons isLine.inRow
      rw [List.cons_append] at text ⊢
      rw [feed_cons first.symm (.inr text), write, feed_rest _ (by simp) later]
      rfl

end Terminal

end CorpusJudge
