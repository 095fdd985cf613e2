/-!
# Segments

Paths and file names are read as the segments between occurrences of one separator.  Splitting
loses nothing: joining the segments gives the text back.
-/

namespace CorpusJudge.Text

/-- A character in front of pieces: a separator begins a new one, anything else belongs to the
first. -/
def addToSegments (separator character : Char) (pieces : List (List Char)) : List (List Char) :=
  if character = separator then [] :: pieces
  else match pieces with
    | [] => [[character]]
    | first :: others => (character :: first) :: others

/-- The pieces of a text between the occurrences of a separator; there is always at least one. -/
def segments (separator : Char) (text : List Char) : List (List Char) :=
  text.foldr (addToSegments separator) [[]]

/-- Pieces with a separator between any two of them. -/
def joined (separator : Char) : List (List Char) → List Char
  | [] => []
  | [piece] => piece
  | piece :: rest => piece ++ separator :: joined separator rest

theorem segments_cons (separator character : Char) (text : List Char) :
    segments separator (character :: text) =
      addToSegments separator character (segments separator text) := rfl

theorem segments_ne_nil (separator : Char) (text : List Char) :
    segments separator text ≠ [] := by
  cases text with
  | nil => simp [segments]
  | cons character rest =>
    rw [segments_cons]
    unfold addToSegments
    split
    · simp
    · split <;> simp

/-- Splitting loses nothing. -/
@[simp] theorem joined_segments (separator : Char) (text : List Char) :
    joined separator (segments separator text) = text := by
  induction text with
  | nil => rfl
  | cons character rest ih =>
    rw [segments_cons]
    unfold addToSegments
    split
    · rename_i same
      cases pieces : segments separator rest with
      | nil => exact absurd pieces (segments_ne_nil separator rest)
      | cons first others => simp [joined, ← pieces, ih, same]
    · cases pieces : segments separator rest with
      | nil => exact absurd pieces (segments_ne_nil separator rest)
      | cons first others =>
        rw [pieces] at ih
        cases others with
        | nil => simpa [joined] using ih
        | cons second more => simpa [joined] using ih

end CorpusJudge.Text
