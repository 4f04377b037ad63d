/-!
# SqlCompose.Text.Pieces -- the pieces of a text between separators

A text has one piece more than it has separators; pieces may be empty. Joining
the pieces gives the text back.
-/

namespace SqlCompose.Text

/-- The pieces between the occurrences of a character: the first and the others. -/
def pieces (separator : Char) : List Char → List Char × List (List Char)
  | [] => ([], [])
  | c :: rest =>
    let (first, others) := pieces separator rest
    if c = separator then ([], first :: others) else (c :: first, others)

/-- Pieces with a separator between them. -/
def joinPieces (separator : Char) (first : List Char) : List (List Char) → List Char
  | [] => first
  | piece :: others => first ++ separator :: joinPieces separator piece others

/-- What stands in front of the first piece stands in front of all. -/
theorem joinPieces_append (separator : Char) (front first : List Char)
    (others : List (List Char)) :
    joinPieces separator (front ++ first) others = front ++ joinPieces separator first others := by
  cases others with
  | nil => rfl
  | cons piece others => exact List.append_assoc front first _

theorem joinPieces_pieces (separator : Char) (cs : List Char) :
    joinPieces separator (pieces separator cs).1 (pieces separator cs).2 = cs := by
  induction cs with
  | nil => rfl
  | cons c rest ih =>
    by_cases h : c = separator
    · simp [pieces, h, joinPieces, ih]
    · have hcons := joinPieces_append separator [c] (pieces separator rest).1
        (pieces separator rest).2
      simp only [pieces, h, if_false]
      exact hcons.trans (congrArg (c :: ·) ih)

end SqlCompose.Text
