import SourceOutline.Text.Blank

/-!
A text cut into parts: at each place where a separator stands, or at its blanks.
-/
namespace SourceOutline.Text

/-- The parts of a text between its separators, one more than there are separators. -/
def fields (separator : Char) : List Char → List (List Char)
  | [] => [[]]
  | c :: rest =>
    match fields separator rest with
    | field :: more => if c = separator then [] :: field :: more else (c :: field) :: more
    | [] => [[c]]

/-- Parts with a separator between any two of them. -/
def joinFields (separator : Char) : List (List Char) → List Char
  | [] => []
  | [field] => field
  | field :: more => field ++ separator :: joinFields separator more

theorem fields_ne_nil (separator : Char) (text : List Char) : fields separator text ≠ [] := by
  cases text with
  | nil => simp [fields]
  | cons c rest =>
    simp only [fields]
    split
    · split <;> simp
    · simp

/-- Nothing but the separators is left out of the parts. -/
theorem joinFields_fields (separator : Char) (text : List Char) :
    joinFields separator (fields separator text) = text := by
  induction text with
  | nil => simp [fields, joinFields]
  | cons c rest ih =>
    simp only [fields]
    cases h : fields separator rest with
    | nil => exact absurd h (fields_ne_nil separator rest)
    | cons field more =>
      rw [h] at ih
      by_cases hc : c = separator
      · simp [hc, joinFields, ih]
      · cases more <;> simp_all [joinFields]

/-- The words of a text, with no blank in any of them. The word that is being read is kept latest first. -/
def words : List Char → List Char → List (List Char)
  | [], word => if word.isEmpty then [] else [word.reverse]
  | c :: rest, word =>
    if isSpace c then if word.isEmpty then words rest [] else word.reverse :: words rest []
    else words rest (c :: word)

end SourceOutline.Text
