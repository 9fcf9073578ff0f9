/-!
# Separated fields

A text is cut at every occurrence of one separator. There is always one field more than there are
separators, so the empty text has one empty field.
-/

namespace PmacFabric.Text

/-- The fields of a text between the occurrences of `separator`. -/
def fields (separator : Char) : List Char → List (List Char)
  | [] => [[]]
  | c :: rest =>
    if c = separator then [] :: fields separator rest
    else
      match fields separator rest with
      | [] => [[c]]
      | field :: others => (c :: field) :: others

/-- There is always a first field. -/
theorem fields_ne_nil (separator : Char) (text : List Char) : fields separator text ≠ [] := by
  cases text with
  | nil => simp [fields]
  | cons c rest =>
    simp only [fields]
    split
    · simp
    · split <;> simp

end PmacFabric.Text
