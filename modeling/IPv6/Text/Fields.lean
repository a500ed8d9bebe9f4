/-!
Text cut at a separator. Joining the fields with the separator gives the text back.
-/

namespace IPv6.Text

/-- The pieces between separators: one more than there are separators. -/
def fields (separator : Char) : List Char → List (List Char)
  | [] => [[]]
  | char :: rest =>
    if char = separator then [] :: fields separator rest
    else
      match fields separator rest with
      | [] => [[char]]
      | field :: more => (char :: field) :: more

def join (separator : List Char) : List (List Char) → List Char
  | [] => []
  | [field] => field
  | field :: more => field ++ separator ++ join separator more

theorem fields_ne_nil (separator : Char) (text : List Char) : fields separator text ≠ [] := by
  cases text with
  | nil => simp [fields]
  | cons char rest =>
    simp only [fields]
    split
    · simp
    · split <;> simp

theorem join_cons_cons (separator : List Char) (char : Char) (field : List Char)
    (more : List (List Char)) :
    join separator ((char :: field) :: more) = char :: join separator (field :: more) := by
  cases more <;> simp [join]

theorem join_fields (separator : Char) (text : List Char) :
    join [separator] (fields separator text) = text := by
  induction text with
  | nil => rfl
  | cons char rest ih =>
    obtain ⟨field, more, split⟩ := List.exists_cons_of_ne_nil (fields_ne_nil separator rest)
    by_cases same : char = separator
    · subst same
      simp [fields, split, join] at ih ⊢
      exact ih
    · simp only [fields, same, if_false, split]
      rw [join_cons_cons, ← split, ih]

end IPv6.Text
