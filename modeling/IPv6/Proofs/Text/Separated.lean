import Mathlib.Data.List.TakeWhile
import Mathlib.Algebra.Order.BigOperators.Group.List
import Mathlib.Algebra.Order.Ring.Nat
import IPv6.Text.Fields
/-!
Cutting a text at a separator gives back the pieces that were joined by it, as long as no piece holds
the separator itself.
-/

namespace IPv6.Text

theorem fields_of_not_mem (separator : Char) (text : List Char) (absent : separator ∉ text) :
    fields separator text = [text] := by
  induction text with
  | nil => rfl
  | cons char rest ih =>
    rw [List.mem_cons, not_or] at absent
    have other : char ≠ separator := Ne.symm absent.1
    simp only [fields, other, if_false, ih absent.2]

/-- A separator parts what stands before it from what stands behind it. -/
theorem fields_append_cons (separator : Char) (front rest : List Char) :
    fields separator (front ++ separator :: rest) =
      fields separator front ++ fields separator rest := by
  induction front with
  | nil => simp only [List.nil_append, fields, if_true, List.singleton_append]
  | cons char front ih =>
    obtain ⟨field, more, split⟩ := List.exists_cons_of_ne_nil (fields_ne_nil separator front)
    by_cases same : char = separator
    · simp only [List.cons_append, fields, same, if_true, ih]
    · simp only [List.cons_append, fields, same, if_false, ih, split]

theorem fields_append (separator : Char) (field rest : List Char) (absent : separator ∉ field) :
    fields separator (field ++ separator :: rest) = field :: fields separator rest := by
  rw [fields_append_cons, fields_of_not_mem separator field absent, List.singleton_append]

theorem fields_join (separator : Char) (pieces : List (List Char)) (present : pieces ≠ [])
    (absent : ∀ piece ∈ pieces, separator ∉ piece) :
    fields separator (join [separator] pieces) = pieces := by
  induction pieces with
  | nil => exact absurd rfl present
  | cons piece more ih =>
    have first : separator ∉ piece := absent piece List.mem_cons_self
    cases more with
    | nil => exact fields_of_not_mem separator piece first
    | cons next rest =>
      have others := ih (List.cons_ne_nil next rest)
        fun other member => absent other (List.mem_cons_of_mem piece member)
      have cut : join [separator] (piece :: next :: rest) =
          piece ++ separator :: join [separator] (next :: rest) := by simp [join]
      rw [cut, fields_append separator piece _ first, others]

theorem length_join (separator : Char) (pieces : List (List Char)) :
    (join [separator] pieces).length = (pieces.map List.length).sum + (pieces.length - 1) := by
  induction pieces with
  | nil => rfl
  | cons piece more ih =>
    cases more with
    | nil => simp [join]
    | cons next rest =>
      simp only [join, List.length_append, ih, List.length_cons, List.map_cons, List.sum_cons,
        List.length_nil]
      omega

theorem length_join_le (separator : Char) (bound : Nat) (pieces : List (List Char))
    (short : ∀ piece ∈ pieces, piece.length ≤ bound) :
    (join [separator] pieces).length ≤ pieces.length * bound + (pieces.length - 1) := by
  have total : (pieces.map List.length).sum ≤ pieces.length * bound := by
    have each : ∀ length ∈ pieces.map List.length, length ≤ bound := by
      intro length member
      obtain ⟨piece, inside, rfl⟩ := List.mem_map.mp member
      exact short piece inside
    simpa using List.sum_le_card_nsmul (pieces.map List.length) bound each
  rw [length_join]
  exact Nat.add_le_add_right total _

/-! ## The first separator -/

theorem takeWhile_append_cons {separator : Char} {front : List Char} (absent : separator ∉ front)
    (rest : List Char) :
    (front ++ separator :: rest).takeWhile (· != separator) = front := by
  have before : ∀ char ∈ front, (char != separator) = true :=
    fun _ member => bne_iff_ne.mpr fun same => absent (same ▸ member)
  rw [List.takeWhile_append_of_pos before, List.takeWhile_cons_of_neg (by simp), List.append_nil]

theorem dropWhile_append_cons {separator : Char} {front : List Char} (absent : separator ∉ front)
    (rest : List Char) :
    (front ++ separator :: rest).dropWhile (· != separator) = separator :: rest := by
  have before : ∀ char ∈ front, (char != separator) = true :=
    fun _ member => bne_iff_ne.mpr fun same => absent (same ▸ member)
  rw [List.dropWhile_append_of_pos before, List.dropWhile_cons_of_neg (by simp)]

theorem dropWhile_of_not_mem {separator : Char} {text : List Char} (absent : separator ∉ text) :
    text.dropWhile (· != separator) = [] := by
  rw [List.dropWhile_eq_nil_iff]
  exact fun _ member => bne_iff_ne.mpr fun same => absent (same ▸ member)

/-! ## Words -/

/-- The pieces between blanks, without the empty ones. -/
def words (text : List Char) : List (List Char) := (fields ' ' text).filter fun word => !word.isEmpty

theorem words_append_cons (front rest : List Char) :
    words (front ++ ' ' :: rest) = words front ++ words rest := by
  rw [words, fields_append_cons, List.filter_append]
  rfl

theorem words_replicate (count : Nat) : words (List.replicate count ' ') = [] := by
  induction count with
  | zero => rfl
  | succ count ih => exact (words_append_cons [] _).trans ih

/-- Blanks behind a text add no word. -/
theorem words_append_replicate (front : List Char) (count : Nat) :
    words (front ++ List.replicate count ' ') = words front := by
  cases count with
  | zero => rw [List.replicate_zero, List.append_nil]
  | succ count =>
    rw [List.replicate_succ, words_append_cons, words_replicate, List.append_nil]

theorem words_join {pieces : List (List Char)}
    (each : ∀ piece ∈ pieces, piece ≠ [] ∧ ' ' ∉ piece) : words (join [' '] pieces) = pieces := by
  by_cases present : pieces = []
  · rw [present]
    rfl
  · have kept : ∀ piece ∈ pieces, (!piece.isEmpty) = true := by
      intro piece member
      simpa using (each piece member).1
    rw [words, fields_join ' ' pieces present fun piece member => (each piece member).2,
      List.filter_eq_self.mpr kept]

theorem words_of_not_mem {word : List Char} (present : word ≠ []) (absent : ' ' ∉ word) :
    words word = [word] :=
  words_join (List.forall_mem_singleton.mpr ⟨present, absent⟩)

end IPv6.Text
