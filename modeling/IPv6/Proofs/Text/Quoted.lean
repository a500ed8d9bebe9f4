import IPv6.Proofs.Address.Digits
import IPv6.Text.Quoted
/-!
Quoted texts. No character of one ends a line or controls what shows it, and a reader that takes one
character after the other finds the text that was quoted, whatever stands behind it.
-/

namespace IPv6.Text

/-! ## Control characters -/

/-- The control characters, and the separators of lines and of paragraphs. -/
def IsControl (char : Char) : Prop :=
  char.toNat ≤ 0x1f ∨ (0x7f ≤ char.toNat ∧ char.toNat ≤ 0x9f) ∨ char.toNat = 0x2028 ∨
    char.toNat = 0x2029

instance (char : Char) : Decidable (IsControl char) := inferInstanceAs (Decidable (_ ∨ _))

/-- Nothing in the text ends a line or controls what shows it. -/
def Unbroken (text : List Char) : Prop := ∀ char ∈ text, ¬ IsControl char

-- Given by hand, so that no list is decided by going through all characters.
instance (text : List Char) : Decidable (Unbroken text) := List.decidableBAll _ text

theorem unbroken_append {left right : List Char} :
    Unbroken (left ++ right) ↔ Unbroken left ∧ Unbroken right := List.forall_mem_append

theorem unbroken_cons {char : Char} {rest : List Char} :
    Unbroken (char :: rest) ↔ ¬ IsControl char ∧ Unbroken rest := List.forall_mem_cons

theorem unbroken_replicate (count : Nat) {char : Char} (plain : ¬ IsControl char) :
    Unbroken (List.replicate count char) := by
  intro other member
  rwa [List.eq_of_mem_replicate member]

theorem unbroken_join {separator : List Char} (plain : Unbroken separator)
    {pieces : List (List Char)} (each : ∀ piece ∈ pieces, Unbroken piece) :
    Unbroken (join separator pieces) := by
  induction pieces with
  | nil => exact nofun
  | cons piece more ih =>
    rw [List.forall_mem_cons] at each
    cases more with
    | nil => exact each.1
    | cons next rest =>
      exact unbroken_append.mpr ⟨unbroken_append.mpr ⟨each.1, plain⟩, ih each.2⟩

theorem not_isControl_of_isPrintable {char : Char} (printable : isPrintable char = true) :
    ¬ IsControl char := by
  have outside (first last : Nat) (listed : unprintable.contains (first, last) = true) :
      char.toNat < first ∨ last < char.toNat := by
    have member := List.contains_iff_mem.mp listed
    simpa using List.all_eq_true.mp printable _ member
  have lower := outside 0x0 0x1f (by decide)
  have upper := outside 0x7f 0xa0 (by decide)
  have separators := outside 0x2028 0x202f (by decide +kernel)
  rw [IsControl]
  omega

namespace Quoted

open Address (LowerDigit)

/-! ## Escapes -/

/-- The letter in front of a code and how many digits the code has: the fewest that it fits in. -/
inductive CodeForm (code : Nat) : Char → Nat → Prop
  | two (small : code < 0x100) : CodeForm code 'x' 2
  | four (large : 0x100 ≤ code) (small : code < 0x10000) : CodeForm code 'u' 4
  | eight (large : 0x10000 ≤ code) : CodeForm code 'U' 8

/-- How a character stands between marks. -/
inductive Escape (mark : Char) : Char → List Char → Prop
  | marked : Escape mark mark [backslash, mark]
  | straight : Escape mark backslash [backslash, backslash]
  | newline : Escape mark '\n' [backslash, 'n']
  | carriage : Escape mark '\r' [backslash, 'r']
  | tab : Escape mark '\t' [backslash, 't']
  | plain {char : Char} (printable : isPrintable char = true) (unmarked : char ≠ mark)
      (simple : char ≠ backslash) : Escape mark char [char]
  | code {char letter : Char} {written : List Char} {digits : List Nat}
      (hidden : isPrintable char = false) (unnamed : char ∉ ['\n', '\r', '\t'])
      (form : CodeForm char.toNat letter digits.length)
      (each : List.Forall₂ LowerDigit written digits) (number : Positional 16 digits char.toNat) :
      Escape mark char (backslash :: letter :: written)

/-- The marks around a text: apostrophes unless it has an apostrophe and no double quote. -/
inductive Marks (text : List Char) : Char → Prop
  | single (others : apostrophe ∈ text → doubleQuote ∈ text) : Marks text apostrophe
  | double (inside : apostrophe ∈ text) (other : doubleQuote ∉ text) : Marks text doubleQuote

/-- A text between two marks, each of its characters in its form. -/
inductive Quotes (text : List Char) : List Char → Prop
  | between {mark : Char} {pieces : List (List Char)} (marks : Marks text mark)
      (each : List.Forall₂ (Escape mark) text pieces) :
      Quotes text (mark :: (pieces.flatten ++ [mark]))

theorem escapeCode_eq {code width : Nat} {letter : Char} (form : CodeForm code letter width) :
    escapeCode code = backslash :: letter :: Hex.fixed width code := by
  rw [escapeCode]
  cases form with
  | two small => rw [if_pos small]
  | four large small => rw [if_neg (Nat.not_lt.mpr large), if_pos small]
  | eight large => rw [if_neg (by omega), if_neg (Nat.not_lt.mpr large)]

theorem exists_codeForm (char : Char) :
    ∃ letter width, CodeForm char.toNat letter width ∧ char.toNat < 16 ^ width := by
  by_cases two : char.toNat < 0x100
  · exact ⟨'x', 2, .two two, two⟩
  · by_cases four : char.toNat < 0x10000
    · exact ⟨'u', 4, .four (Nat.le_of_not_lt two) four, four⟩
    · have bound : char.toNat < UInt32.size := char.val.toNat_lt
      exact ⟨'U', 8, .eight (Nat.le_of_not_lt four), bound⟩

theorem escape_escapes (mark char : Char) : Escape mark char (escape mark char) := by
  rw [escape]
  split
  case isTrue special =>
    rcases special with rfl | rfl
    · exact .marked
    · exact .straight
  case isFalse common =>
    rw [not_or] at common
    split
    case isTrue same => exact same ▸ .newline
    case isFalse newline =>
      split
      case isTrue same => exact same ▸ .carriage
      case isFalse carriage =>
        split
        case isTrue same => exact same ▸ .tab
        case isFalse tab =>
          split
          case isTrue printable => exact .plain printable common.1 common.2
          case isFalse hidden =>
            obtain ⟨letter, width, form, bound⟩ := exists_codeForm char
            obtain ⟨digits, rfl, each, number⟩ :=
              Address.exists_lowerDigits_fixed width char.toNat bound
            rw [escapeCode_eq form]
            exact .code (Bool.eq_false_iff.mpr hidden) (by simp [newline, carriage, tab]) form each
              number

theorem marks_mark (text : List Char) : Marks text (mark text) := by
  rw [mark]
  split
  case isTrue double =>
    rw [Bool.and_eq_true, List.contains_iff_mem, Bool.not_eq_true', ← Bool.not_eq_true,
      List.contains_iff_mem] at double
    exact .double double.1 double.2
  case isFalse single =>
    refine .single fun inside => ?_
    by_contra other
    exact single (by simp [inside, other])

theorem encode_quotes (text : List Char) : Quotes text (encode text) := by
  have each : List.Forall₂ (Escape (mark text)) text (text.map (escape (mark text))) := by
    rw [List.forall₂_map_right_iff, List.forall₂_same]
    exact fun char _ => escape_escapes (mark text) char
  exact .between (marks_mark text) each

/-! ## No line ends -/

theorem Marks.not_isControl {text : List Char} {mark : Char} (marks : Marks text mark) :
    ¬ IsControl mark := by
  cases marks <;> decide

theorem unbroken_lowerDigits {written : List Char} {digits : List Nat}
    (each : List.Forall₂ LowerDigit written digits) : Unbroken written := by
  intro char member
  obtain ⟨value, digit⟩ := Address.exists_of_mem each member
  exact forall_place (by decide) digit

theorem Escape.unbroken {mark char : Char} {piece : List Char} (plain : ¬ IsControl mark)
    (escape : Escape mark char piece) : Unbroken piece := by
  cases escape with
  | marked => exact unbroken_cons.mpr ⟨by decide, unbroken_cons.mpr ⟨plain, nofun⟩⟩
  | plain printable => exact unbroken_cons.mpr ⟨not_isControl_of_isPrintable printable, nofun⟩
  | code _ _ form each =>
    refine unbroken_cons.mpr ⟨by decide, unbroken_cons.mpr ⟨?_, unbroken_lowerDigits each⟩⟩
    generalize List.length _ = width at form
    cases form <;> decide
  | _ => decide

theorem Quotes.unbroken {text quoted : List Char} (quotes : Quotes text quoted) :
    Unbroken quoted := by
  cases quotes with
  | @between mark pieces marks each =>
    have plain := marks.not_isControl
    have pieces : Unbroken pieces.flatten := by
      intro char member
      obtain ⟨piece, inside, within⟩ := List.mem_flatten.mp member
      obtain ⟨_, escape⟩ := Address.exists_of_mem each.flip inside
      exact Escape.unbroken plain escape char within
    exact unbroken_cons.mpr ⟨plain, unbroken_append.mpr ⟨pieces, unbroken_cons.mpr ⟨plain, nofun⟩⟩⟩

/-! ## Reading back -/

/-- Where a reader stands: between the marks, behind a backslash, within a code of which so many digits are
left, or behind the closing mark. -/
inductive Place
  | text
  | escape
  | code (left number : Nat)
  | closed

/-- Where a reader stands and the text that it has found. -/
structure Progress where
  place : Place
  found : List Char

/-- The character behind a backslash is read. -/
def unescape (found : List Char) (char : Char) : Progress :=
  match char with
  | 'x' => ⟨.code 2 0, found⟩
  | 'u' => ⟨.code 4 0, found⟩
  | 'U' => ⟨.code 8 0, found⟩
  | 'n' => ⟨.text, found ++ ['\n']⟩
  | 'r' => ⟨.text, found ++ ['\r']⟩
  | 't' => ⟨.text, found ++ ['\t']⟩
  | char => ⟨.text, found ++ [char]⟩

/-- One more character is read; behind the closing mark none counts. -/
def advance (mark : Char) (progress : Progress) (char : Char) : Option Progress :=
  match progress.place with
  | .text =>
    if char = mark then some ⟨.closed, progress.found⟩
    else if char = backslash then some ⟨.escape, progress.found⟩
    else some ⟨.text, progress.found ++ [char]⟩
  | .escape => some (unescape progress.found char)
  | .code left number => do
    let digit ← Hex.value? char
    let number := 16 * number + digit
    if left ≤ 1 then return ⟨.text, progress.found ++ [Char.ofNat number]⟩
    else return ⟨.code (left - 1) number, progress.found⟩
  | .closed => some progress

/-- The text that stands quoted in front of another. -/
def unquote? : List Char → Option (List Char)
  | [] => none
  | mark :: rest =>
    match rest.foldlM (advance mark) ⟨.text, []⟩ with
    | some ⟨.closed, text⟩ => some text
    | _ => none

theorem foldlM_code {mark : Char} {written : List Char} {digits : List Nat}
    (each : List.Forall₂ LowerDigit written digits) (present : digits ≠ []) (start : Nat)
    (found : List Char) :
    written.foldlM (advance mark) ⟨.code digits.length start, found⟩ =
      some ⟨.text, found ++ [Char.ofNat
        (Nat.ofDigits 16 digits.reverse + 16 ^ digits.length * start)]⟩ := by
  -- What has been read so far counts as one more place in front of the digits that are left.
  induction each generalizing start with
  | nil => exact absurd rfl present
  | @cons char digit written digits first others ih =>
    have value : Hex.value? char = some digit :=
      (Address.hexValue_eq_some_iff char digit).mpr (.inl first)
    rw [ofDigits_first, List.foldlM_cons, advance]
    simp only [value]
    cases digits with
    | nil =>
      cases others
      simp
    | cons next digits =>
      have more : ¬ (digit :: next :: digits).length ≤ 1 := by simp
      have left : (digit :: next :: digits).length - 1 = (next :: digits).length := rfl
      simp only [Option.bind_eq_bind, Option.bind_some, Option.pure_def, if_neg more, left]
      exact ih (List.cons_ne_nil _ _) _

/-- Each form takes the reader over its character. -/
theorem Escape.foldlM_advance {text : List Char} {mark char : Char} {piece : List Char}
    (marks : Marks text mark) (escape : Escape mark char piece) (found : List Char) :
    piece.foldlM (advance mark) ⟨.text, found⟩ = some ⟨.text, found ++ [char]⟩ := by
  have opens (rest : List Char) :
      (backslash :: rest).foldlM (advance mark) ⟨.text, found⟩ =
        rest.foldlM (advance mark) ⟨.escape, found⟩ := by
    -- Neither of the two marks is a backslash, which would be taken for the closing mark.
    cases marks <;> rfl
  cases escape with
  | marked => cases marks <;> rw [opens] <;> rfl
  | plain printable unmarked simple =>
    rw [List.foldlM_cons, advance]
    simp only [if_neg unmarked, if_neg simple]
    rfl
  | @code _ letter written digits hidden unnamed form each number =>
    have starts : (letter :: written).foldlM (advance mark) ⟨.escape, found⟩ =
        written.foldlM (advance mark) ⟨.code digits.length 0, found⟩ := by
      generalize digits.length = width at form
      cases form <;> rfl
    have present : digits ≠ [] := by
      intro none
      rw [none] at form
      cases form
    rw [opens, starts, foldlM_code each present, Nat.mul_zero, Nat.add_zero, number.total,
      Char.ofNat_toNat]
  | _ => rw [opens]; rfl

theorem foldlM_pieces {text' text : List Char} {mark : Char} {pieces : List (List Char)}
    (marks : Marks text' mark) (each : List.Forall₂ (Escape mark) text pieces)
    (found : List Char) :
    pieces.flatten.foldlM (advance mark) ⟨.text, found⟩ = some ⟨.text, found ++ text⟩ := by
  induction each generalizing found with
  | nil => simp
  | @cons char piece text pieces escape _ ih =>
    rw [List.flatten_cons, List.foldlM_append, escape.foldlM_advance marks]
    simpa using ih (found ++ [char])

theorem foldlM_closed (mark : Char) (rest found : List Char) :
    rest.foldlM (advance mark) ⟨.closed, found⟩ = some ⟨.closed, found⟩ := by
  induction rest with
  | nil => rfl
  | cons char rest ih => exact ih

theorem Quotes.unquote?_append {text quoted : List Char} (quotes : Quotes text quoted)
    (rest : List Char) : unquote? (quoted ++ rest) = some text := by
  cases quotes with
  | @between mark pieces marks each =>
    have closes : advance mark ⟨.text, text⟩ mark = some ⟨.closed, text⟩ := if_pos rfl
    have read : (pieces.flatten ++ mark :: rest).foldlM (advance mark) ⟨.text, []⟩ =
        some ⟨.closed, text⟩ := by
      rw [List.foldlM_append, foldlM_pieces marks each]
      simp only [List.nil_append, Option.bind_eq_bind, Option.bind_some, List.foldlM_cons, closes,
        foldlM_closed]
    rw [List.cons_append, List.append_assoc, List.singleton_append, unquote?, read]

end Quoted

end IPv6.Text
