import IPv6.Proofs.Text.Digits
import IPv6.Proofs.Text.Trim
import IPv6.Text.Numeral
/-!
A whole number written in decimal digits is a numeral of that number, up to the length at which numerals
are refused.
-/

namespace IPv6.Text.Numeral

/-! ## Digits -/

theorem digits?_of_forall₂ {digit? : Char → Option Nat} {text : List Char} {digits : List Nat}
    (each : List.Forall₂ (fun char digit => digit? char = some digit) text digits)
    (present : text ≠ []) (plain : '_' ∉ text) : digits? digit? text = some digits := by
  induction each with
  | nil => exact absurd rfl present
  | @cons char digit rest others first more ih =>
    cases more with
    | nil => rw [digits?, first, Option.map_some]
    | @cons next value rest others second more =>
      rw [List.mem_cons, not_or] at plain
      have read := ih (List.cons_ne_nil next rest) plain.2
      have apart : next ≠ '_' := fun same => plain.2 (same ▸ List.mem_cons_self)
      rw [digits?, first, read]
      · rfl
      · exact nofun
      · intro later same
        cases same
        exact apart rfl

theorem foldl_eq_ofDigits (digits : List Nat) :
    digits.foldl (10 * · + ·) 0 = Nat.ofDigits 10 digits.reverse := by
  rw [Nat.ofDigits_eq_foldr, List.foldr_reverse]
  congr 1
  funext number digit
  exact Nat.add_comm (10 * number) digit

/-- The characters of decimal numbers. -/
def IsDecimal (char : Char) : Prop := ∃ digit < 10, char = Decimal.digit digit

theorem value?_digit : ∀ digit < 10, value? (Decimal.digit digit) = some digit := by decide

theorem isMargin_digit : ∀ digit < 10, isMargin (Decimal.digit digit) = false := by decide

theorem isDecimal_of_mem {number : Nat} {char : Char} (member : char ∈ Decimal.ofNat number) :
    IsDecimal char := by
  rw [ofNat_eq_map] at member
  obtain ⟨digit, inside, rfl⟩ := List.mem_map.mp member
  exact ⟨digit, lt_of_mem_numeral 10 number digit (by decide) inside, rfl⟩

theorem IsDecimal.ne {char : Char} (decimal : IsDecimal char) (other : Char)
    (apart : ∀ digit < 10, Decimal.digit digit ≠ other) : char ≠ other := by
  obtain ⟨digit, small, rfl⟩ := decimal
  exact apart digit small

theorem length_numeral_le_iff (number : Nat) :
    (numeral 10 number).length ≤ digitLimit ↔ number < 10 ^ digitLimit := by
  constructor
  · intro short
    have bound := Nat.ofDigits_lt_base_pow_length (by decide : 1 < 10) fun digit member =>
      lt_of_mem_numeral 10 number digit (by decide) (List.mem_reverse.mp member)
    rw [ofDigits_numeral, List.length_reverse] at bound
    exact Nat.lt_of_lt_of_le bound (Nat.pow_le_pow_right (by decide) short)
  · exact length_numeral_le 10 number digitLimit (by decide) (by decide)

theorem lt_limit {number : Nat} (small : number < 10 ^ 5) : number < 10 ^ digitLimit :=
  Nat.lt_of_lt_of_le small (Nat.pow_le_pow_right (by decide) (by decide))

theorem magnitude?_ofNat (number : Nat) :
    magnitude? value? (Decimal.ofNat number) =
      if number < 10 ^ digitLimit then some number else none := by
  have each : List.Forall₂ (fun char digit => value? char = some digit) (Decimal.ofNat number)
      (numeral 10 number) := by
    rw [ofNat_eq_map, List.forall₂_map_left_iff, List.forall₂_same]
    exact fun digit member =>
      value?_digit digit (lt_of_mem_numeral 10 number digit (by decide) member)
  have present : Decimal.ofNat number ≠ [] := by
    rw [ofNat_eq_map]
    exact mt List.map_eq_nil_iff.mp (numeral_ne_nil 10 number)
  have plain : '_' ∉ Decimal.ofNat number := fun member =>
    (isDecimal_of_mem member).ne '_' (by decide) rfl
  rw [magnitude?, digits?_of_forall₂ each present plain]
  show (if (numeral 10 number).length ≤ digitLimit then
    some ((numeral 10 number).foldl (10 * · + ·) 0) else none) = _
  simp only [length_numeral_le_iff, foldl_eq_ofDigits, ofDigits_numeral]

theorem exists_ofNat_eq_cons (number : Nat) :
    ∃ first rest, Decimal.ofNat number = first :: rest ∧ IsDecimal first := by
  have present : Decimal.ofNat number ≠ [] := by
    rw [ofNat_eq_map]
    exact mt List.map_eq_nil_iff.mp (numeral_ne_nil 10 number)
  obtain ⟨first, rest, shape⟩ := List.exists_cons_of_ne_nil present
  exact ⟨first, rest, shape, isDecimal_of_mem (shape ▸ List.mem_cons_self)⟩

/-! ## Signs -/

theorem isDecimal_or_of_mem {number : Int} {char : Char} (member : char ∈ Decimal.ofInt number) :
    char = '-' ∨ IsDecimal char := by
  rw [Decimal.ofInt] at member
  split at member
  · rcases List.mem_cons.mp member with sign | digit
    · exact .inl sign
    · exact .inr (isDecimal_of_mem digit)
  · exact .inr (isDecimal_of_mem member)

theorem signed?_ofInt (number : Int) :
    signed? value? (Decimal.ofInt number) =
      if number.natAbs < 10 ^ digitLimit then some number else none := by
  have signed (sign : Nat → Int) (same : sign number.natAbs = number) :
      (magnitude? value? (Decimal.ofNat number.natAbs)).map sign =
        if number.natAbs < 10 ^ digitLimit then some number else none := by
    rw [magnitude?_ofNat]
    split
    · rw [Option.map_some, same]
    · rfl
  rw [Decimal.ofInt]
  split
  case isTrue negative =>
    rw [signed?]
    exact signed (fun size => -Int.ofNat size) (by rw [Int.ofNat_eq_natCast]; omega)
  case isFalse =>
    have whole := signed Int.ofNat (by rw [Int.ofNat_eq_natCast]; omega)
    obtain ⟨first, rest, shape, decimal⟩ := exists_ofNat_eq_cons number.natAbs
    rw [shape] at whole ⊢
    rw [signed?]
    · exact whole
    · intro later same
      exact decimal.ne '+' (by decide) (List.cons.inj same).1
    · intro later same
      exact decimal.ne '-' (by decide) (List.cons.inj same).1

theorem read?_ofInt (number : Int) :
    read? (Decimal.ofInt number) =
      if number.natAbs < 10 ^ digitLimit then some number else none := by
  have plain : ∀ char ∈ Decimal.ofInt number, isMargin char = false := by
    intro char member
    rcases isDecimal_or_of_mem member with rfl | ⟨digit, small, rfl⟩
    · decide
    · exact isMargin_digit digit small
  have core := hasCore_of_plain [] [] nofun plain
  rw [List.nil_append, List.append_nil] at core
  rw [read?, trim_eq_iff.mpr core, signed?_ofInt]

end IPv6.Text.Numeral
