import Mathlib.Data.List.Forall2
import Mathlib.Data.Nat.Digits.Lemmas
import IPv6.Text.Decimal
import IPv6.Text.Hex
/-!
Numerals to a base: every number has one without leading zero, the printers of both bases write it, and
reading a text digit by digit gives the number of its numeral.
-/

namespace IPv6.Text

/-- The digits of a number, the most significant first; zero has one. -/
def numeral (base number : Nat) : List Nat :=
  if number = 0 then [0] else (Nat.digits base number).reverse

theorem numeral_of_lt (base number : Nat) (small : number < base) :
    numeral base number = [number] := by
  by_cases zero : number = 0
  · simp [numeral, zero]
  · simp [numeral, zero, Nat.digits_of_lt base number zero small]

theorem numeral_of_le (base number : Nat) (large : base ≤ number) (wide : 1 < base) :
    numeral base number = numeral base (number / base) ++ [number % base] := by
  have positive : number ≠ 0 := by omega
  have quotient : number / base ≠ 0 := Nat.ne_of_gt (Nat.div_pos large (by omega))
  rw [numeral, numeral, if_neg positive, if_neg quotient,
    Nat.digits_eq_cons_digits_div wide positive, List.reverse_cons]

theorem lt_of_mem_numeral (base number digit : Nat) (wide : 1 < base)
    (member : digit ∈ numeral base number) : digit < base := by
  by_cases zero : number = 0
  · simp only [numeral, zero, if_true, List.mem_singleton] at member
    omega
  · rw [numeral, if_neg zero, List.mem_reverse] at member
    exact Nat.digits_lt_base wide member

theorem numeral_ne_nil (base number : Nat) : numeral base number ≠ [] := by
  by_cases zero : number = 0
  · simp [numeral, zero]
  · simpa [numeral, zero] using Nat.digits_ne_nil_iff_ne_zero.mpr zero

theorem length_numeral_le (base number width : Nat) (wide : 1 < base) (present : 1 ≤ width)
    (bound : number < base ^ width) : (numeral base number).length ≤ width := by
  by_cases zero : number = 0
  · simpa [numeral, zero] using present
  · rw [numeral, if_neg zero, List.length_reverse]
    exact (Nat.digits_length_le_iff wide number).mpr bound

theorem ofDigits_numeral (base number : Nat) :
    Nat.ofDigits base (numeral base number).reverse = number := by
  by_cases zero : number = 0
  · simp [numeral, zero]
  · rw [numeral, if_neg zero, List.reverse_reverse, Nat.ofDigits_digits]

theorem numeral_leading (base number : Nat) (lead : (numeral base number).head? = some 0) :
    numeral base number = [0] := by
  by_cases zero : number = 0
  · simp [numeral, zero]
  · rw [numeral, if_neg zero, List.head?_reverse] at lead
    have last := Nat.getLast_digit_ne_zero base zero
    rw [List.getLast?_eq_some_getLast (Nat.digits_ne_nil_iff_ne_zero.mpr zero)] at lead
    exact absurd (Option.some.inj lead) last

/-- Digits without leading zero are the numeral of the number they write. -/
theorem numeral_ofDigits (base : Nat) (digits : List Nat) (wide : 1 < base) (present : digits ≠ [])
    (small : ∀ digit ∈ digits, digit < base) (lead : digits.head? = some 0 → digits = [0]) :
    numeral base (Nat.ofDigits base digits.reverse) = digits := by
  by_cases zero : digits.head? = some 0
  · simp [lead zero, numeral]
  · have last : ∀ reversed : digits.reverse ≠ [], digits.reverse.getLast reversed ≠ 0 := by
      intro reversed
      rw [List.getLast_reverse]
      intro same
      exact zero (by rw [List.head?_eq_some_head present, same])
    have restored := Nat.digits_ofDigits base wide digits.reverse
      (fun digit member => small digit (List.mem_reverse.mp member)) last
    have positive : Nat.ofDigits base digits.reverse ≠ 0 := by
      intro vanished
      rw [vanished, Nat.digits_zero] at restored
      exact present (List.reverse_eq_nil_iff.mp restored.symm)
    rw [numeral, if_neg positive, restored, List.reverse_reverse]

/-! ## Printing -/

/-- A printer that writes the quotient and behind it the last digit writes the numeral. -/
theorem eq_map_numeral {base : Nat} {digit : Nat → Char} {write : Nat → List Char}
    (wide : 1 < base) (last : ∀ number, digit (number % base) = digit number)
    (step : ∀ number, write number =
      if number < base then [digit number] else write (number / base) ++ [digit number])
    (number : Nat) : write number = (numeral base number).map digit := by
  induction number using Nat.strongRecOn with
  | ind number ih =>
    rw [step]
    by_cases small : number < base
    · rw [if_pos small, numeral_of_lt base number small, List.map_singleton]
    · have large : base ≤ number := Nat.le_of_not_lt small
      have quotient : number / base < number := Nat.div_lt_self (by omega) wide
      rw [if_neg small, ih (number / base) quotient, numeral_of_le base number large wide,
        List.map_append, List.map_singleton, last]

theorem plain_eq_map (number : Nat) : Hex.plain number = (numeral 16 number).map Hex.digit := by
  apply eq_map_numeral (by decide)
  · intro number
    rw [Hex.digit, Hex.digit, Nat.mod_mod]
  · intro number
    rw [Hex.plain]

theorem ofNat_eq_map (number : Nat) :
    Decimal.ofNat number = (numeral 10 number).map Decimal.digit := by
  apply eq_map_numeral (by decide)
  · intro number
    rw [Decimal.digit, Decimal.digit, Nat.mod_mod]
  · intro number
    rw [Decimal.ofNat]

/-! ## Reading -/

/-- What holds of each digit of a table with its place holds of every digit and its value. -/
@[elab_as_elim] theorem forall_place {digits : List Char} {Holds : Char → Nat → Prop}
    (table : ∀ place ∈ digits.zipIdx, Holds place.1 place.2) {char : Char} {value : Nat}
    (found : digits[value]? = some char) : Holds char value :=
  table _ (List.mk_mem_zipIdx_iff_getElem?.mpr found)

theorem ofDigits_first (base start digit : Nat) (digits : List Nat) :
    Nat.ofDigits base (digit :: digits).reverse + base ^ (digit :: digits).length * start =
      Nat.ofDigits base digits.reverse + base ^ digits.length * (base * start + digit) := by
  rw [List.reverse_cons, Nat.ofDigits_append, Nat.ofDigits_singleton, List.length_reverse,
    List.length_cons]
  ring

theorem foldlM_eq_some_iff (digit? : Char → Option Nat) (base start : Nat) (text : List Char)
    (number : Nat) :
    text.foldlM (fun before char => (digit? char).map (base * before + ·)) start = some number ↔
      ∃ digits, List.Forall₂ (fun char digit => digit? char = some digit) text digits ∧
        Nat.ofDigits base digits.reverse + base ^ digits.length * start = number := by
  induction text generalizing start with
  | nil => simp
  | cons char rest ih =>
    constructor
    · intro read
      obtain ⟨digit, first, others⟩ : ∃ digit, digit? char = some digit ∧
          rest.foldlM (fun before char => (digit? char).map (base * before + ·))
            (base * start + digit) = some number := by
        simpa [List.foldlM_cons, Option.bind_eq_some_iff] using read
      obtain ⟨digits, each, total⟩ := (ih _).mp others
      refine ⟨digit :: digits, .cons first each, ?_⟩
      rw [← total, ofDigits_first]
    · intro written
      rcases written with ⟨digits, each, total⟩
      cases each with
      | @cons _ digit _ digits first each =>
        rw [ofDigits_first] at total
        have others := (ih (base * start + digit)).mpr ⟨digits, each, total⟩
        simpa [List.foldlM_cons, first] using others

end IPv6.Text
