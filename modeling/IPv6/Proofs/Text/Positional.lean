import IPv6.Proofs.Text.Digits
/-!
Digits in a fixed number of places. Of two numbers with as many digits the greater one has the greater
list of digits, and so has any text that puts a character for each digit, as long as the characters stand
in the order of the digits. Separators after every so many characters change nothing.
-/

namespace IPv6.Text

/-- Digits to a base, the most significant first, and the number that they write. -/
structure Positional (base : Nat) (digits : List Nat) (number : Nat) : Prop where
  small : ∀ digit ∈ digits, digit < base
  total : Nat.ofDigits base digits.reverse = number

namespace Positional

variable {base digit number number' : Nat} {digits digits' : List Nat}

theorem nil (base : Nat) : Positional base [] 0 := ⟨nofun, rfl⟩

theorem cons_iff : Positional base (digit :: digits) number ↔
    digit < base ∧ ∃ rest, Positional base digits rest ∧
      base ^ digits.length * digit + rest = number := by
  have total := ofDigits_first base 0 digit digits
  rw [Nat.mul_zero, Nat.add_zero, Nat.mul_zero, Nat.zero_add, Nat.add_comm] at total
  constructor
  · intro positional
    rcases List.forall_mem_cons.mp positional.small with ⟨first, others⟩
    exact ⟨first, _, ⟨others, rfl⟩, total.symm.trans positional.total⟩
  · intro parts
    rcases parts with ⟨first, _, ⟨others, rfl⟩, rfl⟩
    exact ⟨List.forall_mem_cons.mpr ⟨first, others⟩, total⟩

theorem concat (positional : Positional base digits number) (small : digit < base) :
    Positional base (digits ++ [digit]) (base * number + digit) := by
  constructor
  · intro other member
    rcases List.mem_append.mp member with inside | last
    · exact positional.small other inside
    · rwa [List.mem_singleton.mp last]
  · rw [List.reverse_concat, Nat.ofDigits_cons, positional.total, Nat.add_comm]

theorem lt (positional : Positional base digits number) (wide : 1 < base) :
    number < base ^ digits.length := by
  have bound := Nat.ofDigits_lt_base_pow_length wide
    fun digit member => positional.small digit (List.mem_reverse.mp member)
  rwa [positional.total, List.length_reverse] at bound

/-- A place weighs more than all the places behind it together. -/
theorem compare_place {size low low' : Nat} (high high' : Nat) (below : low < size)
    (below' : low' < size) :
    compare (size * high + low) (size * high' + low') =
      (compare high high').then (compare low low') := by
  have step {less more : Nat} (before : less < more) : size * less + size ≤ size * more :=
    Nat.mul_le_mul_left size before
  rcases Nat.lt_trichotomy high high' with less | rfl | more
  · have whole := step less
    rw [Nat.compare_eq_lt.mpr less, Ordering.lt_then, Nat.compare_eq_lt]
    omega
  · rw [Std.compare_self, Ordering.eq_then]
    simp only [compare, compareOfLessAndEq, Nat.add_lt_add_iff_left, Nat.add_left_cancel_iff]
  · have whole := step more
    rw [Nat.compare_eq_gt.mpr more, Ordering.gt_then, Nat.compare_eq_gt]
    omega

theorem compare_eq (one : Positional base digits number) (other : Positional base digits' number')
    (wide : 1 < base) (same : digits.length = digits'.length) :
    compare digits digits' = compare number number' := by
  induction digits generalizing digits' number number' with
  | nil =>
    cases digits' with
    | cons => cases same
    | nil => rw [← one.total, ← other.total, Std.compare_self, Std.compare_self]
  | cons first rest ih =>
    cases digits' with
    | nil => cases same
    | cons second rest' =>
      have places : rest.length = rest'.length := Nat.succ.inj same
      obtain ⟨-, low, lows, rfl⟩ := cons_iff.mp one
      obtain ⟨-, low', lows', rfl⟩ := cons_iff.mp other
      have below' := lows'.lt wide
      rw [← places] at below' ⊢
      rw [List.compare_cons_cons, ih lows lows' places, compare_place first second (lows.lt wide) below']

/-- A printer of so many digits that writes those of the quotient and behind them the last one. -/
theorem exists_of_printer {Digit : Char → Nat → Prop} {write : (width number : Nat) → List Char}
    (wide : 0 < base) (start : ∀ number, write 0 number = [])
    (step : ∀ width number, ∃ char, Digit char (number % base) ∧
      write (width + 1) number = write width (number / base) ++ [char])
    (width number : Nat) (bound : number < base ^ width) :
    ∃ digits, digits.length = width ∧ List.Forall₂ Digit (write width number) digits ∧
      Positional base digits number := by
  induction width generalizing number with
  | zero =>
    have zero : number = 0 := Nat.lt_one_iff.mp bound
    rw [start, zero]
    exact ⟨[], rfl, .nil, .nil base⟩
  | succ width ih =>
    have quotient : number / base < base ^ width := by
      rw [Nat.pow_succ, Nat.mul_comm] at bound
      exact Nat.div_lt_of_lt_mul bound
    obtain ⟨char, digit, written⟩ := step width number
    obtain ⟨digits, rfl, each, positional⟩ := ih (number / base) quotient
    have whole := positional.concat (Nat.mod_lt number wide)
    rw [Nat.div_add_mod] at whole
    rw [written]
    exact ⟨_, List.length_append, List.rel_append each (.cons digit .nil), whole⟩

end Positional

/-! ## Texts -/

/-- One symbol for each digit, in the order of the digits. -/
theorem compare_of_forall₂ {Symbol : Type} [Ord Symbol] {Digit : Symbol → Nat → Prop}
    (ordered : ∀ symbol symbol' digit digit', Digit symbol digit → Digit symbol' digit' →
      compare symbol symbol' = compare digit digit')
    {left right : List Symbol} {digits digits' : List Nat} (each : List.Forall₂ Digit left digits)
    (each' : List.Forall₂ Digit right digits') : compare left right = compare digits digits' := by
  induction each generalizing right digits' with
  | nil => cases each' <;> rfl
  | @cons symbol digit _ _ first _ ih =>
    cases each' with
    | nil => rfl
    | @cons symbol' digit' _ _ second others =>
      rw [List.compare_cons_cons, List.compare_cons_cons, ih others,
        ordered symbol symbol' digit digit' first second]

theorem compare_append {Symbol : Type} [Ord Symbol] {first second : List Symbol}
    (same : first.length = second.length) (rest rest' : List Symbol) :
    compare (first ++ rest) (second ++ rest') =
      (compare first second).then (compare rest rest') := by
  induction first generalizing second with
  | nil =>
    cases second with
    | nil => rfl
    | cons => cases same
  | cons symbol first ih =>
    cases second with
    | nil => cases same
    | cons symbol' second =>
      rw [List.cons_append, List.cons_append, List.compare_cons_cons, List.compare_cons_cons,
        ih (Nat.succ.inj same), Ordering.then_assoc]

/-- Pieces of the same lengths compare as what is left of them without separators. -/
theorem compare_join (separator : Char) {pieces pieces' : List (List Char)}
    (same : List.Forall₂ (fun piece piece' => piece.length = piece'.length) pieces pieces') :
    compare (join [separator] pieces) (join [separator] pieces') =
      compare pieces.flatten pieces'.flatten := by
  induction same with
  | nil => rfl
  | @cons piece piece' more more' first others ih =>
    cases others with
    | nil => simp only [join, List.flatten_cons, List.flatten_nil, List.append_nil]
    | @cons next next' _ _ second _ =>
      have self : compare [separator] [separator] = .eq := Std.compare_self
      simp only [join, List.flatten_cons] at ih ⊢
      rw [List.append_assoc, List.append_assoc, compare_append first, compare_append first,
        compare_append rfl, self, Ordering.eq_then, ih]

end IPv6.Text
