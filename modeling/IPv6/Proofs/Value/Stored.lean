import IPv6.Proofs.Value.OctetGrid
/-!
Numbers stored in a fixed count of octets. A word leaves its remainder there, and of every other number the
whole part has to fit. So what is stored is the number itself unless a word reaches beyond the octets or a
fraction is cut off.
-/

namespace IPv6

theorem wrap_lt (width : Nat) (number : Int) : wrap width number < Octets.capacity width := by
  have high := Int.emod_lt_of_pos number (Int.natCast_pos.mpr (Octets.capacity_pos width))
  have positive := Octets.capacity_pos width
  rw [wrap]
  omega

theorem wrap_eq_self_iff {width : Nat} {number : Int} :
    (wrap width number : Int) = number ↔ 0 ≤ number ∧ number < Octets.capacity width := by
  have positive : (0 : Int) < Octets.capacity width :=
    Int.natCast_pos.mpr (Octets.capacity_pos width)
  have low := Int.emod_nonneg number (Int.ne_of_gt positive)
  have high := Int.emod_lt_of_pos number positive
  rw [wrap, Int.toNat_of_nonneg low]
  constructor
  · intro same
    rw [← same]
    exact ⟨low, high⟩
  · rintro ⟨low', high'⟩
    exact Int.emod_eq_of_lt low' high'

namespace Value

/-! ## Kinds of number -/

/-- An integer of any kind; a truth value is 0 or 1. -/
inductive Integral : Value → Int → Prop
  | boolean (flag : Bool) : Integral (.boolean flag) (if flag then 1 else 0)
  | integer (number : Int) : Integral (.integer number) number
  | word (given : Word) : Integral (.word given) given.number

/-- A number without what stands behind its point. -/
inductive WholePart : Value → Int → Prop
  | integral {value : Value} {number : Int} (integral : value.Integral number) :
    WholePart value number
  | real (negative : Bool) (significand : Nat) (exponent : Int) :
    WholePart (.real (.finite negative significand exponent))
      (Binary64.wholePart negative significand exponent)

section Numbers

variable {value : Value} {number : Int}

theorem Integral.number?_eq (integral : value.Integral number) :
    value.number? = some (.ofInt number) := by
  cases integral <;> rfl

theorem Integral.isNumber (integral : value.Integral number) : value.IsNumber :=
  ⟨_, integral.number?_eq⟩

theorem Integral.toInteger_eq (integral : value.Integral number) : toInteger value = .ok number := by
  cases integral <;> rfl

theorem WholePart.isNumber (part : value.WholePart number) : value.IsNumber := by
  cases part with
  | integral integral => exact integral.isNumber
  | real negative significand exponent => exact ⟨_, rfl⟩

theorem toInteger_eq_ok_iff (numeric : value.IsNumber) :
    toInteger value = .ok number ↔ value.WholePart number := by
  rcases numeric with ⟨own, found⟩
  constructor
  · intro whole
    cases value with
    | boolean flag => exact Except.ok.inj whole ▸ .integral (.boolean flag)
    | integer given => exact Except.ok.inj whole ▸ .integral (.integer given)
    | word given => exact Except.ok.inj whole ▸ .integral (.word given)
    | real given =>
      cases given with
      | finite negative significand exponent =>
        cases whole
        exact .real negative significand exponent
      | nan => cases whole
      | infinite negative => cases whole
    | _ => cases found
  · intro part
    cases part with
    | integral integral => exact integral.toInteger_eq
    | real negative significand exponent => rfl

end Numbers

/-! ## What is stored -/

/-- What a number leaves in so many octets. -/
inductive StoredAs (width : Nat) : Value → Nat → Prop
  | fits {value : Value} {whole : Int} (part : value.WholePart whole)
    (inside : 0 ≤ whole ∧ whole < Octets.capacity width) : StoredAs width value whole.toNat
  | wrapped (given : Word) : StoredAs width (.word given) (wrap width given.number)

section Stored

variable {width : Nat} {value : Value} {number : Nat}

theorem stored_of_not_word (other : ∀ given, value ≠ .word given) :
    stored width value = (do
      let whole ← toInteger value
      if 0 ≤ whole ∧ whole < Octets.capacity width then return whole.toNat
      else .error .overflow) := by
  cases value with
  | word given => exact absurd rfl (other given)
  | _ => rfl

theorem stored_eq_ok_iff (numeric : value.IsNumber) :
    stored width value = .ok number ↔ StoredAs width value number := by
  constructor
  · intro done
    by_cases isWord : ∃ given, value = .word given
    · rcases isWord with ⟨given, rfl⟩
      cases done
      exact .wrapped given
    · rw [stored_of_not_word fun given same => isWord ⟨given, same⟩] at done
      rcases bind_eq_ok_iff.mp done with ⟨whole, part, taken⟩
      split at taken
      case isTrue inside =>
        cases taken
        exact .fits ((toInteger_eq_ok_iff numeric).mp part) inside
      case isFalse => cases taken
  · intro held
    cases held with
    | fits part inside => exact stored_of_toInteger ((toInteger_eq_ok_iff numeric).mpr part) inside
    | wrapped given => rfl

theorem StoredAs.isNumber (held : StoredAs width value number) : value.IsNumber := by
  cases held with
  | fits part => exact part.isNumber
  | wrapped given => exact (Integral.word given).isNumber

theorem lt_of_stored (done : stored width value = .ok number) : number < Octets.capacity width := by
  by_cases isWord : ∃ given, value = .word given
  · rcases isWord with ⟨given, rfl⟩
    cases done
    exact wrap_lt width given.number
  · rw [stored_of_not_word fun given same => isWord ⟨given, same⟩] at done
    rcases bind_eq_ok_iff.mp done with ⟨whole, _, taken⟩
    split at taken
    case isTrue inside =>
      cases taken
      omega
    case isFalse => cases taken

/-- A plain integer is stored as itself or not at all. -/
theorem stored_integer (width : Nat) (number : Int) :
    stored width (.integer number) =
      if 0 ≤ number ∧ number < Octets.capacity width then .ok number.toNat
      else .error .overflow := rfl

end Stored

/-! ## What is kept -/

/-- A number of any kind that equals a whole number. -/
def Equals (value : Value) (number : Nat) : Prop :=
  ∃ own, value.number? = some own ∧ own.compare? (.ofInt number) = some .eq

/-- A word that so many octets can hold, a fraction that is none, or any other value. -/
def IsKept (width : Nat) : Value → Prop
  | .word given => 0 ≤ given.number ∧ given.number < Octets.capacity width
  | .real number => ∃ whole : Nat, number.compare? (.ofInt whole) = some .eq
  | _ => True

section Kept

variable {width : Nat} {value : Value}

theorem Integral.equals_iff {own : Int} (integral : value.Integral own) (number : Nat) :
    value.Equals number ↔ own = number := by
  rw [Equals, integral.number?_eq]
  constructor
  · rintro ⟨_, found, level⟩
    cases found
    rw [Binary64.compare?_ofInt] at level
    exact Std.LawfulEqOrd.eq_of_compare (Option.some.inj level)
  · intro same
    exact ⟨_, rfl, by rw [Binary64.compare?_ofInt, same, Std.compare_self]⟩

/-- Nothing is lost exactly if the number is one of those that are kept. -/
theorem StoredAs.equals_iff {number : Nat} (held : StoredAs width value number) :
    value.Equals number ↔ value.IsKept width := by
  cases held with
  | wrapped given =>
    rw [(Integral.word given).equals_iff, eq_comm, wrap_eq_self_iff]
    exact Iff.rfl
  | @fits _ whole part inside =>
    have same : (whole.toNat : Int) = whole := Int.toNat_of_nonneg inside.1
    cases part with
    | integral integral =>
      rw [integral.equals_iff, same]
      cases integral with
      | word given => exact ⟨fun _ => inside, fun _ => rfl⟩
      | _ => exact ⟨fun _ => trivial, fun _ => rfl⟩
    | real negative significand exponent =>
      constructor
      · rintro ⟨_, found, level⟩
        cases found
        exact ⟨_, level⟩
      · rintro ⟨number, level⟩
        refine ⟨_, rfl, ?_⟩
        rw [Binary64.wholePart_of_compare_eq level, Int.toNat_natCast]
        exact level

end Kept

end Value

end IPv6
