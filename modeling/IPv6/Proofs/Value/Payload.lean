import Mathlib.Algebra.Order.Ring.Nat
import IPv6.Proofs.Table.Items
import IPv6.Value.Octets
/-!
The octets that a value gives. A count gives zeros; anything else gives octets of its own, or has not the
type or an item not the value for it. A grid gives its entries one after the other, each in as many octets
as its element type has; a whole number in a binary format is not rounded as long as the significand has
room for it.
-/

namespace IPv6

/-! ## Binary formats -/

theorem Binary64.roundRatio_mul (quotient : Nat) {denominator : Nat} (positive : 0 < denominator) :
    roundRatio (quotient * denominator) denominator = quotient := by
  rw [roundRatio, Nat.mul_mod_left, Nat.mul_div_cancel quotient positive]
  exact if_pos positive

namespace BinaryFormat

variable {bits : Nat}

theorem pattern_lt (format : bits ∈ [16, 32, 64]) (number : Int) : pattern bits number < 2 ^ bits := by
  have formats : ∀ bits ∈ [16, 32, 64],
      (2 * bias bits + 1) * 2 ^ fractionBits bits < 2 ^ (bits - 1) ∧
        2 ^ (bits - 1) + 2 ^ (bits - 1) = 2 ^ bits := by decide
  have whole := formats bits format
  have unsigned : magnitude bits number.natAbs < 2 ^ (bits - 1) := by
    rw [magnitude, Nat.shiftLeft_eq (2 * bias bits + 1)]
    split
    · exact Nat.two_pow_pos _
    · exact Nat.lt_of_le_of_lt (Nat.min_le_right _ _) whole.1
  rw [pattern, Nat.one_shiftLeft]
  split <;> omega

/-- A number that fits the significand is its leading bit and the fraction, moved by the exponent. -/
theorem magnitude_exact (format : bits ∈ [16, 32, 64]) {number : Nat} (present : number ≠ 0)
    (small : number < 2 ^ (fractionBits bits + 1)) :
    ∃ fraction < 2 ^ fractionBits bits,
      magnitude bits number = (number.log2 + bias bits) * 2 ^ fractionBits bits + fraction ∧
      number * 2 ^ fractionBits bits = (2 ^ fractionBits bits + fraction) * 2 ^ number.log2 := by
  have formats : ∀ bits ∈ [16, 32, 64], 0 < bias bits ∧ fractionBits bits ≤ bias bits := by decide
  have wide := formats bits format
  obtain ⟨shift, places⟩ : ∃ shift, fractionBits bits = shift + number.log2 :=
    ⟨_, (Nat.sub_add_cancel (Nat.le_of_lt_succ ((Nat.log2_lt present).mpr small))).symm⟩
  have moved : number * 2 ^ fractionBits bits = number * 2 ^ shift * 2 ^ number.log2 := by
    rw [places, Nat.pow_add, Nat.mul_assoc]
  have least : 2 ^ fractionBits bits ≤ number * 2 ^ shift := by
    rw [places, Nat.pow_add, Nat.mul_comm]
    exact Nat.mul_le_mul_right _ (Nat.log2_self_le present)
  have most : number * 2 ^ shift < 2 * 2 ^ fractionBits bits := by
    have above : number < 2 * 2 ^ number.log2 := by
      rw [Nat.mul_comm, ← Nat.pow_succ]
      exact Nat.lt_log2_self
    calc
      number * 2 ^ shift < 2 * 2 ^ number.log2 * 2 ^ shift :=
        Nat.mul_lt_mul_of_pos_right above (Nat.two_pow_pos shift)
      _ = 2 * 2 ^ fractionBits bits := by rw [places, Nat.mul_assoc, ← Nat.pow_add, Nat.add_comm]
  obtain ⟨fraction, split⟩ := Nat.exists_eq_add_of_le least
  have stored : magnitude bits number =
      (number.log2 + bias bits) * 2 ^ fractionBits bits + fraction := by
    have finite : number.log2 + bias bits + 1 ≤ 2 * bias bits + 1 := by omega
    have below := Nat.mul_le_mul_right (2 ^ fractionBits bits) finite
    have leading : number.log2 + bias bits = number.log2 + bias bits - 1 + 1 := by omega
    have carried : (number.log2 + bias bits - 1) * 2 ^ fractionBits bits + number * 2 ^ shift =
        (number.log2 + bias bits) * 2 ^ fractionBits bits + fraction := by
      rw [split, ← Nat.add_assoc, ← Nat.add_one_mul, ← leading]
    simp only [magnitude, Nat.shiftLeft_eq, Nat.one_mul]
    rw [moved, Binary64.roundRatio_mul _ (Nat.two_pow_pos _), if_neg present, carried]
    apply Nat.min_eq_left
    rw [Nat.add_one_mul] at below
    omega
  refine ⟨fraction, by omega, stored, ?_⟩
  rw [moved, split]

example : pattern 16 (-2049) = 0xe800 ∧ pattern 32 3 = 0x40400000 ∧ pattern 16 65520 = 0x7c00 := by
  decide

end BinaryFormat

theorem Payload.length_octets (payload : Payload) : payload.octets.length = payload.size := by
  cases payload with
  | zeros count => exact Octets.length_zeros count
  | literal octets => rfl

namespace Value

variable {value : Value} {octets octets' : Octets}

def Gives (value : Value) (octets : Octets) : Prop :=
  ∃ payload, value.payload = .ok payload ∧ payload.octets = octets

theorem Gives.unique (first : value.Gives octets) (second : value.Gives octets') :
    octets = octets' := by
  rcases first with ⟨payload, given, rfl⟩
  rcases second with ⟨payload', given', rfl⟩
  rw [Except.ok.inj (given.symm.trans given')]

theorem gives_octets (kind : OctetsKind) (octets : Octets) : Gives (.octets kind octets) octets :=
  ⟨.literal octets, rfl, rfl⟩

theorem gives_endpoint (endpoint : Endpoint) : Gives (.endpoint endpoint) endpoint.octets :=
  ⟨.literal endpoint.octets, rfl, rfl⟩

/-! ## Grids -/

theorem length_entryOctets (element : ElementType) (entry : Int) :
    (entryOctets element entry).length = element.size := by
  cases element with
  | boolean => rfl
  | word type => exact Octets.length_littleEndian _ _
  | real bits => exact Octets.length_littleEndian _ _

theorem length_gridOctets (grid : Grid) :
    (gridOctets grid).length = volume grid.shape * grid.element.size := by
  have each : ∀ entry ∈ grid.entries, (entryOctets grid.element entry).length = grid.element.size :=
    fun entry _ => length_entryOctets grid.element entry
  rw [gridOctets, List.length_flatMap, List.map_congr_left each, List.map_const',
    List.sum_replicate_nat, grid.length_entries]

/-- The octets of an entry with a fraction are the bits of its format, none lost. -/
theorem readLittleEndian_entryOctets_real {bits : Nat} (format : bits ∈ [16, 32, 64]) (entry : Int) :
    Octets.readLittleEndian (entryOctets (.real bits) entry) = BinaryFormat.pattern bits entry := by
  have formats : ∀ bits ∈ [16, 32, 64],
      Octets.capacity (ElementType.real bits).size = 2 ^ bits := by decide
  rw [entryOctets, Octets.readLittleEndian_littleEndian, formats bits format]
  exact Nat.mod_eq_of_lt (BinaryFormat.pattern_lt format entry)

/-! ## Values that count nothing -/

/-- An item that is no octet has the wrong type or the wrong value. -/
theorem fault_of_itemOctet {item : Value} {fault : Fault} (failed : itemOctet item = .error fault) :
    fault = .wrongType ∨ fault = .wrongValue := by
  rw [itemOctet] at failed
  split at failed
  · cases failed
    exact .inl rfl
  · split at failed <;> cases failed
    exact .inr rfl

theorem payload_of_index?_none (other : value.index? = none) :
    (∃ octets, value.payload = .ok (.literal octets)) ∨ value.payload = .error .wrongType ∨
      value.payload = .error .wrongValue := by
  cases value with
  | boolean flag => cases other
  | integer number => cases other
  | word word => cases other
  | absent => exact .inr (.inl rfl)
  | real number => exact .inr (.inl rfl)
  | text text => exact .inr (.inl rfl)
  | protocol protocol => exact .inr (.inl rfl)
  | octets kind octets => exact .inl ⟨octets, rfl⟩
  | records layout records => exact .inl ⟨records.flatMap Record.octets, rfl⟩
  | address address => exact .inl ⟨address.octets, rfl⟩
  | endpoint endpoint => exact .inl ⟨endpoint.octets, rfl⟩
  | grid grid =>
    have counted : grid.number? = none := other
    rw [payload, gridPayload, counted]
    exact .inl ⟨gridOctets grid, rfl⟩
  | sequence kind items =>
    rw [payload]
    cases taken : items.mapM itemOctet with
    | ok octets => exact .inl ⟨octets, rfl⟩
    | error fault =>
      rcases Table.exists_of_mapM_error taken with ⟨item, _, failed⟩
      rcases fault_of_itemOctet failed with rfl | rfl
      · exact .inr (.inl rfl)
      · exact .inr (.inr rfl)

end Value

end IPv6
