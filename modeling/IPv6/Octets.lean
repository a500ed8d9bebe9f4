/-!
Octet sequences as numbers. A number of a given width has one sequence in each byte order, and reading
takes the number back from it.
-/

namespace IPv6

abbrev Octets := List UInt8

namespace Octets

def zeros (count : Nat) : Octets := List.replicate count 0

/-- How many numbers there are of so many octets. -/
def capacity : (width : Nat) → Nat
  | 0 => 1
  | width + 1 => 256 * capacity width

/-- Keeps the low `8 * width` bits, the least significant octet first. -/
def littleEndian : (width number : Nat) → Octets
  | 0, _ => []
  | width + 1, number => UInt8.ofNat number :: littleEndian width (number / 256)

/-- Keeps the low `8 * width` bits, the most significant octet first. -/
def bigEndian (width number : Nat) : Octets := (littleEndian width number).reverse

def readLittleEndian : Octets → Nat
  | [] => 0
  | octet :: rest => octet.toNat + 256 * readLittleEndian rest

def readBigEndian (octets : Octets) : Nat := readLittleEndian octets.reverse

theorem capacity_pos (width : Nat) : 0 < capacity width := by
  induction width with
  | zero => exact Nat.one_pos
  | succ width ih => exact Nat.mul_pos (by decide) ih

@[simp] theorem length_zeros (count : Nat) : (zeros count).length = count := by
  simp [zeros]

@[simp] theorem length_littleEndian (width number : Nat) :
    (littleEndian width number).length = width := by
  induction width generalizing number with
  | zero => rfl
  | succ width ih => simp [littleEndian, ih]

@[simp] theorem length_bigEndian (width number : Nat) :
    (bigEndian width number).length = width := by
  simp [bigEndian]

theorem readLittleEndian_lt (octets : Octets) :
    readLittleEndian octets < capacity octets.length := by
  induction octets with
  | nil => exact Nat.one_pos
  | cons octet rest ih =>
    have bound := octet.toNat_lt
    simp only [readLittleEndian, List.length_cons, capacity]
    omega

theorem readBigEndian_lt (octets : Octets) : readBigEndian octets < capacity octets.length := by
  simpa [readBigEndian] using readLittleEndian_lt octets.reverse

theorem readLittleEndian_littleEndian (width number : Nat) :
    readLittleEndian (littleEndian width number) = number % capacity width := by
  induction width generalizing number with
  | zero => simp [littleEndian, readLittleEndian, capacity, Nat.mod_one]
  | succ width ih =>
    have digit : (UInt8.ofNat number).toNat = number % 256 := UInt8.toNat_ofNat'
    rw [littleEndian, readLittleEndian, ih, digit, capacity, Nat.mod_mul]

theorem readBigEndian_bigEndian (width number : Nat) :
    readBigEndian (bigEndian width number) = number % capacity width := by
  simp [readBigEndian, bigEndian, readLittleEndian_littleEndian]

theorem littleEndian_readLittleEndian (octets : Octets) :
    littleEndian octets.length (readLittleEndian octets) = octets := by
  induction octets with
  | nil => rfl
  | cons octet rest ih =>
    have bound := octet.toNat_lt
    have quotient : (octet.toNat + 256 * readLittleEndian rest) / 256 = readLittleEndian rest := by
      omega
    have digit : UInt8.ofNat (octet.toNat + 256 * readLittleEndian rest) = octet := by
      apply UInt8.toNat_inj.mp
      rw [UInt8.toNat_ofNat']
      omega
    simp [littleEndian, readLittleEndian, quotient, digit, ih]

theorem bigEndian_readBigEndian (octets : Octets) :
    bigEndian octets.length (readBigEndian octets) = octets := by
  have reversed := littleEndian_readLittleEndian octets.reverse
  rw [List.length_reverse] at reversed
  simp [bigEndian, readBigEndian, reversed]

/-- Octets of one width are told apart by their numbers. -/
theorem readBigEndian_inj {left right : Octets} (same : left.length = right.length) :
    readBigEndian left = readBigEndian right ↔ left = right := by
  constructor
  · intro equal
    rw [← bigEndian_readBigEndian left, equal, same, bigEndian_readBigEndian]
  · exact congrArg readBigEndian

@[simp] theorem readBigEndian_zeros (count : Nat) : readBigEndian (zeros count) = 0 := by
  rw [readBigEndian, zeros, List.reverse_replicate]
  induction count with
  | zero => rfl
  | succ count ih => simp [List.replicate_succ, readLittleEndian, ih]

theorem readLittleEndian_append (front back : Octets) :
    readLittleEndian (front ++ back) =
      readLittleEndian front + capacity front.length * readLittleEndian back := by
  induction front with
  | nil => simp [readLittleEndian, capacity]
  | cons octet rest ih =>
    simp only [List.cons_append, readLittleEndian, ih, List.length_cons, capacity]
    rw [Nat.mul_add, Nat.mul_assoc, Nat.add_assoc]

/-- The octets in front count for the multiples of what those behind them can hold. -/
theorem readBigEndian_append (front back : Octets) :
    readBigEndian (front ++ back) =
      capacity back.length * readBigEndian front + readBigEndian back := by
  rw [readBigEndian, List.reverse_append, readLittleEndian_append, List.length_reverse, Nat.add_comm]
  rfl

end Octets

end IPv6
