import IPv6.Address.Class
import Mathlib.Algebra.Order.Ring.Nat
/-!
Classes as prefixes. The leading octets of an address are the leading bits of its number, so that each
class is a range of numbers. The ranges lie apart, and three of them together are `::/96`.
-/

namespace IPv6

theorem Octets.capacity_eq_pow (width : Nat) : Octets.capacity width = 2 ^ (8 * width) := by
  induction width with
  | zero => rfl
  | succ width ih => rw [Octets.capacity, ih, Nat.mul_succ, Nat.pow_add, Nat.mul_comm]

namespace Address

/-! ## Leading octets -/

theorem toNat_split (address : Address) {count size : Nat} (whole : count + size = 16) :
    address.toNat = 2 ^ (8 * size) * Octets.readBigEndian (address.octets.take count) +
      Octets.readBigEndian (address.octets.drop count) := by
  have length : (address.octets.drop count).length = size := by
    rw [List.length_drop, address.length_octets]
    omega
  calc
    address.toNat = Octets.readBigEndian (address.octets.take count ++ address.octets.drop count) := by
      rw [List.take_append_drop, toNat]
    _ = _ := by rw [Octets.readBigEndian_append, length, Octets.capacity_eq_pow]

/-- The first octets are the number without the bits of the others. -/
theorem toNat_shiftRight (address : Address) {count size : Nat} (whole : count + size = 16) :
    address.toNat >>> (8 * size) = Octets.readBigEndian (address.octets.take count) := by
  have length : (address.octets.drop count).length = size := by
    rw [List.length_drop, address.length_octets]
    omega
  have low := Octets.readBigEndian_lt (address.octets.drop count)
  rw [length, Octets.capacity_eq_pow] at low
  rw [Nat.shiftRight_eq_div_pow, toNat_split address whole, Nat.mul_add_div (Nat.two_pow_pos _),
    Nat.div_eq_of_lt low, Nat.add_zero]

theorem take_succ (address : Address) (index : Fin 16) :
    address.octets.take (index + 1) = address.octets.take index ++ [address.octet index] := by
  apply List.take_succ_eq_append_getElem

/-- One octet more: its bits stand behind those of the octets before. -/
theorem readBigEndian_take_succ (address : Address) (index : Fin 16) :
    Octets.readBigEndian (address.octets.take (index + 1)) =
      256 * Octets.readBigEndian (address.octets.take index) + (address.octet index).toNat := by
  rw [take_succ, Octets.readBigEndian_append]
  rfl

theorem readBigEndian_take_one (address : Address) :
    Octets.readBigEndian (address.octets.take 1) = (address.octet 0).toNat :=
  (readBigEndian_take_succ address 0).trans (Nat.zero_add _)

theorem readBigEndian_take_two (address : Address) :
    Octets.readBigEndian (address.octets.take 2) =
      256 * (address.octet 0).toNat + (address.octet 1).toNat := by
  rw [← readBigEndian_take_one]
  exact readBigEndian_take_succ address 1

/-- The two highest bits of an octet, by which the link-local and the site-local addresses differ. -/
theorem toNat_and_highBits (octet : UInt8) : (octet &&& 0xc0).toNat = 64 * (octet.toNat / 64) := by
  have table : ∀ number < 256, (UInt8.ofNat number &&& 0xc0).toNat = 64 * (number / 64) := by
    decide +kernel
  simpa using table octet.toNat octet.toNat_lt

/-! ## The numbers of a class -/

/-- The numbers of a class: those with its leading bits, or between its bounds. -/
def Class.Covers (number : Nat) : Class → Prop
  | .unspecified => number = 0
  | .loopback => number = 1
  | .linkLocal => number >>> 118 = 0xfe80 >>> 6
  | .siteLocal => number >>> 118 = 0xfec0 >>> 6
  | .ipv4Mapped => number >>> 32 = 0xffff
  | .ipv4Compatible => 1 < number ∧ number < 2 ^ 32
  | .multicast => number >>> 120 = 0xff

instance (number : Nat) : (kind : Class) → Decidable (kind.Covers number)
  | .unspecified => inferInstanceAs (Decidable (number = 0))
  | .loopback => inferInstanceAs (Decidable (number = 1))
  | .linkLocal => inferInstanceAs (Decidable (number >>> 118 = 0xfe80 >>> 6))
  | .siteLocal => inferInstanceAs (Decidable (number >>> 118 = 0xfec0 >>> 6))
  | .ipv4Mapped => inferInstanceAs (Decidable (number >>> 32 = 0xffff))
  | .ipv4Compatible => inferInstanceAs (Decidable (1 < number ∧ number < 2 ^ 32))
  | .multicast => inferInstanceAs (Decidable (number >>> 120 = 0xff))

variable (address : Address)

theorem octets_eq_iff {octets : Octets} (length : octets.length = 16) :
    address.octets = octets ↔ address.toNat = Octets.readBigEndian octets :=
  (Octets.readBigEndian_inj (address.length_octets.trans length.symm)).symm

theorem take_eq_iff {count size : Nat} (whole : count + size = 16) {lead : Octets}
    (length : lead.length = count) :
    address.octets.take count = lead ↔ address.toNat >>> (8 * size) = Octets.readBigEndian lead := by
  have same : (address.octets.take count).length = lead.length := by
    rw [List.length_take, address.length_octets]
    omega
  rw [toNat_shiftRight address whole, Octets.readBigEndian_inj same]

theorem toNat_octet_zero : (address.octet 0).toNat = address.toNat >>> 120 := by
  have whole : 1 + 15 = 16 := rfl
  rw [← readBigEndian_take_one, ← toNat_shiftRight address whole]

/-- The first octet and the two highest bits of the second are ten bits of the number. -/
theorem toNat_leadingTen :
    4 * (address.octet 0).toNat + (address.octet 1).toNat / 64 = address.toNat >>> 118 := by
  have whole : 2 + 14 = 16 := rfl
  have shifted : address.toNat >>> 112 = _ := toNat_shiftRight address whole
  calc
    _ = (256 * (address.octet 0).toNat + (address.octet 1).toNat) / 64 := by omega
    _ = (address.toNat >>> 112) >>> 6 := by
      rw [shifted, readBigEndian_take_two, Nat.shiftRight_eq_div_pow]
    _ = address.toNat >>> 118 := (Nat.shiftRight_add address.toNat 112 6).symm

theorem isUnspecified_iff : address.isUnspecified = true ↔ address.toNat = 0 := by
  rw [isUnspecified, beq_iff_eq]
  exact octets_eq_iff address (Octets.length_zeros 16)

theorem isLoopback_iff : address.isLoopback = true ↔ address.toNat = 1 := by
  rw [isLoopback, beq_iff_eq]
  apply octets_eq_iff
  rfl

/-- The class of one first octet and one pair of highest bits in the second. -/
theorem tenBits_iff (first high : UInt8) (number : Nat) (aligned : high.toNat = 64 * number)
    (small : number < 4) :
    (address.octet 0 == first && address.octet 1 &&& 0xc0 == high) = true ↔
      address.toNat >>> 118 = 4 * first.toNat + number := by
  have bound := (address.octet 1).toNat_lt
  simp only [Bool.and_eq_true, beq_iff_eq, ← UInt8.toNat_inj, toNat_and_highBits, ← toNat_leadingTen,
    aligned]
  omega

theorem isLinkLocal_iff : address.isLinkLocal = true ↔ address.toNat >>> 118 = 0xfe80 >>> 6 :=
  tenBits_iff address 0xfe 0x80 2 rfl (by decide)

theorem isSiteLocal_iff : address.isSiteLocal = true ↔ address.toNat >>> 118 = 0xfec0 >>> 6 :=
  tenBits_iff address 0xfe 0xc0 3 rfl (by decide)

theorem isMulticast_iff : address.isMulticast = true ↔ address.toNat >>> 120 = 0xff := by
  rw [isMulticast, beq_iff_eq, ← UInt8.toNat_inj, toNat_octet_zero]
  rfl

theorem isIPv4Mapped_iff : address.isIPv4Mapped = true ↔ address.toNat >>> 32 = 0xffff := by
  have whole : 12 + 4 = 16 := rfl
  rw [isIPv4Mapped, beq_iff_eq]
  exact take_eq_iff address whole rfl

theorem take_zeros_iff : address.octets.take 12 = Octets.zeros 12 ↔ address.toNat < 2 ^ 32 := by
  have whole : 12 + 4 = 16 := rfl
  have shifted : address.octets.take 12 = Octets.zeros 12 ↔ address.toNat >>> 32 = 0 :=
    take_eq_iff address whole rfl
  rw [shifted, Nat.shiftRight_eq_div_pow, Nat.div_eq_zero_iff_lt (Nat.two_pow_pos 32)]

/-- The octets of an IPv4 address are the low thirty-two bits. -/
theorem readBigEndian_ipv4Octets :
    Octets.readBigEndian address.ipv4Octets = address.toNat % 2 ^ 32 := by
  have whole : 12 + 4 = 16 := rfl
  have low := Octets.readBigEndian_lt address.ipv4Octets
  rw [length_ipv4Octets] at low
  rw [toNat_split address whole, Nat.mul_add_mod]
  exact (Nat.mod_eq_of_lt low).symm

theorem isIPv4Compatible_iff :
    address.isIPv4Compatible = true ↔ 1 < address.toNat ∧ address.toNat < 2 ^ 32 := by
  simp only [isIPv4Compatible, Bool.and_eq_true, beq_iff_eq, decide_eq_true_eq, take_zeros_iff,
    readBigEndian_ipv4Octets]
  constructor
  · intro low
    rcases low with ⟨short, above⟩
    rw [Nat.mod_eq_of_lt short] at above
    exact ⟨above, short⟩
  · intro low
    rcases low with ⟨above, short⟩
    rw [Nat.mod_eq_of_lt short]
    exact ⟨short, above⟩

theorem belongs_iff (kind : Class) : address.belongs kind = true ↔ kind.Covers address.toNat := by
  cases kind with
  | unspecified => exact isUnspecified_iff address
  | loopback => exact isLoopback_iff address
  | linkLocal => exact isLinkLocal_iff address
  | siteLocal => exact isSiteLocal_iff address
  | ipv4Mapped => exact isIPv4Mapped_iff address
  | ipv4Compatible => exact isIPv4Compatible_iff address
  | multicast => exact isMulticast_iff address

/-! ## No two classes -/

/-- The bounds of the classes lie apart. -/
theorem Class.Covers.unique {number : Nat} {kind kind' : Class} (one : kind.Covers number)
    (other : kind'.Covers number) : kind = kind' := by
  cases kind <;> cases kind' <;>
    simp only [Covers, Nat.shiftRight_eq_div_pow, reduceCtorEq] at one other ⊢ <;>
    omega

/-- The numbers below `2 ^ 32` are zero, one and those of the addresses compatible with IPv4. -/
theorem shiftRight_eq_zero_iff (number : Nat) :
    number >>> 32 = 0 ↔ Class.unspecified.Covers number ∨ Class.loopback.Covers number ∨
      Class.ipv4Compatible.Covers number := by
  simp only [Class.Covers, Nat.shiftRight_eq_div_pow]
  omega

/-- Each class holds the numbers of its prefix. No address is in two of them, and `::/96` is the
unspecified address, the loopback address and the addresses compatible with IPv4. -/
theorem classes_are_prefixes :
    (∀ address kind, belongs address kind = true ↔ kind.Covers address.toNat) ∧
    (∀ address kind kind', belongs address kind = true → belongs address kind' = true → kind = kind') ∧
    (∀ address : Address, address.toNat >>> 32 = 0 ↔
      address.isUnspecified = true ∨ address.isLoopback = true ∨ address.isIPv4Compatible = true) := by
  constructor
  · exact belongs_iff
  constructor
  · intro address kind kind' one other
    rw [belongs_iff] at one other
    exact one.unique other
  · intro address
    rw [shiftRight_eq_zero_iff]
    exact or_congr (isUnspecified_iff address).symm
      (or_congr (isLoopback_iff address).symm (isIPv4Compatible_iff address).symm)

/-- The first site-local address stands right behind the last link-local one. -/
theorem siteLocal_behind_linkLocal :
    (ofNat (0xfec0 <<< 112)).belongs .siteLocal = true ∧
      (ofNat (0xfec0 <<< 112)).belongs .linkLocal = false ∧
      (ofNat (0xfec0 <<< 112 - 1)).belongs .linkLocal = true := by
  have site : (ofNat (0xfec0 <<< 112)).belongs .siteLocal = true := by decide
  constructor
  · exact site
  constructor
  · apply eq_false_of_ne_true
    intro link
    cases classes_are_prefixes.2.1 _ _ _ site link
  · rw [classes_are_prefixes.1]
    decide +kernel

end Address

end IPv6
