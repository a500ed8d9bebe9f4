import IPv6.Proofs.Address.Comparison
import IPv6.Proofs.Endpoint.Order
import IPv6.Proofs.SocketAddress.Fields
/-!
Endpoints in order. The number of the address followed by the port decides every comparison, and so do the
octets of the two fields in a record, the address first; no other octet of the record counts.
-/

namespace IPv6.Endpoint

open Address (orderSign numbersRelate)

/-- The number that an endpoint is ordered by. -/
def key (endpoint : Endpoint) : Nat := endpoint.address.toNat * 2 ^ 16 + endpoint.port.toNat

/-- The octets of the address and behind them those of the port. -/
def keyOctets (endpoint : Endpoint) : Octets :=
  endpoint.record.segment 8 16 ++ endpoint.record.segment 2 2

variable (left right : Endpoint)

theorem length_keyOctets (endpoint : Endpoint) : endpoint.keyOctets.length = 18 := by
  rw [keyOctets, List.length_append, Record.length_segment _ (by decide),
    Record.length_segment _ (by decide)]

theorem readBigEndian_keyOctets (endpoint : Endpoint) :
    Octets.readBigEndian endpoint.keyOctets = endpoint.key := by
  have two : (endpoint.record.segment 2 2).length = 2 := Record.length_segment _ (by decide)
  calc
    _ = Octets.capacity 2 * endpoint.address.toNat +
        Octets.readBigEndian (endpoint.record.segment 2 2) := by
      rw [keyOctets, Octets.readBigEndian_append, two]
      rfl
    _ = Octets.capacity 2 * endpoint.address.toNat + endpoint.port.toNat := by
      rw [port, Record.toNat_port]
    _ = endpoint.key := by
      rw [key, Nat.mul_comm]
      rfl

/-- A port never weighs as much as the least difference of two addresses. -/
theorem compare_eq_key : left.compare right = Ord.compare left.key right.key := by
  calc
    _ = (Ord.compare left.address.toNat right.address.toNat).then
        (Ord.compare left.port.toNat right.port.toNat) := by
      rw [compare, Address.compare_eq_toNat, compare_toNat_port]
    _ = Ord.compare (2 ^ 16 * left.address.toNat + left.port.toNat)
        (2 ^ 16 * right.address.toNat + right.port.toNat) :=
      (Text.Positional.compare_place _ _ left.port.toNat_lt right.port.toNat_lt).symm
    _ = _ := by rw [key, key, Nat.mul_comm, Nat.mul_comm (2 ^ 16)]

theorem compare_keyOctets : Ord.compare left.keyOctets right.keyOctets = left.compare right := by
  have same : left.keyOctets.length = right.keyOctets.length := by
    rw [length_keyOctets, length_keyOctets]
  rw [Address.compare_octets same, readBigEndian_keyOctets, readBigEndian_keyOctets, compare_eq_key]

theorem compare_ne_gt_iff : left.compare right ≠ .gt ↔ left.key ≤ right.key := by
  rw [compare_eq_key]
  exact Nat.compare_ne_gt

theorem compare_eq_iff_fields :
    left.compare right = .eq ↔ left.address = right.address ∧ left.port = right.port :=
  compare_eq_iff.trans same_eq_true_iff

/-! ## Other octets -/

theorem keyOctets_put (layout : Layout) {field : Field} (noPort : field ≠ .port)
    (noAddress : field ≠ .address) (record : Record) (number : Nat) :
    keyOctets ⟨record.put layout field number⟩ = keyOctets ⟨record⟩ := by
  have address := Record.segment_put_apart layout.slot?_address noAddress record number
  have port := Record.segment_put_apart layout.slot?_port noPort record number
  rw [keyOctets, keyOctets]
  exact congrArg₂ (· ++ ·) address port

theorem compare_congr {left left' right right' : Endpoint} (same : left.keyOctets = left'.keyOctets)
    (same' : right.keyOctets = right'.keyOctets) : left.compare right = left'.compare right' := by
  rw [← compare_keyOctets, ← compare_keyOctets, same, same']

/-! ## One order -/

/-- What two endpoints are to each other is what their numbers are. -/
structure OrderedByKey (left right : Endpoint) : Prop where
  compared : Value.compare (.endpoint left) (.endpoint right) = .ok (left.compare right)
  numbers : orderSign (left.compare right) = ((left.key : Int) - right.key).sign
  relations : ∀ relation, ∃ answer,
    Value.answer relation (.endpoint left) (.endpoint right) = .ok (.boolean answer) ∧
      (answer = true ↔ numbersRelate relation left.key right.key)
  equals : ∃ answer, Value.same (.endpoint left) (.endpoint right) = .ok answer ∧
    (answer = true ↔ left.compare right = .eq)
  fields : left.compare right = .eq ↔ left.address = right.address ∧ left.port = right.port
  octets : left.compare right =
    Ord.compare ((left.octets.drop 8).take 16 ++ (left.octets.drop 2).take 2)
      ((right.octets.drop 8).take 16 ++ (right.octets.drop 2).take 2)
  /-- Length, family, flow label and scope may hold anything. -/
  elsewhere : ∀ layout field field' number number', field ≠ .port → field ≠ .address →
    field' ≠ .port → field' ≠ .address →
    compare ⟨left.record.put layout field number⟩ ⟨right.record.put layout field' number'⟩ =
      left.compare right

theorem orderedByKey : OrderedByKey left right := by
  constructor
  case compared => rfl
  case numbers => rw [compare_eq_key, Address.orderSign_compare]
  case relations =>
    intro relation
    refine ⟨_, rfl, ?_⟩
    rw [compare_eq_key]
    exact Address.holds_compare_iff relation left.key right.key
  case equals => exact ⟨_, rfl, compare_eq_iff.symm⟩
  case fields => exact compare_eq_iff_fields left right
  case octets => exact (compare_keyOctets left right).symm
  case elsewhere =>
    intro layout field field' number number' noPort noAddress noPort' noAddress'
    exact compare_congr (keyOctets_put layout noPort noAddress left.record number)
      (keyOctets_put layout noPort' noAddress' right.record number')

theorem endpoints_ordered_by_key :
    (∀ left right, OrderedByKey left right) ∧
    (∀ left right : Endpoint, right.compare left = (left.compare right).swap) ∧
    (∀ left right : Endpoint, left.compare right ≠ .gt → right.compare left ≠ .gt →
      left.compare right = .eq) ∧
    (∀ left middle right : Endpoint, left.compare middle ≠ .gt → middle.compare right ≠ .gt →
      left.compare right ≠ .gt) ∧
    (∀ left right : Endpoint, left.compare right ≠ .gt ∨ right.compare left ≠ .gt) := by
  simp only [compare_ne_gt_iff]
  refine ⟨orderedByKey, ?_, ?_, ?_, ?_⟩
  · intro left right
    exact Std.OrientedCmp.eq_swap
  · intro left right forward backward
    rw [compare_eq_key, Nat.compare_eq_eq]
    exact Nat.le_antisymm forward backward
  · intro left middle right
    exact Nat.le_trans
  · intro left right
    exact Nat.le_total left.key right.key

/-- The octets of the ports 255 and 256 stand in the other order least first. -/
theorem endpoints_ordered_by_key_ports :
    (make .systemV 255 .loopback).compare (make .bsd 0 (.ofNat 2)) ≠ .gt ∧
    (make .systemV 256 .loopback).compare ⟨(make .bsd 256 .loopback).record.withScope 3⟩ = .eq ∧
    compare ⟨(make .bsd 255 .loopback).record.put .bsd .length 0⟩
        ⟨(make .bsd 256 .loopback).record.put .bsd .flow 7⟩ = .lt := by
  obtain ⟨ordered, _, antisymmetric, transitive, _⟩ := endpoints_ordered_by_key
  refine ⟨?_, ?_, ?_⟩
  · exact transitive _ (make .systemV 256 .loopback) _ (by decide) (by decide)
  · exact antisymmetric _ _ (by decide) (by decide)
  · rw [(ordered (make .bsd 255 .loopback) (make .bsd 256 .loopback)).elsewhere .bsd .length .flow
      0 7 (by decide) (by decide) (by decide) (by decide)]
    decide

end IPv6.Endpoint
