import IPv6.Proofs.Address.Forms
import IPv6.Proofs.Table.Matrix
import IPv6.Proofs.Value.Nesting
/-!
Nibbles and rows of octets given as numbers. Each number is stored in an octet before anything is checked,
so that the numbers accepted are the nibbles or the octets of the addresses unless a word reaches beyond an
octet or a fraction is cut off.
-/

namespace IPv6

open Value (InTurn Nested StoredAs Equals octetGrid octetColumn leaves)

/-! ## As grids -/

/-- Nibbles are accepted from whatever is their column when read as a grid. -/
theorem Address.ofNibbleVector_eq_ok_iff {value : Value} {address : Address} :
    ofNibbleVector value = .ok address ↔ octetGrid value = .ok (octetColumn address.nibbles) := by
  constructor
  · intro done
    rw [ofNibbleVector] at done
    split at done
    case h_1 => cases done
    case h_2 cells read =>
      split at done
      case isFalse => cases done
      case isTrue column =>
        split at done
        case h_2 => cases done
        case h_1 found =>
          cases done
          rcases Value.octetGrid_eq_ok_iff.mp read with ⟨_, even, _, numbers, taken, same⟩
          rw [ofNibbles?_eq_some_iff, ← same, List.map_map] at found
          have nibbles : numbers = address.nibbles := (List.map_id numbers).symm.trans found
          have shape : value.shape? = some (octetColumn address.nibbles).shape := by
            rw [even, column, Value.shape_octetColumn, length_nibbles]
          rw [← nibbles] at shape ⊢
          exact Value.octetGrid_eq_ok_iff.mpr
            ⟨rfl, shape, Value.depth_octetColumn numbers, numbers, taken, rfl⟩
  · intro read
    rw [ofNibbleVector_column read, orRefuse_eq_ok_iff, ofNibbles?_eq_some_iff]

namespace Table

variable {value : Value} {addresses : List Address}

/-- A grid is the matrix of the addresses it is read as, or it is refused for its shape. -/
theorem matrix_or_refused {cells : Grid} (read : octetGrid value = .ok cells) :
    (∃ addresses, matrix addresses = cells ∧ addressesOfMatrix value = .ok addresses) ∨
      addressesOfMatrix value = refuse (.matrixExpected cells.shape) := by
  by_cases rows : ∃ count, cells.shape = [count, 16]
  · rcases rows with ⟨count, rows⟩
    have element := (Value.octetGrid_eq_ok_iff.mp read).1
    rcases exists_matrix element rows (Value.octets_of_octetGrid read) with ⟨addresses, rfl⟩
    exact .inl ⟨addresses, rfl, addressesOfMatrix_of_matrix read⟩
  · right
    apply addressesOfMatrix_of_shape read
    intro count same
    exact rows ⟨count, same⟩

/-- Addresses are accepted from whatever is their matrix when read as a grid. -/
theorem addressesOfMatrix_eq_ok_iff :
    addressesOfMatrix value = .ok addresses ↔ octetGrid value = .ok (matrix addresses) := by
  constructor
  · intro done
    rcases bind_eq_ok_iff.mp done with ⟨cells, read, _⟩
    rcases matrix_or_refused read with ⟨addresses', rfl, taken⟩ | refused
    · cases taken.symm.trans done
      exact read
    · cases refused.symm.trans done
  · exact addressesOfMatrix_of_matrix

/-! ## Rows -/

/-- Rows of items that belong to the octets of the addresses, row by row and column by column. -/
def InRows (relation : Value → Nat → Prop) (value : Value) (addresses : List Address) : Prop :=
  InTurn (fun row address => InTurn relation row (address.octets.map UInt8.toNat)) value addresses

/-- The octets of the addresses, one after the other. -/
theorem octetGrid_matrix_iff (numeric : ∀ leaf ∈ leaves value, leaf.IsNumber) :
    octetGrid value = .ok (matrix addresses) ↔
      Nested value [addresses.length, 16] ∧
        List.Forall₂ (StoredAs 1) (leaves value)
          (addresses.flatMap fun address => address.octets.map UInt8.toNat) := by
  have entries : (addresses.flatMap fun address => address.octets.map UInt8.toNat).map Int.ofNat =
      (matrix addresses).entries := by
    rw [List.map_flatMap]
    apply List.flatMap_congr
    intro address _
    exact List.map_map
  rw [Value.octetGrid_of_leaves numeric, ← entries]
  constructor
  · rintro ⟨_, nested, _, numbers, each, same⟩
    rw [List.map_inj_right fun _ _ => Int.ofNat.inj] at same
    exact ⟨nested, same ▸ each⟩
  · rintro ⟨nested, each⟩
    exact ⟨rfl, nested, Nat.le_of_ble_eq_true rfl, _, each, rfl⟩

theorem inRows_iff (some : addresses ≠ []) :
    InRows (StoredAs 1) value addresses ↔
      Nested value [addresses.length, 16] ∧
        List.Forall₂ (StoredAs 1) (leaves value)
          (addresses.flatMap fun address => address.octets.map UInt8.toNat) := by
  have size (address : Address) : (address.octets.map UInt8.toNat).length = 16 := by
    rw [List.length_map, address.length_octets]
  have rows (row : Value) (address : Address) :
      InTurn (StoredAs 1) row (address.octets.map UInt8.toNat) ↔ Nested row [16] ∧
        List.Forall₂ (StoredAs 1) (leaves row) (address.octets.map UInt8.toNat) := by
    rw [Value.inTurn_storedAs_iff, size]
  rw [InRows, Value.inTurn_congr rows]
  exact Value.inTurn_nested_iff (fun address _ => size address) (.inl some)

/-- Without a row there is no second length. -/
theorem ne_nil_of_nested (nested : Nested value [addresses.length, 16]) : addresses ≠ [] := by
  rintro rfl
  rcases nested.exists_items with ⟨kind, items, rfl, none, _⟩
  rw [List.eq_nil_of_length_eq_zero none] at nested
  cases nested.shape_unique (.empty kind)

theorem inRows_equals_iff (held : InRows (StoredAs 1) value addresses) :
    InRows Equals value addresses ↔ ∀ leaf ∈ leaves value, leaf.IsKept 1 :=
  held.iff_forall_leaves fun _ _ => Value.inTurn_equals_iff

end Table

/-! ## Numbers in turn -/

/-- A number with thirty-one zeros behind it. -/
def withZeros (value : Value) : Value := .sequence .list (value :: List.replicate 31 (.integer 0))

section WithZeros

variable {value : Value} {number : Nat}

theorem inTurn_withZeros (held : StoredAs 1 value number) :
    InTurn (StoredAs 1) (withZeros value) (number :: List.replicate 31 0) := by
  have zeros : List.replicate 31 (Value.integer 0) =
      (List.replicate 31 0).map fun _ : Nat => Value.integer 0 := List.map_replicate.symm
  have each : List.Forall₂ (StoredAs 1) (List.replicate 31 (.integer 0)) (List.replicate 31 0) := by
    rw [zeros, List.forall₂_map_left_iff, List.forall₂_same]
    intro number member
    rw [List.eq_of_mem_replicate member]
    exact .fits (.integral (.integer 0)) (by decide)
  exact .items .list (.cons held each)

theorem exists_ofNibbleVector_withZeros (held : StoredAs 1 value number) (small : number < 16) :
    ∃ address, Address.ofNibbleVector (withZeros value) = .ok address ∧
      address.nibbles = number :: List.replicate 31 0 := by
  have turn := inTurn_withZeros held
  have numeric := (Value.inTurn_storedAs_iff.mp turn).1.isNumber
  have nibbles : ∀ nibble ∈ number :: List.replicate 31 0, nibble < 16 := by
    rw [List.forall_mem_cons]
    refine ⟨small, fun nibble member => ?_⟩
    rw [List.eq_of_mem_replicate member]
    decide
  rcases Address.exists_nibbles_eq (by rw [List.length_cons, List.length_replicate]) nibbles with
    ⟨address, same⟩
  refine ⟨address, ?_, same⟩
  rw [Address.ofNibbleVector_eq_ok_iff, Value.octetGrid_octetColumn_iff numeric, same]
  exact turn

end WithZeros

end IPv6
