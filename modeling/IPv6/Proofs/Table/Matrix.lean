import IPv6.Proofs.Table.Addresses
/-!
Addresses and their matrix. Every rectangular arrangement of octets in rows of sixteen is the matrix of the
addresses that it is read as. An arrangement of another shape is refused, unless it is nested too deep to
have a shape as a grid.
-/

namespace IPv6.Table

open Value (Arranged ArrangedEach depthLimit)

variable {value : Value} {shape : List Nat} {octets : Octets}

/-! ## Rows of sixteen -/

theorem exists_addresses {count : Nat} (rows : octets.length = 16 * count) :
    ∃ addresses : List Address, addresses.length = count ∧
      addresses.flatMap Address.octets = octets := by
  induction count generalizing octets with
  | zero => exact ⟨[], rfl, (List.eq_nil_of_length_eq_zero rows).symm⟩
  | succ count ih =>
    have first : (octets.take 16).length = 16 := by
      rw [List.length_take]
      omega
    have others : (octets.drop 16).length = 16 * count := by
      rw [List.length_drop]
      omega
    rcases ih others with ⟨rest, size, same⟩
    refine ⟨⟨octets.take 16, first⟩ :: rest, ?_, ?_⟩
    · rw [List.length_cons, size]
    · rw [List.flatMap_cons, same, List.take_append_drop]

theorem entries_matrix (addresses : List Address) :
    (matrix addresses).entries = octetEntries (addresses.flatMap Address.octets) :=
  List.map_flatMap.symm

theorem octetGrid_of_arranged {count : Nat} (arranged : Arranged value [count, 16] octets) :
    ∃ addresses : List Address, addresses.length = count ∧
      addresses.flatMap Address.octets = octets ∧ value.octetGrid = .ok (matrix addresses) := by
  have rows : octets.length = 16 * count := by
    rw [arranged.length_eq, Nat.mul_comm]
    rfl
  rcases exists_addresses rows with ⟨addresses, rfl, rfl⟩
  refine ⟨addresses, rfl, rfl, ?_⟩
  exact Arranged.octetGrid_eq arranged rfl (entries_matrix addresses) (Nat.le_of_ble_eq_true rfl)

/-- A grid of octets in rows of sixteen is a matrix. -/
theorem exists_matrix {cells : Grid} {count : Nat} (element : cells.element = .word .uint8)
    (columns : cells.shape = [count, 16])
    (inside : ∀ entry ∈ cells.entries, 0 ≤ entry ∧ entry < 256) :
    ∃ addresses, matrix addresses = cells := by
  have depth : cells.shape.length ≤ depthLimit := by
    rw [columns]
    exact Nat.le_of_ble_eq_true rfl
  rcases Value.exists_octets inside with ⟨octets, same⟩
  have arranged : Arranged (.grid cells) [count, 16] octets := columns ▸ .grid same
  rcases octetGrid_of_arranged arranged with ⟨addresses, _, _, read⟩
  refine ⟨addresses, Except.ok.inj (read.symm.trans ?_)⟩
  exact Value.octetGrid_grid element inside depth

theorem addressesOfMatrix_of_matrix {addresses : List Address}
    (read : value.octetGrid = .ok (matrix addresses)) : addressesOfMatrix value = .ok addresses := by
  rw [addressesOfMatrix, read, ← octetGrid_matrix addresses]
  exact addressesOfMatrix_matrix addresses

/-! ## Other shapes -/

theorem addressesOfMatrix_of_shape {cells : Grid} (read : value.octetGrid = .ok cells)
    (other : ∀ count, cells.shape ≠ [count, 16]) :
    addressesOfMatrix value = refuse (.matrixExpected cells.shape) := by
  rw [addressesOfMatrix, read, ok_bind]
  split
  case h_1 count same => exact absurd same (other count)
  case h_2 => rfl

theorem refused_iff_shape (arranged : Arranged value shape octets)
    (depth : shape.length ≤ depthLimit) :
    (∃ refusal, addressesOfMatrix value = refuse refusal ∧ refusal.kind = .invalidArgument) ↔
      ∀ count, shape ≠ [count, 16] := by
  constructor
  · rintro ⟨refusal, refused, _⟩ count rfl
    rcases octetGrid_of_arranged arranged with ⟨addresses, _, _, read⟩
    rw [addressesOfMatrix_of_matrix read] at refused
    cases refused
  · intro other
    rcases arranged.exists_octetGrid depth with ⟨cells, read, rfl⟩
    exact ⟨_, addressesOfMatrix_of_shape read other, rfl⟩

theorem addressesOfMatrix_of_deep (arranged : Arranged value shape octets)
    (deep : depthLimit < shape.length) : addressesOfMatrix value = .error .wrongValue := by
  rw [addressesOfMatrix, arranged.octetGrid_of_deep deep]
  rfl

/-- A value in lists of one item, one inside the other. -/
def nested (value : Value) : (depth : Nat) → Value
  | 0 => value
  | depth + 1 => .sequence .list [nested value depth]

theorem arranged_nested (arranged : Arranged value shape octets) (depth : Nat) :
    Arranged (nested value depth) (List.replicate depth 1 ++ shape) octets := by
  induction depth with
  | zero => exact arranged
  | succ depth ih =>
    have each := ArrangedEach.cons ih (.nil _)
    rw [List.append_nil] at each
    exact .sequence .list (List.cons_ne_nil _ _) each

/-- No grid has sixty-five lengths, so it is not for its shape that such a list fails. -/
theorem deeply_nested_not_refused :
    Arranged (nested (.integer 0) 65) (List.replicate 65 1) [0] ∧
    (∀ count, List.replicate 65 1 ≠ [count, 16]) ∧
    ¬ ∃ refusal, addressesOfMatrix (nested (.integer 0) 65) = refuse refusal := by
  have arranged : Arranged (nested (.integer 0) 65) (List.replicate 65 1) [0] :=
    arranged_nested (.number (Value.isOctet_integer 0)) 65
  refine ⟨arranged, ?_, ?_⟩
  · intro count same
    have lengths : 65 = 2 := congrArg List.length same
    exact absurd lengths (by decide)
  · rintro ⟨refusal, refused⟩
    rw [addressesOfMatrix_of_deep arranged (by decide)] at refused
    cases refused

/-! ## Items -/

theorem addressesOf_of_items {items : List Value} {addresses : List Address}
    (stepped : value.items = .ok items)
    (each : List.Forall₂ (fun item address => Address.ofValue item = .ok address) items addresses) :
    addressesOf value = .ok addresses := by
  rw [addressesOf, stepped]
  exact (mapM_eq_ok_iff items addresses).mpr each

theorem addressesOf_addresses (kind : SequenceKind) (addresses : List Address) :
    addressesOf (.sequence kind (addresses.map .address)) = .ok addresses := by
  apply addressesOf_of_items rfl
  rw [List.forall₂_map_left_iff, List.forall₂_same]
  exact fun address _ => rfl

theorem matrix_of_addresses (kind : SequenceKind) (addresses : List Address) :
    (addressesOf (.sequence kind (addresses.map .address))).map matrix = .ok (matrix addresses) := by
  rw [addressesOf_addresses, Except.map]

/-! ## Matrix and list -/

theorem matrix_and_addresses :
    (∀ value items addresses, Value.items value = .ok items →
      List.Forall₂ (fun item address => Address.ofValue item = .ok address) items addresses →
      ∃ cells, (addressesOf value).map matrix = .ok cells ∧ cells.element = .word .uint8 ∧
        cells.shape = [items.length, 16] ∧
        Grid.blocks 16 items.length cells.entries =
          addresses.map (fun address => octetEntries address.octets) ∧
        addressesOfMatrix (.grid cells) = .ok addresses) ∧
    (∀ value before item after fault, Value.items value = .ok (before ++ item :: after) →
      (∀ earlier ∈ before, ∃ address, Address.ofValue earlier = .ok address) →
      Address.ofValue item = .error fault →
      (addressesOf value).map matrix = .error fault) ∧
    (∀ value count octets, Arranged value [count, 16] octets →
      ∃ addresses, addressesOfMatrix value = .ok addresses ∧
        ∀ kind, ∃ cells,
          (addressesOf (.sequence kind (addresses.map .address))).map matrix = .ok cells ∧
          cells.element = .word .uint8 ∧ cells.shape = [count, 16] ∧
          cells.entries = octetEntries octets) ∧
    (∀ (cells : Grid) count, cells.element = .word .uint8 → cells.shape = [count, 16] →
      (∀ entry ∈ cells.entries, 0 ≤ entry ∧ entry < 256) →
      ∃ addresses, addressesOfMatrix (.grid cells) = .ok addresses ∧
        ∀ kind, (addressesOf (.sequence kind (addresses.map .address))).map matrix = .ok cells) ∧
    (∀ value shape octets, Arranged value shape octets → shape.length ≤ depthLimit →
      ((∃ refusal, addressesOfMatrix value = refuse refusal ∧ refusal.kind = .invalidArgument) ↔
        ∀ count, shape ≠ [count, 16])) ∧
    (∀ value shape octets, Arranged value shape octets → depthLimit < shape.length →
      addressesOfMatrix value = .error .wrongValue) := by
  refine ⟨?_, ?_, ?_, ?_, ?_, ?_⟩
  · intro value items addresses stepped each
    refine ⟨matrix addresses, ?_, rfl, ?_, ?_, addressesOfMatrix_matrix addresses⟩
    · rw [addressesOf_of_items stepped each, Except.map]
    · rw [each.length_eq]
      rfl
    · rw [each.length_eq]
      exact blocks_entries addresses
  · intro value before item after fault stepped accepted refused
    rw [addressesOf, stepped, ok_bind, mapM_of_first_error accepted refused after, Except.map]
  · intro value count octets arranged
    rcases octetGrid_of_arranged arranged with ⟨addresses, rfl, rfl, read⟩
    refine ⟨addresses, addressesOfMatrix_of_matrix read, fun kind => ⟨matrix addresses, ?_⟩⟩
    exact ⟨matrix_of_addresses kind addresses, rfl, rfl, entries_matrix addresses⟩
  · intro cells count element columns inside
    rcases exists_matrix element columns inside with ⟨addresses, rfl⟩
    exact ⟨addresses, addressesOfMatrix_matrix addresses,
      fun kind => matrix_of_addresses kind addresses⟩
  · intro value shape octets
    exact refused_iff_shape
  · intro value shape octets
    exact addressesOfMatrix_of_deep

theorem matrix_and_addresses_mixed :
    (∃ cells, (addressesOf (.sequence .list [.text "::2", .absent])).map matrix = .ok cells ∧
      cells.shape = [2, 16]) ∧
    (addressesOf (.sequence .tuple [.absent, .integer 5, .text "::g"])).map matrix =
      refuse (.integerAsAddress (.integer 5)) ∧
    (∃ addresses, addressesOfMatrix (.sequence .tuple [.octets .buffer Address.loopback.octets,
        .sequence .list (Value.octetNumbers Address.unspecified.octets)]) = .ok addresses) ∧
    (∃ addresses, addressesOfMatrix (.grid (.zeros (.word .uint8) [0, 16])) = .ok addresses) ∧
    (∃ refusal, addressesOfMatrix (.octets .view Address.loopback.octets) = refuse refusal ∧
      refusal.kind = .invalidArgument) ∧
    addressesOfMatrix (nested (.boolean true) 65) = .error .wrongValue := by
  obtain ⟨written, reports, restores, again, refuses, deep⟩ := matrix_and_addresses
  refine ⟨?_, ?_, ?_, ?_, ?_, ?_⟩
  · rcases written (.sequence .list [.text "::2", .absent]) _ [.ofNat 2, .unspecified] rfl
      (.cons rfl (.cons rfl .nil)) with ⟨cells, done, _, rows, _⟩
    exact ⟨cells, done, rows⟩
  · exact reports (.sequence .tuple [.absent, .integer 5, .text "::g"]) [.absent] _ _ _ rfl
      (List.forall_mem_singleton.mpr ⟨.unspecified, rfl⟩) rfl
  · have rows : Arranged (.sequence .tuple [.octets .buffer Address.loopback.octets,
        .sequence .list (Value.octetNumbers Address.unspecified.octets)]) [2, 16] _ :=
      .sequence .tuple (List.cons_ne_nil _ _)
        (.cons (.buffer Address.loopback.octets)
          (.cons (Value.arranged_octetNumbers .list Address.unspecified.octets) (.nil _)))
    rcases restores _ 2 _ rows with ⟨addresses, done, _⟩
    exact ⟨addresses, done⟩
  · rcases again (.zeros (.word .uint8) [0, 16]) 0 rfl rfl nofun with ⟨addresses, done, _⟩
    exact ⟨addresses, done⟩
  · exact (refuses _ _ _ (Arranged.view Address.loopback.octets) (by decide)).mpr nofun
  · have number : Value.IsOctet (.boolean true) 1 := ⟨_, rfl, by decide⟩
    exact deep _ _ _ (arranged_nested (.number number) 65) (by decide)

end IPv6.Table
