import IPv6.Proofs.Address.Order
import IPv6.Proofs.Address.Reading
import IPv6.Proofs.Table.Items
import IPv6.Proofs.Table.StableSort
import IPv6.Proofs.Value.OctetGrid
import IPv6.Value.Order
/-!
The rows of the matrix in order. Sorting them column by column is sorting the addresses by their octets,
so the result depends on neither the way nor the order in which the addresses were given.
-/

namespace IPv6.Table

/-! ## Columns -/

section Keys

variable {Row Inner : Type}

theorem compareByKeys_append (keys keys' : List (Row → Nat)) (left right : Row) :
    compareByKeys (keys ++ keys') left right =
      (compareByKeys keys left right).then (compareByKeys keys' left right) := by
  induction keys with
  | nil => rfl
  | cons key keys ih =>
    simp only [List.cons_append, compareByKeys, compareLex, ih, Ordering.then_assoc]

/-- Keys of something that the rows hold. -/
theorem compareByKeys_map (view : Row → Inner) (keys : List (Inner → Nat)) (left right : Row) :
    compareByKeys (keys.map fun key row => key (view row)) left right =
      compareByKeys keys (view left) (view right) := by
  induction keys with
  | nil => rfl
  | cons key keys ih => simp only [List.map_cons, compareByKeys, compareLex, compareOn, ih]

end Keys

/-- The octet in a column as a number. -/
def octetAt (index : Nat) (octets : Octets) : Nat := (octets.getD index 0).toNat

theorem octetAt_succ (index : Nat) :
    octetAt (index + 1) = fun octets => octetAt index octets.tail := by
  funext octets
  cases octets <;> rfl

theorem compareByKeys_columns {left right : Octets} (same : left.length = right.length) :
    compareByKeys ((List.range left.length).map octetAt) left right = compare left right := by
  induction left generalizing right with
  | nil =>
    cases right with
    | nil => rfl
    | cons => cases same
  | cons first rest ih =>
    cases right with
    | nil => cases same
    | cons second rest' =>
      have shifted : (List.range rest.length).map (octetAt ∘ Nat.succ) =
          ((List.range rest.length).map octetAt).map fun key octets => key octets.tail := by
        rw [List.map_map]
        exact List.map_congr_left fun index _ => octetAt_succ index
      calc
        _ = (compare first.toNat second.toNat).then
            (compareByKeys ((List.range rest.length).map octetAt) rest rest') := by
          rw [List.length_cons, List.range_succ_eq_map, List.map_cons, List.map_map, shifted,
            compareByKeys, compareLex, compareByKeys_map List.tail]
          rfl
        _ = (compare first second).then (compare rest rest') := by
          rw [compare_toNat, ih (Nat.succ.inj same)]
        _ = compare (first :: rest) (second :: rest') := List.compareLex_cons_cons.symm

theorem column_eq_getElem (address : Address) {index : Nat}
    (inside : index < address.octets.length) : column index address = address.octets[index] := by
  rw [column, List.getD_eq_getElem?_getD, List.getElem?_eq_getElem inside, Option.getD_some]

/-- An octet of its own is the column of its place. -/
theorem octet_eq_column (address : Address) (index : Fin 16) :
    address.octet index = column index address := by
  have inside : index.val < address.octets.length := by
    rw [address.length_octets]
    exact index.isLt
  exact (column_eq_getElem address inside).symm

theorem octetKeys_eq :
    octetKeys = ((List.range 16).map octetAt).map fun key address => key address.octets := by
  have octet (index : Fin 16) :
      (fun address : Address => (address.octet index).toNat) =
        fun address => octetAt index address.octets := by
    funext address
    rw [octet_eq_column]
    rfl
  rw [octetKeys, ← List.map_coe_finRange_eq_range, List.map_map, List.map_map]
  exact List.map_congr_left fun index _ => octet index

theorem compareByKeys_octetKeys (left right : Address) :
    compareByKeys octetKeys left right = left.compare right := by
  have sixteen := left.length_octets
  have same : left.octets.length = right.octets.length := sixteen.trans right.length_octets.symm
  rw [octetKeys_eq, compareByKeys_map Address.octets, ← sixteen, compareByKeys_columns same]
  rfl

/-- Sixteen passes over the columns are a sort by the octets. -/
theorem sortAddresses_eq (addresses : List Address) :
    sortAddresses addresses = Value.sortedAddresses addresses := by
  rw [sortAddresses, sortByKeys_eq_sortBy, Value.sortedAddresses, sortBy]
  simp only [compareByKeys_octetKeys]

/-! ## The sorted addresses -/

theorem sortedAddresses_isStableSort (addresses : List Address) :
    IsStableSort Address.compare addresses (Value.sortedAddresses addresses) :=
  sortBy_isStableSort addresses

theorem sortedAddresses_perm (addresses : List Address) :
    (Value.sortedAddresses addresses).Perm addresses := sortBy_perm Address.compare addresses

/-- Equal addresses cannot be told apart, so the order in which they were given is lost. -/
theorem sortedAddresses_eq_of_perm {left right : List Address} (same : left.Perm right) :
    Value.sortedAddresses left = Value.sortedAddresses right := by
  refine List.Perm.eq_of_pairwise ?_ (sortedAddresses_isStableSort left).ordered
    (sortedAddresses_isStableSort right).ordered
    ((sortedAddresses_perm left).trans (same.trans (sortedAddresses_perm right).symm))
  intro first second _ _ forward backward
  exact Address.compare_eq_iff.mp (Std.OrientedCmp.isLE_antisymm forward backward)

/-! ## The matrix -/

theorem octetGrid_matrix (addresses : List Address) :
    (Value.grid (matrix addresses)).octetGrid = .ok (matrix addresses) := by
  refine Value.octetGrid_grid rfl ?_ (Nat.le_of_ble_eq_true rfl)
  intro entry member
  obtain ⟨address, _, inside⟩ := List.mem_flatMap.mp member
  obtain ⟨octet, _, rfl⟩ := List.mem_map.mp inside
  exact ⟨Int.natCast_nonneg _, Int.ofNat_lt.mpr octet.toNat_lt⟩

theorem blocks_entries (addresses : List Address) :
    Grid.blocks 16 addresses.length (matrix addresses).entries =
      addresses.map fun address => octetEntries address.octets := by
  induction addresses with
  | nil => rfl
  | cons address rest ih =>
    have row : (octetEntries address.octets).length = 16 := by
      rw [octetEntries, List.length_map, address.length_octets]
    have entries : (matrix (address :: rest)).entries =
        octetEntries address.octets ++ (matrix rest).entries := rfl
    rw [List.length_cons, Grid.blocks, entries, List.take_left' row, List.drop_left' row, ih,
      List.map_cons]

theorem rowAddress?_entries (address : Address) :
    rowAddress? (octetEntries address.octets) = some address := by
  have octets : (octetEntries address.octets).map (fun entry => UInt8.ofNat entry.toNat) =
      address.octets := by
    simp [octetEntries, Function.comp_def]
  rw [rowAddress?, octets, Address.ofOctets?, dif_pos address.length_octets]

theorem addressesOfMatrix_matrix (addresses : List Address) :
    addressesOfMatrix (.grid (matrix addresses)) = .ok addresses := by
  have rows : (Grid.blocks 16 addresses.length (matrix addresses).entries).mapM rowAddress? =
      some addresses := by
    rw [blocks_entries, Address.mapM_eq_some_iff, List.forall₂_map_left_iff, List.forall₂_same]
    exact fun address _ => rowAddress?_entries address
  have shape : (matrix addresses).shape = [addresses.length, 16] := rfl
  simp only [addressesOfMatrix, octetGrid_matrix, bind, Except.bind, shape, rows]
  rfl

/-! ## Items -/

theorem sortItems_eq (given : Value) :
    sortItems given = (addressesOf given).map sortAddresses := by
  rw [sortItems]
  cases addressesOf given with
  | error fault => rfl
  | ok addresses => exact addressesOfMatrix_matrix (sortAddresses addresses)

theorem addressesOf_sequence (kind : SequenceKind) (items : List Value) :
    addressesOf (.sequence kind items) = items.mapM Address.ofValue := rfl

theorem sortItems_of_forall₂ (kind : SequenceKind) {items : List Value} {addresses : List Address}
    (each : List.Forall₂ (fun item address => Address.ofValue item = .ok address) items addresses) :
    sortItems (.sequence kind items) = .ok (Value.sortedAddresses addresses) := by
  rw [sortItems_eq, addressesOf_sequence, (mapM_eq_ok_iff items addresses).mpr each, Except.map,
    sortAddresses_eq]

theorem items_sorted_as_addresses :
    (∀ given, sortItems given = (addressesOf given).map sortAddresses) ∧
    (∀ kind items addresses,
      List.Forall₂ (fun item address => Address.ofValue item = .ok address) items addresses →
      ∃ sorted, sortItems (.sequence kind items) = .ok sorted ∧
        sorted.Perm addresses ∧ sorted.length = items.length ∧
        (sorted.Pairwise fun left right => left.compare right ≠ .gt) ∧
        sorted = Value.sortedAddresses addresses ∧
        (∀ kind', sortItems (.sequence kind' (sorted.map .address)) = .ok sorted) ∧
        ∀ kind' items', items'.Perm items → sortItems (.sequence kind' items') = .ok sorted) ∧
    (∀ kind, sortItems (.sequence kind []) = .ok []) ∧
    (∀ kind before item after fault,
      (∀ earlier ∈ before, ∃ address, Address.ofValue earlier = .ok address) →
      Address.ofValue item = .error fault →
      sortItems (.sequence kind (before ++ item :: after)) = .error fault) := by
  refine ⟨sortItems_eq, ?_, ?_, ?_⟩
  · intro kind items addresses each
    refine ⟨Value.sortedAddresses addresses, sortItems_of_forall₂ kind each,
      sortedAddresses_perm addresses, ?_, ?_, rfl, ?_, ?_⟩
    · rw [(sortedAddresses_perm addresses).length_eq, each.length_eq]
    · apply (sortedAddresses_isStableSort addresses).ordered.imp
      intro left right ordered greater
      rw [greater] at ordered
      cases ordered
    · intro kind'
      have again : List.Forall₂ (fun item address => Address.ofValue item = .ok address)
          ((Value.sortedAddresses addresses).map .address) (Value.sortedAddresses addresses) := by
        rw [List.forall₂_map_left_iff, List.forall₂_same]
        exact fun address _ => rfl
      rw [sortItems_of_forall₂ kind' again,
        sortedAddresses_eq_of_perm (sortedAddresses_perm addresses)]
    · intro kind' items' same
      rcases List.perm_comp_forall₂ same each with ⟨addresses', each', same'⟩
      rw [sortItems_of_forall₂ kind' each', sortedAddresses_eq_of_perm same']
  · intro kind
    rw [sortItems_of_forall₂ kind .nil, Value.sortedAddresses, List.mergeSort_nil]
  · intro kind before item after fault accepted refused
    rw [sortItems_eq, addressesOf_sequence, mapM_of_first_error accepted refused after, Except.map]

theorem items_sorted_as_addresses_mixed :
    sortItems (.sequence .tuple
        [.text "::2", .absent, .octets .buffer (Octets.zeros 15 ++ [1]), .address (.ofNat 2)]) =
      .ok [.unspecified, .loopback, .ofNat 2, .ofNat 2] ∧
    sortItems (.sequence .list [.text "::", .integer 5, .text "::g"]) =
      refuse (.integerAsAddress (.integer 5)) := by
  obtain ⟨_, sorts, _, reports⟩ := items_sorted_as_addresses
  constructor
  · obtain ⟨sorted, _, _, _, _, same, _, shuffled⟩ := sorts .list
      [.absent, .octets .buffer (Octets.zeros 15 ++ [1]), .text "::2", .address (.ofNat 2)]
      [.unspecified, .loopback, .ofNat 2, .ofNat 2]
      (.cons rfl (.cons rfl (.cons rfl (.cons rfl .nil))))
    have inOrder : Value.sortedAddresses [.unspecified, .loopback, .ofNat 2, .ofNat 2] =
        [.unspecified, .loopback, .ofNat 2, .ofNat 2] := List.mergeSort_of_pairwise (by decide)
    rw [← inOrder, ← same]
    exact shuffled .tuple _ ((List.Perm.swap _ _ _).trans (.cons _ (.swap _ _ _)))
  · exact reports .list [.text "::"] (.integer 5) [.text "::g"] _
      (List.forall_mem_singleton.mpr ⟨.unspecified, rfl⟩) rfl

end IPv6.Table
