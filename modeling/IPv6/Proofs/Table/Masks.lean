import IPv6.Proofs.Address.Digits
import IPv6.Proofs.Outcome
import IPv6.Proofs.Table.Addresses
/-!
The masks of a table. A row belongs to a class by its columns exactly when the address of the row belongs
to it by its octets, so each mask tells the class of every item at the place of the item.
-/

namespace IPv6.Table

/-! ## Columns of a row -/

theorem allZero_iff (octets : Octets) :
    allZero octets = true ↔ octets = Octets.zeros octets.length := by
  simp [allZero, Octets.zeros, List.eq_replicate_iff]

theorem anyNonzero_eq (octets : Octets) : anyNonzero octets = !allZero octets := by
  rw [anyNonzero, allZero, List.not_all_eq_any_not]
  rfl

section Columns

variable (address : Address)

theorem columns_succ (first count : Nat) (inside : first + count < 16) :
    columns first (count + 1) address =
      columns first count address ++ [column (first + count) address] := by
  have present : first + count < address.octets.length := by
    rw [address.length_octets]
    exact inside
  rw [column_eq_getElem address present, columns, columns, List.take_add_one, List.getElem?_drop,
    List.getElem?_eq_getElem present, Option.toList_some]

theorem length_columns {first count : Nat} (inside : first + count ≤ 16) :
    (columns first count address).length = count := by
  rw [columns, List.length_take, List.length_drop, address.length_octets]
  omega

theorem take_twelve : address.octets.take 12 = columns 0 12 address := rfl

theorem ipv4Octets_eq_columns :
    address.ipv4Octets = columns 12 3 address ++ [column 15 address] := by
  have whole : address.ipv4Octets = columns 12 4 address := by
    have four := address.length_ipv4Octets
    exact (List.take_of_length_le (Nat.le_of_eq four)).symm
  rw [whole]
  apply columns_succ
  decide

theorem octets_eq_columns :
    address.octets = columns 0 12 address ++ (columns 12 3 address ++ [column 15 address]) := by
  rw [← ipv4Octets_eq_columns, ← take_twelve, Address.ipv4Octets, List.take_append_drop]

theorem allZero_columns {first count : Nat} (inside : first + count ≤ 16) :
    allZero (columns first count address) = true ↔
      columns first count address = Octets.zeros count := by
  rw [allZero_iff, length_columns address inside]

/-- Columns are compared with zeros apart from those behind them. -/
theorem columns_append_eq_iff {first count : Nat} (inside : first + count ≤ 16)
    (rest rest' : Octets) :
    columns first count address ++ rest = Octets.zeros count ++ rest' ↔
      allZero (columns first count address) = true ∧ rest = rest' := by
  rw [allZero_columns address inside]
  constructor
  · intro same
    apply List.append_inj same
    rw [length_columns address inside, Octets.length_zeros]
  · rintro ⟨same, same'⟩
    rw [same, same']

/-! ## Classes by columns -/

theorem rowBelongs_loopback_iff :
    rowBelongs address .loopback = true ↔ address.isLoopback = true := by
  have zeros : Octets.zeros 15 ++ [1] = Octets.zeros 12 ++ (Octets.zeros 3 ++ [1]) := rfl
  rw [Address.isLoopback, beq_iff_eq, octets_eq_columns, zeros,
    columns_append_eq_iff address (by decide), columns_append_eq_iff address (by decide),
    List.singleton_inj]
  simp only [rowBelongs, Bool.and_eq_true, beq_iff_eq, and_assoc]

theorem rowBelongs_ipv4Mapped_iff :
    rowBelongs address .ipv4Mapped = true ↔ address.isIPv4Mapped = true := by
  have lead : columns 0 12 address =
      columns 0 10 address ++ [column 10 address, column 11 address] := by
    rw [columns_succ address 0 11 (by decide), columns_succ address 0 10 (by decide),
      List.append_assoc]
    rfl
  rw [Address.isIPv4Mapped, beq_iff_eq, take_twelve, lead, Address.mappedLead,
    columns_append_eq_iff address (by decide)]
  simp only [rowBelongs, Bool.and_eq_true, beq_iff_eq, and_assoc, List.cons.injEq, and_true]

/-- More than one in the last four octets: something in the first three of them, or in the last. -/
theorem rowBelongs_ipv4Compatible_iff :
    rowBelongs address .ipv4Compatible = true ↔ address.isIPv4Compatible = true := by
  have high : allZero (columns 0 12 address) = true ↔ columns 0 12 address = Octets.zeros 12 :=
    allZero_columns address (by decide)
  have middle : allZero (columns 12 3 address) = true ↔
      Octets.readBigEndian (columns 12 3 address) = 0 := by
    have three : (columns 12 3 address).length = (Octets.zeros 3).length :=
      length_columns address (by decide)
    rw [allZero_columns address (by decide), ← Octets.readBigEndian_inj three,
      Octets.readBigEndian_zeros]
  have low : Octets.readBigEndian address.ipv4Octets =
      256 * Octets.readBigEndian (columns 12 3 address) + (column 15 address).toNat := by
    rw [ipv4Octets_eq_columns, Octets.readBigEndian_append]
    rfl
  simp only [rowBelongs, Address.isIPv4Compatible, Bool.and_eq_true, Bool.or_eq_true, beq_iff_eq,
    decide_eq_true_eq, take_twelve, low, high, anyNonzero_eq, Bool.not_eq_true',
    ← Bool.not_eq_true, middle]
  -- what is left compares the last octet, where the three before it are zero
  apply and_congr_right
  intro zeros
  omega

theorem rowBelongs_eq (kind : Address.Class) : rowBelongs address kind = address.belongs kind := by
  cases kind with
  | unspecified =>
    rw [Bool.eq_iff_iff, rowBelongs, allZero_iff, address.length_octets, Address.belongs,
      Address.isUnspecified, beq_iff_eq]
  | loopback => exact Bool.eq_iff_iff.mpr (rowBelongs_loopback_iff address)
  | linkLocal =>
    rw [Address.belongs, Address.isLinkLocal, octet_eq_column, octet_eq_column]
    rfl
  | siteLocal =>
    rw [Address.belongs, Address.isSiteLocal, octet_eq_column, octet_eq_column]
    rfl
  | ipv4Mapped => exact Bool.eq_iff_iff.mpr (rowBelongs_ipv4Mapped_iff address)
  | ipv4Compatible => exact Bool.eq_iff_iff.mpr (rowBelongs_ipv4Compatible_iff address)
  | multicast =>
    rw [Address.belongs, Address.isMulticast, octet_eq_column]
    rfl

end Columns

/-! ## Masks of a table -/

def masksOf (addresses : List Address) : List (Address.Class × Grid) :=
  Address.Class.all.map fun kind => (kind, maskGrid kind addresses)

theorem classify_eq (given : Value) : classify given = (addressesOf given).map masksOf := by
  rw [classify]
  cases addressesOf given <;> rfl

theorem getElem?_maskGrid (kind : Address.Class) (addresses : List Address) (index : Nat) :
    (maskGrid kind addresses).entries[index]? =
      addresses[index]?.map fun address => if address.belongs kind then 1 else 0 := by
  simp only [maskGrid, mask, Grid.ofList, List.map_map, List.getElem?_map, Function.comp_def,
    rowBelongs_eq]

theorem length_maskGrid (kind : Address.Class) (addresses : List Address) :
    (maskGrid kind addresses).entries.length = addresses.length := by
  simp [maskGrid, mask, Grid.ofList]

theorem shape_maskGrid (kind : Address.Class) (addresses : List Address) :
    (maskGrid kind addresses).shape = [addresses.length] := by
  simp [maskGrid, mask, Grid.ofList]

/-- One mask behind the other, for the class of the first. -/
def joinMasks (first second : Address.Class × Grid) : Address.Class × Grid :=
  (first.1, Grid.ofList .boolean (first.2.entries ++ second.2.entries))

theorem masksOf_append (addresses addresses' : List Address) :
    masksOf (addresses ++ addresses') =
      List.zipWith joinMasks (masksOf addresses) (masksOf addresses') := by
  have joined (kind : Address.Class) : (kind, maskGrid kind (addresses ++ addresses')) =
      joinMasks (kind, maskGrid kind addresses) (kind, maskGrid kind addresses') := by
    rw [joinMasks, maskGrid, mask, List.map_append, List.map_append]
    rfl
  simp only [masksOf, List.zipWith_map, List.zipWith_self, joined]

/-- The first fault of a list joined of two is that of the first of them, if it has one. -/
theorem classify_append (kind : SequenceKind) (items items' : List Value) :
    classify (.sequence kind (items ++ items')) = do
      let masks ← classify (.sequence kind items)
      let masks' ← classify (.sequence kind items')
      return List.zipWith joinMasks masks masks' := by
  simp only [classify_eq, addressesOf_sequence, List.mapM_append]
  cases items.mapM Address.ofValue with
  | error fault => rfl
  | ok addresses =>
    cases items'.mapM Address.ofValue with
    | error fault => rfl
    | ok addresses' => exact congrArg Except.ok (masksOf_append addresses addresses')

/-- For each class the mask has one entry for each item, which tells whether the address of the item
belongs to the class. The masks of joined lists are joined masks. -/
theorem masks_tell_classes :
    (∀ given items, Value.items given = .ok items →
      (∀ item ∈ items, ∃ address, Address.ofValue item = .ok address) →
      ∃ masks, classify given = .ok masks ∧ masks.map Prod.fst = Address.Class.all ∧
        ∀ kind grid, (kind, grid) ∈ masks →
          grid.element = .boolean ∧ grid.shape = [items.length] ∧
            grid.entries.length = items.length ∧
            ∀ (index : Nat) (item : Value) (address : Address), items[index]? = some item →
              Address.ofValue item = .ok address →
              grid.entries[index]? = some (if address.belongs kind then 1 else 0)) ∧
    (∀ kind items items',
      classify (.sequence kind (items ++ items')) = do
        let masks ← classify (.sequence kind items)
        let masks' ← classify (.sequence kind items')
        return List.zipWith joinMasks masks masks') := by
  constructor
  · intro given items taken accepted
    rcases Address.exists_forall₂ accepted with ⟨addresses, each⟩
    have read : addressesOf given = .ok addresses := by
      rw [addressesOf, taken, ok_bind]
      exact (mapM_eq_ok_iff items addresses).mpr each
    refine ⟨masksOf addresses, ?_, ?_, ?_⟩
    · rw [classify_eq, read, Except.map]
    · rw [masksOf, List.map_map]
      exact List.map_id' _
    · intro kind grid member
      rcases List.mem_map.mp member with ⟨_, _, same⟩
      cases same
      rw [each.length_eq]
      refine ⟨rfl, shape_maskGrid kind addresses, length_maskGrid kind addresses, ?_⟩
      intro index item address place converted
      rw [getElem?_maskGrid, getElem?_of_forall₂ each place converted, Option.map_some]
  · exact classify_append

theorem masks_tell_classes_mixed :
    (∃ masks, classify (.sequence .list []) = .ok masks ∧
      ∀ kind grid, (kind, grid) ∈ masks → grid.shape = [0]) ∧
    (∃ masks, classify (.sequence .tuple [.absent, .text "::2"]) = .ok masks ∧
      ∀ grid, (.ipv4Compatible, grid) ∈ masks →
        grid.entries[0]? = some 0 ∧ grid.entries[1]? = some 1) := by
  rcases masks_tell_classes with ⟨each, _⟩
  constructor
  · rcases each (.sequence .list []) [] rfl nofun with ⟨masks, done, _, entries⟩
    exact ⟨masks, done, fun kind grid member => (entries kind grid member).2.1⟩
  · rcases each (.sequence .tuple [.absent, .text "::2"]) _ rfl
      (List.forall_mem_cons.mpr ⟨⟨.unspecified, rfl⟩, List.forall_mem_singleton.mpr ⟨.ofNat 2, rfl⟩⟩)
      with ⟨masks, done, _, entries⟩
    refine ⟨masks, done, fun grid member => ?_⟩
    rcases entries _ _ member with ⟨_, _, _, places⟩
    exact ⟨places 0 .absent .unspecified rfl rfl, places 1 (.text "::2") (.ofNat 2) rfl rfl⟩

end IPv6.Table
