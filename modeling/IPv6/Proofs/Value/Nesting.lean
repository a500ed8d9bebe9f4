import IPv6.Proofs.Table.Items
import IPv6.Proofs.Value.Stored
/-!
Numbers in sequences, and in sequences of sequences. Where the nesting is even the value has a shape, and it
is read as a grid exactly if every number in it can be stored in an octet.
-/

namespace IPv6.Value

open Table (exists_forall₂_iff forall₂_iff_of_forall₂ forall₂_flatMap_iff mapM_eq_ok_iff)

/-! ## Leaves -/

mutual

/-- The values in nested sequences that are no sequences themselves. -/
def leaves : Value → List Value
  | .sequence _ items => itemLeaves items
  | value => [value]

def itemLeaves : List Value → List Value
  | [] => []
  | item :: rest => leaves item ++ itemLeaves rest

end

theorem itemLeaves_eq (items : List Value) : itemLeaves items = items.flatMap leaves := by
  induction items with
  | nil => rfl
  | cons item rest ih => rw [itemLeaves, ih, List.flatMap_cons]

theorem leaves_sequence (kind : SequenceKind) (items : List Value) :
    leaves (.sequence kind items) = items.flatMap leaves := itemLeaves_eq items

theorem forall_leaves_sequence {kind : SequenceKind} {items : List Value} {good : Value → Prop} :
    (∀ leaf ∈ leaves (.sequence kind items), good leaf) ↔
      ∀ item ∈ items, ∀ leaf ∈ leaves item, good leaf := by
  rw [leaves_sequence, List.forall_mem_flatMap]

theorem leaves_of_isNumber {value : Value} (numeric : value.IsNumber) : leaves value = [value] := by
  rcases numeric with ⟨number, found⟩
  cases value <;> first | rfl | cases found

theorem leaves_of_not_sequence {value : Value} (single : ∀ kind items, value ≠ .sequence kind items) :
    leaves value = [value] := by
  cases value with
  | sequence kind items => exact absurd rfl (single kind items)
  | _ => rfl

theorem nesting_induction {motive : Value → Prop}
    (sequence : ∀ kind items, (∀ item ∈ items, motive item) → motive (.sequence kind items))
    (single : ∀ value, (∀ kind items, value ≠ .sequence kind items) → motive value)
    (value : Value) : motive value := by
  cases value with
  | sequence kind items =>
    exact sequence kind items fun item _ => nesting_induction sequence single item
  | _ => exact single _ nofun

/-- The numbers are stored one by one, however they are nested. -/
theorem entries_of_leaves {width : Nat} {value : Value}
    (numeric : ∀ leaf ∈ leaves value, leaf.IsNumber) :
    entries width value = (leaves value).mapM (stored width) := by
  induction value using nesting_induction with
  | single value single =>
    rw [leaves_of_not_sequence single] at numeric ⊢
    rw [entries_of_isNumber (List.forall_mem_singleton.mp numeric), List.mapM_cons, List.mapM_nil]
    cases stored width value <;> rfl
  | sequence kind items ih =>
    rw [forall_leaves_sequence] at numeric
    rw [leaves_sequence]
    show itemEntries width items = _
    induction items with
    | nil => rfl
    | cons item rest others =>
      rw [List.forall_mem_cons] at ih numeric
      rw [List.flatMap_cons, List.mapM_append, ← ih.1 numeric.1, ← others ih.2 numeric.2]
      rfl

/-! ## Shapes -/

/-- Numbers in a rectangular arrangement of sequences: a number by itself, or items of one shape. -/
inductive Nested : Value → List Nat → Prop
  | number {value : Value} (numeric : value.IsNumber) : Nested value []
  | empty (kind : SequenceKind) : Nested (.sequence kind []) [0]
  | sequence (kind : SequenceKind) {items : List Value} {shape : List Nat} (some : items ≠ [])
      (each : ∀ item ∈ items, Nested item shape) :
      Nested (.sequence kind items) (items.length :: shape)

section Nested

variable {value : Value} {shape : List Nat}

theorem Nested.shape?_eq (nested : Nested value shape) : shape? value = some shape := by
  induction nested with
  | number numeric => exact shape?_of_isNumber numeric
  | empty kind => rfl
  | sequence kind some each ih =>
    rw [shape?, (commonShape?_eq_some_iff some).mpr ih]
    rfl

theorem Nested.isNumber (nested : Nested value shape) : ∀ leaf ∈ leaves value, leaf.IsNumber := by
  induction nested with
  | number numeric =>
    rw [leaves_of_isNumber numeric]
    exact List.forall_mem_singleton.mpr numeric
  | empty kind => exact List.forall_mem_nil _
  | sequence kind some each ih => exact forall_leaves_sequence.mpr ih

theorem Nested.of_shape? (numeric : ∀ leaf ∈ leaves value, leaf.IsNumber)
    (even : shape? value = some shape) : Nested value shape := by
  induction value using nesting_induction generalizing shape with
  | single value single =>
    rw [leaves_of_not_sequence single, List.forall_mem_singleton] at numeric
    cases (shape?_of_isNumber numeric).symm.trans even
    exact .number numeric
  | sequence kind items ih =>
    rw [forall_leaves_sequence] at numeric
    by_cases none : items = []
    · subst none
      cases even
      exact .empty kind
    · rcases Option.map_eq_some_iff.mp even with ⟨inner, common, rfl⟩
      rw [commonShape?_eq_some_iff none] at common
      refine .sequence kind none fun item member => ?_
      exact ih item member (numeric item member) (common item member)

theorem Nested.length_leaves (nested : Nested value shape) :
    (leaves value).length = volume shape := by
  induction nested with
  | number numeric =>
    rw [leaves_of_isNumber numeric]
    rfl
  | empty kind => rfl
  | @sequence kind items shape some each ih =>
    rw [leaves_sequence, List.length_flatMap, List.map_congr_left ih, List.map_const',
      List.sum_replicate_nat]
    rfl

theorem Nested.shape_unique {shape' : List Nat} (nested : Nested value shape)
    (nested' : Nested value shape') : shape = shape' :=
  Option.some.inj (nested.shape?_eq.symm.trans nested'.shape?_eq)

theorem Nested.exists_items {count : Nat} (nested : Nested value (count :: shape)) :
    ∃ kind items, value = .sequence kind items ∧ items.length = count ∧
      ∀ item ∈ items, Nested item shape := by
  cases nested with
  | empty kind => exact ⟨kind, [], rfl, rfl, List.forall_mem_nil _⟩
  | sequence kind some each => exact ⟨kind, _, rfl, rfl, each⟩

/-! ## As grids -/

theorem lt_of_mem_entries {numbers : List Nat} (read : entries 1 value = .ok numbers) :
    ∀ number ∈ numbers, number < 256 := by
  induction value using nesting_induction generalizing numbers with
  | sequence kind items ih =>
    induction items generalizing numbers with
    | nil =>
      cases read
      exact List.forall_mem_nil _
    | cons item rest others =>
      rw [List.forall_mem_cons] at ih
      rcases bind_eq_ok_iff.mp read with ⟨front, first, steps⟩
      rcases bind_eq_ok_iff.mp steps with ⟨behind, second, joined⟩
      cases joined
      exact List.forall_mem_append.mpr ⟨ih.1 first, others ih.2 second⟩
  | single value single =>
    have octets (given : Octets) : ∀ number ∈ given.map UInt8.toNat, number < 256 :=
      List.forall_mem_map.mpr fun octet _ => octet.toNat_lt
    have alone (done : (stored 1 value).map ([·]) = .ok numbers) :
        ∀ number ∈ numbers, number < 256 := by
      rcases map_eq_ok_iff.mp done with ⟨number, taken, rfl⟩
      exact List.forall_mem_singleton.mpr (lt_of_stored taken)
    cases value with
    | sequence kind items => exact absurd rfl (single kind items)
    | octets kind given =>
      cases kind with
      | constant => exact alone read
      | _ =>
        cases read
        exact octets given
    | grid cells =>
      cases read
      exact List.forall_mem_map.mpr fun entry _ => wrap_lt 1 entry
    | records layout given => cases read
    | _ => exact alone read

theorem octets_of_octetGrid {cells : Grid} (read : octetGrid value = .ok cells) :
    ∀ entry ∈ cells.entries, 0 ≤ entry ∧ entry < 256 := by
  rcases octetGrid_eq_ok_iff.mp read with ⟨_, _, _, numbers, taken, same⟩
  rw [← same]
  refine List.forall_mem_map.mpr fun number member => ?_
  exact ⟨Int.natCast_nonneg number, Int.ofNat_lt.mpr (lt_of_mem_entries taken number member)⟩

theorem entries_eq_ok_iff (numeric : ∀ leaf ∈ leaves value, leaf.IsNumber) {width : Nat}
    {numbers : List Nat} :
    entries width value = .ok numbers ↔
      List.Forall₂ (StoredAs width) (leaves value) numbers := by
  rw [entries_of_leaves numeric, mapM_eq_ok_iff]
  constructor
  · intro each
    refine ((List.forall₂_and_left ..).mpr ⟨numeric, each⟩).imp ?_
    exact fun leaf number stored => (stored_eq_ok_iff stored.1).mp stored.2
  · intro each
    exact each.imp fun leaf number held => (stored_eq_ok_iff held.isNumber).mpr held

/-- A grid holds what each number leaves in an octet, in the shape of the nesting. -/
theorem octetGrid_of_leaves (numeric : ∀ leaf ∈ leaves value, leaf.IsNumber) {cells : Grid} :
    octetGrid value = .ok cells ↔
      cells.element = .word .uint8 ∧ Nested value cells.shape ∧ cells.shape.length ≤ depthLimit ∧
        ∃ numbers, List.Forall₂ (StoredAs 1) (leaves value) numbers ∧
          numbers.map Int.ofNat = cells.entries := by
  rw [octetGrid_eq_ok_iff]
  simp only [entries_eq_ok_iff numeric]
  constructor
  · rintro ⟨element, even, depth, stored⟩
    exact ⟨element, .of_shape? numeric even, depth, stored⟩
  · rintro ⟨element, nested, depth, stored⟩
    exact ⟨element, nested.shape?_eq, depth, stored⟩

theorem Nested.exists_octetGrid_iff (nested : Nested value shape) :
    (∃ cells, octetGrid value = .ok cells) ↔
      shape.length ≤ depthLimit ∧ ∀ leaf ∈ leaves value, ∃ number, StoredAs 1 leaf number := by
  simp only [octetGrid_of_leaves nested.isNumber]
  rw [← exists_forall₂_iff]
  constructor
  · rintro ⟨cells, _, nested', depth, numbers, each, _⟩
    rw [nested.shape_unique nested']
    exact ⟨depth, numbers, each⟩
  · rintro ⟨depth, numbers, each⟩
    have whole : (numbers.map Int.ofNat).length = volume shape := by
      rw [List.length_map, ← each.length_eq, nested.length_leaves]
    let cells : Grid := ⟨.word .uint8, shape, numbers.map Int.ofNat, whole⟩
    exact ⟨cells, rfl, nested, depth, numbers, each, rfl⟩

end Nested

/-! ## Items in turn -/

/-- A sequence each item of which belongs to a result, in the order of the results. -/
inductive InTurn {Result : Type} (relation : Value → Result → Prop) : Value → List Result → Prop
  | items (kind : SequenceKind) {items : List Value} {results : List Result}
      (each : List.Forall₂ relation items results) : InTurn relation (.sequence kind items) results

section InTurn

variable {Result : Type} {relation relation' : Value → Result → Prop} {value : Value}
  {results : List Result}

/-- Items of one shape make up a shape with one more length, and their numbers all the numbers. -/
theorem inTurn_nested_iff {stored : Value → Nat → Prop} {shape : List Nat} {numbers : Result → List Nat}
    (size : ∀ result ∈ results, (numbers result).length = volume shape)
    (some : results ≠ [] ∨ shape = []) :
    InTurn (fun item result => Nested item shape ∧
        List.Forall₂ stored (leaves item) (numbers result)) value results ↔
      Nested value (results.length :: shape) ∧
        List.Forall₂ stored (leaves value) (results.flatMap numbers) := by
  constructor
  · intro turn
    cases turn with
    | @items kind items _ each =>
      have every : ∀ item ∈ items, Nested item shape := by
        intro item member
        rcases exists_forall₂_iff.mp ⟨results, each⟩ item member with ⟨_, nested, _⟩
        exact nested
      constructor
      · rw [← each.length_eq]
        by_cases none : items = []
        · subst none
          cases each
          rw [some.resolve_left fun other => other rfl]
          exact .empty kind
        · exact .sequence kind none every
      · rw [leaves_sequence, forall₂_flatMap_iff (fun item member => (every item member).length_leaves)
          size each.length_eq]
        exact each.imp fun _ _ => And.right
  · rintro ⟨nested, each⟩
    rcases nested.exists_items with ⟨kind, items, rfl, count, every⟩
    rw [leaves_sequence, forall₂_flatMap_iff (fun item member => (every item member).length_leaves)
      size count] at each
    exact .items kind ((List.forall₂_and_left ..).mpr ⟨every, each⟩)

theorem inTurn_congr (same : ∀ item result, relation item result ↔ relation' item result) :
    InTurn relation value results ↔ InTurn relation' value results := by
  constructor
  · rintro ⟨kind, each⟩
    exact .items kind (each.imp fun item result => (same item result).mp)
  · rintro ⟨kind, each⟩
    exact .items kind (each.imp fun item result => (same item result).mpr)

theorem storedAs_iff_nested {width number : Nat} :
    StoredAs width value number ↔
      Nested value [] ∧ List.Forall₂ (StoredAs width) (leaves value) [number] := by
  constructor
  · intro held
    rw [leaves_of_isNumber held.isNumber]
    exact ⟨.number held.isNumber, .cons held .nil⟩
  · rintro ⟨nested, each⟩
    cases nested with
    | number numeric =>
      rw [leaves_of_isNumber numeric] at each
      exact (List.forall₂_cons.mp each).1

theorem inTurn_storedAs_iff {width : Nat} {numbers : List Nat} :
    InTurn (StoredAs width) value numbers ↔
      Nested value [numbers.length] ∧ List.Forall₂ (StoredAs width) (leaves value) numbers := by
  rw [inTurn_congr fun _ _ => storedAs_iff_nested,
    inTurn_nested_iff (fun _ _ => rfl) (.inr rfl), List.flatMap_singleton']

/-- A column of what the items leave in an octet. -/
theorem octetGrid_octetColumn_iff (numeric : ∀ leaf ∈ leaves value, leaf.IsNumber)
    {numbers : List Nat} :
    octetGrid value = .ok (octetColumn numbers) ↔ InTurn (StoredAs 1) value numbers := by
  rw [octetGrid_of_leaves numeric, inTurn_storedAs_iff, shape_octetColumn]
  constructor
  · rintro ⟨_, nested, _, numbers', each, same⟩
    have same : numbers' = numbers := (List.map_inj_right fun _ _ => Int.ofNat.inj).mp same
    exact ⟨nested, same ▸ each⟩
  · rintro ⟨nested, each⟩
    exact ⟨rfl, nested, Nat.le_of_ble_eq_true rfl, numbers, each, rfl⟩

theorem InTurn.iff_forall_leaves {good : Value → Prop}
    (each : ∀ item result, relation item result →
      (relation' item result ↔ ∀ leaf ∈ leaves item, good leaf))
    (held : InTurn relation value results) :
    InTurn relation' value results ↔ ∀ leaf ∈ leaves value, good leaf := by
  cases held with
  | items kind held =>
    rw [forall_leaves_sequence, ← forall₂_iff_of_forall₂ each held]
    constructor
    · intro turn
      cases turn with
      | items kind every => exact every
    · exact .items kind

theorem inTurn_equals_iff {width : Nat} {numbers : List Nat}
    (held : InTurn (StoredAs width) value numbers) :
    InTurn Equals value numbers ↔ ∀ leaf ∈ leaves value, leaf.IsKept width := by
  refine held.iff_forall_leaves fun item number stored => ?_
  rw [leaves_of_isNumber stored.isNumber, List.forall_mem_singleton]
  exact stored.equals_iff

end InTurn

end IPv6.Value
