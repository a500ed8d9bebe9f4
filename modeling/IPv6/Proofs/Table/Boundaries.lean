import IPv6.Proofs.Table.Records
import IPv6.Proofs.Value.Payload
/-!
Where one record ends and the next begins. Items are joined before they are cut, so only their sizes
together have to make whole records. Each record holds the octets of one item if and only if every item is
as long as a record; an endpoint always is.
-/

namespace IPv6.Table

open Value (Gives)

/-! ## Cutting -/

/-- Whole records lie in any octets that are as many as those of so many records. -/
theorem exists_records {octets : Octets} {count : Nat}
    (whole : octets.length = Record.size * count) :
    ∃ records : List Record, records.flatMap Record.octets = octets := by
  induction count generalizing octets with
  | zero =>
    rw [List.eq_nil_of_length_eq_zero whole]
    exact ⟨[], rfl⟩
  | succ count ih =>
    have first : (octets.take Record.size).length = 28 := by
      rw [List.length_take, whole, Nat.mul_succ]
      exact Nat.min_eq_left (Nat.le_add_left _ _)
    have others : (octets.drop Record.size).length = Record.size * count := by
      rw [List.length_drop, whole, Nat.mul_succ, Nat.add_sub_cancel]
    rcases ih others with ⟨records, joined⟩
    refine ⟨⟨octets.take Record.size, first⟩ :: records, ?_⟩
    rw [List.flatMap_cons, joined, List.take_append_drop]

theorem recordsOfOctets_eq_ok_iff {octets : Octets} {records : List Record} :
    recordsOfOctets octets = .ok records ↔ records.flatMap Record.octets = octets := by
  constructor
  · intro cut
    by_cases whole : octets.length % Record.size = 0
    · rcases exists_records (Nat.mul_div_cancel' (Nat.dvd_of_mod_eq_zero whole)).symm with
        ⟨records', rfl⟩
      rw [recordsOfOctets_flatMap] at cut
      rw [Except.ok.inj cut]
    · rw [recordsOfOctets, if_neg whole] at cut
      cases cut
  · intro joined
    rw [← joined, recordsOfOctets_flatMap]

theorem recordsOfOctets_of_not_dvd {octets : Octets} (other : ¬ Record.size ∣ octets.length) :
    recordsOfOctets octets = .error .wrongValue := by
  rw [recordsOfOctets, if_neg (mt Nat.dvd_of_mod_eq_zero other)]

theorem exists_recordsOfOctets_iff {octets : Octets} :
    (∃ records, recordsOfOctets octets = .ok records) ↔ Record.size ∣ octets.length := by
  constructor
  · intro accepted
    rcases accepted with ⟨records, cut⟩
    rw [← recordsOfOctets_eq_ok_iff.mp cut, length_flatMap_octets]
    exact Nat.dvd_mul_right _ _
  · intro whole
    rcases whole with ⟨count, size⟩
    rcases exists_records size with ⟨records, joined⟩
    exact ⟨records, recordsOfOctets_eq_ok_iff.mpr joined⟩

/-- Octets as long as a record are those of one. -/
theorem exists_map_octets {pieces : List Octets}
    (whole : ∀ piece ∈ pieces, piece.length = Record.size) :
    ∃ records : List Record, records.map Record.octets = pieces := by
  induction pieces with
  | nil => exact ⟨[], rfl⟩
  | cons piece rest ih =>
    rw [List.forall_mem_cons] at whole
    rcases ih whole.2 with ⟨records, rfl⟩
    exact ⟨⟨piece, whole.1⟩ :: records, rfl⟩

/-! ## Items -/

/-- There is one record for each item, and it holds the octets of the item. -/
def OnePerItem (items : List Value) (records : List Record) : Prop :=
  List.Forall₂ (fun item record => item.Gives record.octets) items records

/-- Whatever the items are packed into has one record for each of them. -/
def KeepsBoundaries (given : Value) : Prop :=
  ∀ items records, given.items = .ok items → pack given = .ok records → OnePerItem items records

section Items

variable {given : Value} {items : List Value} {pieces : List Octets} {records : List Record}

theorem exists_payloads (each : List.Forall₂ Gives items pieces) :
    ∃ payloads, items.mapM Value.payload = .ok payloads ∧ payloads.map Payload.octets = pieces := by
  induction each with
  | nil => exact ⟨[], rfl, rfl⟩
  | cons first others ih =>
    rcases first with ⟨payload, taken, rfl⟩
    rcases ih with ⟨payloads, rest, rfl⟩
    refine ⟨payload :: payloads, ?_, rfl⟩
    rw [mapM_cons_of_ok taken, rest, Except.map]

theorem totalSize_eq (payloads : List Payload) :
    payloads.foldr (fun payload total => payload.size + total) 0 =
      (payloads.flatMap Payload.octets).length := by
  induction payloads with
  | nil => rfl
  | cons payload rest ih =>
    rw [List.foldr_cons, ih, List.flatMap_cons, List.length_append, payload.length_octets]

/-- What is packed depends on the joined octets alone. -/
theorem pack_eq (stepped : given.items = .ok items) (each : List.Forall₂ Gives items pieces) :
    pack given = recordsOfOctets pieces.flatten := by
  rcases exists_payloads each with ⟨payloads, taken, rfl⟩
  rw [pack, payloadsOf, stepped, ok_bind, taken, ok_bind, totalSize_eq, ← List.flatMap_def]
  by_cases whole : (payloads.flatMap Payload.octets).length % Record.size = 0
  · exact if_pos whole
  · exact (if_neg whole).trans (if_neg whole).symm

theorem onePerItem_map_iff (each : List.Forall₂ Gives items pieces) :
    OnePerItem items records ↔ records.map Record.octets = pieces := by
  constructor
  · intro held
    have given : List.Forall₂ Gives items (records.map Record.octets) :=
      List.forall₂_map_right_iff.mpr held
    have unique : Relator.RightUnique Gives := fun _ _ _ => Gives.unique
    exact unique.forall₂ given each
  · intro same
    subst same
    exact List.forall₂_map_right_iff.mp each

theorem onePerItem_iff (each : List.Forall₂ Gives items pieces)
    (joined : records.flatMap Record.octets = pieces.flatten) :
    OnePerItem items records ↔ ∀ piece ∈ pieces, piece.length = Record.size := by
  rw [onePerItem_map_iff each]
  constructor
  · intro same
    rw [← same, List.forall_mem_map]
    exact fun record _ => record.length_octets
  · intro whole
    rcases exists_map_octets whole with ⟨records', rfl⟩
    -- The same octets are cut in one way only.
    have cut := recordsOfOctets_eq_ok_iff.mpr joined
    rw [← List.flatMap_def, recordsOfOctets_flatMap] at cut
    rw [Except.ok.inj cut]

end Items

theorem records_cut_from_joined_items {given : Value} {items : List Value} {pieces : List Octets}
    (stepped : given.items = .ok items) (each : List.Forall₂ Gives items pieces) :
    ((∃ records, pack given = .ok records) ↔ Record.size ∣ pieces.flatten.length) ∧
    (¬ Record.size ∣ pieces.flatten.length → pack given = .error .wrongValue) ∧
    (∀ records, pack given = .ok records → records.flatMap Record.octets = pieces.flatten ∧
      (OnePerItem items records ↔ ∀ piece ∈ pieces, piece.length = Record.size)) ∧
    ((∀ piece ∈ pieces, piece.length = Record.size) →
      ∃ records, pack given = .ok records ∧ OnePerItem items records) ∧
    (∀ endpoint octets, Gives (.endpoint endpoint) octets → octets.length = Record.size) := by
  rw [pack_eq stepped each]
  refine ⟨exists_recordsOfOctets_iff, recordsOfOctets_of_not_dvd, ?_, ?_, ?_⟩
  · intro records cut
    rw [recordsOfOctets_eq_ok_iff] at cut
    exact ⟨cut, onePerItem_iff each cut⟩
  · intro whole
    rcases exists_map_octets whole with ⟨records, rfl⟩
    refine ⟨records, ?_, (onePerItem_map_iff each).mpr rfl⟩
    rw [← List.flatMap_def, recordsOfOctets_flatMap]
  · intro endpoint octets gives
    rw [gives.unique (Value.gives_endpoint endpoint)]
    exact endpoint.record.length_octets

/-- Two items make two records of which neither holds the octets of an item. -/
theorem records_cut_from_joined_items_uneven :
    (∃ records, pack (.sequence .list [.octets .view (Octets.zeros 14), .integer 42]) = .ok records ∧
      records.flatMap Record.octets = Octets.zeros 56 ∧
      ¬ OnePerItem [.octets .view (Octets.zeros 14), .integer 42] records) ∧
    pack (.sequence .tuple [.endpoint (.make .bsd 80 .loopback), .octets .constant [7]]) =
      .error .wrongValue := by
  constructor
  · have each : List.Forall₂ Gives [.octets .view (Octets.zeros 14), .integer 42]
        [Octets.zeros 14, Octets.zeros 42] :=
      .cons (Value.gives_octets _ _) (.cons ⟨.zeros 42, rfl, rfl⟩ .nil)
    have stepped : Value.items (.sequence .list [.octets .view (Octets.zeros 14), .integer 42]) =
        .ok [.octets .view (Octets.zeros 14), .integer 42] := rfl
    obtain ⟨accepted, _, cut, _⟩ := records_cut_from_joined_items stepped each
    rcases accepted.mpr (by decide) with ⟨records, packed⟩
    refine ⟨records, packed, (cut records packed).1, fun held => ?_⟩
    have first := (cut records packed).2.mp held (Octets.zeros 14) List.mem_cons_self
    exact absurd first (by decide)
  · have each : List.Forall₂ Gives [.endpoint (.make .bsd 80 .loopback), .octets .constant [7]]
        [(Endpoint.make .bsd 80 .loopback).octets, [7]] :=
      .cons (Value.gives_endpoint _) (.cons (Value.gives_octets _ _) .nil)
    exact (records_cut_from_joined_items rfl each).2.1 (by decide)

/-- Two halves make one record of two items. -/
theorem halves_packed_as_one :
    pack (.sequence .list [.octets .constant (Octets.zeros 14), .octets .constant (Octets.zeros 14)]) =
      .ok [Record.zero] ∧
    ¬ KeepsBoundaries (.sequence .list
      [.octets .constant (Octets.zeros 14), .octets .constant (Octets.zeros 14)]) := by
  have packed : pack (.sequence .list
      [.octets .constant (Octets.zeros 14), .octets .constant (Octets.zeros 14)]) =
        .ok [Record.zero] := rfl
  refine ⟨packed, fun kept => ?_⟩
  have count := (kept _ _ rfl packed).length_eq
  cases count

end IPv6.Table
