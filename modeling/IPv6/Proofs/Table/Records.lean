import IPv6.Proofs.Endpoint.Order
import IPv6.Proofs.Endpoint.Plain
import IPv6.Proofs.Table.Addresses
import IPv6.Table.Records
/-!
Packed records. Endpoints are packed into their records and unpacked again; records that are not those of
plain endpoints are refused, the first of them by its own refusal. Sorted on the way by address and port,
plain endpoints come back in their own order, and otherwise the first one in that order that is not plain
is refused.
-/

namespace IPv6.Table

/-! ## Packing -/

theorem length_flatMap_octets (records : List Record) :
    (records.flatMap Record.octets).length = Record.size * records.length := by
  induction records with
  | nil => rfl
  | cons record rest ih =>
    rw [List.flatMap_cons, List.length_append, ih, record.length_octets, List.length_cons, Record.size]
    omega

theorem cutRecords_flatMap (records : List Record) :
    cutRecords records.length (records.flatMap Record.octets) = records := by
  induction records with
  | nil => rfl
  | cons record rest ih =>
    have first : (record.octets ++ rest.flatMap Record.octets).take Record.size = record.octets :=
      List.take_left' record.length_octets
    have others : (record.octets ++ rest.flatMap Record.octets).drop Record.size =
        rest.flatMap Record.octets := List.drop_left' record.length_octets
    rw [List.length_cons, List.flatMap_cons, cutRecords, first, others, Record.ofOctets?,
      dif_pos record.length_octets, ih]

theorem recordsOfOctets_flatMap (records : List Record) :
    recordsOfOctets (records.flatMap Record.octets) = .ok records := by
  have count : (records.flatMap Record.octets).length / Record.size = records.length := by
    rw [length_flatMap_octets, Nat.mul_div_cancel_left _ (by decide)]
  have whole : (records.flatMap Record.octets).length % Record.size = 0 := by
    rw [length_flatMap_octets, Nat.mul_mod_right]
  rw [recordsOfOctets, if_pos whole, count, cutRecords_flatMap]

def endpointItems (kind : SequenceKind) (endpoints : List Endpoint) : Value :=
  .sequence kind (endpoints.map .endpoint)

theorem payloadsOf_endpointItems (kind : SequenceKind) (endpoints : List Endpoint) :
    payloadsOf (endpointItems kind endpoints) =
      .ok (endpoints.map fun endpoint => .literal endpoint.octets) := by
  show (endpoints.map Value.endpoint).mapM Value.payload = _
  rw [mapM_eq_ok_iff, List.forall₂_map_left_iff, List.forall₂_map_right_iff, List.forall₂_same]
  exact fun endpoint _ => rfl

theorem pack_endpointItems (kind : SequenceKind) (endpoints : List Endpoint) :
    pack (endpointItems kind endpoints) = .ok (endpoints.map Endpoint.record) := by
  have size : ((endpoints.map fun endpoint => Payload.literal endpoint.octets).foldr
      (fun payload total => payload.size + total) 0) % Record.size = 0 := by
    induction endpoints with
    | nil => rfl
    | cons endpoint rest ih =>
      have first : (Payload.literal endpoint.octets).size = Record.size :=
        endpoint.record.length_octets
      rw [List.map_cons, List.foldr_cons, first, Nat.add_mod_left, ih]
  have octets : (endpoints.map fun endpoint => Payload.literal endpoint.octets).flatMap
      Payload.octets = (endpoints.map Endpoint.record).flatMap Record.octets := by
    rw [List.flatMap_map, List.flatMap_map]
    rfl
  rw [pack, payloadsOf_endpointItems]
  show (if _ then recordsOfOctets _ else _) = _
  rw [if_pos size, octets, recordsOfOctets_flatMap]

/-! ## Unpacking -/

theorem unpack_records (layout : Layout) (records : List Record) :
    unpack layout (.records layout records) = records.mapM (Endpoint.ofRecord layout) := rfl

theorem unpack_of_isPlain {layout : Layout} {records : List Record}
    (plain : ∀ record ∈ records, Endpoint.IsPlain layout ⟨record⟩) :
    unpack layout (.records layout records) = .ok (records.map Endpoint.mk) := by
  rw [unpack_records, mapM_eq_ok_iff, List.forall₂_map_right_iff, List.forall₂_same]
  exact fun record member => Endpoint.ofRecord_record (plain record member)

theorem unpack_of_first {layout : Layout} {before : List Record} {record : Record}
    (plain : ∀ earlier ∈ before, Endpoint.IsPlain layout ⟨earlier⟩)
    (other : ¬ Endpoint.IsPlain layout ⟨record⟩) (after : List Record) :
    ∃ refusal, unpack layout (.records layout (before ++ record :: after)) = refuse refusal ∧
      Endpoint.ofNative layout (.octets .constant record.octets) = refuse refusal ∧
      refusal.kind = .invalidArgument := by
  rcases Endpoint.ofRecord_of_not_isPlain other with ⟨refusal, outcome, invalid⟩
  refine ⟨refusal, ?_, (Endpoint.ofNative_octets layout .constant record).trans outcome, invalid⟩
  rw [unpack_records]
  apply mapM_of_first_error _ outcome
  exact fun earlier member => ⟨_, Endpoint.ofRecord_record (plain earlier member)⟩

theorem unpack_refused_iff (layout : Layout) (records : List Record) :
    (∃ refusal, unpack layout (.records layout records) = refuse refusal ∧
      refusal.kind = .invalidArgument) ↔ ∃ record ∈ records, ¬ Endpoint.IsPlain layout ⟨record⟩ := by
  rcases forall_or_first (fun record => Endpoint.IsPlain layout ⟨record⟩) records with
    plain | ⟨before, record, after, rfl, plain, other⟩
  · constructor
    · rintro ⟨refusal, refused, _⟩
      rw [unpack_of_isPlain plain] at refused
      cases refused
    · rintro ⟨record, member, other⟩
      exact absurd (plain record member) other
  · constructor
    · intro _
      exact ⟨record, List.mem_append_right before List.mem_cons_self, other⟩
    · intro _
      rcases unpack_of_first plain other after with ⟨refusal, refused, _, invalid⟩
      exact ⟨refusal, refused, invalid⟩

theorem map_octets_mk (records : List Record) :
    (records.map Endpoint.mk).map Endpoint.octets = records.map Record.octets := by
  rw [List.map_map]
  rfl

theorem pack_map_mk (kind : SequenceKind) (records : List Record) :
    pack (endpointItems kind (records.map Endpoint.mk)) = .ok records := by
  rw [pack_endpointItems, List.map_map]
  exact congrArg Except.ok (List.map_id records)

theorem records_packed_and_unpacked (layout : Layout) :
    (∀ kind endpoints, ∃ records, pack (endpointItems kind endpoints) = .ok records ∧
      records.map Record.octets = endpoints.map Endpoint.octets) ∧
    (∀ records, (∃ refusal, unpack layout (.records layout records) = refuse refusal ∧
      refusal.kind = .invalidArgument) ↔ ∃ record ∈ records, ¬ Endpoint.IsPlain layout ⟨record⟩) ∧
    (∀ before record after, (∀ earlier ∈ before, Endpoint.IsPlain layout ⟨earlier⟩) →
      ¬ Endpoint.IsPlain layout ⟨record⟩ →
      ∃ refusal, unpack layout (.records layout (before ++ record :: after)) = refuse refusal ∧
        Endpoint.ofNative layout (.octets .constant record.octets) = refuse refusal ∧
        refusal.kind = .invalidArgument) ∧
    (∀ records, (∀ record ∈ records, Endpoint.IsPlain layout ⟨record⟩) →
      ∃ endpoints, unpack layout (.records layout records) = .ok endpoints ∧
        endpoints.map Endpoint.octets = records.map Record.octets ∧
        ∀ kind, pack (endpointItems kind endpoints) = .ok records) ∧
    (∀ kind endpoints, (∀ endpoint ∈ endpoints, endpoint.IsPlain layout) →
      ∃ records, pack (endpointItems kind endpoints) = .ok records ∧
        unpack layout (.records layout records) = .ok endpoints) ∧
    (∀ kind, pack (endpointItems kind []) = .ok [] ∧
      unpack layout (.records layout []) = .ok []) := by
  refine ⟨?_, ?_, ?_, ?_, ?_, ?_⟩
  · intro kind endpoints
    refine ⟨_, pack_endpointItems kind endpoints, ?_⟩
    rw [List.map_map]
    rfl
  · exact unpack_refused_iff layout
  · intro before record after plain other
    exact unpack_of_first plain other after
  · intro records plain
    exact ⟨_, unpack_of_isPlain plain, map_octets_mk records, fun kind => pack_map_mk kind records⟩
  · intro kind endpoints plain
    refine ⟨_, pack_endpointItems kind endpoints, ?_⟩
    rw [unpack_of_isPlain (List.forall_mem_map.mpr plain), List.map_map]
    exact congrArg Except.ok (List.map_id endpoints)
  · intro kind
    exact ⟨pack_endpointItems kind [], rfl⟩

/-- Two endpoints there and back, and a record with a scope behind one with another family. -/
theorem records_packed_and_unpacked_scoped :
    (∃ records, pack (endpointItems .tuple
        [.make .bsd 443 .loopback, .make .bsd 0 .unspecified]) = .ok records ∧
      unpack .bsd (.records .bsd records) =
        .ok [.make .bsd 443 .loopback, .make .bsd 0 .unspecified]) ∧
    unpack .systemV (.records .systemV
        [.blank .systemV, .blank .bsd, (Record.blank .systemV).withScope 3]) =
      refuse (.recordFamily 2588) := by
  constructor
  · apply (records_packed_and_unpacked .bsd).2.2.2.2.1
    simp [Endpoint.make_isPlain]
  · have plain : Endpoint.IsPlain .systemV ⟨.blank .systemV⟩ := ⟨by decide, by decide, by decide⟩
    have other : ¬ Endpoint.IsPlain .systemV ⟨.blank .bsd⟩ := fun plain =>
      absurd plain.tag (by decide)
    rcases (records_packed_and_unpacked .systemV).2.2.1 [.blank .systemV] (.blank .bsd)
      [(Record.blank .systemV).withScope 3] (List.forall_mem_singleton.mpr plain) other with
      ⟨refusal, refused, native, _⟩
    have reason : Endpoint.ofNative .systemV (.octets .constant (Record.blank .bsd).octets) =
        refuse (.recordFamily 2588) := rfl
    have same : refusal = .recordFamily 2588 := by simpa [refuse] using native.symm.trans reason
    rw [← same]
    exact refused

/-! ## Order -/

theorem compareByKeys_recordKeys (left right : Record) :
    compareByKeys recordKeys left right = Endpoint.compare ⟨left⟩ ⟨right⟩ := by
  have port : compareByKeys [fun record : Record => record.port.toNat] left right =
      compare left.port right.port := by
    rw [← compare_toNat_port]
    exact Ordering.then_eq
  rw [recordKeys, compareByKeys_append, compareByKeys_map Record.address, compareByKeys_octetKeys,
    port]
  rfl

theorem sortRecords_map (endpoints : List Endpoint) :
    sortRecords (endpoints.map Endpoint.record) =
      (Value.sortedEndpoints endpoints).map Endpoint.record := by
  rw [sortRecords, sortByKeys_eq_sortBy, sortBy, Value.sortedEndpoints]
  symm
  apply List.map_mergeSort
  intro left _ right _
  rw [compareByKeys_recordKeys]

theorem sortEndpoints_endpointItems (layout : Layout) (kind : SequenceKind)
    (endpoints : List Endpoint) :
    sortEndpoints layout (endpointItems kind endpoints) =
      ((Value.sortedEndpoints endpoints).map Endpoint.record).mapM (Endpoint.ofRecord layout) := by
  rw [sortEndpoints, pack_endpointItems, ← sortRecords_map]
  rfl

theorem sortedEndpoints_isStableSort (endpoints : List Endpoint) :
    IsStableSort Endpoint.compare endpoints (Value.sortedEndpoints endpoints) :=
  sortBy_isStableSort endpoints

theorem sortedEndpoints_perm (endpoints : List Endpoint) :
    (Value.sortedEndpoints endpoints).Perm endpoints := sortBy_perm Endpoint.compare endpoints

/-- Endpoints among other values are sorted as endpoints are. -/
theorem sortedOn_endpoints (endpoints : List Endpoint) :
    Value.sortedOn id (endpoints.map .endpoint) =
      .ok ((Value.sortedEndpoints endpoints).map .endpoint) := by
  have order (left right : Endpoint) :
      (left.compare right).isLE = Value.mayPrecede (.endpoint left) (.endpoint right) := by
    have swap : right.compare left = (left.compare right).swap := Std.OrientedCmp.eq_swap
    have comparison : Value.comparison (.endpoint right) (.endpoint left) =
        .ordered (right.compare left) := rfl
    rw [Value.mayPrecede, comparison, swap]
    cases left.compare right <;> rfl
  cases endpoints with
  | nil => simp [Value.sortedOn, Value.sortedEndpoints]
  | cons first rest =>
    have comparable : (rest.map Value.endpoint).all
        (fun item => Value.hasOrder (id (.endpoint first)) (id item)) = true := by
      rw [List.all_map, List.all_eq_true]
      exact fun other _ => rfl
    rw [List.map_cons, Value.sortedOn, if_pos comparable, Value.sortedEndpoints, ← List.map_cons]
    congr 1
    symm
    apply List.map_mergeSort
    exact fun left _ right _ => order left right

theorem endpoints_sorted_or_first_refused (layout : Layout) (kind : SequenceKind)
    (endpoints : List Endpoint) :
    ((∀ endpoint ∈ endpoints, endpoint.IsPlain layout) →
      ∃ sorted, sortEndpoints layout (endpointItems kind endpoints) = .ok sorted ∧
        sorted.length = endpoints.length ∧ sorted.Perm endpoints ∧
        (sorted.Pairwise fun left right => left.compare right ≠ .gt) ∧
        Value.sortedOn id (endpoints.map .endpoint) = .ok (sorted.map .endpoint)) ∧
    (¬ (∀ endpoint ∈ endpoints, endpoint.IsPlain layout) →
      ∃ before refused after refusal,
        IsStableSort Endpoint.compare endpoints (before ++ refused :: after) ∧
        (∀ earlier ∈ before, earlier.IsPlain layout) ∧ ¬ refused.IsPlain layout ∧
        Endpoint.ofNative layout (.octets .constant refused.octets) = refuse refusal ∧
        refusal.kind = .invalidArgument ∧
        sortEndpoints layout (endpointItems kind endpoints) = refuse refusal) := by
  have sort := sortedEndpoints_isStableSort endpoints
  have perm := sortedEndpoints_perm endpoints
  constructor
  · intro plain
    refine ⟨Value.sortedEndpoints endpoints, ?_, perm.length_eq, perm, ?_, sortedOn_endpoints _⟩
    · rw [sortEndpoints_endpointItems, mapM_eq_ok_iff, List.forall₂_map_left_iff, List.forall₂_same]
      intro endpoint member
      exact Endpoint.ofRecord_record (plain endpoint (perm.mem_iff.mp member))
    · apply sort.ordered.imp
      intro left right ordered greater
      rw [greater] at ordered
      cases ordered
  · intro dirty
    rcases forall_or_first (fun endpoint => endpoint.IsPlain layout)
      (Value.sortedEndpoints endpoints) with every | ⟨before, refused, after, same, good, bad⟩
    · exact absurd (fun endpoint member => every endpoint (perm.mem_iff.mpr member)) dirty
    · rcases Endpoint.ofRecord_of_not_isPlain bad with ⟨refusal, outcome, invalid⟩
      refine ⟨before, refused, after, refusal, same ▸ sort, good, bad, ?_, invalid, ?_⟩
      · exact (Endpoint.ofNative_octets layout .constant refused.record).trans outcome
      · rw [sortEndpoints_endpointItems, same, List.map_append, List.map_cons]
        apply mapM_of_first_error _ outcome
        rw [List.forall_mem_map]
        exact fun earlier place => ⟨earlier, Endpoint.ofRecord_record (good earlier place)⟩

/-- An endpoint whose flow label was overwritten is refused wherever it stands. -/
theorem endpoints_sorted_or_first_refused_labelled :
    (∃ sorted, sortEndpoints .bsd (endpointItems .list
        [.make .bsd 443 .loopback, .make .bsd 80 .loopback]) = .ok sorted ∧
      sorted.Perm [.make .bsd 443 .loopback, .make .bsd 80 .loopback]) ∧
    sortEndpoints .systemV (endpointItems .list
        [.make .systemV 443 .loopback, ⟨(Record.blank .systemV).withFlow 7⟩]) =
      refuse (.labelled 7 0) := by
  constructor
  · obtain ⟨sorted, done, _, perm, _⟩ := (endpoints_sorted_or_first_refused .bsd .list
      [.make .bsd 443 .loopback, .make .bsd 80 .loopback]).1
      (by simp [Endpoint.make_isPlain])
    exact ⟨sorted, done, perm⟩
  · have label : ¬ Endpoint.IsPlain .systemV ⟨(Record.blank .systemV).withFlow 7⟩ := by
      intro plain
      exact absurd plain.flow (by decide)
    obtain ⟨before, refused, after, refusal, sort, _, bad, native, _, outcome⟩ :=
      (endpoints_sorted_or_first_refused .systemV .list
        [.make .systemV 443 .loopback, ⟨(Record.blank .systemV).withFlow 7⟩]).2 (by simp [label])
    have member := (mem_iff_of_equalTo_eq sort.stable refused).mp (by simp)
    have found : refused = ⟨(Record.blank .systemV).withFlow 7⟩ := by
      simp only [List.mem_cons, List.not_mem_nil, or_false] at member
      rcases member with rfl | same
      · exact absurd (Endpoint.make_isPlain _ _ _) bad
      · exact same
    have reason : Endpoint.ofNative .systemV (.octets .constant refused.octets) =
        refuse (.labelled 7 0) := by
      rw [found]
      rfl
    have same : refusal = .labelled 7 0 := by simpa [refuse] using native.symm.trans reason
    rw [outcome, same]

end IPv6.Table
