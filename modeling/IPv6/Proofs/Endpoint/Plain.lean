import IPv6.Endpoint.Input
import IPv6.Proofs.Endpoint.Order
import IPv6.Proofs.SocketAddress.Codec
import IPv6.Value.Order
/-!
Plain endpoints: those whose octets besides port and address are the ones of a new endpoint. They are the
records of socket addresses without flow label and scope, and the only ones that a record is accepted as.
-/

namespace IPv6.Endpoint

open SocketAddress (encode)

variable {layout : Layout} {endpoint : Endpoint}

structure IsPlain (layout : Layout) (endpoint : Endpoint) : Prop where
  tag : endpoint.octets.take 2 = layout.tag
  flow : endpoint.record.flow = 0
  scope : endpoint.record.scope = 0

theorem ext_octets {left right : Endpoint} (same : left.octets = right.octets) : left = right := by
  cases left
  cases right
  exact congrArg Endpoint.mk (Record.ext_octets same)

/-- The socket address of an endpoint. -/
def socketAddress (endpoint : Endpoint) : SocketAddress := ⟨endpoint.address, endpoint.port, 0, 0⟩

theorem encode_isPlain (layout : Layout) (address : Address) (port : UInt16) :
    IsPlain layout ⟨encode layout ⟨address, port, 0, 0⟩⟩ := by
  have fields := SocketAddress.ofRecord_encode layout ⟨address, port, 0, 0⟩
  constructor
  · show (encode layout _).octets.take 2 = _
    rw [SocketAddress.octets_encode]
    exact List.take_left' layout.length_tag
  · exact congrArg SocketAddress.flow fields
  · exact congrArg SocketAddress.scope fields

theorem IsPlain.record_eq (plain : IsPlain layout endpoint) :
    endpoint.record = encode layout endpoint.socketAddress := by
  have fields : SocketAddress.ofRecord endpoint.record = endpoint.socketAddress := by
    rw [SocketAddress.ofRecord, plain.flow, plain.scope]
    rfl
  rw [← fields]
  exact (SocketAddress.encode_ofRecord (SocketAddress.read_length_of_tag plain.tag)
    (SocketAddress.read_family_of_tag plain.tag)).symm

/-! ## New endpoints -/

/-- A new endpoint is the record of its socket address: what is not written stays zero. -/
theorem make_eq (layout : Layout) (port : UInt16) (address : Address) :
    make layout port address = ⟨encode layout ⟨address, port, 0, 0⟩⟩ := by
  let given : SocketAddress := ⟨address, port, 0, 0⟩
  have written : (make layout port address).record =
      Record.putAll layout given.number [.length, .family, .port, .address] Record.zero := by
    show ((Record.blank layout).withPort port).withAddress address = _
    rw [SocketAddress.withAddress_eq_put layout]
    cases layout <;> rfl
  have record : (make layout port address).record = encode layout given := by
    apply Record.ext_reads layout
    intro field slot found
    rw [SocketAddress.read_encode given found, written, Record.read_putAll found]
    split
    case isTrue => exact Nat.mod_eq_of_lt (given.number_lt found)
    case isFalse skipped =>
      cases field <;> simp at skipped
      · rw [layout.slot?_flow] at found
        cases found
        rfl
      · rw [layout.slot?_scope] at found
        cases found
        rfl
  exact congrArg Endpoint.mk record

theorem make_isPlain (layout : Layout) (port : UInt16) (address : Address) :
    IsPlain layout (make layout port address) := by
  rw [make_eq]
  exact encode_isPlain layout address port

theorem address_make (layout : Layout) (port : UInt16) (address : Address) :
    (make layout port address).address = address := by
  rw [make_eq]
  exact congrArg SocketAddress.address (SocketAddress.ofRecord_encode layout ⟨address, port, 0, 0⟩)

theorem port_make (layout : Layout) (port : UInt16) (address : Address) :
    (make layout port address).port = port := by
  rw [make_eq]
  exact congrArg SocketAddress.port (SocketAddress.ofRecord_encode layout ⟨address, port, 0, 0⟩)

theorem same_make (layout : Layout) (endpoint : Endpoint) :
    (make layout endpoint.port endpoint.address).same endpoint = true :=
  same_eq_true_iff.mpr ⟨address_make layout _ endpoint.address, port_make layout endpoint.port _⟩

theorem IsPlain.make_eq_self (plain : IsPlain layout endpoint) :
    make layout endpoint.port endpoint.address = endpoint := by
  rw [make_eq]
  cases endpoint
  exact congrArg Endpoint.mk plain.record_eq.symm

/-! ## Records -/

theorem ofRecord_eq_ok_iff (layout : Layout) (record : Record) (endpoint : Endpoint) :
    ofRecord layout record = .ok endpoint ↔ IsPlain layout endpoint ∧ endpoint.record = record := by
  rw [ofRecord, bind_eq_ok_iff]
  constructor
  · intro steps
    rcases steps with ⟨given, decoded, accepted⟩
    rw [SocketAddress.decodeRecord_eq_ok_iff] at decoded
    rw [ofSocketAddress] at accepted
    split at accepted
    case isFalse => cases accepted
    case isTrue unlabelled =>
      cases accepted
      refine ⟨make_isPlain layout _ _, ?_⟩
      rcases given with ⟨address, port, flow, scope⟩
      rcases unlabelled with ⟨rfl, rfl⟩
      rw [make_eq, decoded]
  · intro fitting
    rcases fitting with ⟨plain, rfl⟩
    refine ⟨endpoint.socketAddress, ?_, ?_⟩
    · exact (SocketAddress.decodeRecord_eq_ok_iff _ _ _).mpr plain.record_eq
    · rw [ofSocketAddress, if_pos ⟨rfl, rfl⟩]
      exact congrArg Except.ok plain.make_eq_self

theorem ofRecord_record (plain : endpoint.IsPlain layout) :
    ofRecord layout endpoint.record = .ok endpoint :=
  (ofRecord_eq_ok_iff layout endpoint.record endpoint).mpr ⟨plain, rfl⟩

theorem ofNative_octets (layout : Layout) (kind : OctetsKind) (record : Record) :
    ofNative layout (.octets kind record.octets) = ofRecord layout record := by
  have made := (SocketAddress.recordOf_eq_ok_iff record.octets record).mpr rfl
  rw [ofNative, SocketAddress.decodeValue_octets, SocketAddress.decode, made]
  rfl

theorem refusal_of_ofRecord {record : Record} {fault : Fault}
    (refused : ofRecord layout record = .error fault) :
    ∃ refusal : Refusal, fault = .refused refusal ∧ refusal.kind = .invalidArgument := by
  rcases bind_eq_error_iff.mp refused with undecoded | ⟨given, _, labelled⟩
  · exact SocketAddress.refusal_of_decodeRecord undecoded
  · rw [ofSocketAddress] at labelled
    split at labelled <;> cases labelled
    exact ⟨_, rfl, rfl⟩

/-- What is not plain is refused as an invalid argument. -/
theorem ofRecord_of_not_isPlain (other : ¬ endpoint.IsPlain layout) :
    ∃ refusal : Refusal, ofRecord layout endpoint.record = refuse refusal ∧
      refusal.kind = .invalidArgument := by
  cases outcome : ofRecord layout endpoint.record with
  | ok accepted =>
    rw [ofRecord_eq_ok_iff] at outcome
    have itself : accepted = endpoint := ext_octets (congrArg Record.octets outcome.2)
    exact absurd (itself ▸ outcome.1) other
  | error fault =>
    rcases refusal_of_ofRecord outcome with ⟨refusal, rfl, invalid⟩
    exact ⟨refusal, rfl, invalid⟩

/-! ## Equality -/

/-- Plain endpoints differ in nothing but address and port. -/
theorem IsPlain.same_iff {left right : Endpoint} (plain : IsPlain layout left)
    (plain' : IsPlain layout right) : left.same right = true ↔ left.octets = right.octets := by
  rw [same_eq_true_iff]
  constructor
  · intro equal
    rw [octets, octets, plain.record_eq, plain'.record_eq, socketAddress, socketAddress, equal.1,
      equal.2]
  · intro equal
    have record : left.record = right.record := Record.ext_octets equal
    rw [address, address, port, port, record]
    exact ⟨rfl, rfl⟩

theorem isEq_compare (left right : Endpoint) : (left.compare right).isEq = left.same right := by
  rw [Bool.eq_iff_iff, ← compare_eq_iff]
  exact Ordering.isEq_iff_eq_eq

/-- Endpoints are equal as values exactly if address and port are. -/
theorem answer_eq (left right : Endpoint) :
    Value.answer .eq (.endpoint left) (.endpoint right) = .ok (.boolean (left.same right)) :=
  congrArg (fun equal => Except.ok (Value.boolean equal)) (isEq_compare left right)

theorem IsPlain.relates_eq {left right : Endpoint} (plain : left.IsPlain layout)
    (plain' : right.IsPlain layout) :
    Value.relates .eq (.endpoint left) (.endpoint right) =
      .ok (decide (left.octets = right.octets)) := by
  have equal : (left.compare right).isEq = decide (left.octets = right.octets) := by
    rw [isEq_compare, Bool.eq_iff_iff, decide_eq_true_iff]
    exact plain.same_iff plain'
  exact congrArg Except.ok equal

/-! ## Changes of port and address -/

theorem IsPlain.replace (plain : endpoint.IsPlain layout) {offset : Nat} {octets : Octets}
    (inside : (2 ≤ offset ∧ offset + octets.length ≤ 4) ∨
      (8 ≤ offset ∧ offset + octets.length ≤ 24)) :
    IsPlain layout ⟨endpoint.record.replace offset octets⟩ := by
  have fits : offset + octets.length ≤ 28 := by omega
  have kept (start size : Nat) (apart : offset + octets.length ≤ start ∨ start + size ≤ offset) :
      (endpoint.record.replace offset octets).segment start size =
        endpoint.record.segment start size := Record.segment_replace_apart _ fits apart
  constructor
  · calc
      (endpoint.record.replace offset octets).octets.take 2 = endpoint.octets.take 2 :=
        kept 0 2 (by omega)
      _ = layout.tag := plain.tag
  · rw [← plain.flow]
    exact congrArg (fun octets => UInt32.ofNat (ByteOrder.mostFirst.read octets))
      (kept 4 4 (by omega))
  · rw [← plain.scope]
    exact congrArg (fun octets => UInt32.ofNat (ByteOrder.leastFirst.read octets))
      (kept 24 4 (by omega))

theorem IsPlain.write_port (plain : endpoint.IsPlain layout) (number : Nat) :
    IsPlain layout ⟨endpoint.record.write ⟨2, 2, .mostFirst⟩ number⟩ := by
  apply plain.replace
  rw [ByteOrder.length_write]
  exact .inl ⟨Nat.le_refl 2, Nat.le_refl 4⟩

theorem IsPlain.replace_address (plain : endpoint.IsPlain layout) {octets : Octets}
    (sixteen : octets.length = 16) : IsPlain layout ⟨endpoint.record.replace 8 octets⟩ := by
  apply plain.replace
  omega

/-! ## Fields stored by name -/

theorem length_spread {count : Nat} {entries : List Nat} {octets : Octets}
    (done : spread count entries = .ok octets) : octets.length = count := by
  simp only [spread] at done
  split at done
  · cases done
    exact List.length_replicate
  · split at done
    case isTrue equal =>
      cases done
      exact equal
    case isFalse => cases done

theorem length_fieldOctets {count : Nat} {given : Value} {octets : Octets}
    (done : fieldOctets count given = .ok octets) : octets.length = count := by
  unfold fieldOctets at done
  cases shape : given.shape? with
  | none =>
    rw [shape] at done
    cases done
  | some lengths =>
    rw [shape] at done
    dsimp only at done
    generalize List.length _ = rank at done
    split at done
    · cases done
    · rcases bind_eq_ok_iff.mp done with ⟨entries, _, done⟩
      exact length_spread done

/-- The names of the fields that may change. -/
def changeableFields : List String := ["port", "addr"]

theorem IsPlain.storeNamed (plain : endpoint.IsPlain layout) {name : String} {given : Value}
    {changed : Record} (changeable : name ∈ changeableFields)
    (done : IPv6.storeNamed layout endpoint.record name given = .ok changed) :
    IsPlain layout ⟨changed⟩ := by
  rcases List.mem_pair.mp changeable with rfl | rfl
  · have found : layout.find? "port" = some (.port, ⟨2, 2, .mostFirst⟩) := by
      cases layout <;> rfl
    rw [IPv6.storeNamed, found] at done
    rcases bind_eq_ok_iff.mp done with ⟨number, _, stored⟩
    cases stored
    exact plain.write_port number
  · have found : layout.find? "addr" = some (.address, ⟨8, 16, .mostFirst⟩) := by
      cases layout <;> rfl
    rw [IPv6.storeNamed, found] at done
    rcases bind_eq_ok_iff.mp done with ⟨octets, taken, stored⟩
    cases stored
    exact plain.replace_address (length_fieldOctets taken)

end IPv6.Endpoint
