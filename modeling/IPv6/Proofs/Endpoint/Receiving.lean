import IPv6.Proofs.Endpoint.Making
/-!
Endpoints from the octets of a record. Octets are accepted if and only if they encode an address and a port
without flow label and scope, and the endpoint made of them has these octets again; all others are refused
as an invalid argument.
-/

namespace IPv6.Endpoint

open SocketAddress (encode encodeGiven)

variable {layout : Layout} {kind : OctetsKind} {octets : Octets} {endpoint : Endpoint}

theorem ofNative_eq_ok_iff :
    ofNative layout (.octets kind octets) = .ok endpoint ↔
      endpoint.IsPlain layout ∧ endpoint.octets = octets := by
  constructor
  · intro accepted
    rcases bind_eq_ok_iff.mp accepted with ⟨given, decoded, _⟩
    rw [SocketAddress.decodeValue_octets, SocketAddress.decode_eq_ok_iff] at decoded
    rw [decoded, ofNative_octets, ofRecord_eq_ok_iff] at accepted
    rw [decoded]
    exact ⟨accepted.1, congrArg Record.octets accepted.2⟩
  · intro fitting
    rcases fitting with ⟨plain, rfl⟩
    exact (ofNative_octets layout kind endpoint.record).trans (ofRecord_record plain)

section Encoded

variable {address : Address} {port : UInt16} {record : Record}
  (written : encodeGiven layout .constant ⟨address, port, 0, 0⟩ = .ok record)

include written

theorem make_of_encoded : make layout port address = ⟨record⟩ := by
  rw [SocketAddress.encodeGiven_eq] at written
  cases written
  exact make_eq layout port address

theorem ofNative_of_encoded (kind : OctetsKind) :
    ofNative layout (.octets kind record.octets) = .ok (make layout port address) := by
  rw [ofNative_eq_ok_iff]
  exact ⟨make_isPlain layout port address, congrArg Endpoint.octets (make_of_encoded written)⟩

end Encoded

/-- Making an endpoint of a port and an address never fails. -/
theorem ofValues_address (layout : Layout) (port : UInt16) (address : Address) :
    ofValues layout (.integer port.toNat) (.address address) = .ok (make layout port address) :=
  ofValues_of_ofValue layout port rfl

theorem ofNative_of_decode_error {fault : Fault}
    (undecoded : decodeValue layout (.octets kind octets) = .error fault) :
    ofNative layout (.octets kind octets) = .error fault := by
  rw [ofNative, undecoded]
  rfl

theorem ofNative_of_labelled {given : SocketAddress}
    (decoded : decodeValue layout (.octets kind octets) = .ok given)
    (labelled : given.flow ≠ 0 ∨ given.scope ≠ 0) :
    ofNative layout (.octets kind octets) = refuse (.labelled given.flow given.scope) := by
  have other : ¬ (given.flow = 0 ∧ given.scope = 0) := not_and_or.mpr labelled
  rw [ofNative, decoded, ok_bind, ofSocketAddress, if_neg other]

/-- What becomes of octets that are handed over as a record. -/
structure ReadsRecord (layout : Layout) (kind : OctetsKind) (octets : Octets) : Prop where
  accepted : (∃ endpoint, ofNative layout (.octets kind octets) = .ok endpoint) ↔
    ∃ address port record, encodeGiven layout .constant ⟨address, port, 0, 0⟩ = .ok record ∧
      record.octets = octets
  /-- The endpoint is the one that is made of the port and the address. -/
  restored : ∀ address port record,
    encodeGiven layout .constant ⟨address, port, 0, 0⟩ = .ok record → record.octets = octets →
    ∃ endpoint, ofNative layout (.octets kind octets) = .ok endpoint ∧
      endpoint.address = address ∧ endpoint.port = port ∧ endpoint.octets = octets ∧
      ofValues layout (.integer port.toNat) (.address address) = .ok endpoint
  undecoded : ∀ fault, decodeValue layout (.octets kind octets) = .error fault →
    ofNative layout (.octets kind octets) = .error fault ∧
      ∃ refusal, fault = .refused refusal ∧ refusal.kind = .invalidArgument
  labelled : ∀ given, decodeValue layout (.octets kind octets) = .ok given →
    given.flow ≠ 0 ∨ given.scope ≠ 0 →
    ofNative layout (.octets kind octets) = refuse (.labelled given.flow given.scope) ∧
      (Refusal.labelled given.flow given.scope).kind = .invalidArgument ∧
      (Refusal.labelled given.flow given.scope).code = 22
  /-- There is nothing else that a record is refused for. -/
  unlabelled : ∀ given, decodeValue layout (.octets kind octets) = .ok given →
    given.flow = 0 → given.scope = 0 →
    ∃ endpoint, ofNative layout (.octets kind octets) = .ok endpoint

theorem records_read_or_refused (layout : Layout) (kind : OctetsKind) (octets : Octets) :
    ReadsRecord layout kind octets where
  accepted := by
    constructor
    · rintro ⟨endpoint, done⟩
      rw [ofNative_eq_ok_iff] at done
      refine ⟨endpoint.address, endpoint.port, endpoint.record, ?_, done.2⟩
      rw [SocketAddress.encodeGiven_eq, done.1.record_eq]
      rfl
    · rintro ⟨address, port, record, written, rfl⟩
      exact ⟨_, ofNative_of_encoded written kind⟩
  restored := by
    rintro address port record written rfl
    exact ⟨make layout port address, ofNative_of_encoded written kind,
      address_make layout port address, port_make layout port address,
      congrArg Endpoint.octets (make_of_encoded written), ofValues_address layout port address⟩
  undecoded := by
    intro fault failed
    refine ⟨ofNative_of_decode_error failed, ?_⟩
    rw [SocketAddress.decodeValue_octets] at failed
    exact SocketAddress.refusal_of_decode failed
  labelled := by
    intro given decoded labelled
    exact ⟨ofNative_of_labelled decoded labelled, rfl, rfl⟩
  unlabelled := by
    intro given decoded flow scope
    refine ⟨make layout given.port given.address, ?_⟩
    rw [ofNative, decoded, ok_bind, ofSocketAddress, if_pos ⟨flow, scope⟩]

/-- A record of the other layout, a short one and one with a scope are refused. -/
theorem records_read_or_refused_web :
    (∃ endpoint, ofNative .bsd (.octets .view (encode .bsd ⟨.loopback, 443, 0, 0⟩).octets) =
        .ok endpoint ∧ endpoint.address = .loopback ∧ endpoint.port = 443 ∧
      endpoint.octets = (encode .bsd ⟨.loopback, 443, 0, 0⟩).octets) ∧
    ofNative .bsd (.octets .constant (encode .systemV ⟨.loopback, 443, 0, 0⟩).octets) =
      refuse (.recordLength 10) ∧
    ofNative .systemV (.octets .buffer (Octets.zeros 27)) = refuse (.recordSize 27) ∧
    ofNative .systemV (.octets .constant (encode .systemV ⟨.loopback, 443, 0, 2⟩).octets) =
      refuse (.labelled 0 2) := by
  refine ⟨?_, ?_, ?_, ?_⟩
  · rcases (records_read_or_refused .bsd .view _).restored .loopback 443 _
      (SocketAddress.encodeGiven_eq .bsd .constant _) rfl with ⟨endpoint, done, address, port, same, _⟩
    exact ⟨endpoint, done, address, port, same⟩
  · exact ((records_read_or_refused .bsd .constant _).undecoded _ rfl).1
  · exact ((records_read_or_refused .systemV .buffer _).undecoded _ rfl).1
  · have decoded : decodeValue .systemV
        (.octets .constant (encode .systemV ⟨.loopback, 443, 0, 2⟩).octets) =
          .ok ⟨.loopback, 443, 0, 2⟩ := by
      rw [SocketAddress.decodeValue_octets, SocketAddress.decode_eq_ok_iff]
    exact ((records_read_or_refused .systemV .constant _).labelled _ decoded (.inr (by decide))).1

end IPv6.Endpoint
