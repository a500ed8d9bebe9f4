import IPv6.Proofs.Endpoint.Receiving
/-!
Copies of endpoints. However an endpoint is copied, the copy is the record of its address and port: equal to
the endpoint, accepted as a record, and its own copy. The octets stay as they were for the endpoints that are
accepted as records, and for no others.
-/

namespace IPv6.Endpoint

open SocketAddress (encodeGiven)

variable {layout : Layout} {endpoint : Endpoint}

theorem copy_isPlain (layout : Layout) (endpoint : Endpoint) :
    (endpoint.copy layout).IsPlain layout :=
  make_isPlain layout endpoint.port endpoint.address

theorem copy_copy (layout : Layout) (endpoint : Endpoint) :
    (endpoint.copy layout).copy layout = endpoint.copy layout :=
  (copy_isPlain layout endpoint).make_eq_self

/-- A copy has the same octets exactly where the endpoint is plain already. -/
theorem octets_copy_eq_iff : (endpoint.copy layout).octets = endpoint.octets ↔
    endpoint.IsPlain layout := by
  constructor
  · intro same
    exact ext_octets same ▸ copy_isPlain layout endpoint
  · intro plain
    exact congrArg octets plain.make_eq_self

theorem exists_ofNative_octets_iff (kind : OctetsKind) :
    (∃ received, ofNative layout (.octets kind endpoint.octets) = .ok received) ↔
      endpoint.IsPlain layout := by
  constructor
  · intro accepted
    rcases accepted with ⟨received, accepted⟩
    rw [ofNative_eq_ok_iff] at accepted
    exact ext_octets accepted.2 ▸ accepted.1
  · intro plain
    exact ⟨endpoint, ofNative_eq_ok_iff.mpr ⟨plain, rfl⟩⟩

theorem encodeGiven_copy (layout : Layout) (kind : OctetsKind) (endpoint : Endpoint) :
    encodeGiven layout kind ⟨endpoint.address, endpoint.port, 0, 0⟩ =
      .ok (endpoint.copy layout).record := by
  rw [SocketAddress.encodeGiven_eq, copy, make_eq]

/-- What the copy of an endpoint is. -/
structure CopiedAs (layout : Layout) (endpoint copy : Endpoint) : Prop where
  made : ∀ how, Value.copied layout how (.endpoint endpoint) = .ok (.endpoint copy)
  equal : Value.answer .eq (.endpoint copy) (.endpoint endpoint) = .ok (.boolean true) ∧
    Value.same (.endpoint copy) (.endpoint endpoint) = .ok true
  encoded : ∀ kind, encodeGiven layout kind ⟨endpoint.address, endpoint.port, 0, 0⟩ =
    .ok copy.record
  received : ∀ kind, ofNative layout (.octets kind copy.octets) = .ok copy
  /-- A copy of the copy has the same octets, whichever the two ways of copying are. -/
  again : ∀ how, Value.copied layout how (.endpoint copy) = .ok (.endpoint copy)
  unchanged_iff : ∀ kind, copy.octets = endpoint.octets ↔
    ∃ received, ofNative layout (.octets kind endpoint.octets) = .ok received

/-- The octets of the endpoint may be any. -/
theorem endpoints_copied_alike (layout : Layout) (endpoint : Endpoint) :
    ∃ copy, CopiedAs layout endpoint copy := by
  refine ⟨endpoint.copy layout, ?_⟩
  constructor
  case made =>
    intro how
    exact copied_endpoint layout how endpoint
  case equal =>
    rw [answer_eq, Value.same, copy, same_make]
    exact ⟨rfl, rfl⟩
  case encoded =>
    intro kind
    exact encodeGiven_copy layout kind endpoint
  case received =>
    intro kind
    exact ofNative_eq_ok_iff.mpr ⟨copy_isPlain layout endpoint, rfl⟩
  case again =>
    intro how
    rw [copied_endpoint, copy_copy]
  case unchanged_iff =>
    intro kind
    rw [octets_copy_eq_iff, exists_ofNative_octets_iff]

end IPv6.Endpoint
