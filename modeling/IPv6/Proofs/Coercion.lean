import IPv6.Proofs.Endpoint.Making
import IPv6.Proofs.Value.Payload
/-!
Values where an address is expected. A value that is no integer stands for one address or is refused, a text
as no address and anything else as an argument; nothing else can happen. The ways in which an address is
expected agree, but that absence and texts give no octets and that a new endpoint has an address already.
-/

namespace IPv6

namespace Value

/-- What is taken by its octets: neither absence nor a text nor an address. -/
structure IsRaw (value : Value) : Prop where
  present : value ≠ .absent
  noText : ∀ text, value ≠ .text text
  noAddress : ∀ address, value ≠ .address address

theorem absent_or_address_or_text_or_isRaw (value : Value) :
    value = .absent ∨ (∃ address, value = .address address) ∨ (∃ text, value = .text text) ∨
      value.IsRaw := by
  cases value with
  | absent => exact .inl rfl
  | address address => exact .inr (.inl ⟨address, rfl⟩)
  | text text => exact .inr (.inr (.inl ⟨text, rfl⟩))
  | _ => exact .inr (.inr (.inr ⟨nofun, nofun, nofun⟩))

end Value

namespace Address

/-- The value stands for the address wherever one is expected. -/
inductive StandsFor : Value → Address → Prop
  | absent : StandsFor .absent .unspecified
  | address (address : Address) : StandsFor (.address address) address
  | text {text : String} {address : Address} (spelled : Spells text.toList address.groups) :
      StandsFor (.text text) address
  | octets {value : Value} {address : Address} (raw : value.IsRaw)
      (gives : value.Gives address.octets) : StandsFor value address

variable {value : Value} {address : Address} {octets : Octets}

theorem standsFor_absent_iff : StandsFor .absent address ↔ address = .unspecified := by
  constructor
  · intro stands
    cases stands with
    | absent => rfl
    | octets raw gives => exact absurd rfl raw.present
  · intro same
    exact same ▸ .absent

theorem standsFor_address_iff {given : Address} :
    StandsFor (.address given) address ↔ address = given := by
  constructor
  · intro stands
    cases stands with
    | address => rfl
    | octets raw gives => exact absurd rfl (raw.noAddress given)
  · intro same
    exact same ▸ .address given

theorem standsFor_text_iff {text : String} :
    StandsFor (.text text) address ↔ Spells text.toList address.groups := by
  constructor
  · intro stands
    cases stands with
    | text spelled => exact spelled
    | octets raw gives => exact absurd rfl (raw.noText text)
  · exact .text

theorem standsFor_raw_iff (raw : value.IsRaw) :
    StandsFor value address ↔ value.Gives address.octets := by
  constructor
  · intro stands
    cases stands with
    | absent => exact absurd rfl raw.present
    | address => exact absurd rfl (raw.noAddress address)
    | text => exact absurd rfl (raw.noText _)
    | octets _ gives => exact gives
  · exact .octets raw

/-! ## Octets -/

section Raw

variable (other : value.index? = none)

include other

theorem ofRaw_eq :
    ofRaw value =
      match value.payload with
      | .ok payload => ofPayload payload
      | .error .wrongType | .error .wrongValue => refuse (.octetsExpected value)
      | .error fault => .error fault := by
  cases value with
  | boolean flag => cases other
  | integer number => cases other
  | _ => rfl

theorem ofRaw_of_gives (gives : value.Gives octets) :
    ofRaw value =
      if sixteen : octets.length = 16 then .ok ⟨octets, sixteen⟩
      else refuse (.addressSize octets.length) := by
  rcases gives with ⟨payload, given, rfl⟩
  rw [ofRaw_eq other, given]
  show ofPayload payload = _
  rw [ofPayload, ofOctets?, ← payload.length_octets]
  split
  · rfl
  · rfl

theorem ofRaw_of_not_gives (never : ¬ ∃ octets, value.Gives octets) :
    ofRaw value = refuse (.octetsExpected value) := by
  rw [ofRaw_eq other]
  rcases Value.payload_of_index?_none other with ⟨octets, given⟩ | wrong | wrong
  · exact absurd ⟨octets, .literal octets, given, rfl⟩ never
  · rw [wrong]
  · rw [wrong]

/-- Octets are taken or refused, and refused only where they are not sixteen. -/
theorem ofRaw_taken_or_refused :
    (∃ address, ofRaw value = .ok address ∧ value.Gives address.octets) ∨
      Refuses (ofRaw value) .invalidArgument ∧
        ¬ ∃ octets, value.Gives octets ∧ octets.length = 16 := by
  by_cases known : ∃ octets, value.Gives octets
  · rcases known with ⟨octets, gives⟩
    rw [ofRaw_of_gives other gives]
    by_cases sixteen : octets.length = 16
    · rw [dif_pos sixteen]
      exact .inl ⟨⟨octets, sixteen⟩, rfl, gives⟩
    · rw [dif_neg sixteen]
      refine .inr ⟨⟨_, rfl, rfl⟩, fun fitting => ?_⟩
      rcases fitting with ⟨octets', gives', sixteen'⟩
      exact sixteen (gives.unique gives' ▸ sixteen')
  · rw [ofRaw_of_not_gives other known]
    refine .inr ⟨⟨_, rfl, rfl⟩, fun fitting => ?_⟩
    rcases fitting with ⟨octets, gives, _⟩
    exact known ⟨octets, gives⟩

theorem ofRaw_eq_ok_iff : ofRaw value = .ok address ↔ value.Gives address.octets := by
  rcases ofRaw_taken_or_refused other with ⟨address', taken, gives⟩ | ⟨refuses, never⟩
  · rw [taken, Except.ok.injEq]
    constructor
    · intro same
      exact same ▸ gives
    · intro gives'
      exact ext_octets (gives.unique gives')
  · constructor
    · intro taken
      rw [taken] at refuses
      exact absurd refuses (not_refuses_ok _ _)
    · intro gives
      exact absurd ⟨address.octets, gives, address.length_octets⟩ never

theorem ofRaw_refuses_iff :
    Refuses (ofRaw value) .invalidArgument ↔
      ¬ ∃ octets, value.Gives octets ∧ octets.length = 16 := by
  rcases ofRaw_taken_or_refused other with ⟨address, taken, gives⟩ | ⟨refuses, never⟩
  · rw [taken]
    constructor
    · exact fun refuses => absurd refuses (not_refuses_ok _ _)
    · exact fun never => absurd ⟨address.octets, gives, address.length_octets⟩ never
  · exact ⟨fun _ => never, fun _ => refuses⟩

end Raw

/-! ## Values -/

theorem ofValue_of_isRaw (raw : value.IsRaw) : ofValue value = ofRaw value := by
  cases value with
  | absent => exact absurd rfl raw.present
  | text text => exact absurd rfl (raw.noText text)
  | address address => exact absurd rfl (raw.noAddress address)
  | _ => rfl

/-- Only absence and texts are treated in another way where octets are expected. -/
theorem ofRaw_eq_ofValue (present : value ≠ .absent) (noText : ∀ text, value ≠ .text text) :
    ofRaw value = ofValue value := by
  rcases value.absent_or_address_or_text_or_isRaw with rfl | ⟨address, rfl⟩ | ⟨text, rfl⟩ | raw
  · exact absurd rfl present
  · exact (ofRaw_eq_ok_iff rfl).mpr ⟨.literal address.octets, rfl, rfl⟩
  · exact absurd rfl (noText text)
  · exact (ofValue_of_isRaw raw).symm

theorem ofValue_eq_ok_iff (other : value.index? = none) :
    ofValue value = .ok address ↔ StandsFor value address := by
  rcases value.absent_or_address_or_text_or_isRaw with rfl | ⟨given, rfl⟩ | ⟨text, rfl⟩ | raw
  · rw [standsFor_absent_iff, ofValue, Except.ok.injEq, eq_comm]
  · rw [standsFor_address_iff, ofValue, Except.ok.injEq, eq_comm]
  · rw [standsFor_text_iff, ← readText_eq_ok_iff]
    rfl
  · rw [standsFor_raw_iff raw, ofValue_of_isRaw raw, ofRaw_eq_ok_iff other]

/-- A text is read or refused as no address, whatever else it may be. -/
theorem readText_read_or_refused (text : String) :
    (∃ address, readText text = .ok address ∧ Spells text.toList address.groups) ∨
      readText text = refuse (.notAnAddress text) ∧ ¬ ∃ groups, Spells text.toList groups := by
  by_cases spelled : ∃ groups, Spells text.toList groups
  · rcases spelled with ⟨groups, spelled⟩
    rcases exists_groups_eq spelled.length_eq with ⟨address, rfl⟩
    exact .inl ⟨address, (readText_eq_ok_iff text address).mpr spelled, spelled⟩
  · exact .inr ⟨(readText_eq_refuse_iff text).mpr spelled, spelled⟩

/-- The value stands for an address, is a text that is none, or gives no sixteen octets. -/
theorem ofValue_taken_or_refused (other : value.index? = none) :
    (∃ address, ofValue value = .ok address) ∨
      (Refuses (ofValue value) .invalidAddressFormat ∧
        ∃ text, value = .text text ∧ ¬ ∃ groups, Spells text.toList groups) ∨
      (Refuses (ofValue value) .invalidArgument ∧ value.IsRaw ∧
        ¬ ∃ octets, value.Gives octets ∧ octets.length = 16) := by
  rcases value.absent_or_address_or_text_or_isRaw with rfl | ⟨address, rfl⟩ | ⟨text, rfl⟩ | raw
  · exact .inl ⟨.unspecified, rfl⟩
  · exact .inl ⟨address, rfl⟩
  · rcases readText_read_or_refused text with ⟨address, read, _⟩ | ⟨refused, unspelled⟩
    · exact .inl ⟨address, read⟩
    · exact .inr (.inl ⟨⟨_, refused, rfl⟩, text, rfl, unspelled⟩)
  · rw [ofValue_of_isRaw raw]
    rcases ofRaw_taken_or_refused other with ⟨address, taken, _⟩ | ⟨refuses, never⟩
    · exact .inl ⟨address, taken⟩
    · exact .inr (.inr ⟨refuses, raw, never⟩)

theorem ofValue_unread_iff (other : value.index? = none) :
    Refuses (ofValue value) .invalidAddressFormat ↔
      ∃ text, value = .text text ∧ ¬ ∃ groups, Spells text.toList groups := by
  constructor
  · intro refuses
    rcases ofValue_taken_or_refused other with ⟨address, taken⟩ | ⟨_, unspelled⟩ | ⟨refuses', _⟩
    · rw [taken] at refuses
      exact absurd refuses (not_refuses_ok _ _)
    · exact unspelled
    · cases refuses.unique refuses'
  · intro unspelled
    rcases unspelled with ⟨text, rfl, unspelled⟩
    exact ⟨_, (readText_eq_refuse_iff text).mpr unspelled, rfl⟩

theorem ofValue_refused_iff (other : value.index? = none) :
    Refuses (ofValue value) .invalidArgument ↔
      value.IsRaw ∧ ¬ ∃ octets, value.Gives octets ∧ octets.length = 16 := by
  constructor
  · intro refuses
    rcases ofValue_taken_or_refused other with ⟨address, taken⟩ | ⟨refuses', _⟩ | ⟨_, raw⟩
    · rw [taken] at refuses
      exact absurd refuses (not_refuses_ok _ _)
    · cases refuses.unique refuses'
    · exact raw
  · intro raw
    rw [ofValue_of_isRaw raw.1]
    exact (ofRaw_refuses_iff other).mpr raw.2

end Address

/-! ## Endpoints -/

namespace Endpoint

variable {layout : Layout} {value : Value}

theorem withAddress_withAddress (endpoint : Endpoint) (first last : Address) :
    (endpoint.withAddress first).withAddress last = endpoint.withAddress last := by
  have fits : 8 + first.octets.length ≤ 28 := by
    rw [first.length_octets]
    decide
  have same : last.octets.length = first.octets.length := by
    rw [last.length_octets, first.length_octets]
  exact congrArg Endpoint.mk (endpoint.record.replace_replace fits same)

theorem startAddress_of_present (present : value ≠ .absent) : startAddress value = value := by
  cases value with
  | absent => exact absurd rfl present
  | _ => rfl

/-- A new endpoint of a value is one without that is given the value afterwards. -/
theorem ofValues_eq_bind (present : value ≠ .absent) (port : Value) :
    ofValues layout port value =
      (ofValues layout port .absent >>= fun endpoint => endpoint.setAddress value) := by
  rw [ofValues, ofValues, startAddress_of_present present]
  cases setPort ⟨Record.blank layout⟩ port with
  | error fault => rfl
  | ok opened =>
    have opening : opened.setAddress (startAddress .absent) = .ok (opened.withAddress .loopback) :=
      rfl
    rw [ok_bind, ok_bind, opening, ok_bind, setAddress, setAddress]
    cases Address.ofValue value with
    | error fault => rfl
    | ok address => exact congrArg Except.ok (opened.withAddress_withAddress _ address).symm

end Endpoint

/-! ## Everywhere -/

open Address (StandsFor Spells)

/-- What becomes of a value wherever an address is expected. -/
structure CoercedAlike (layout : Layout) (value : Value) : Prop where
  taken_iff : ∀ address, Address.ofValue value = .ok address ↔ StandsFor value address
  sixteen : ∀ address, Address.ofValue value = .ok address → address.octets.length = 16
  unread_iff : Refuses (Address.ofValue value) .invalidAddressFormat ↔
    ∃ text, value = .text text ∧ ¬ ∃ groups, Spells text.toList groups
  refused_iff : Refuses (Address.ofValue value) .invalidArgument ↔
    value.IsRaw ∧ ¬ ∃ octets, value.Gives octets ∧ octets.length = 16
  /-- Nothing else can happen. -/
  settled : (∃ address, Address.ofValue value = .ok address) ∨
    Refuses (Address.ofValue value) .invalidAddressFormat ∨
    Refuses (Address.ofValue value) .invalidArgument
  octets : value ≠ .absent → (∀ text, value ≠ .text text) →
    Address.ofRaw value = Address.ofValue value
  no_octets : (value = .absent ∨ ∃ text, value = .text text) →
    Refuses (Address.ofRaw value) .invalidArgument
  made : value ≠ .absent → ∀ port, Endpoint.ofValues layout port value =
    (Endpoint.ofValues layout port .absent >>= fun endpoint => endpoint.setAddress value)
  /-- With a port the value gives the endpoint of the address that it stands for. -/
  endpoint : value ≠ .absent → ∀ (port : Value) (number : UInt16) (address : Address),
    port.IsPort number.toNat → StandsFor value address →
    ∃ endpoint : Endpoint, Endpoint.ofValues layout port value = .ok endpoint ∧
      endpoint.IsPlain layout ∧ endpoint.port = number ∧ endpoint.address = address

theorem values_coerced_alike (layout : Layout) {value : Value} (other : value.index? = none) :
    CoercedAlike layout value where
  taken_iff := fun _ => Address.ofValue_eq_ok_iff other
  sixteen := fun address _ => address.length_octets
  unread_iff := Address.ofValue_unread_iff other
  refused_iff := Address.ofValue_refused_iff other
  settled := by
    rcases Address.ofValue_taken_or_refused other with taken | ⟨unread, _⟩ | ⟨refused, _⟩
    · exact .inl taken
    · exact .inr (.inl unread)
    · exact .inr (.inr refused)
  octets := Address.ofRaw_eq_ofValue
  no_octets := by
    intro given
    rcases given with rfl | ⟨text, rfl⟩
    · exact ⟨.octetsExpected .absent, rfl, rfl⟩
    · exact ⟨.octetsExpected (.text text), rfl, rfl⟩
  made := Endpoint.ofValues_eq_bind
  endpoint present port number address isPort stands := by
    have ported := (Endpoint.portOf_eq_ok_iff port number).mpr isPort
    have taken : Address.ofValue (Endpoint.startAddress value) = .ok address := by
      rw [Endpoint.startAddress_of_present present]
      exact (Address.ofValue_eq_ok_iff other).mpr stands
    exact ⟨_, Endpoint.ofValues_eq_ok_iff.mpr ⟨number, address, ported, taken, rfl⟩,
      Endpoint.make_isPlain layout number address, Endpoint.port_make layout number address,
      Endpoint.address_make layout number address⟩

/-- Among items a truth value counts as an octet and a list as none; an endpoint gives too many octets. -/
theorem values_coerced_alike_items :
    Address.ofValue (.sequence .tuple (List.replicate 15 (.integer 0) ++ [.boolean true])) =
      .ok .loopback ∧
    Refuses (Address.ofRaw (.sequence .list [.sequence .list []])) .invalidArgument ∧
    Refuses (Address.ofValue (.endpoint (.make .bsd 80 .loopback))) .invalidArgument ∧
    Refuses (Address.ofValue (.text "::1 ")) .invalidAddressFormat := by
  refine ⟨?_, ?_, ?_, ?_⟩
  · have alike := values_coerced_alike .bsd (rfl : Value.index?
      (.sequence .tuple (List.replicate 15 (.integer 0) ++ [.boolean true])) = none)
    exact (alike.taken_iff .loopback).mpr (.octets ⟨nofun, nofun, nofun⟩ ⟨_, rfl, rfl⟩)
  · have alike := values_coerced_alike .bsd
      (rfl : Value.index? (.sequence .list [.sequence .list []]) = none)
    rw [alike.octets nofun nofun]
    refine alike.refused_iff.mpr ⟨⟨nofun, nofun, nofun⟩, fun fitting => ?_⟩
    rcases fitting with ⟨_, ⟨_, given, _⟩, _⟩
    cases given
  · have alike := values_coerced_alike .bsd
      (rfl : Value.index? (.endpoint (.make .bsd 80 .loopback)) = none)
    refine alike.refused_iff.mpr ⟨⟨nofun, nofun, nofun⟩, fun fitting => ?_⟩
    rcases fitting with ⟨octets, gives, sixteen⟩
    rw [gives.unique (Value.gives_endpoint _)] at sixteen
    exact absurd sixteen (by decide)
  · have alike := values_coerced_alike .bsd (rfl : Value.index? (.text "::1 ") = none)
    exact alike.unread_iff.mpr ⟨_, rfl, (Address.readText_eq_refuse_iff "::1 ").mp rfl⟩

end IPv6
