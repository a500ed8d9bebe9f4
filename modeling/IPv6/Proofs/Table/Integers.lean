import IPv6.Proofs.Endpoint.Making
import IPv6.Proofs.Table.Masks
/-!
Integers where addresses are expected. A plain integer or a truth value is refused wherever it is given. A
word is not: it counts zeros, so that a word of sixteen is taken for the unspecified address.
-/

namespace IPv6

open Value (countPayload)

/-! ## Everywhere -/

/-- Wherever an address is expected, the value is refused as an argument. -/
structure RefusedAsAddress (layout : Layout) (value : Value) : Prop where
  taken : Refuses (Address.ofValue value) .invalidArgument
  octets : Refuses (Address.ofRaw value) .invalidArgument
  written : ∀ {Form : Type} (form : Address → Form),
    Refuses ((Address.ofValue value).map form) .invalidArgument
  set : ∀ endpoint : Endpoint, Refuses (endpoint.setAddress value) .invalidArgument
  made : ∀ port, Refuses (Endpoint.ofValues layout port value) .invalidArgument
  /-- As the first item of a list that does not stand for an address. -/
  listed : ∀ list before after, Value.items list = .ok (before ++ value :: after) →
    (∀ earlier ∈ before, ∃ address, Address.ofValue earlier = .ok address) →
    Refuses ((Table.addressesOf list).map Table.matrix) .invalidArgument ∧
      Refuses (Table.sortItems list) .invalidArgument ∧
      Refuses (Table.classify list) .invalidArgument

/-- Wherever an address is expected, the value stands for this one. -/
structure TakenForAddress (layout : Layout) (value : Value) (address : Address) : Prop where
  taken : Address.ofValue value = .ok address
  octets : Address.ofRaw value = .ok address
  written : ∀ {Form : Type} (form : Address → Form),
    (Address.ofValue value).map form = .ok (form address)
  set : ∀ endpoint : Endpoint, endpoint.setAddress value = .ok (endpoint.withAddress address)
  made : ∀ port number, Endpoint.portOf port = .ok number →
    Endpoint.ofValues layout port value = .ok (Endpoint.make layout number address)
  listed : ∀ list items addresses, Value.items list = .ok items →
    Table.addressesOf list = .ok addresses →
    ∀ index : Nat, items[index]? = some value → addresses[index]? = some address

section Raw

variable {layout : Layout} {value : Value}

theorem RefusedAsAddress.of_raw (raw : Address.ofValue value = Address.ofRaw value)
    (given : Endpoint.startAddress value = value)
    (refuses : Refuses (Address.ofRaw value) .invalidArgument) : RefusedAsAddress layout value where
  taken := raw ▸ refuses
  octets := refuses
  written := by
    intro Form form
    rw [raw]
    exact refuses.map form
  set := by
    intro endpoint
    rw [Endpoint.setAddress, raw]
    exact refuses.map endpoint.withAddress
  made := by
    intro port
    rw [Endpoint.ofValues, Endpoint.setPort, given]
    cases outcome : Endpoint.portOf port with
    | error fault =>
      -- The port is looked at first, and is refused in the same way.
      rcases Endpoint.exists_refusal_of_portOf outcome with ⟨refusal, rfl, kind⟩
      exact ⟨refusal, rfl, kind⟩
    | ok number =>
      rw [Except.map, ok_bind, Endpoint.setAddress, raw]
      exact refuses.map _
  listed := by
    intro list before after stepped accepted
    rcases refuses with ⟨refusal, refused, kind⟩
    have first : Table.addressesOf list = refuse refusal := by
      rw [Table.addressesOf, stepped, ok_bind]
      exact Table.mapM_of_first_error accepted (raw.trans refused) after
    rw [Table.sortItems_eq, Table.classify_eq, first]
    exact ⟨⟨refusal, rfl, kind⟩, ⟨refusal, rfl, kind⟩, ⟨refusal, rfl, kind⟩⟩

theorem TakenForAddress.of_raw {address : Address} (raw : Address.ofValue value = Address.ofRaw value)
    (given : Endpoint.startAddress value = value) (taken : Address.ofRaw value = .ok address) :
    TakenForAddress layout value address where
  taken := raw.trans taken
  octets := taken
  written := by
    intro Form form
    rw [raw, taken, Except.map]
  set := by
    intro endpoint
    rw [Endpoint.setAddress, raw, taken, Except.map]
  made := by
    intro port number ported
    apply Endpoint.ofValues_eq_ok_iff.mpr
    refine ⟨number, address, ported, ?_, rfl⟩
    rw [given, raw, taken]
  listed := by
    intro list items addresses stepped read index place
    rw [Table.addressesOf, stepped, ok_bind, Table.mapM_eq_ok_iff] at read
    exact Table.getElem?_of_forall₂ read place (raw.trans taken)

end Raw

/-! ## Counts -/

namespace Value

variable {count : Int}

theorem countPayload_of_negative (least : -2 ^ 63 ≤ count) (negative : count < 0) :
    countPayload count = .error .wrongValue := by
  have inside : ¬ (count < -0x8000000000000000 ∨ countLimit ≤ count) := by
    simp only [countLimit]
    omega
  rw [countPayload, if_neg inside, if_pos negative]

theorem countPayload_of_small (positive : 0 ≤ count) (small : count < memoryLimit) :
    countPayload count = .ok (.zeros count.toNat) := by
  simp only [memoryLimit] at small
  have inside : ¬ (count < -0x8000000000000000 ∨ countLimit ≤ count) := by
    simp only [countLimit]
    omega
  rw [countPayload, if_neg inside, if_neg (Int.not_lt.mpr positive), memoryLimit,
    if_neg (Int.not_le.mpr small)]

/-- A count that no block can have is a fault of its own, not a wrong value. -/
theorem countPayload_of_beyond (beyond : count < -2 ^ 63 ∨ memoryLimit ≤ count) :
    countPayload count = .error .overflow ∨ countPayload count = .error .exhausted := by
  simp only [memoryLimit] at beyond
  by_cases outside : count < -0x8000000000000000 ∨ countLimit ≤ count
  · exact .inl (if_pos outside)
  · have large : memoryLimit ≤ count := by
      simp only [memoryLimit]
      omega
    have positive : ¬ count < 0 := by
      simp only [memoryLimit] at large
      omega
    right
    rw [countPayload, if_neg outside, if_neg positive, if_pos large]

end Value

namespace Address

theorem ofPayload_zeros_sixteen : ofPayload (.zeros 16) = .ok unspecified := by
  have octets : (Payload.zeros 16).octets = unspecified.octets := by decide
  have read : ofOctets? (Payload.zeros 16).octets = some unspecified := by
    rw [octets, ofOctets?, dif_pos unspecified.length_octets]
  have size : (Payload.zeros 16).size = 16 := rfl
  rw [ofPayload, if_pos size, read]

theorem ofPayload_of_size {payload : Payload} (other : payload.size ≠ 16) :
    ofPayload payload = refuse (.addressSize payload.size) := if_neg other

theorem ofRaw_word (word : Word) :
    ofRaw (.word word) =
      match countPayload word.number with
      | .ok payload => ofPayload payload
      | .error .wrongType | .error .wrongValue => refuse (.octetsExpected (.word word))
      | .error fault => .error fault := rfl

section Words

variable {word : Word}

theorem ofRaw_word_refuses (least : -2 ^ 63 ≤ word.number) (small : word.number < Value.memoryLimit)
    (other : word.number ≠ 16) : Refuses (ofRaw (.word word)) .invalidArgument := by
  by_cases negative : word.number < 0
  · rw [ofRaw_word, Value.countPayload_of_negative least negative]
    exact ⟨_, rfl, rfl⟩
  · have positive : 0 ≤ word.number := Int.not_lt.mp negative
    have size : (Payload.zeros word.number.toNat).size ≠ 16 := by
      simp only [Payload.size]
      omega
    rw [ofRaw_word, Value.countPayload_of_small positive small]
    exact ⟨_, ofPayload_of_size size, rfl⟩

theorem ofRaw_word_sixteen (sixteen : word.number = 16) : ofRaw (.word word) = .ok unspecified := by
  have counted : countPayload 16 = .ok (.zeros 16) :=
    Value.countPayload_of_small (by decide) (by decide)
  rw [ofRaw_word, sixteen, counted]
  exact ofPayload_zeros_sixteen

theorem ofRaw_word_beyond (beyond : word.number < -2 ^ 63 ∨ Value.memoryLimit ≤ word.number) :
    ofRaw (.word word) = .error .overflow ∨ ofRaw (.word word) = .error .exhausted := by
  rw [ofRaw_word]
  rcases Value.countPayload_of_beyond beyond with overflow | exhausted
  · rw [overflow]
    exact .inl rfl
  · rw [exhausted]
    exact .inr rfl

/-- A word is refused, taken for the unspecified address, or too large a count. -/
theorem ofRaw_word_cases (word : Word) :
    (-2 ^ 63 ≤ word.number ∧ word.number < Value.memoryLimit ∧ word.number ≠ 16) ∨
      word.number = 16 ∨ (word.number < -2 ^ 63 ∨ Value.memoryLimit ≤ word.number) := by
  omega

theorem ofRaw_word_refuses_iff :
    Refuses (ofRaw (.word word)) .invalidArgument ↔
      -2 ^ 63 ≤ word.number ∧ word.number < Value.memoryLimit ∧ word.number ≠ 16 := by
  constructor
  · intro refused
    rcases ofRaw_word_cases word with inside | sixteen | beyond
    · exact inside
    · rw [ofRaw_word_sixteen sixteen] at refused
      exact absurd refused (not_refuses_ok _ _)
    · rcases refused with ⟨refusal, same, _⟩
      rcases ofRaw_word_beyond beyond with overflow | exhausted
      · cases overflow.symm.trans same
      · cases exhausted.symm.trans same
  · rintro ⟨least, small, other⟩
    exact ofRaw_word_refuses least small other

theorem ofRaw_word_eq_ok_iff {address : Address} :
    ofRaw (.word word) = .ok address ↔ word.number = 16 ∧ address = unspecified := by
  constructor
  · intro taken
    rcases ofRaw_word_cases word with ⟨least, small, other⟩ | sixteen | beyond
    · rcases ofRaw_word_refuses least small other with ⟨refusal, refused, _⟩
      cases refused.symm.trans taken
    · rw [ofRaw_word_sixteen sixteen] at taken
      exact ⟨sixteen, (Except.ok.inj taken).symm⟩
    · rcases ofRaw_word_beyond beyond with overflow | exhausted
      · cases overflow.symm.trans taken
      · cases exhausted.symm.trans taken
  · rintro ⟨sixteen, rfl⟩
    exact ofRaw_word_sixteen sixteen

end Words

end Address

/-! ## Integers of every kind -/

theorem integers_refused_unless_counted (layout : Layout) (flag : Bool) (number : Int) (word : Word)
    (address : Address) :
    RefusedAsAddress layout (.boolean flag) ∧ RefusedAsAddress layout (.integer number) ∧
    (RefusedAsAddress layout (.word word) ↔
      -2 ^ 63 ≤ word.number ∧ word.number < Value.memoryLimit ∧ word.number ≠ 16) ∧
    (TakenForAddress layout (.word word) address ↔
      word.number = 16 ∧ address = .unspecified) := by
  refine ⟨.of_raw rfl rfl ⟨_, rfl, rfl⟩, .of_raw rfl rfl ⟨_, rfl, rfl⟩, ?_, ?_⟩
  · rw [← Address.ofRaw_word_refuses_iff]
    exact ⟨RefusedAsAddress.octets, .of_raw rfl rfl⟩
  · rw [← Address.ofRaw_word_eq_ok_iff]
    exact ⟨TakenForAddress.octets, .of_raw rfl rfl⟩

/-- Sixteen zeros that nobody wrote down. -/
theorem word_of_sixteen_not_refused :
    Address.ofValue (.word ⟨.int64, 16, by decide⟩) = .ok .unspecified ∧
    ¬ RefusedAsAddress .systemV (.word ⟨.int64, 16, by decide⟩) := by
  have taken : Address.ofRaw (.word ⟨.int64, 16, by decide⟩) = .ok .unspecified :=
    Address.ofRaw_word_eq_ok_iff.mpr ⟨rfl, rfl⟩
  refine ⟨taken, fun refused => ?_⟩
  have octets := refused.octets
  rw [taken] at octets
  exact not_refuses_ok _ _ octets

end IPv6
