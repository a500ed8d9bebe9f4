import IPv6.Proofs.SocketAddress.Codec
import IPv6.Proofs.Value.Stored
/-!
Socket addresses of integers. Port, flow label and scope may be integers of any kind. The port is looked at
before anything is written; the other two are stored as they are, so that a word beyond four octets leaves
its remainder in the record, where any other integer that does not fit is an overflow.
-/

namespace IPv6

/-- An integer of any kind, with its number. -/
structure IntegerValue where
  value : Value
  number : Int
  integral : value.Integral number

namespace IntegerValue

def plain (number : Int) : IntegerValue := ⟨.integer number, number, .integer number⟩

def ofWord (word : Word) : IntegerValue := ⟨.word word, word.number, .word word⟩

def InRange (width : Nat) (given : IntegerValue) : Prop :=
  0 ≤ given.number ∧ given.number < Octets.capacity width

instance (width : Nat) (given : IntegerValue) : Decidable (given.InRange width) :=
  inferInstanceAs (Decidable (_ ∧ _))

/-- A field of so many octets takes the integer, if need be without what goes beyond them. -/
def Storable (width : Nat) (given : IntegerValue) : Prop :=
  given.InRange width ∨ ∃ word, given.value = .word word

theorem stored_eq_ok_iff {width number : Nat} {given : IntegerValue} :
    given.value.stored width = .ok number ↔
      given.Storable width ∧ number = wrap width given.number := by
  rcases given with ⟨value, own, integral⟩
  have whole : value.toInteger = .ok own := integral.toInteger_eq
  constructor
  · intro done
    cases (Value.stored_eq_ok_iff integral.isNumber).mp done with
    | fits part inside =>
      have same := (Value.toInteger_eq_ok_iff integral.isNumber).mpr part
      cases whole.symm.trans same
      exact ⟨.inl inside, (Value.wrap_eq_toNat inside).symm⟩
    | wrapped word =>
      cases integral
      exact ⟨.inr ⟨word, rfl⟩, rfl⟩
  · rintro ⟨inside | ⟨word, same⟩, rfl⟩
    · rw [Value.wrap_eq_toNat inside]
      exact Value.stored_of_toInteger whole inside
    · cases same
      cases integral
      rfl

end IntegerValue

namespace SocketAddress

/-! ## Steps of encoding -/

theorem fieldNumber_of_isNumber {value : Value} (numeric : value.IsNumber) (width : Nat) :
    fieldNumber width value = value.stored width := by
  rcases numeric with ⟨number, found⟩
  cases value <;> first | rfl | cases found

theorem isPortInRange_integral {value : Value} {number : Int} (integral : value.Integral number) :
    isPortInRange value = .ok (0 ≤ number && number ≤ 0xffff) := by
  cases integral with
  | boolean flag => cases flag <;> rfl
  | integer number => rfl
  | word given => rfl

section Encoding

variable {layout : Layout} {kind : OctetsKind} {address : Address} {port flow scope : IntegerValue}

theorem encodeValues_of_port_outside (outside : ¬ port.InRange 2) :
    encodeValues layout (.octets kind address.octets) port.value flow.value scope.value =
      refuse (.portOutOfRange port.value) := by
  have range : isPortInRange port.value = .ok false := by
    rw [isPortInRange_integral port.integral, Except.ok.injEq, Bool.and_eq_false_iff,
      decide_eq_false_iff_not, decide_eq_false_iff_not]
    simp only [IntegerValue.InRange, Octets.capacity] at outside
    omega
  rw [encodeValues_octets, range]
  rfl

theorem encodeValues_of_port_inside (inside : port.InRange 2) :
    encodeValues layout (.octets kind address.octets) port.value flow.value scope.value = (do
      let flowNumber ← flow.value.stored 4
      let scopeNumber ← scope.value.stored 4
      return encode layout ⟨address, .ofNat port.number.toNat, .ofNat flowNumber,
        .ofNat scopeNumber⟩) := by
  have range : isPortInRange port.value = .ok true := by
    rw [isPortInRange_integral port.integral, Except.ok.injEq, Bool.and_eq_true, decide_eq_true_eq,
      decide_eq_true_eq]
    simp only [IntegerValue.InRange, Octets.capacity] at inside
    omega
  have number : port.value.stored 2 = .ok port.number.toNat :=
    Value.stored_of_toInteger port.integral.toInteger_eq inside
  rw [encodeValues_octets, range, fieldNumber_of_isNumber port.integral.isNumber,
    fieldNumber_of_isNumber flow.integral.isNumber, fieldNumber_of_isNumber scope.integral.isNumber,
    number]
  rfl

/-- What is written where nothing is refused. -/
def ofIntegers (address : Address) (port flow scope : IntegerValue) : SocketAddress :=
  ⟨address, .ofNat (wrap 2 port.number), .ofNat (wrap 4 flow.number), .ofNat (wrap 4 scope.number)⟩

theorem encodeValues_eq_ok_iff {record : Record} :
    encodeValues layout (.octets kind address.octets) port.value flow.value scope.value = .ok record ↔
      port.InRange 2 ∧ flow.Storable 4 ∧ scope.Storable 4 ∧
        record = encode layout (ofIntegers address port flow scope) := by
  by_cases inside : port.InRange 2
  · have number : port.number.toNat = wrap 2 port.number := (Value.wrap_eq_toNat inside).symm
    rw [encodeValues_of_port_inside inside, number]
    simp only [bind_eq_ok_iff, IntegerValue.stored_eq_ok_iff]
    constructor
    · rintro ⟨_, ⟨flows, rfl⟩, _, ⟨scopes, rfl⟩, done⟩
      exact ⟨inside, flows, scopes, (Except.ok.inj done).symm⟩
    · rintro ⟨_, flows, scopes, rfl⟩
      exact ⟨_, ⟨flows, rfl⟩, _, ⟨scopes, rfl⟩, rfl⟩
  · rw [encodeValues_of_port_outside inside]
    exact ⟨nofun, fun fitting => absurd fitting.1 inside⟩

end Encoding

/-! ## Integers kept -/

/-- What is written reads back as what was given, and what does not fit is not written. -/
structure Lossless (layout : Layout) (kind : OctetsKind) (address : Address)
    (port flow scope : IntegerValue) : Prop where
  restored : ∀ record,
    encodeValues layout (.octets kind address.octets) port.value flow.value scope.value = .ok record →
    ∃ given, decodeValue layout (.octets .buffer record.octets) = .ok given ∧
      given.address = address ∧ (given.port.toNat : Int) = port.number ∧
      (given.flow.toNat : Int) = flow.number ∧ (given.scope.toNat : Int) = scope.number
  refused : ¬ (port.InRange 2 ∧ flow.InRange 4 ∧ scope.InRange 4) →
    ∃ fault, encodeValues layout (.octets kind address.octets) port.value flow.value scope.value =
      .error fault

section Kept

variable {layout : Layout} {kind : OctetsKind} {address : Address} {port flow scope : IntegerValue}

theorem decodeValue_eq_ok_iff {kind : OctetsKind} {record : Record} {given : SocketAddress} :
    decodeValue layout (.octets kind record.octets) = .ok given ↔ record = encode layout given := by
  rw [decodeValue_octets, decode_eq_ok_iff]
  exact ⟨Record.ext_octets, congrArg Record.octets⟩

/-- Each field holds its number exactly if the number is in the range of the field. -/
theorem ofIntegers_same_iff (address : Address) (port flow scope : IntegerValue) :
    (((ofIntegers address port flow scope).port.toNat : Int) = port.number ↔ port.InRange 2) ∧
    (((ofIntegers address port flow scope).flow.toNat : Int) = flow.number ↔ flow.InRange 4) ∧
    (((ofIntegers address port flow scope).scope.toNat : Int) = scope.number ↔ scope.InRange 4) := by
  have ports : (UInt16.ofNat (wrap 2 port.number)).toNat = wrap 2 port.number :=
    UInt16.toNat_ofNat_of_lt' (wrap_lt 2 port.number)
  have flows : (UInt32.ofNat (wrap 4 flow.number)).toNat = wrap 4 flow.number :=
    UInt32.toNat_ofNat_of_lt' (wrap_lt 4 flow.number)
  have scopes : (UInt32.ofNat (wrap 4 scope.number)).toNat = wrap 4 scope.number :=
    UInt32.toNat_ofNat_of_lt' (wrap_lt 4 scope.number)
  rw [ofIntegers, ports, flows, scopes]
  exact ⟨wrap_eq_self_iff, wrap_eq_self_iff, wrap_eq_self_iff⟩

theorem lossless_iff :
    Lossless layout kind address port flow scope ↔
      (port.InRange 2 ∧ flow.Storable 4 ∧ scope.Storable 4 → flow.InRange 4 ∧ scope.InRange 4) := by
  obtain ⟨ports, flows, scopes⟩ := ofIntegers_same_iff address port flow scope
  have read : decodeValue layout (.octets .buffer
      (encode layout (ofIntegers address port flow scope)).octets) =
        .ok (ofIntegers address port flow scope) := decodeValue_eq_ok_iff.mpr rfl
  constructor
  · rintro lossless ⟨inside, labelled, zoned⟩
    have written : encodeValues layout (.octets kind address.octets) port.value flow.value
        scope.value = .ok (encode layout (ofIntegers address port flow scope)) :=
      encodeValues_eq_ok_iff.mpr ⟨inside, labelled, zoned, rfl⟩
    rcases lossless.restored _ written with ⟨given, decoded, _, _, flowSame, scopeSame⟩
    cases read.symm.trans decoded
    exact ⟨flows.mp flowSame, scopes.mp scopeSame⟩
  · intro kept
    constructor
    case restored =>
      intro record written
      rcases encodeValues_eq_ok_iff.mp written with ⟨inside, labelled, zoned, rfl⟩
      rcases kept ⟨inside, labelled, zoned⟩ with ⟨flowInside, scopeInside⟩
      exact ⟨_, read, rfl, ports.mpr inside, flows.mpr flowInside, scopes.mpr scopeInside⟩
    case refused =>
      intro outside
      cases outcome : encodeValues layout (.octets kind address.octets) port.value flow.value
        scope.value with
      | error fault => exact ⟨fault, rfl⟩
      | ok record =>
        rcases encodeValues_eq_ok_iff.mp outcome with ⟨inside, labelled, zoned, _⟩
        exact absurd ⟨inside, kept ⟨inside, labelled, zoned⟩⟩ outside

end Kept

theorem integers_encoded_unless_wrapped (layout : Layout) (kind : OctetsKind) (address : Address)
    (port flow scope : IntegerValue) (record : Record) :
    (encodeValues layout (.octets kind address.octets) port.value flow.value scope.value = .ok record ↔
      port.InRange 2 ∧ flow.Storable 4 ∧ scope.Storable 4 ∧
        decodeValue layout (.octets .buffer record.octets) =
          .ok (ofIntegers address port flow scope)) ∧
    (Lossless layout kind address port flow scope ↔
      (port.InRange 2 ∧ flow.Storable 4 ∧ scope.Storable 4 →
        flow.InRange 4 ∧ scope.InRange 4)) := by
  rw [decodeValue_eq_ok_iff]
  exact ⟨encodeValues_eq_ok_iff, lossless_iff⟩

/-- A flow label beyond four octets that is read back as 5. -/
theorem wrapped_flow_not_lossless :
    (∃ record, encodeValues .systemV (.octets .constant Address.unspecified.octets) (.integer 80)
        (.word ⟨.int64, 0x100000005, by decide⟩) (.integer 0) = .ok record ∧
      decodeValue .systemV (.octets .buffer record.octets) = .ok ⟨.unspecified, 80, 5, 0⟩) ∧
    ¬ Lossless .systemV .constant .unspecified (.plain 80)
      (.ofWord ⟨.int64, 0x100000005, by decide⟩) (.plain 0) := by
  let port := IntegerValue.plain 80
  let flow := IntegerValue.ofWord ⟨.int64, 0x100000005, by decide⟩
  let scope := IntegerValue.plain 0
  have fitting : port.InRange 2 ∧ flow.Storable 4 ∧ scope.Storable 4 :=
    ⟨by decide, .inr ⟨_, rfl⟩, .inl (by decide)⟩
  constructor
  · have written : encodeValues .systemV (.octets .constant Address.unspecified.octets) port.value
        flow.value scope.value = .ok (encode .systemV (ofIntegers .unspecified port flow scope)) :=
      encodeValues_eq_ok_iff.mpr ⟨fitting.1, fitting.2.1, fitting.2.2, rfl⟩
    exact ⟨_, written, decodeValue_eq_ok_iff.mpr rfl⟩
  · rw [lossless_iff]
    intro kept
    exact absurd (kept fitting).1 (by decide)

end SocketAddress

end IPv6
