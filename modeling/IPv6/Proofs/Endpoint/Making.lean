import IPv6.Proofs.Address.Printing
import IPv6.Proofs.Endpoint.Plain
import IPv6.Proofs.Table.Items
import IPv6.Table.Records
import IPv6.Value.Copying
/-!
The ways in which an endpoint comes to be: from a port and an address, from a record, as a copy, and out of
many records at once. All of them end in a new endpoint, so what they give is plain.
-/

namespace IPv6

namespace Value

/-- An integer, by itself or of some width; a truth value is none. -/
inductive Counts : Value → Int → Prop
  | integer (number : Int) : Counts (.integer number) number
  | word (word : Word) : Counts (.word word) word.number

def IsPort (value : Value) (number : Nat) : Prop := value.Counts number ∧ number ≤ 0xffff

theorem IsPort.exists_port {value : Value} {number : Nat} (isPort : value.IsPort number) :
    ∃ port : UInt16, port.toNat = number :=
  ⟨UInt16.ofNat number, UInt16.toNat_ofNat_of_lt' (Nat.lt_succ_of_le isPort.2)⟩

theorem wholeNumber?_eq_some_iff (value : Value) (number : Int) :
    value.wholeNumber? = some number ↔ value.Counts number := by
  constructor
  · intro whole
    cases value <;> cases whole
    · exact .integer _
    · exact .word _
  · rintro (_ | _) <;> rfl

end Value

namespace Endpoint

variable {layout : Layout} {endpoint : Endpoint}

theorem ofValues_eq_ok_iff {port address : Value} :
    ofValues layout port address = .ok endpoint ↔
      ∃ number start, portOf port = .ok number ∧ Address.ofValue (startAddress address) = .ok start ∧
        make layout number start = endpoint := by
  simp only [ofValues, setPort, setAddress, bind_eq_ok_iff, map_eq_ok_iff]
  constructor
  · intro steps
    rcases steps with ⟨_, ⟨number, ported, rfl⟩, start, addressed, made⟩
    exact ⟨number, start, ported, addressed, made⟩
  · intro steps
    rcases steps with ⟨number, start, ported, addressed, made⟩
    exact ⟨_, ⟨number, ported, rfl⟩, start, addressed, made⟩

theorem portOf_eq_ok_iff (value : Value) (port : UInt16) :
    portOf value = .ok port ↔ value.IsPort port.toNat := by
  have small := port.toNat_lt
  rw [Value.IsPort, ← Value.wholeNumber?_eq_some_iff, portOf]
  cases value.wholeNumber? with
  | none => simp [refuse]
  | some number =>
    simp only [Option.some.injEq]
    constructor
    · intro taken
      split at taken
      case isTrue inside =>
        cases taken
        have low : (UInt16.ofNat number.toNat).toNat = number.toNat :=
          UInt16.toNat_ofNat_of_lt' (by simp only [UInt16.size]; omega)
        omega
      case isFalse => cases taken
    · rintro ⟨rfl, _⟩
      rw [if_pos (by omega), Int.toNat_natCast, UInt16.ofNat_toNat]

/-- What is no port is refused as an argument. -/
theorem exists_refusal_of_portOf {value : Value} {fault : Fault}
    (failed : portOf value = .error fault) :
    ∃ refusal, fault = .refused refusal ∧ refusal.kind = .invalidArgument := by
  rw [portOf] at failed
  split at failed
  · cases failed
    exact ⟨_, rfl, rfl⟩
  · split at failed
    · cases failed
    · cases failed
      exact ⟨_, rfl, rfl⟩

theorem portOf_toNat (port : UInt16) : portOf (.integer port.toNat) = .ok port :=
  (portOf_eq_ok_iff _ port).mpr ⟨.integer _, Nat.le_of_lt_succ port.toNat_lt⟩

/-- A port and what stands for an address always make an endpoint. -/
theorem ofValues_of_ofValue (layout : Layout) (port : UInt16) {given : Value} {address : Address}
    (taken : Address.ofValue (startAddress given) = .ok address) :
    ofValues layout (.integer port.toNat) given = .ok (make layout port address) :=
  ofValues_eq_ok_iff.mpr ⟨port, address, portOf_toNat port, taken, rfl⟩

/-! ## Copies -/

theorem rebuild_eq_copy (layout : Layout) (endpoint : Endpoint) :
    endpoint.rebuild layout = .ok (endpoint.copy layout) :=
  ofValues_of_ofValue layout endpoint.port
    (Address.ofValue_octets .constant endpoint.address.octets endpoint.address.length_octets)

/-- However an endpoint is copied, the copy is a new one of its port and address. -/
theorem copied_endpoint (layout : Layout) (how : Copying) (endpoint : Endpoint) :
    Value.copied layout how (.endpoint endpoint) = .ok (.endpoint (endpoint.copy layout)) := by
  cases how with
  | own => rfl
  | shallow => rfl
  | deep => simp [Value.copied, Value.deepCopy]
  | saved => simp [Value.copied, Value.savedCopy, rebuild_eq_copy, Except.map]

/-! ## Any of the ways -/

/-- What an endpoint is before anything is done to it. -/
inductive Made (layout : Layout) : Endpoint → Prop
  | constructed {port address : Value} {endpoint : Endpoint}
      (made : ofValues layout port address = .ok endpoint) : Made layout endpoint
  | received {source : Value} {endpoint : Endpoint}
      (made : ofNative layout source = .ok endpoint) : Made layout endpoint
  | copied {how : Copying} {source endpoint : Endpoint}
      (made : Value.copied layout how (.endpoint source) = .ok (.endpoint endpoint)) :
      Made layout endpoint
  | unpacked {source : Value} {endpoints : List Endpoint} {endpoint : Endpoint}
      (made : Table.unpack layout source = .ok endpoints) (member : endpoint ∈ endpoints) :
      Made layout endpoint
  | sorted {source : Value} {endpoints : List Endpoint} {endpoint : Endpoint}
      (made : Table.sortEndpoints layout source = .ok endpoints) (member : endpoint ∈ endpoints) :
      Made layout endpoint

theorem isPlain_of_ofSocketAddress {given : SocketAddress}
    (made : ofSocketAddress layout given = .ok endpoint) : endpoint.IsPlain layout := by
  rw [ofSocketAddress] at made
  split at made <;> cases made
  exact make_isPlain layout given.port given.address

theorem isPlain_of_unpackRecords {records : List Record} {endpoints : List Endpoint}
    (made : Table.unpackRecords layout records = .ok endpoints) (member : endpoint ∈ endpoints) :
    endpoint.IsPlain layout := by
  have each := (Table.mapM_eq_ok_iff records endpoints).mp made
  rcases List.forall₂_iff_get.mp each with ⟨length, read⟩
  rcases List.mem_iff_get.mp member with ⟨place, rfl⟩
  have found := read place.1 (by omega) place.2
  exact ((ofRecord_eq_ok_iff layout _ _).mp found).1

theorem Made.isPlain (made : Made layout endpoint) : endpoint.IsPlain layout := by
  cases made with
  | constructed made =>
    rcases ofValues_eq_ok_iff.mp made with ⟨number, start, _, _, rfl⟩
    exact make_isPlain layout number start
  | received made =>
    rcases bind_eq_ok_iff.mp made with ⟨decoded, _, accepted⟩
    exact isPlain_of_ofSocketAddress accepted
  | @copied how source _ made =>
    rw [copied_endpoint] at made
    cases made
    exact make_isPlain layout source.port source.address
  | @unpacked source endpoints _ made member =>
    cases source with
    | records kept records => exact isPlain_of_unpackRecords made member
    | _ => cases made
  | sorted made member =>
    rcases bind_eq_ok_iff.mp made with ⟨records, _, read⟩
    exact isPlain_of_unpackRecords read member

end Endpoint

end IPv6
