import IPv6.Proofs.Outcome
import IPv6.Proofs.SocketAddress.Fields
import IPv6.SocketAddress.Codec
/-!
Socket addresses and the records that carry the tag of a layout are the same thing in two forms. A record
is the tag and the fields behind it, and every other run of octets is refused.
-/

namespace IPv6

/-- The octets that every record of the layout begins with. -/
def Layout.tag : Layout → Octets
  | systemV => [10, 0]
  | bsd => [28, 10]

theorem Layout.length_tag (layout : Layout) : layout.tag.length = 2 := by
  cases layout <;> rfl

theorem Layout.tag_ne : Layout.systemV.tag ≠ Layout.bsd.tag := by decide

namespace SocketAddress

/-- What writing a socket address puts into a field. -/
def number (given : SocketAddress) : Field → Nat
  | .length => Record.size
  | .family => Record.familyNumber
  | .port => given.port.toNat
  | .flow => given.flow.toNat
  | .address => given.address.toNat
  | .scope => given.scope.toNat

/-- The octets behind the tag. -/
def body (given : SocketAddress) : Octets :=
  Octets.bigEndian 2 given.port.toNat ++ (Octets.bigEndian 4 given.flow.toNat ++
    (given.address.octets ++ Octets.littleEndian 4 given.scope.toNat))

theorem number_lt (given : SocketAddress) {layout : Layout} {field : Field} {slot : Slot}
    (found : layout.slot? field = some slot) : given.number field < Octets.capacity slot.size := by
  have port := given.port.toNat_lt
  have flow := given.flow.toNat_lt
  have address := given.address.toNat_lt
  have scope := given.scope.toNat_lt
  cases layout <;> cases field <;> cases found <;>
    first
    | assumption
    | exact Nat.le_of_ble_eq_true rfl

/-! ## Writing -/

theorem withAddress_eq_put (layout : Layout) (record : Record) (address : Address) :
    record.withAddress address = record.put layout .address address.toNat := by
  have octets : Octets.bigEndian 16 address.toNat = address.octets :=
    congrArg Address.octets address.ofNat_toNat
  rw [Record.withAddress, Record.put, layout.slot?_address, ← octets]
  rfl

/-- A record is written by putting a number into each field in turn. -/
theorem encode_eq_putAll (layout : Layout) (given : SocketAddress) :
    encode layout given = Record.putAll layout given.number Field.all Record.zero := by
  rw [encode, withAddress_eq_put layout]
  cases layout <;> rfl

theorem read_encode (given : SocketAddress) {layout : Layout} {field : Field} {slot : Slot}
    (found : layout.slot? field = some slot) :
    (encode layout given).read slot = given.number field := by
  have member : field ∈ Field.all := by
    cases field <;> decide
  rw [encode_eq_putAll, Record.read_putAll found, if_pos member]
  exact Nat.mod_eq_of_lt (given.number_lt found)

theorem segment_encode (given : SocketAddress) {layout : Layout} {field : Field} {slot : Slot}
    (found : layout.slot? field = some slot) :
    (encode layout given).segment slot.offset slot.size =
      slot.order.write slot.size (given.number field) := by
  rw [Record.segment_eq_write (Layout.slot_fits found), read_encode given found]

theorem octets_encode (layout : Layout) (given : SocketAddress) :
    (encode layout given).octets = layout.tag ++ given.body := by
  have address : Octets.bigEndian 16 given.address.toNat = given.address.octets :=
    congrArg Address.octets given.address.ofNat_toNat
  have segments : (encode layout given).octets =
      layout.slots.flatMap fun entry =>
        entry.2.order.write entry.2.size (given.number entry.1) := by
    rw [Record.octets_eq_segments layout]
    apply List.flatMap_congr
    intro entry member
    exact segment_encode given (Record.mem_slots_iff.mp member)
  rw [segments, body, ← address]
  cases layout with
  | systemV =>
    have tag : Layout.systemV.tag = Octets.littleEndian 2 Record.familyNumber := by decide
    rw [tag]
    simp [Layout.slots, Layout.slot?, Field.all, ByteOrder.write, number]
  | bsd =>
    have tag : Layout.bsd.tag =
        Octets.littleEndian 1 Record.size ++ Octets.littleEndian 1 Record.familyNumber := by
      decide
    rw [tag]
    simp [Layout.slots, Layout.slot?, Field.all, ByteOrder.write, number]

example : (encode .bsd ⟨.loopback, 8080, 0x12345, 2⟩).octets =
    [28, 10, 0x1f, 0x90, 0, 1, 0x23, 0x45] ++ Octets.zeros 15 ++ [1, 2, 0, 0, 0] := by decide

/-! ## Reading -/

theorem ofRecord_encode (layout : Layout) (given : SocketAddress) :
    ofRecord (encode layout given) = given := by
  have port : (encode layout given).port = given.port := by
    rw [Record.port, read_encode given layout.slot?_port]
    exact UInt16.ofNat_toNat
  have flow : (encode layout given).flow = given.flow := by
    rw [Record.flow, read_encode given layout.slot?_flow]
    exact UInt32.ofNat_toNat
  have scope : (encode layout given).scope = given.scope := by
    rw [Record.scope, read_encode given layout.slot?_scope]
    exact UInt32.ofNat_toNat
  have address : (encode layout given).address = given.address := by
    apply Address.ext_octets
    calc
      _ = Octets.bigEndian 16 given.address.toNat := segment_encode given layout.slot?_address
      _ = given.address.octets := congrArg Address.octets given.address.ofNat_toNat
  rw [ofRecord, port, flow, scope, address]

/-- No other record of the layout has these fields. -/
theorem encode_ofRecord {layout : Layout} {record : Record}
    (length : ∀ slot, layout.slot? .length = some slot → record.read slot = Record.size)
    (family : ∀ slot, layout.slot? .family = some slot → record.read slot = Record.familyNumber) :
    encode layout (ofRecord record) = record := by
  apply Record.ext_reads layout
  intro field slot found
  rw [read_encode _ found]
  have bound := Record.read_lt (Layout.slot_fits found) record
  cases field with
  | length => exact (length slot found).symm
  | family => exact (family slot found).symm
  | port =>
    rw [layout.slot?_port] at found
    cases found
    exact UInt16.toNat_ofNat_of_lt' bound
  | flow =>
    rw [layout.slot?_flow] at found
    cases found
    exact UInt32.toNat_ofNat_of_lt' bound
  | address =>
    rw [layout.slot?_address] at found
    cases found
    rfl
  | scope =>
    rw [layout.slot?_scope] at found
    cases found
    exact UInt32.toNat_ofNat_of_lt' bound

/-- A check of a field that only some layouts have. -/
theorem check_eq_ok_iff (slot? : Option Slot) (good : Slot → Prop) [DecidablePred good]
    (refusal : Slot → Refusal) :
    (match slot? with
      | none => .ok ()
      | some slot => if good slot then .ok () else refuse (refusal slot) : Except Fault Unit) =
        .ok () ↔ ∀ slot, slot? = some slot → good slot := by
  cases slot? with
  | none => exact ⟨fun _ => nofun, fun _ => rfl⟩
  | some slot =>
    constructor
    · intro checked slot' same
      cases same
      by_contra other
      simp only [if_neg other] at checked
      cases checked
    · intro holds
      exact if_pos (holds slot rfl)

theorem checkLength_eq_ok_iff (layout : Layout) (record : Record) :
    checkLength layout record = .ok () ↔
      ∀ slot, layout.slot? .length = some slot → record.read slot = Record.size :=
  check_eq_ok_iff _ (fun slot => record.read slot = Record.size) _

theorem checkFamily_eq_ok_iff (layout : Layout) (record : Record) :
    checkFamily layout record = .ok () ↔
      ∀ slot, layout.slot? .family = some slot → record.read slot = Record.familyNumber :=
  check_eq_ok_iff _ (fun slot => record.read slot = Record.familyNumber) _

theorem decodeRecord_eq_ok_iff (layout : Layout) (record : Record) (given : SocketAddress) :
    decodeRecord layout record = .ok given ↔ record = encode layout given := by
  constructor
  · intro decoded
    obtain ⟨⟨⟩, length, later⟩ := bind_eq_ok_iff.mp decoded
    obtain ⟨⟨⟩, family, made⟩ := bind_eq_ok_iff.mp later
    cases made
    rw [checkLength_eq_ok_iff] at length
    rw [checkFamily_eq_ok_iff] at family
    exact (encode_ofRecord length family).symm
  · intro same
    subst same
    have length : checkLength layout (encode layout given) = .ok () := by
      rw [checkLength_eq_ok_iff]
      intro slot found
      exact read_encode given found
    have family : checkFamily layout (encode layout given) = .ok () := by
      rw [checkFamily_eq_ok_iff]
      intro slot found
      exact read_encode given found
    apply bind_eq_ok_iff.mpr
    refine ⟨(), length, bind_eq_ok_iff.mpr ⟨(), family, ?_⟩⟩
    exact congrArg Except.ok (ofRecord_encode layout given)

theorem recordOf_eq_ok_iff (octets : Octets) (record : Record) :
    recordOf octets = .ok record ↔ octets = record.octets := by
  unfold recordOf Record.ofOctets?
  constructor
  · intro made
    by_cases whole : octets.length = 28
    · rw [dif_pos whole] at made
      cases made
      rfl
    · rw [dif_neg whole] at made
      cases made
  · intro same
    subst same
    rw [dif_pos record.length_octets]

theorem decode_eq_ok_iff (layout : Layout) (octets : Octets) (given : SocketAddress) :
    decode layout octets = .ok given ↔ octets = (encode layout given).octets := by
  rw [decode, bind_eq_ok_iff]
  constructor
  · intro steps
    rcases steps with ⟨record, made, decoded⟩
    rw [recordOf_eq_ok_iff] at made
    rw [decodeRecord_eq_ok_iff] at decoded
    rw [made, decoded]
  · intro same
    exact ⟨encode layout given, (recordOf_eq_ok_iff _ _).mpr same,
      (decodeRecord_eq_ok_iff _ _ _).mpr rfl⟩

theorem recordOf_of_length_ne {octets : Octets} (other : octets.length ≠ 28) :
    recordOf octets = refuse (.recordSize octets.length) := by
  rw [recordOf, Record.ofOctets?, dif_neg other]

theorem decode_of_length_ne (layout : Layout) {octets : Octets} (other : octets.length ≠ 28) :
    decode layout octets = refuse (.recordSize octets.length) := by
  rw [decode, recordOf_of_length_ne other]
  rfl

theorem read_length_of_tag {layout : Layout} {record : Record}
    (tag : record.octets.take 2 = layout.tag) (slot : Slot)
    (found : layout.slot? .length = some slot) : record.read slot = Record.size := by
  cases layout with
  | systemV => cases found
  | bsd =>
    cases found
    have first : record.octets.take 1 = (record.octets.take 2).take 1 := by
      rw [List.take_take]
      rfl
    show Octets.readLittleEndian (record.octets.take 1) = 28
    rw [first, tag]
    rfl

theorem read_family_of_tag {layout : Layout} {record : Record}
    (tag : record.octets.take 2 = layout.tag) (slot : Slot)
    (found : layout.slot? .family = some slot) : record.read slot = Record.familyNumber := by
  cases layout with
  | systemV =>
    cases found
    show Octets.readLittleEndian (record.octets.take 2) = 10
    rw [tag]
    rfl
  | bsd =>
    cases found
    have second : (record.octets.drop 1).take 1 = (record.octets.take 2).drop 1 := by
      rw [List.drop_take]
    show Octets.readLittleEndian ((record.octets.drop 1).take 1) = 10
    rw [second, tag]
    rfl

/-- The tag is all that a record has to begin with. -/
theorem exists_decode_eq_ok_iff (layout : Layout) (octets : Octets) :
    (∃ given, decode layout octets = .ok given) ↔
      octets.length = 28 ∧ octets.take 2 = layout.tag := by
  constructor
  · intro accepted
    rcases accepted with ⟨given, decoded⟩
    rw [decode_eq_ok_iff] at decoded
    subst decoded
    refine ⟨(encode layout given).length_octets, ?_⟩
    rw [octets_encode]
    exact List.take_left' layout.length_tag
  · intro tagged
    rcases tagged with ⟨whole, tag⟩
    have record : encode layout (ofRecord ⟨octets, whole⟩) = ⟨octets, whole⟩ :=
      encode_ofRecord (read_length_of_tag tag) (read_family_of_tag tag)
    exact ⟨_, (decode_eq_ok_iff _ _ _).mpr (congrArg Record.octets record).symm⟩

/-! ## Refusals -/

theorem refusal_of_check {slot? : Option Slot} {good : Slot → Prop} [DecidablePred good]
    {refusal : Slot → Refusal} (invalid : ∀ slot, (refusal slot).kind = .invalidArgument)
    {fault : Fault} (failed : (match slot? with
      | none => .ok ()
      | some slot => if good slot then .ok () else refuse (refusal slot) : Except Fault Unit) =
        .error fault) :
    ∃ refusal, fault = .refused refusal ∧ refusal.kind = .invalidArgument := by
  cases slot? with
  | none => cases failed
  | some slot =>
    by_cases holds : good slot
    · simp only [if_pos holds] at failed
      cases failed
    · simp only [if_neg holds] at failed
      cases failed
      exact ⟨refusal slot, rfl, invalid slot⟩

/-- A record is refused as an argument, never in another way. -/
theorem refusal_of_decodeRecord {layout : Layout} {record : Record} {fault : Fault}
    (failed : decodeRecord layout record = .error fault) :
    ∃ refusal, fault = .refused refusal ∧ refusal.kind = .invalidArgument := by
  rcases bind_eq_error_iff.mp failed with length | ⟨_, _, later⟩
  · exact refusal_of_check (fun _ => rfl) length
  · rcases bind_eq_error_iff.mp later with family | ⟨_, _, made⟩
    · exact refusal_of_check (fun _ => rfl) family
    · cases made

theorem refusal_of_decode {layout : Layout} {octets : Octets} {fault : Fault}
    (failed : decode layout octets = .error fault) :
    ∃ refusal, fault = .refused refusal ∧ refusal.kind = .invalidArgument := by
  rcases bind_eq_error_iff.mp failed with size | ⟨_, _, later⟩
  · rw [recordOf] at size
    split at size <;> cases size
    exact ⟨_, rfl, rfl⟩
  · exact refusal_of_decodeRecord later

theorem decode_cons_cons (layout : Layout) (first second : UInt8) {rest : Octets}
    (length : rest.length = 26) :
    decode layout (first :: second :: rest) =
      decodeRecord layout ⟨first :: second :: rest, by simp [length]⟩ := by
  have made := (recordOf_eq_ok_iff (first :: second :: rest)
    ⟨first :: second :: rest, by simp [length]⟩).mpr rfl
  rw [decode, made]
  rfl

theorem decode_other_length {first : UInt8} (second : UInt8) {rest : Octets}
    (length : rest.length = 26) (other : first ≠ 28) :
    decode .bsd (first :: second :: rest) = refuse (.recordLength first.toNat) := by
  rw [decode_cons_cons _ _ _ length]
  have found : first.toNat ≠ Record.size := by
    intro same
    exact other (UInt8.toNat_inj.mp same)
  have checked : checkLength .bsd ⟨first :: second :: rest, by simp [length]⟩ =
      refuse (.recordLength first.toNat) := if_neg found
  rw [decodeRecord, checked]
  rfl

theorem decode_other_family_bsd {second : UInt8} {rest : Octets} (length : rest.length = 26)
    (other : second ≠ 10) :
    decode .bsd (28 :: second :: rest) = refuse (.recordFamily second.toNat) := by
  rw [decode_cons_cons _ _ _ length]
  have found : second.toNat ≠ Record.familyNumber := by
    intro same
    exact other (UInt8.toNat_inj.mp same)
  have whole : checkLength .bsd ⟨28 :: second :: rest, by simp [length]⟩ = .ok () := by
    rw [checkLength_eq_ok_iff]
    intro slot found
    cases found
    rfl
  have checked : checkFamily .bsd ⟨28 :: second :: rest, by simp [length]⟩ =
      refuse (.recordFamily second.toNat) := if_neg found
  rw [decodeRecord, whole]
  show checkFamily _ _ >>= _ = _
  rw [checked]
  rfl

theorem decode_other_family_systemV {first second : UInt8} {rest : Octets}
    (length : rest.length = 26) (other : [first, second] ≠ [10, 0]) :
    decode .systemV (first :: second :: rest) =
      refuse (.recordFamily (first.toNat + 256 * second.toNat)) := by
  rw [decode_cons_cons _ _ _ length]
  have found : first.toNat + 256 * second.toNat ≠ Record.familyNumber := by
    intro same
    have sum : first.toNat + 256 * second.toNat = 10 := same
    have low : first = 10 := by
      apply UInt8.toNat_inj.mp
      show first.toNat = 10
      omega
    have high : second = 0 := by
      apply UInt8.toNat_inj.mp
      show second.toNat = 0
      omega
    apply other
    rw [low, high]
  have checked : checkFamily .systemV ⟨first :: second :: rest, by simp [length]⟩ =
      refuse (.recordFamily (first.toNat + 256 * second.toNat)) := if_neg found
  show checkFamily _ _ >>= _ = _
  rw [checked]
  rfl

/-! ## Values -/

/-- A socket address handed over as octets and three numbers. -/
def encodeGiven (layout : Layout) (kind : OctetsKind) (given : SocketAddress) :
    Except Fault Record :=
  encodeValues layout (.octets kind given.address.octets) (.integer given.port.toNat)
    (.integer given.flow.toNat) (.integer given.scope.toNat)

theorem fieldNumber_integer {width number : Nat} (fits : number < Octets.capacity width) :
    fieldNumber width (.integer number) = .ok number := by
  have inside : (0 : Int) ≤ number ∧ (number : Int) < Octets.capacity width :=
    ⟨Int.natCast_nonneg number, Int.ofNat_lt.mpr fits⟩
  have stored : Value.stored width (.integer number) = .ok number := if_pos inside
  exact stored

/-- Sixteen octets are no reason to refuse anything, so all depends on the numbers. -/
theorem encodeValues_octets (layout : Layout) (kind : OctetsKind) (address : Address)
    (port flow scope : Value) :
    encodeValues layout (.octets kind address.octets) port flow scope = (do
      let inRange ← isPortInRange port
      if inRange then pure () else refuse (.portOutOfRange port)
      let portNumber ← fieldNumber 2 port
      let flowNumber ← fieldNumber 4 flow
      let scopeNumber ← fieldNumber 4 scope
      return encode layout ⟨address, .ofNat portNumber, .ofNat flowNumber, .ofNat scopeNumber⟩) := by
  have sixteen := address.length_octets
  have octets : addressOctets (.octets kind address.octets) = .ok address.octets := if_pos sixteen
  rw [encodeValues, Value.length?, octets]
  simp only [sixteen, if_true]
  rfl

theorem encodeGiven_eq (layout : Layout) (kind : OctetsKind) (given : SocketAddress) :
    encodeGiven layout kind given = .ok (encode layout given) := by
  have range : isPortInRange (.integer given.port.toNat) = .ok true := by
    have bound := given.port.toNat_lt
    simp only [isPortInRange, Except.ok.injEq, Bool.and_eq_true, decide_eq_true_eq]
    omega
  have port : fieldNumber 2 (.integer given.port.toNat) = .ok given.port.toNat :=
    fieldNumber_integer given.port.toNat_lt
  have flow : fieldNumber 4 (.integer given.flow.toNat) = .ok given.flow.toNat :=
    fieldNumber_integer given.flow.toNat_lt
  have scope : fieldNumber 4 (.integer given.scope.toNat) = .ok given.scope.toNat :=
    fieldNumber_integer given.scope.toNat_lt
  rw [encodeGiven, encodeValues_octets, range, port, flow, scope]
  show Except.ok (encode layout ⟨given.address, UInt16.ofNat given.port.toNat,
    UInt32.ofNat given.flow.toNat, UInt32.ofNat given.scope.toNat⟩) = _
  rw [UInt16.ofNat_toNat, UInt32.ofNat_toNat, UInt32.ofNat_toNat]

theorem decodeValue_octets (layout : Layout) (kind : OctetsKind) (octets : Octets) :
    decodeValue layout (.octets kind octets) = decode layout octets := by
  have same : recordOfPayload (.literal octets) = recordOf octets := by
    by_cases whole : octets.length = 28
    · exact if_pos whole
    · rw [recordOf_of_length_ne whole]
      exact if_neg whole
  show (recordOfPayload (.literal octets) >>= _) = _
  rw [same]
  rfl

theorem tagged_octets_are_socket_addresses :
    (∀ layout kind given, encodeGiven layout kind given = .ok (encode layout given) ∧
      (encode layout given).octets = layout.tag ++ given.body ∧
      ∀ kind', decodeValue layout (.octets kind' (encode layout given).octets) = .ok given) ∧
    (∀ layout kind octets, (∃ given, decodeValue layout (.octets kind octets) = .ok given) ↔
      octets.length = 28 ∧ octets.take 2 = layout.tag) ∧
    (∀ layout kind octets given, decodeValue layout (.octets kind octets) = .ok given →
      ∃ record, encodeGiven layout .constant given = .ok record ∧ record.octets = octets) ∧
    (∀ layout kind octets, octets.length ≠ 28 →
      decodeValue layout (.octets kind octets) = refuse (.recordSize octets.length)) ∧
    (∀ kind first second rest, rest.length = 26 →
      (first ≠ 28 → decodeValue .bsd (.octets kind (first :: second :: rest)) =
        refuse (.recordLength first.toNat)) ∧
      (second ≠ 10 → decodeValue .bsd (.octets kind (28 :: second :: rest)) =
        refuse (.recordFamily second.toNat)) ∧
      ([first, second] ≠ [10, 0] → decodeValue .systemV (.octets kind (first :: second :: rest)) =
        refuse (.recordFamily (first.toNat + 256 * second.toNat)))) ∧
    (∀ number : Nat, (Refusal.recordSize number).kind = .invalidArgument ∧
      (Refusal.recordSize number).code = 22 ∧
      (Refusal.recordLength number).kind = .invalidArgument ∧
      (Refusal.recordLength number).code = 22 ∧
      (Refusal.recordFamily number).kind = .invalidArgument ∧
      (Refusal.recordFamily number).code = 97) ∧
    (∀ given, (encode .systemV given).octets.drop 2 = (encode .bsd given).octets.drop 2) ∧
    (∀ kind octets, ¬ ((∃ given, decodeValue .systemV (.octets kind octets) = .ok given) ∧
      ∃ given, decodeValue .bsd (.octets kind octets) = .ok given)) := by
  simp only [decodeValue_octets]
  refine ⟨?_, ?_, ?_, ?_, ?_, ?_, ?_, ?_⟩
  · intro layout kind given
    refine ⟨encodeGiven_eq layout kind given, octets_encode layout given, fun _ => ?_⟩
    exact (decode_eq_ok_iff layout _ given).mpr rfl
  · intro layout _ octets
    exact exists_decode_eq_ok_iff layout octets
  · intro layout _ octets given decoded
    have same := (decode_eq_ok_iff layout octets given).mp decoded
    exact ⟨_, encodeGiven_eq layout .constant given, same.symm⟩
  · intro layout _ octets other
    exact decode_of_length_ne layout other
  · intro _ first second rest length
    exact ⟨decode_other_length second length, decode_other_family_bsd length,
      decode_other_family_systemV length⟩
  · intro number
    exact ⟨rfl, rfl, rfl, rfl, rfl, rfl⟩
  · intro given
    rw [octets_encode, octets_encode]
    rfl
  · intro _ octets both
    rcases both with ⟨first, second⟩
    rw [exists_decode_eq_ok_iff] at first second
    exact Layout.tag_ne (first.2.symm.trans second.2)

theorem tagged_octets_are_socket_addresses_loopback :
    (∃ record, encodeGiven .systemV .constant ⟨.loopback, 80, 7, 2⟩ = .ok record ∧
      record.octets = (encode .systemV ⟨.loopback, 80, 7, 2⟩).octets) ∧
    decodeValue .systemV (.octets .buffer (Octets.zeros 27)) = refuse (.recordSize 27) ∧
    decodeValue .bsd (.octets .view (16 :: 10 :: Octets.zeros 26)) = refuse (.recordLength 16) ∧
    decodeValue .bsd (.octets .view (28 :: 2 :: Octets.zeros 26)) = refuse (.recordFamily 2) ∧
    decodeValue .systemV (.octets .view (2 :: 1 :: Octets.zeros 26)) =
      refuse (.recordFamily 258) := by
  obtain ⟨written, _, restored, short, tagged, _⟩ := tagged_octets_are_socket_addresses
  refine ⟨?_, ?_, ?_, ?_, ?_⟩
  · exact restored .systemV .constant _ _ ((written .systemV .constant _).2.2 .constant)
  · exact short .systemV .buffer (Octets.zeros 27) (by decide)
  · exact (tagged .view 16 10 (Octets.zeros 26) rfl).1 (by decide)
  · exact (tagged .view 28 2 (Octets.zeros 26) rfl).2.1 (by decide)
  · exact (tagged .view 2 1 (Octets.zeros 26) rfl).2.2 (by decide)

end SocketAddress

end IPv6
