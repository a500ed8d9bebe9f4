import IPv6.SocketAddress.Record
import Mathlib.Data.List.Basic
/-!
The fields of a record are independent. What is written to one reads back, the others read as before,
and the fields of a layout together make up the whole record.
-/

namespace IPv6

namespace ByteOrder

theorem read_write (order : ByteOrder) (width number : Nat) :
    order.read (order.write width number) = number % Octets.capacity width := by
  cases order with
  | leastFirst => exact Octets.readLittleEndian_littleEndian width number
  | mostFirst => exact Octets.readBigEndian_bigEndian width number

theorem write_read (order : ByteOrder) (octets : Octets) :
    order.write octets.length (order.read octets) = octets := by
  cases order with
  | leastFirst => exact Octets.littleEndian_readLittleEndian octets
  | mostFirst => exact Octets.bigEndian_readBigEndian octets

theorem read_lt (order : ByteOrder) (octets : Octets) :
    order.read octets < Octets.capacity octets.length := by
  cases order with
  | leastFirst => exact Octets.readLittleEndian_lt octets
  | mostFirst => exact Octets.readBigEndian_lt octets

end ByteOrder

namespace Slot

/-- The octets of the slot lie in a record. -/
def Fits (slot : Slot) : Prop := slot.offset + slot.size ≤ Record.size

/-- No octet belongs to both. -/
def Apart (slot other : Slot) : Prop :=
  slot.offset + slot.size ≤ other.offset ∨ other.offset + other.size ≤ slot.offset

end Slot

namespace Layout

/-! Behind the family the layouts agree. -/

theorem slot?_port (layout : Layout) : layout.slot? .port = some ⟨2, 2, .mostFirst⟩ := by
  cases layout <;> rfl

theorem slot?_flow (layout : Layout) : layout.slot? .flow = some ⟨4, 4, .mostFirst⟩ := by
  cases layout <;> rfl

theorem slot?_address (layout : Layout) : layout.slot? .address = some ⟨8, 16, .mostFirst⟩ := by
  cases layout <;> rfl

theorem slot?_scope (layout : Layout) : layout.slot? .scope = some ⟨24, 4, .leastFirst⟩ := by
  cases layout <;> rfl

theorem slot_fits {layout : Layout} {field : Field} {slot : Slot}
    (found : layout.slot? field = some slot) : slot.Fits := by
  cases layout <;> cases field <;> cases found <;> exact Nat.le_of_ble_eq_true rfl

theorem slots_apart {layout : Layout} {field other : Field} {slot slot' : Slot}
    (found : layout.slot? field = some slot) (found' : layout.slot? other = some slot')
    (different : field ≠ other) : slot.Apart slot' := by
  cases layout <;> cases field <;> cases found <;> cases other <;> cases found' <;>
    first
    | exact absurd rfl different
    | exact .inl (Nat.le_of_ble_eq_true rfl)
    | exact .inr (Nat.le_of_ble_eq_true rfl)

end Layout

namespace Record

theorem ext_octets {left right : Record} (same : left.octets = right.octets) : left = right := by
  cases left
  cases right
  simpa using same

/-! ## Segments -/

theorem getElem?_segment (record : Record) (offset size place : Nat) :
    (record.segment offset size)[place]? =
      if place < size then record.octets[offset + place]? else none := by
  rw [segment, List.getElem?_take, List.getElem?_drop]

theorem length_segment (record : Record) {offset size : Nat} (fits : offset + size ≤ 28) :
    (record.segment offset size).length = size := by
  have whole := record.length_octets
  rw [segment, List.length_take, List.length_drop]
  omega

theorem segment_append (record : Record) (offset size size' : Nat) :
    record.segment offset size ++ record.segment (offset + size) size' =
      record.segment offset (size + size') := by
  rw [segment, segment, segment, List.take_add, List.drop_drop]

theorem segment_whole (record : Record) : record.segment 0 28 = record.octets := by
  rw [segment, List.drop_zero]
  exact List.take_of_length_le (Nat.le_of_eq record.length_octets)

theorem octets_replace (record : Record) {offset : Nat} {octets : Octets}
    (fits : offset + octets.length ≤ 28) :
    (record.replace offset octets).octets =
      record.octets.take offset ++ (octets ++ record.octets.drop (offset + octets.length)) := by
  rw [replace, dif_pos fits]
  exact List.append_assoc _ _ _

theorem getElem?_replace (record : Record) {offset : Nat} {octets : Octets}
    (fits : offset + octets.length ≤ 28) (place : Nat) :
    (record.replace offset octets).octets[place]? =
      if offset ≤ place ∧ place < offset + octets.length then octets[place - offset]?
      else record.octets[place]? := by
  have whole := record.length_octets
  rw [octets_replace record fits]
  by_cases before : place < offset
  · have outside : ¬ (offset ≤ place ∧ place < offset + octets.length) := by omega
    have front : place < (record.octets.take offset).length := by
      rw [List.length_take]
      omega
    rw [if_neg outside, List.getElem?_append_left front, List.getElem?_take, if_pos before]
  · have front : (record.octets.take offset).length = offset := by
      rw [List.length_take]
      omega
    have back : (record.octets.take offset).length ≤ place := by omega
    rw [List.getElem?_append_right back, front]
    by_cases inside : place < offset + octets.length
    · have both : offset ≤ place ∧ place < offset + octets.length := by omega
      have within : place - offset < octets.length := by omega
      rw [if_pos both, List.getElem?_append_left within]
    · have outside : ¬ (offset ≤ place ∧ place < offset + octets.length) := by omega
      have past : octets.length ≤ place - offset := by omega
      have rest : offset + octets.length + (place - offset - octets.length) = place := by omega
      rw [if_neg outside, List.getElem?_append_right past, List.getElem?_drop, rest]

theorem segment_replace (record : Record) {offset : Nat} {octets : Octets}
    (fits : offset + octets.length ≤ 28) :
    (record.replace offset octets).segment offset octets.length = octets := by
  apply List.ext_getElem?
  intro place
  rw [getElem?_segment]
  by_cases inside : place < octets.length
  · have both : offset ≤ offset + place ∧ offset + place < offset + octets.length := by omega
    rw [if_pos inside, getElem?_replace record fits, if_pos both, Nat.add_sub_cancel_left]
  · rw [if_neg inside, List.getElem?_eq_none (Nat.le_of_not_lt inside)]

theorem segment_replace_apart (record : Record) {offset offset' size : Nat} {octets : Octets}
    (fits : offset + octets.length ≤ 28)
    (apart : offset + octets.length ≤ offset' ∨ offset' + size ≤ offset) :
    (record.replace offset octets).segment offset' size = record.segment offset' size := by
  apply List.ext_getElem?
  intro place
  rw [getElem?_segment, getElem?_segment]
  by_cases inside : place < size
  · have outside : ¬ (offset ≤ offset' + place ∧ offset' + place < offset + octets.length) := by
      omega
    rw [if_pos inside, if_pos inside, getElem?_replace record fits, if_neg outside]
  · rw [if_neg inside, if_neg inside]

/-- What is replaced last stays. -/
theorem replace_replace (record : Record) {offset : Nat} {octets octets' : Octets}
    (fits : offset + octets.length ≤ 28) (same : octets'.length = octets.length) :
    (record.replace offset octets).replace offset octets' = record.replace offset octets' := by
  have fits' : offset + octets'.length ≤ 28 := by omega
  apply ext_octets
  apply List.ext_getElem?
  intro place
  rw [getElem?_replace _ fits', getElem?_replace _ fits', getElem?_replace _ fits, same]
  split
  · rfl
  · rfl

/-- Segments that lie apart are replaced in either order. -/
theorem replace_comm (record : Record) {offset offset' : Nat} {octets octets' : Octets}
    (fits : offset + octets.length ≤ 28) (fits' : offset' + octets'.length ≤ 28)
    (apart : offset + octets.length ≤ offset' ∨ offset' + octets'.length ≤ offset) :
    (record.replace offset octets).replace offset' octets' =
      (record.replace offset' octets').replace offset octets := by
  apply ext_octets
  apply List.ext_getElem?
  intro place
  rw [getElem?_replace _ fits', getElem?_replace _ fits, getElem?_replace _ fits,
    getElem?_replace _ fits']
  by_cases inside : offset ≤ place ∧ place < offset + octets.length
  · have outside : ¬ (offset' ≤ place ∧ place < offset' + octets'.length) := by omega
    rw [if_neg outside, if_neg outside]
  · rw [if_neg inside, if_neg inside]

/-- A segment replaced by what it holds is as it was. -/
theorem replace_segment (record : Record) {offset size : Nat} (fits : offset + size ≤ 28) :
    record.replace offset (record.segment offset size) = record := by
  have length := record.length_segment fits
  have fits' : offset + (record.segment offset size).length ≤ 28 := by rwa [length]
  apply ext_octets
  apply List.ext_getElem?
  intro place
  rw [getElem?_replace record fits', getElem?_segment, length]
  split
  case isTrue inside =>
    have within : place - offset < size := by omega
    have whole : offset + (place - offset) = place := by omega
    rw [if_pos within, whole]
  case isFalse => rfl

/-! ## Slots -/

theorem segment_write {slot : Slot} (fits : slot.Fits) (record : Record) (number : Nat) :
    (record.write slot number).segment slot.offset slot.size =
      slot.order.write slot.size number := by
  have length := slot.order.length_write slot.size number
  have inside : slot.offset + (slot.order.write slot.size number).length ≤ 28 := by rwa [length]
  have same := record.segment_replace inside
  rwa [length] at same

theorem read_write {slot : Slot} (fits : slot.Fits) (record : Record) (number : Nat) :
    (record.write slot number).read slot = number % Octets.capacity slot.size := by
  rw [read, segment_write fits, ByteOrder.read_write]

theorem segment_write_apart {slot other : Slot} (fits : slot.Fits) (apart : slot.Apart other)
    (record : Record) (number : Nat) :
    (record.write slot number).segment other.offset other.size =
      record.segment other.offset other.size := by
  have length := slot.order.length_write slot.size number
  exact segment_replace_apart record (by rwa [length]) (by rwa [length])

theorem read_write_apart {slot other : Slot} (fits : slot.Fits) (apart : slot.Apart other)
    (record : Record) (number : Nat) :
    (record.write slot number).read other = record.read other :=
  congrArg other.order.read (segment_write_apart fits apart record number)

/-- A slot holds the octets that writing its number there gives. -/
theorem segment_eq_write {slot : Slot} (fits : slot.Fits) (record : Record) :
    record.segment slot.offset slot.size = slot.order.write slot.size (record.read slot) := by
  have restored := slot.order.write_read (record.segment slot.offset slot.size)
  rw [length_segment record fits] at restored
  exact restored.symm

theorem read_lt {slot : Slot} (fits : slot.Fits) (record : Record) :
    record.read slot < Octets.capacity slot.size := by
  have bound := slot.order.read_lt (record.segment slot.offset slot.size)
  rwa [length_segment record fits] at bound

/-! ## The fields of a layout -/

theorem read_put {layout : Layout} {field other : Field} {slot : Slot}
    (found : layout.slot? field = some slot) (record : Record) (number : Nat) :
    (record.put layout other number).read slot =
      if other = field then number % Octets.capacity slot.size else record.read slot := by
  unfold put
  by_cases same : other = field
  · subst same
    rw [if_pos rfl, found]
    exact read_write (Layout.slot_fits found) record number
  · rw [if_neg same]
    cases found' : layout.slot? other with
    | none => rfl
    | some slot' =>
      exact read_write_apart (Layout.slot_fits found') (Layout.slots_apart found' found same)
        record number

/-- What is put into one field leaves the octets of the others alone. -/
theorem segment_put_apart {layout : Layout} {field other : Field} {slot : Slot}
    (found : layout.slot? other = some slot) (different : field ≠ other) (record : Record)
    (number : Nat) :
    (record.put layout field number).segment slot.offset slot.size =
      record.segment slot.offset slot.size := by
  unfold put
  cases found' : layout.slot? field with
  | none => rfl
  | some slot' =>
    exact segment_write_apart (Layout.slot_fits found') (Layout.slots_apart found' found different)
      record number

/-- The record with a number for each of the fields written in turn. -/
def putAll (layout : Layout) (number : Field → Nat) (fields : List Field) (record : Record) :
    Record :=
  fields.foldl (fun record field => record.put layout field (number field)) record

theorem read_putAll {layout : Layout} {field : Field} {slot : Slot}
    (found : layout.slot? field = some slot) (number : Field → Nat) (fields : List Field)
    (record : Record) :
    (putAll layout number fields record).read slot =
      if field ∈ fields then number field % Octets.capacity slot.size else record.read slot := by
  induction fields generalizing record with
  | nil => rfl
  | cons head rest ih =>
    have step : putAll layout number (head :: rest) record =
      putAll layout number rest (record.put layout head (number head)) := rfl
    rw [step, ih, read_put found]
    by_cases later : field ∈ rest
    · rw [if_pos later, if_pos (List.mem_cons_of_mem head later)]
    · rw [if_neg later]
      by_cases same : head = field
      · subst same
        rw [if_pos rfl, if_pos List.mem_cons_self]
      · have apart : field ∉ head :: rest := by
          rw [List.mem_cons]
          intro inside
          rcases inside with equal | later'
          · exact same equal.symm
          · exact later later'
        rw [if_neg same, if_neg apart]

/-- The fields lie one behind the other and leave no octet out. -/
theorem octets_eq_segments (layout : Layout) (record : Record) :
    record.octets =
      layout.slots.flatMap fun (_, slot) => record.segment slot.offset slot.size := by
  have tiled : record.octets = record.segment 0 2 ++ (record.segment 2 2 ++ (record.segment 4 4 ++
      (record.segment 8 16 ++ record.segment 24 4))) := by
    rw [segment_append record 8, segment_append record 4, segment_append record 2,
      segment_append record 0, segment_whole]
  cases layout with
  | systemV => simpa [Layout.slots, Layout.slot?, Field.all] using tiled
  | bsd =>
    rw [← segment_append record 0 1 1, List.append_assoc] at tiled
    simpa [Layout.slots, Layout.slot?, Field.all] using tiled

theorem mem_slots_iff {layout : Layout} {field : Field} {slot : Slot} :
    (field, slot) ∈ layout.slots ↔ layout.slot? field = some slot := by
  simp only [Layout.slots, List.mem_filterMap, Option.map_eq_some_iff, Prod.mk.injEq]
  constructor
  · intro listed
    rcases listed with ⟨_, -, _, found, rfl, rfl⟩
    exact found
  · intro found
    exact ⟨field, by cases field <;> decide, slot, found, rfl, rfl⟩

theorem ext_reads (layout : Layout) {left right : Record}
    (same : ∀ field slot, layout.slot? field = some slot → left.read slot = right.read slot) :
    left = right := by
  apply ext_octets
  rw [octets_eq_segments layout left, octets_eq_segments layout right]
  apply List.flatMap_congr
  intro entry member
  rcases entry with ⟨field, slot⟩
  have found := mem_slots_iff.mp member
  have fits := Layout.slot_fits found
  show left.segment slot.offset slot.size = right.segment slot.offset slot.size
  rw [segment_eq_write fits, segment_eq_write fits, same field slot found]

/-! ## Port and address -/

theorem octets_withPort (record : Record) (port : UInt16) :
    (record.withPort port).octets =
      record.octets.take 2 ++ (Octets.bigEndian 2 port.toNat ++ record.octets.drop 4) := by
  have length := Octets.length_bigEndian 2 port.toNat
  have fits : 2 + (Octets.bigEndian 2 port.toNat).length ≤ 28 := by omega
  calc
    (record.withPort port).octets = (record.replace 2 (Octets.bigEndian 2 port.toNat)).octets := rfl
    _ = _ := by rw [octets_replace record fits, length]

theorem octets_withAddress (record : Record) (address : Address) :
    (record.withAddress address).octets =
      record.octets.take 8 ++ (address.octets ++ record.octets.drop 24) := by
  have fits : 8 + address.octets.length ≤ 28 := by
    rw [address.length_octets]
    omega
  rw [withAddress, octets_replace record fits, address.length_octets]

theorem port_withPort (record : Record) (port : UInt16) : (record.withPort port).port = port := by
  have fits := Layout.slot_fits (Layout.slot?_port .systemV)
  have room : port.toNat % Octets.capacity 2 = port.toNat := Nat.mod_eq_of_lt port.toNat_lt
  calc
    (record.withPort port).port = UInt16.ofNat (port.toNat % Octets.capacity 2) :=
      congrArg UInt16.ofNat (read_write fits record port.toNat)
    _ = port := by rw [room, UInt16.ofNat_toNat]

theorem address_withAddress (record : Record) (address : Address) :
    (record.withAddress address).address = address := by
  have fits : 8 + address.octets.length ≤ 28 := by
    rw [address.length_octets]
    decide
  apply Address.ext_octets
  calc
    (record.withAddress address).address.octets =
        (record.replace 8 address.octets).segment 8 address.octets.length := by
      rw [address.length_octets]
      rfl
    _ = address.octets := record.segment_replace fits

theorem toNat_port (record : Record) :
    record.port.toNat = Octets.readBigEndian (record.segment 2 2) := by
  have fits := Layout.slot_fits (Layout.slot?_port .systemV)
  exact UInt16.toNat_ofNat_of_lt' (read_lt fits record)

end Record

end IPv6
