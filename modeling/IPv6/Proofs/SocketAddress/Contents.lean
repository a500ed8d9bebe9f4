import IPv6.Proofs.Address.Digits
import IPv6.Proofs.Address.Prefixes
import IPv6.Proofs.SocketAddress.Integers
/-!
What the fields of a record hold, and the values that fit them. A number stands in its field with the most
significant octet in front where the field is kept in network order, and behind elsewhere. A value that
fits a field replaces the octets of the field and is loaded from there again.
-/

namespace IPv6

/-! ## Contents -/

namespace Field

/-- A value that fits the field, and what is loaded once it is stored there: an integer of any kind below
the bound of the field, or for the address its octets in one row. -/
inductive Fits (slot : Slot) : Field → Value → Value → Prop
  | number {field : Field} {given : Value} {number : Nat} (other : field ≠ .address)
      (integral : given.Integral number) (small : number < 2 ^ (8 * slot.size)) :
      Fits slot field given (.integer number)
  | octets {given : Value} {octets : Octets} (row : given.Arranged [slot.size] octets) :
      Fits slot .address given (.octets .constant octets)

/-- What the octets of a field say: a number by its digits to the base 256, or the octets themselves. -/
inductive Shows : Field → Octets → Value → Prop
  | networkOrder {field : Field} {octets : Octets} {number : Nat}
      (network : field = .port ∨ field = .flow)
      (digits : Text.Positional 256 (octets.map UInt8.toNat) number) :
      Shows field octets (.integer number)
  | hostOrder {field : Field} {octets : Octets} {number : Nat}
      (host : field = .length ∨ field = .family ∨ field = .scope)
      (digits : Text.Positional 256 (octets.reverse.map UInt8.toNat) number) :
      Shows field octets (.integer number)
  | octets (octets : Octets) : Shows .address octets (.octets .constant octets)

/-- What is loaded from the octets of the field. -/
def content (field : Field) (slot : Slot) (octets : Octets) : Value :=
  match field with
  | .address => .octets .constant octets
  | _ => .integer (slot.order.read octets)

variable {layout : Layout} {field : Field} {slot : Slot}

theorem shows_content (found : layout.slot? field = some slot) (octets : Octets) :
    field.Shows octets (field.content slot octets) := by
  have most := Address.positional_octets octets
  have least : Text.Positional 256 (octets.reverse.map UInt8.toNat)
      (Octets.readLittleEndian octets) := by
    have reversed := Address.positional_octets octets.reverse
    rwa [Octets.readBigEndian, List.reverse_reverse] at reversed
  cases layout <;> cases field <;> cases found <;>
    first
    | exact .networkOrder (by decide) most
    | exact .hostOrder (by decide) least
    | exact .octets octets

/-- As many octets are told apart by what they say. -/
theorem content_injective {octets octets' : Octets} (same : octets.length = octets'.length)
    (equal : field.content slot octets = field.content slot octets') : octets = octets' := by
  have read (numbers : slot.order.read octets = slot.order.read octets') : octets = octets' := by
    rw [← slot.order.write_read octets, numbers, same, slot.order.write_read]
  cases field with
  | address => exact (Value.octets.inj equal).2
  | _ => exact read (Int.ofNat.inj (Value.integer.inj equal))

/-! ## Storing and loading -/

theorem find?_name (found : layout.slot? field = some slot) :
    layout.find? field.name = some (field, slot) := by
  cases layout <;> cases field <;> cases found <;> rfl

theorem loadNamed_name (layout : Layout) (record : Record) (field : Field) :
    loadNamed layout record field.name =
      match layout.slot? field with
      | some slot => .ok (field.content slot (record.segment slot.offset slot.size))
      | none => .error .wrongValue := by
  cases layout <;> cases field <;> rfl

theorem fieldOctets_of_arranged {given : Value} {octets : Octets}
    (row : given.Arranged [16] octets) : fieldOctets 16 given = .ok octets := by
  have sixteen : octets.length = 16 := row.length_eq
  have restored : (octets.map UInt8.toNat).map UInt8.ofNat = octets := by
    rw [List.map_map]
    exact (List.map_congr_left fun octet _ => UInt8.ofNat_toNat).trans (List.map_id octets)
  have spreads : spread 16 (octets.map UInt8.toNat) = .ok octets := by
    rw [spread, restored]
    split
    case h_1 => cases sixteen
    case h_2 => exact if_pos sixteen
  rw [fieldOctets, row.shape?_eq]
  dsimp only
  split <;> rw [if_neg (by decide), row.entries_eq, ok_bind, spreads]

/-- A value that fits takes the place of the octets of the field, whatever they are. -/
theorem Fits.exists_octets {given content : Value} (fits : field.Fits slot given content)
    (found : layout.slot? field = some slot) :
    ∃ octets : Octets, octets.length = slot.size ∧ field.content slot octets = content ∧
      ∀ record, storeNamed layout record field.name given = .ok (record.replace slot.offset octets) := by
  cases fits with
  | @number _ _ number other integral small =>
    have inside : number < Octets.capacity slot.size := by rwa [Octets.capacity_eq_pow]
    have stored : fieldNumber slot.size given = .ok number := by
      rw [SocketAddress.fieldNumber_of_isNumber integral.isNumber]
      exact Value.stored_of_toInteger integral.toInteger_eq
        ⟨Int.natCast_nonneg number, Int.ofNat_lt.mpr inside⟩
    have restored : slot.order.read (slot.order.write slot.size number) = number := by
      rw [ByteOrder.read_write, Nat.mod_eq_of_lt inside]
    refine ⟨slot.order.write slot.size number, slot.order.length_write _ _, ?_, fun record => ?_⟩
    · cases field <;> first | exact absurd rfl other | exact congrArg (Value.integer ∘ Int.ofNat) restored
    · rw [storeNamed, find?_name found]
      cases field <;> first | exact absurd rfl other | skip
      all_goals
        show (fieldNumber slot.size given >>= _) = _
        rw [stored]
        rfl
  | @octets _ octets row =>
    rw [layout.slot?_address] at found
    cases found
    refine ⟨octets, row.length_eq, rfl, fun record => ?_⟩
    rw [storeNamed, find?_name layout.slot?_address]
    show (fieldOctets 16 given >>= _) = _
    rw [fieldOctets_of_arranged row]
    rfl

/-- Whatever octets a field holds, some value fits it with them. -/
theorem exists_fits_content (found : layout.slot? field = some slot) {octets : Octets}
    (whole : octets.length = slot.size) : ∃ given, field.Fits slot given (field.content slot octets) := by
  have small : slot.order.read octets < 2 ^ (8 * slot.size) := by
    rw [← Octets.capacity_eq_pow, ← whole]
    exact slot.order.read_lt octets
  have fits (other : field ≠ .address) :
      ∃ given, field.Fits slot given (.integer (slot.order.read octets)) :=
    ⟨_, .number other (.integer _) small⟩
  cases field with
  | address =>
    refine ⟨.octets .buffer octets, .octets ?_⟩
    rw [← whole]
    exact .buffer octets
  | _ => exact fits nofun

end Field

end IPv6
