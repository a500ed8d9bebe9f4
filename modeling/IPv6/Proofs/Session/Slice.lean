import IPv6.Proofs.SocketAddress.Fields
import IPv6.Session.Slice
/-!
Slices lie inside the octets they are taken of, and a write puts as many octets in their place.
-/

namespace IPv6.Slice

/-- Both ends lie inside so many octets. -/
structure Fits (slice : Slice) (length : Nat) : Prop where
  start : slice.start ≤ length
  stop : slice.stop ≤ length

theorem position_le (length : Nat) (bound : Int) : position length bound ≤ length := by
  unfold position
  split
  · omega
  · exact Nat.min_le_right _ _

theorem ofBounds?_fits (length : Nat) (start? stop? : Option Int) :
    (ofBounds? length start? stop?).Fits length := ⟨position_le _ _, position_le _ _⟩

theorem Fits.start_add_size {slice : Slice} {length : Nat} (fits : slice.Fits length) :
    slice.start + slice.size ≤ length := by
  have start := fits.start
  have stop := fits.stop
  unfold size
  omega

theorem write_eq_ok_iff {slice : Slice} {octets replacement written : Octets} :
    slice.write octets replacement = .ok written ↔ replacement.length = slice.size ∧
      written = octets.take slice.start ++ replacement ++
        octets.drop (slice.start + replacement.length) := by
  unfold write
  by_cases equal : replacement.length = slice.size
  · rw [if_pos equal]
    simp [equal, eq_comm]
  · simp [equal]

theorem write_of_length_ne {slice : Slice} {octets replacement : Octets}
    (other : replacement.length ≠ slice.size) :
    slice.write octets replacement = .error .wrongValue := if_neg other

theorem length_of_write {slice : Slice} {octets replacement written : Octets}
    (fits : slice.Fits octets.length) (done : slice.write octets replacement = .ok written) :
    written.length = octets.length := by
  rcases write_eq_ok_iff.mp done with ⟨equal, rfl⟩
  have inside := fits.start_add_size
  simp only [List.length_append, List.length_take, List.length_drop, equal]
  omega

/-- In a record, a write is a replacement. -/
theorem write_record {slice : Slice} {record : Record} (fits : slice.Fits Record.size)
    {replacement written : Octets} (done : slice.write record.octets replacement = .ok written) :
    written = (record.replace slice.start replacement).octets := by
  rcases write_eq_ok_iff.mp done with ⟨equal, rfl⟩
  have inside := fits.start_add_size
  have room : slice.start + replacement.length ≤ 28 := equal ▸ inside
  rw [Record.octets_replace record room, List.append_assoc]

end IPv6.Slice
