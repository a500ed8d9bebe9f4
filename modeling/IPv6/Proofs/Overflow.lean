import IPv6.Proofs.SocketAddress.Integers
import IPv6.Proofs.Table.Numbers
/-!
Plain integers out of range. Vectors and rows are stored in octets before they are looked at, so that an
integer below 0 or above 255 is an overflow and no refusal; from 16 to 255 it is refused as a nibble. Of the
numbers of a socket address only the port is looked at.
-/

namespace IPv6

open Value (Nested leaves octetGrid depthLimit)

namespace Value

/-- An octet holds each of the numbers. -/
def AllOctets (numbers : List Int) : Prop := ∀ number ∈ numbers, 0 ≤ number ∧ number < 256

theorem exists_storedAs_integer_iff {width : Nat} {number : Int} :
    (∃ stored, StoredAs width (.integer number) stored) ↔
      0 ≤ number ∧ number < Octets.capacity width := by
  constructor
  · rintro ⟨stored, held⟩
    cases held with
    | fits part inside =>
      cases part with
      | integral integral =>
        cases integral
        exact inside
  · intro inside
    exact ⟨_, .fits (.integral (.integer number)) inside⟩

section Integers

variable {value : Value} {shape : List Nat} {numbers : List Int}

theorem exists_octetGrid_integers_iff (nested : Nested value shape)
    (integers : leaves value = numbers.map .integer) :
    (∃ cells, octetGrid value = .ok cells) ↔ shape.length ≤ depthLimit ∧ AllOctets numbers := by
  rw [nested.exists_octetGrid_iff, integers, List.forall_mem_map]
  simp only [exists_storedAs_integer_iff]
  exact Iff.rfl

/-- The first integer that does not fit stops the storing. -/
theorem entries_of_outside (nested : Nested value shape)
    (integers : leaves value = numbers.map .integer) (outside : ¬ AllOctets numbers) :
    entries 1 value = .error .overflow := by
  have stored (number : Int) : stored 1 (.integer number) =
      if 0 ≤ number ∧ number < 256 then .ok number.toNat else .error .overflow :=
    stored_integer 1 number
  rcases Table.forall_or_first (fun number => 0 ≤ number ∧ number < 256) numbers with
    every | ⟨before, number, after, rfl, accepted, refused⟩
  · exact absurd every outside
  · rw [entries_of_leaves nested.isNumber, integers, List.map_append, List.map_cons]
    apply Table.mapM_of_first_error
    · rw [List.forall_mem_map]
      intro earlier member
      exact ⟨_, (stored earlier).trans (if_pos (accepted earlier member))⟩
    · exact (stored number).trans (if_neg refused)

/-- What becomes of integers that cannot be stored. -/
def outsideFault (shape : List Nat) : Fault :=
  if depthLimit < shape.length then .wrongValue else .overflow

theorem octetGrid_of_outside (nested : Nested value shape)
    (integers : leaves value = numbers.map .integer)
    (outside : ¬ (shape.length ≤ depthLimit ∧ AllOctets numbers)) :
    octetGrid value = .error (outsideFault shape) := by
  rw [octetGrid, nested.shape?_eq, outsideFault]
  by_cases deep : depthLimit < shape.length
  · simp only [if_pos deep]
  · have failed := entries_of_outside nested integers fun every =>
      outside ⟨Nat.not_lt.mp deep, every⟩
    simp only [if_neg deep, failed]
    rfl

theorem outsideFault_ne (shape : List Nat) (refusal : Refusal) :
    outsideFault shape ≠ .refused refusal := by
  rw [outsideFault]
  split <;> nofun

theorem leaves_integers (kind : SequenceKind) (numbers : List Int) :
    leaves (.sequence kind (numbers.map .integer)) = numbers.map .integer := by
  rw [leaves_sequence, List.flatMap_map, List.map_eq_flatMap]
  rfl

theorem nested_integers (kind : SequenceKind) (numbers : List Int) :
    Nested (.sequence kind (numbers.map .integer)) [numbers.length] := by
  cases numbers with
  | nil => exact .empty kind
  | cons number rest =>
    rw [← List.length_map Value.integer]
    refine .sequence kind (List.cons_ne_nil _ _) (List.forall_mem_map.mpr fun given _ => ?_)
    exact .number (Integral.integer given).isNumber

end Integers

end Value

/-! ## What is looked at afterwards -/

section Grids

variable {value : Value}

theorem Address.reports_of_octetGrid {cells : Grid} (read : octetGrid value = .ok cells) :
    Reports (ofNibbleVector value) .invalidAddressFormat := by
  rw [ofNibbleVector, read]
  by_cases column : cells.shape = [32]
  · simp only [if_pos column]
    cases ofNibbles? (cells.entries.map Int.toNat) with
    | some address => exact .inl ⟨address, rfl⟩
    | none => exact .inr ⟨_, rfl, rfl⟩
  · simp only [if_neg column]
    exact .inr ⟨_, rfl, rfl⟩

theorem Table.reports_of_octetGrid {cells : Grid} (read : octetGrid value = .ok cells) :
    Reports (addressesOfMatrix value) .invalidArgument := by
  rcases matrix_or_refused read with ⟨addresses, _, taken⟩ | refused
  · exact .inl ⟨addresses, taken⟩
  · exact .inr ⟨_, refused, rfl⟩

end Grids

/-! ## Integers -/

section Integers

variable {value : Value} {shape : List Nat} {numbers : List Int}

/-- A reader that says which grids it does not take, and looks at nothing but the grid. -/
theorem reportedIf_of_octetGrid {Result : Type} {outcome : Except Fault Result} {kind : RefusalKind}
    (nested : Nested value shape) (integers : leaves value = numbers.map .integer)
    (reports : ∀ cells, octetGrid value = .ok cells → Reports outcome kind)
    (passes : ∀ fault, octetGrid value = .error fault → outcome = .error fault) :
    ReportedIf (shape.length ≤ depthLimit ∧ Value.AllOctets numbers) outcome kind
      (Value.outsideFault shape) := by
  refine .of_cases (Value.outsideFault_ne shape) ?_ ?_
  · intro inside
    rcases (Value.exists_octetGrid_integers_iff nested integers).mpr inside with ⟨cells, read⟩
    exact reports cells read
  · intro outside
    exact passes _ (Value.octetGrid_of_outside nested integers outside)

theorem Address.nibbles_reportedIf (kind : SequenceKind) (numbers : List Int) :
    ReportedIf (Value.AllOctets numbers) (ofNibbleVector (.sequence kind (numbers.map .integer)))
      .invalidAddressFormat .overflow := by
  have passes (fault : Fault)
      (failed : octetGrid (.sequence kind (numbers.map .integer)) = .error fault) :
      ofNibbleVector (.sequence kind (numbers.map .integer)) = .error fault := by
    rw [ofNibbleVector, failed]
  have reported := reportedIf_of_octetGrid (Value.nested_integers kind numbers)
    (Value.leaves_integers kind numbers) (fun _ => reports_of_octetGrid) passes
  have shallow : [numbers.length].length ≤ depthLimit := Nat.le_of_ble_eq_true rfl
  rw [and_iff_right shallow] at reported
  exact reported

theorem Table.rows_reportedIf (nested : Nested value shape)
    (integers : leaves value = numbers.map .integer) :
    ReportedIf (shape.length ≤ depthLimit ∧ Value.AllOctets numbers) (addressesOfMatrix value)
      .invalidArgument (Value.outsideFault shape) := by
  apply reportedIf_of_octetGrid nested integers
  · intro cells read
    exact reports_of_octetGrid read
  · intro fault failed
    rw [addressesOfMatrix, failed]
    rfl

end Integers

namespace SocketAddress

open IntegerValue (plain)

theorem encodeValues_reportedIf (layout : Layout) (kind : OctetsKind) (address : Address)
    (port flow scope : Int) :
    ReportedIf ((plain port).InRange 2 → (plain flow).InRange 4 ∧ (plain scope).InRange 4)
      (encodeValues layout (.octets kind address.octets) (plain port).value (plain flow).value
        (plain scope).value)
      .invalidArgument .overflow := by
  by_cases inside : (plain port).InRange 2
  · have stored (number : Int) (width : Nat) : (plain number).value.stored width =
        if (plain number).InRange width then .ok number.toNat else .error .overflow :=
      Value.stored_integer width number
    refine .of_cases nofun ?_ ?_
    · intro fitting
      rcases fitting inside with ⟨flows, scopes⟩
      exact .inl ⟨_, encodeValues_eq_ok_iff.mpr ⟨inside, .inl flows, .inl scopes, rfl⟩⟩
    · intro outside
      rw [encodeValues_of_port_inside inside, stored, stored]
      by_cases flows : (plain flow).InRange 4
      · have scopes : ¬ (plain scope).InRange 4 := fun scopes => outside fun _ => ⟨flows, scopes⟩
        rw [if_pos flows, if_neg scopes]
        rfl
      · rw [if_neg flows]
        rfl
  · refine .of_cases nofun (fun _ => ?_) fun outside => ?_
    · rw [encodeValues_of_port_outside inside]
      exact .inr ⟨_, rfl, rfl⟩
    · exact absurd (fun inside' => absurd inside' inside) outside

end SocketAddress

/-! ## All three -/

/-- Where plain integers are nibbles, rows of octets or the numbers of a socket address, they are reported
as refused unless they cannot be stored. -/
theorem integers_reported_unless_outside (kind : SequenceKind) (vector : List Int) {value : Value}
    {shape : List Nat} {numbers : List Int} (nested : Nested value shape)
    (integers : leaves value = numbers.map .integer) (layout : Layout) (octets : OctetsKind)
    (address : Address) (port flow scope : Int) :
    ReportedIf (Value.AllOctets vector)
      (Address.ofNibbleVector (.sequence kind (vector.map .integer))) .invalidAddressFormat
      .overflow ∧
    ReportedIf (shape.length ≤ depthLimit ∧ Value.AllOctets numbers)
      (Table.addressesOfMatrix value) .invalidArgument (Value.outsideFault shape) ∧
    ReportedIf ((IntegerValue.plain port).InRange 2 →
        (IntegerValue.plain flow).InRange 4 ∧ (IntegerValue.plain scope).InRange 4)
      (encodeValues layout (.octets octets address.octets) (.integer port) (.integer flow)
        (.integer scope))
      .invalidArgument .overflow :=
  ⟨Address.nibbles_reportedIf kind vector, Table.rows_reportedIf nested integers,
    SocketAddress.encodeValues_reportedIf layout octets address port flow scope⟩

theorem integers_reported_unless_outside_row :
    Nested (.sequence .list [.sequence .tuple [.integer 256]]) [1, 1] ∧
    leaves (.sequence .list [.sequence .tuple [.integer 256]]) = [256].map .integer ∧
    Reports (Address.ofNibbleVector (.sequence .tuple [.integer 16])) .invalidAddressFormat ∧
    Table.addressesOfMatrix (.sequence .list [.sequence .tuple [.integer 256]]) =
      .error .overflow ∧
    encodeValues .bsd (.octets .buffer Address.loopback.octets) (.integer 80) (.integer (-1))
      (.integer 0) = .error .overflow := by
  have row : Nested (.sequence .tuple [.integer 256]) [1] := Value.nested_integers .tuple [256]
  have nested : Nested (.sequence .list [.sequence .tuple [.integer 256]]) [1, 1] :=
    .sequence .list (List.cons_ne_nil _ _) (List.forall_mem_singleton.mpr row)
  have integers : leaves (.sequence .list [.sequence .tuple [.integer 256]]) =
      [256].map .integer := rfl
  obtain ⟨nibbles, rows, numbers⟩ := integers_reported_unless_outside .tuple [16] nested integers
    .bsd .buffer .loopback 80 (-1) 0
  refine ⟨nested, integers, nibbles.reports_iff.mpr ?_, rows.escapes ?_, numbers.escapes ?_⟩
  · exact List.forall_mem_singleton.mpr (by decide)
  · rintro ⟨_, every⟩
    exact absurd (every 256 List.mem_cons_self) (by decide)
  · intro fitting
    exact absurd (fitting (by decide)).1 (by decide)

/-- Of the integers that are no nibbles, some are refused and others are not. -/
theorem large_nibble_not_reported :
    Address.ofNibbleVector (withZeros (.integer 256)) = .error .overflow ∧
    ¬ Reports (Address.ofNibbleVector (withZeros (.integer 256))) .invalidAddressFormat := by
  have reported := Address.nibbles_reportedIf .list (256 :: List.replicate 31 0)
  have outside : ¬ Value.AllOctets (256 :: List.replicate 31 0) := fun every =>
    absurd (every 256 List.mem_cons_self) (by decide)
  have same : withZeros (.integer 256) =
      .sequence .list ((256 :: List.replicate 31 0).map .integer) := rfl
  rw [same, reported.reports_iff]
  exact ⟨reported.escapes outside, outside⟩

end IPv6
