import IPv6.Proofs.Outcome
import IPv6.Value.Number
import IPv6.Value.Order
/-!
Values that are octets already. Numbers from 0 to 255 are octets, of whatever kind they are, and as a grid
every rectangular arrangement of them stands for the same octets in the same shape, unless it is nested
too deep for any grid.
-/

namespace IPv6

namespace Binary64

theorem compare?_ofInt (left right : Int) :
    (ofInt left).compare? (ofInt right) = some (Ord.compare left right) := by
  have signed_natAbs (number : Int) :
      signed (decide (number < 0)) (number.natAbs <<< 0) = number := by
    simp only [signed, Nat.shiftLeft_zero, decide_eq_true_eq]
    omega
  show some (Ord.compare (signed _ (left.natAbs <<< 0)) (signed _ (right.natAbs <<< 0))) = _
  rw [signed_natAbs, signed_natAbs]

/-- A number that equals a whole number is nothing but its whole part. -/
theorem wholePart_of_compare_eq {negative : Bool} {significand : Nat} {exponent : Int} {number : Nat}
    (same : (finite negative significand exponent).compare? (.ofInt number) = some .eq) :
    wholePart negative significand exponent = number := by
  have level : signed negative (significand <<< (exponent - min exponent 0).toNat) =
      signed (decide ((number : Int) < 0)) (number <<< (0 - min exponent 0).toNat) :=
    Std.LawfulEqOrd.eq_of_compare (Option.some.inj same)
  have positive : decide ((number : Int) < 0) = false :=
    decide_eq_false (Int.not_lt.mpr (Int.natCast_nonneg number))
  rw [positive] at level
  by_cases large : 0 ≤ exponent
  · rw [Int.min_eq_right large, Int.sub_zero] at level
    simp only [wholePart, ratio, if_pos large, Nat.div_one]
    exact level
  · have below : exponent ≤ 0 := by omega
    rw [Int.min_eq_left below, Int.sub_self, Int.zero_sub] at level
    have unit : number <<< (-exponent).toNat / 1 <<< (-exponent).toNat = number := by
      rw [Nat.shiftLeft_eq, Nat.shiftLeft_eq, Nat.one_mul, Nat.mul_div_cancel _ (Nat.two_pow_pos _)]
    simp only [wholePart, ratio, if_neg large]
    generalize number <<< (-exponent).toNat = shifted at level unit
    cases negative with
    | false =>
      have whole : significand = shifted := Int.ofNat.inj level
      rw [whole, unit]
      rfl
    | true =>
      have opposite : -(significand : Int) = shifted := level
      have none : significand = 0 := by omega
      have none' : shifted = 0 := by omega
      rw [none, ← unit, none', Nat.zero_div]
      rfl

end Binary64

namespace Value

/-! ## Numbers -/

def IsNumber (value : Value) : Prop := ∃ number, value.number? = some number

theorem entries_of_isNumber {value : Value} (numeric : value.IsNumber) (width : Nat) :
    entries width value = (stored width value).map ([·]) := by
  rcases numeric with ⟨number, found⟩
  cases value <;> first | rfl | cases found

theorem shape?_of_isNumber {value : Value} (numeric : value.IsNumber) : shape? value = some [] := by
  rcases numeric with ⟨number, found⟩
  cases value <;> first | rfl | cases found

/-- A number of any kind that equals an octet. -/
def IsOctet (value : Value) (octet : UInt8) : Prop :=
  ∃ number, value.number? = some number ∧ number.compare? (.ofInt octet.toNat) = some .eq

theorem IsOctet.isNumber {value : Value} {octet : UInt8} (same : value.IsOctet octet) :
    value.IsNumber :=
  same.imp fun _ => And.left

theorem isOctet_integer (octet : UInt8) : IsOctet (.integer octet.toNat) octet :=
  ⟨_, rfl, by rw [Binary64.compare?_ofInt, Std.compare_self]⟩

theorem wrap_eq_toNat {width : Nat} {number : Int}
    (inside : 0 ≤ number ∧ number < Octets.capacity width) : wrap width number = number.toNat := by
  rw [wrap, Int.emod_eq_of_lt inside.1 inside.2]

theorem toInteger_of_isOctet {value : Value} {octet : UInt8} (same : value.IsOctet octet) :
    toInteger value = .ok octet.toNat := by
  rcases same with ⟨number, found, level⟩
  cases value with
  | boolean flag =>
    cases found
    rw [Binary64.compare?_ofInt] at level
    rw [toInteger, Std.LawfulEqOrd.eq_of_compare (Option.some.inj level)]
  | integer given =>
    cases found
    rw [Binary64.compare?_ofInt] at level
    rw [toInteger, Std.LawfulEqOrd.eq_of_compare (Option.some.inj level)]
  | word given =>
    cases found
    rw [Binary64.compare?_ofInt] at level
    rw [toInteger, Std.LawfulEqOrd.eq_of_compare (Option.some.inj level)]
  | real given =>
    cases found
    cases number with
    | nan => cases level
    | infinite negative => cases negative <;> cases level
    | finite negative significand exponent =>
      rw [toInteger, Binary64.wholePart_of_compare_eq level]
  | _ => cases found

theorem stored_of_toInteger {width : Nat} {value : Value} {number : Int}
    (whole : toInteger value = .ok number) (inside : 0 ≤ number ∧ number < Octets.capacity width) :
    stored width value = .ok number.toNat := by
  cases value with
  | word given =>
    cases whole
    exact congrArg Except.ok (wrap_eq_toNat inside)
  | _ =>
    show (toInteger _ >>= _) = _
    rw [whole, ok_bind]
    exact if_pos inside

theorem stored_of_isOctet {value : Value} {octet : UInt8} (same : value.IsOctet octet) :
    stored 1 value = .ok octet.toNat :=
  stored_of_toInteger (toInteger_of_isOctet same)
    ⟨Int.natCast_nonneg _, Int.ofNat_lt.mpr octet.toNat_lt⟩

theorem entries_of_isOctet {value : Value} {octet : UInt8} (same : value.IsOctet octet) :
    entries 1 value = .ok [octet.toNat] := by
  rw [entries_of_isNumber same.isNumber, stored_of_isOctet same, Except.map]

/-! ## Grids -/

theorem commonShape?_eq_some_iff {items : List Value} {shape : List Nat} (some : items ≠ []) :
    commonShape? items = .some shape ↔ ∀ item ∈ items, shape? item = .some shape := by
  induction items with
  | nil => exact absurd rfl some
  | cons item rest ih =>
    cases rest with
    | nil =>
      rw [List.forall_mem_singleton]
      exact Iff.rfl
    | cons second others =>
      rw [List.forall_mem_cons, ← ih (List.cons_ne_nil _ _)]
      show (do
        let inner ← shape? item
        let outer ← commonShape? (second :: others)
        if inner = outer then return inner else none) = _ ↔ _
      cases shape? item with
      | none => exact ⟨nofun, fun same => nomatch same.1⟩
      | some inner =>
        cases commonShape? (second :: others) with
        | none => exact ⟨nofun, fun same => nomatch same.2⟩
        | some outer =>
          constructor
          · intro common
            by_cases same : inner = outer
            · subst same
              have found : Option.some inner = .some shape := (if_pos rfl).symm.trans common
              exact ⟨found, found⟩
            · cases (if_neg same).symm.trans common
          · rintro ⟨first, rest⟩
            cases first
            cases rest
            exact if_pos rfl

/-- A value is read as a grid of octets that has its shape and its entries. -/
theorem octetGrid_eq_ok_iff {value : Value} {cells : Grid} :
    octetGrid value = .ok cells ↔
      cells.element = .word .uint8 ∧ shape? value = some cells.shape ∧
        cells.shape.length ≤ depthLimit ∧
        ∃ numbers, entries 1 value = .ok numbers ∧ numbers.map Int.ofNat = cells.entries := by
  constructor
  · intro read
    rw [octetGrid] at read
    split at read
    case h_1 => cases read
    case h_2 shape found =>
      split at read
      case isTrue => cases read
      case isFalse depth =>
        rcases bind_eq_ok_iff.mp read with ⟨numbers, taken, made⟩
        rw [Grid.ofEntries?] at made
        split at made
        case h_2 => cases made
        case h_1 given whole =>
          cases made
          split at whole
          case isFalse => cases whole
          case isTrue =>
            cases whole
            exact ⟨rfl, found, Nat.not_lt.mp depth, numbers, taken, rfl⟩
  · rintro ⟨element, shape, depth, numbers, read, same⟩
    have made : Grid.ofEntries? (.word .uint8) cells.shape (numbers.map Int.ofNat) = some cells := by
      rw [same, ← element, Grid.ofEntries?, dif_pos cells.length_entries]
    simp only [octetGrid, shape, if_neg (Nat.not_lt.mpr depth), read, bind, Except.bind, made]
    rfl

/-! ## Arrangements -/

mutual

/-- Octets in a rectangular arrangement of a shape: a number by itself, a run of octets that numbers can
be taken from, a grid, or a sequence of arrangements of one shape. -/
inductive Arranged : Value → List Nat → Octets → Prop
  | number {value : Value} {octet : UInt8} (same : value.IsOctet octet) : Arranged value [] [octet]
  | buffer (octets : Octets) : Arranged (.octets .buffer octets) [octets.length] octets
  | view (octets : Octets) : Arranged (.octets .view octets) [octets.length] octets
  | grid {cells : Grid} {octets : Octets}
      (same : cells.entries = octets.map fun octet => (octet.toNat : Int)) :
      Arranged (.grid cells) cells.shape octets
  | empty (kind : SequenceKind) : Arranged (.sequence kind []) [0] []
  | sequence (kind : SequenceKind) {items : List Value} {shape : List Nat} {octets : Octets}
      (some : items ≠ []) (each : ArrangedEach shape items octets) :
      Arranged (.sequence kind items) (items.length :: shape) octets

/-- Values of one shape, with the octets of all of them. -/
inductive ArrangedEach : List Nat → List Value → Octets → Prop
  | nil (shape : List Nat) : ArrangedEach shape [] []
  | cons {shape : List Nat} {item : Value} {items : List Value} {octets others : Octets}
      (first : Arranged item shape octets) (rest : ArrangedEach shape items others) :
      ArrangedEach shape (item :: items) (octets ++ others)

end

mutual

theorem Arranged.shape?_eq {value : Value} {shape : List Nat} {octets : Octets}
    (arranged : Arranged value shape octets) : shape? value = some shape := by
  cases arranged with
  | number same => exact shape?_of_isNumber same.isNumber
  | buffer => rfl
  | view => rfl
  | grid => rfl
  | empty => rfl
  | sequence kind some each =>
    rw [shape?, (commonShape?_eq_some_iff some).mpr each.shape?_eq]
    rfl

theorem ArrangedEach.shape?_eq {items : List Value} {shape : List Nat} {octets : Octets}
    (each : ArrangedEach shape items octets) : ∀ item ∈ items, shape? item = some shape := by
  cases each with
  | nil => exact List.forall_mem_nil _
  | cons first rest => exact List.forall_mem_cons.mpr ⟨first.shape?_eq, rest.shape?_eq⟩

end

mutual

theorem Arranged.entries_eq {value : Value} {shape : List Nat} {octets : Octets}
    (arranged : Arranged value shape octets) : entries 1 value = .ok (octets.map UInt8.toNat) := by
  cases arranged with
  | number same => exact entries_of_isOctet same
  | buffer => rfl
  | view => rfl
  | grid same =>
    rw [entries, same, List.map_map]
    refine congrArg Except.ok (List.map_congr_left fun octet _ => ?_)
    exact wrap_eq_toNat ⟨Int.natCast_nonneg _, Int.ofNat_lt.mpr octet.toNat_lt⟩
  | empty => rfl
  | sequence kind some each => exact each.itemEntries_eq

theorem ArrangedEach.itemEntries_eq {items : List Value} {shape : List Nat} {octets : Octets}
    (each : ArrangedEach shape items octets) :
    itemEntries 1 items = .ok (octets.map UInt8.toNat) := by
  cases each with
  | nil => rfl
  | cons first rest =>
    show (do
      let first ← entries 1 _
      let others ← itemEntries 1 _
      return first ++ others) = _
    rw [first.entries_eq, rest.itemEntries_eq, List.map_append]
    rfl

end

mutual

theorem Arranged.length_eq {value : Value} {shape : List Nat} {octets : Octets}
    (arranged : Arranged value shape octets) : octets.length = volume shape := by
  cases arranged with
  | number same => rfl
  | buffer => exact (Nat.mul_one _).symm
  | view => exact (Nat.mul_one _).symm
  | @grid cells _ same => rw [← cells.length_entries, same, List.length_map]
  | empty => rfl
  | sequence kind some each => exact each.length_eq

theorem ArrangedEach.length_eq {items : List Value} {shape : List Nat} {octets : Octets}
    (each : ArrangedEach shape items octets) : octets.length = items.length * volume shape := by
  cases each with
  | nil => exact (Nat.zero_mul _).symm
  | cons first rest =>
    rw [List.length_append, first.length_eq, rest.length_eq, List.length_cons, Nat.succ_mul,
      Nat.add_comm]

end

/-- As a grid the arrangement keeps its shape and its octets. -/
theorem Arranged.octetGrid_eq {value : Value} {cells : Grid} {octets : Octets}
    (arranged : Arranged value cells.shape octets) (element : cells.element = .word .uint8)
    (same : cells.entries = octets.map fun octet => (octet.toNat : Int))
    (depth : cells.shape.length ≤ depthLimit) : octetGrid value = .ok cells := by
  refine octetGrid_eq_ok_iff.mpr
    ⟨element, arranged.shape?_eq, depth, octets.map UInt8.toNat, arranged.entries_eq, ?_⟩
  rw [same, List.map_map]
  rfl

theorem exists_octets {entries : List Int} (inside : ∀ entry ∈ entries, 0 ≤ entry ∧ entry < 256) :
    ∃ octets : Octets, entries = octets.map fun octet => (octet.toNat : Int) := by
  refine ⟨entries.map fun entry => UInt8.ofNat entry.toNat, ?_⟩
  rw [List.map_map]
  refine ((List.map_congr_left fun entry member => ?_).trans (List.map_id entries)).symm
  have bounds := inside entry member
  have small : entry.toNat < UInt8.size := by
    simp only [UInt8.size]
    omega
  rw [Function.comp_apply, UInt8.toNat_ofNat_of_lt' small]
  exact Int.toNat_of_nonneg bounds.1

theorem octetGrid_grid {cells : Grid} (element : cells.element = .word .uint8)
    (inside : ∀ entry ∈ cells.entries, 0 ≤ entry ∧ entry < 256)
    (depth : cells.shape.length ≤ depthLimit) : octetGrid (.grid cells) = .ok cells := by
  rcases exists_octets inside with ⟨octets, same⟩
  exact (Arranged.grid same).octetGrid_eq element same depth

theorem Arranged.exists_octetGrid {value : Value} {shape : List Nat} {octets : Octets}
    (arranged : Arranged value shape octets) (depth : shape.length ≤ depthLimit) :
    ∃ cells, octetGrid value = .ok cells ∧ cells.shape = shape := by
  have whole : (octets.map fun octet => (octet.toNat : Int)).length = volume shape := by
    rw [List.length_map, arranged.length_eq]
  let cells : Grid := ⟨.word .uint8, shape, octets.map fun octet => (octet.toNat : Int), whole⟩
  exact ⟨cells, Arranged.octetGrid_eq arranged rfl rfl depth, rfl⟩

theorem Arranged.octetGrid_of_deep {value : Value} {shape : List Nat} {octets : Octets}
    (arranged : Arranged value shape octets) (deep : depthLimit < shape.length) :
    octetGrid value = .error .wrongValue := by
  rw [octetGrid, arranged.shape?_eq]
  exact if_pos deep

/-! ## Columns -/

/-- A column of numbers stored as octets. -/
def octetColumn (numbers : List Nat) : Grid := Grid.ofList (.word .uint8) (numbers.map Int.ofNat)

theorem shape_octetColumn (numbers : List Nat) : (octetColumn numbers).shape = [numbers.length] :=
  congrArg ([·]) (List.length_map _)

theorem depth_octetColumn (numbers : List Nat) : (octetColumn numbers).shape.length ≤ depthLimit :=
  Nat.le_of_ble_eq_true rfl

theorem octetGrid_octetColumn {numbers : List Nat} (octets : ∀ number ∈ numbers, number < 256) :
    octetGrid (.grid (octetColumn numbers)) = .ok (octetColumn numbers) := by
  refine octetGrid_grid rfl ?_ (depth_octetColumn numbers)
  intro entry member
  obtain ⟨number, inside, rfl⟩ := List.mem_map.mp member
  exact ⟨Int.natCast_nonneg number, Int.ofNat_lt.mpr (octets number inside)⟩

theorem Arranged.octetGrid_column {value : Value} {octets : Octets}
    (arranged : Arranged value [octets.length] octets) :
    octetGrid value = .ok (octetColumn (octets.map UInt8.toNat)) := by
  have shape : (octetColumn (octets.map UInt8.toNat)).shape = [octets.length] := by
    rw [shape_octetColumn, List.length_map]
  have entries : (octetColumn (octets.map UInt8.toNat)).entries =
      octets.map fun octet => (octet.toNat : Int) := List.map_map
  rw [← shape] at arranged
  exact arranged.octetGrid_eq rfl entries (depth_octetColumn _)

theorem octetGrid_buffer (octets : Octets) :
    octetGrid (.octets .buffer octets) = .ok (octetColumn (octets.map UInt8.toNat)) :=
  (Arranged.buffer octets).octetGrid_column

/-- The octets as the numbers of a sequence. -/
def octetNumbers (octets : Octets) : List Value := octets.map fun octet => .integer octet.toNat

theorem arrangedEach_octetNumbers (octets : Octets) :
    ArrangedEach [] (octetNumbers octets) octets := by
  induction octets with
  | nil => exact .nil []
  | cons octet rest ih => exact .cons (.number (isOctet_integer octet)) ih

theorem arranged_octetNumbers (kind : SequenceKind) (octets : Octets) :
    Arranged (.sequence kind (octetNumbers octets)) [octets.length] octets := by
  cases octets with
  | nil => exact .empty kind
  | cons octet rest =>
    have length : (octetNumbers (octet :: rest)).length = (octet :: rest).length := List.length_map _
    rw [← length]
    exact .sequence kind (List.cons_ne_nil _ _) (arrangedEach_octetNumbers (octet :: rest))

theorem octetGrid_octetNumbers (kind : SequenceKind) (octets : Octets) :
    octetGrid (.sequence kind (octetNumbers octets)) =
      .ok (octetColumn (octets.map UInt8.toNat)) :=
  (arranged_octetNumbers kind octets).octetGrid_column

end Value

end IPv6
