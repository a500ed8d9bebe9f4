import IPv6.Proofs.Address.Digits
import IPv6.Proofs.Address.Order
import IPv6.Proofs.Address.Printing
import IPv6.Value.Order
/-!
One order behind every form of an address: the numbers, the nibbles and the three texts of fixed length
compare as the octets do, and so does every relation that is asked of two addresses.
-/

namespace IPv6.Address

open Text (Positional)

variable (left right : Address)

/-! ## Numbers and digits -/

/-- Octets of one width compare as their numbers do. -/
theorem compare_octets {first second : Octets} (same : first.length = second.length) :
    Ord.compare first second =
      Ord.compare (Octets.readBigEndian first) (Octets.readBigEndian second) := by
  have each (octets : Octets) :
      List.Forall₂ (fun (octet : UInt8) digit => octet.toNat = digit) octets
        (octets.map UInt8.toNat) :=
    List.forall₂_map_right_iff.mpr (List.forall₂_same.mpr fun _ _ => rfl)
  have places : (first.map UInt8.toNat).length = (second.map UInt8.toNat).length := by
    rw [List.length_map, List.length_map, same]
  calc
    _ = Ord.compare (first.map UInt8.toNat) (second.map UInt8.toNat) := by
      refine Text.compare_of_forall₂ ?_ (each first) (each second)
      rintro octet octet' _ _ rfl rfl
      exact (compare_toNat octet octet').symm
    _ = _ := (positional_octets first).compare_eq (positional_octets second) (by decide) places

theorem compare_eq_toNat : left.compare right = Ord.compare left.toNat right.toNat :=
  compare_octets (left.length_octets.trans right.length_octets.symm)

theorem compare_nibbles : Ord.compare left.nibbles right.nibbles = left.compare right := by
  rw [compare_eq_toNat]
  exact (positional_nibbles left).compare_eq (positional_nibbles right) (by decide) (by simp)

/-- The digits before the letters, as their values are. -/
theorem LowerDigit.compare_eq {char char' : Char} {value value' : Nat} (digit : LowerDigit char value)
    (digit' : LowerDigit char' value') : Ord.compare char char' = Ord.compare value value' := by
  have table : ∀ place ∈ "0123456789abcdef".toList.zipIdx,
      ∀ place' ∈ "0123456789abcdef".toList.zipIdx,
        Ord.compare place.1 place'.1 = Ord.compare place.2 place'.2 := by decide
  exact Text.forall_place (fun place member => Text.forall_place (table place member) digit') digit

theorem compare_hex : Ord.compare left.hex right.hex = left.compare right := by
  rw [← compare_nibbles]
  exact Text.compare_of_forall₂ (fun _ _ _ _ => LowerDigit.compare_eq) (hex_lowerDigits left)
    (hex_lowerDigits right)

theorem BinaryDigit.compare_eq {char char' : Char} {value value' : Nat} (digit : BinaryDigit char value)
    (digit' : BinaryDigit char' value') : Ord.compare char char' = Ord.compare value value' := by
  have table : ∀ place ∈ "01".toList.zipIdx, ∀ place' ∈ "01".toList.zipIdx,
      Ord.compare place.1 place'.1 = Ord.compare place.2 place'.2 := by decide
  exact Text.forall_place (fun place member => Text.forall_place (table place member) digit') digit

theorem compare_binary : Ord.compare left.binary right.binary = left.compare right := by
  obtain ⟨digits, each, number⟩ := exists_binaryDigits_bits 128 left.toNat left.toNat_lt
  obtain ⟨digits', each', number'⟩ := exists_binaryDigits_bits 128 right.toNat right.toNat_lt
  have same : digits.length = digits'.length := by
    rw [← each.length_eq, ← each'.length_eq, length_bits, length_bits]
  calc
    _ = Ord.compare digits digits' :=
      Text.compare_of_forall₂ (fun _ _ _ _ => BinaryDigit.compare_eq) each each'
    _ = Ord.compare left.toNat right.toNat := number.compare_eq number' (by decide) same
    _ = _ := (compare_eq_toNat left right).symm

theorem chunks_sameLengths (size count : Nat) {text text' : List Char}
    (same : text.length = text'.length) :
    List.Forall₂ (fun piece piece' => piece.length = piece'.length) (chunks size count text)
      (chunks size count text') := by
  induction count generalizing text text' with
  | zero => exact .nil
  | succ count ih =>
    refine .cons ?_ (ih ?_)
    · rw [List.length_take, List.length_take, same]
    · rw [List.length_drop, List.length_drop, same]

/-- The separators stand at the same places in every address. -/
theorem compare_exploded : Ord.compare left.exploded right.exploded = left.compare right := by
  have whole (address : Address) : (chunks 4 8 address.hex).flatten = address.hex := by
    rw [flatten_chunks, List.take_of_length_le (by rw [length_hex])]
  have same : left.hex.length = right.hex.length := by rw [length_hex, length_hex]
  rw [exploded, exploded, Text.compare_join ':' (chunks_sameLengths 4 8 same), whole, whole,
    compare_hex]

/-! ## Relations -/

/-- An order as minus one, zero or one. -/
def orderSign : Ordering → Int
  | .lt => -1
  | .eq => 0
  | .gt => 1

theorem orderSign_compare (first second : Nat) :
    orderSign (Ord.compare first second) = ((first : Int) - second).sign := by
  rcases Nat.lt_trichotomy first second with less | rfl | more
  · rw [Nat.compare_eq_lt.mpr less, orderSign, Int.sign_eq_neg_one_of_neg (by omega)]
  · rw [Std.compare_self, Int.sub_self, orderSign, Int.sign_zero]
  · rw [Nat.compare_eq_gt.mpr more, orderSign, Int.sign_eq_one_of_pos (by omega)]

/-- A relation between two numbers. -/
def numbersRelate : Value.Relation → Nat → Nat → Prop
  | .eq, first, second => first = second
  | .ne, first, second => first ≠ second
  | .lt, first, second => first < second
  | .le, first, second => first ≤ second
  | .gt, first, second => second < first
  | .ge, first, second => second ≤ first

theorem holds_compare_iff (relation : Value.Relation) (first second : Nat) :
    relation.holds (Ord.compare first second) = true ↔ numbersRelate relation first second := by
  cases relation with
  | eq => exact Ordering.isEq_iff_eq_eq.trans Nat.compare_eq_eq
  | ne => exact Ordering.isNe_iff_ne_eq.trans Nat.compare_eq_eq.not
  | lt => exact Ordering.isLT_iff_eq_lt.trans Nat.compare_eq_lt
  | le => exact Nat.isLE_compare
  | gt => exact Ordering.isGT_iff_eq_gt.trans Nat.compare_eq_gt
  | ge => exact Nat.isGE_compare

/-! ## Equality -/

theorem toNat_injective : Function.Injective toNat := by
  intro first second same
  rw [← ofNat_toNat first, same, ofNat_toNat]

theorem compare_eq_iff_octets : left.compare right = .eq ↔ left.octets = right.octets := by
  rw [compare_eq_iff]
  exact ⟨congrArg octets, ext_octets⟩

theorem compare_eq_iff_text :
    left.compare right = .eq ↔ textOfOctets left.octets = textOfOctets right.octets := by
  rw [compare_eq_iff, textOfOctets_octets, textOfOctets_octets, Except.ok.injEq]
  exact ⟨congrArg text, text_injective⟩

theorem nodup_eraseDups (addresses : List Address) : addresses.eraseDups.Nodup := by
  induction size : addresses.length using Nat.strong_induction_on generalizing addresses with
  | _ size ih =>
    cases addresses with
    | nil => exact List.nodup_nil
    | cons first rest =>
      rw [List.eraseDups_cons, List.nodup_cons]
      constructor
      · simp [List.mem_eraseDups]
      · refine ih _ ?_ _ rfl
        rw [← size, List.length_cons]
        exact Nat.lt_succ_of_le (List.length_filter_le _ rest)

/-- As many different addresses as different numbers. -/
theorem distinct_eq_card (addresses : List Address) :
    Value.distinct addresses = (addresses.map toNat).toFinset.card := by
  have each : (addresses.eraseDups.map toNat).Nodup :=
    (nodup_eraseDups addresses).map toNat_injective
  have same : (addresses.eraseDups.map toNat).toFinset = (addresses.map toNat).toFinset := by
    apply List.toFinset.ext
    simp only [List.mem_map, List.mem_eraseDups, implies_true]
  rw [← same, List.toFinset_card_of_nodup each, List.length_map, Value.distinct]

/-! ## One order -/

/-- What two addresses are to each other is the same in every form. -/
structure OneOrder (left right : Address) : Prop where
  compared : Value.compare (.address left) (.address right) = .ok (left.compare right)
  numbers : orderSign (left.compare right) = ((left.toNat : Int) - right.toNat).sign
  hex : Value.comparison (.text (.ofList left.hex)) (.text (.ofList right.hex)) =
    .ordered (left.compare right)
  binary : Value.comparison (.text (.ofList left.binary)) (.text (.ofList right.binary)) =
    .ordered (left.compare right)
  exploded : Value.comparison (.text (.ofList left.exploded)) (.text (.ofList right.exploded)) =
    .ordered (left.compare right)
  nibbles : Ord.compare left.nibbles right.nibbles = left.compare right
  relations : ∀ relation, ∃ answer,
    Value.answer relation (.address left) (.address right) = .ok (.boolean answer) ∧
      (answer = true ↔ numbersRelate relation left.toNat right.toNat)
  equals : ∃ answer, Value.same (.address left) (.address right) = .ok answer ∧
    (answer = true ↔ left.compare right = .eq)
  octets : left.compare right = .eq ↔ left.octets = right.octets
  text : left.compare right = .eq ↔ textOfOctets left.octets = textOfOctets right.octets

theorem comparison_texts (text text' : List Char) :
    Value.comparison (.text (.ofList text)) (.text (.ofList text')) =
      .ordered (Ord.compare text text') := by
  rw [Value.comparison, String.toList_ofList, String.toList_ofList]

theorem oneOrder : OneOrder left right := by
  constructor
  case compared => rfl
  case numbers => rw [compare_eq_toNat, orderSign_compare]
  case hex => rw [comparison_texts, compare_hex]
  case binary => rw [comparison_texts, compare_binary]
  case exploded => rw [comparison_texts, compare_exploded]
  case nibbles => exact compare_nibbles left right
  case relations =>
    intro relation
    refine ⟨_, rfl, ?_⟩
    rw [compare_eq_toNat]
    exact holds_compare_iff relation left.toNat right.toNat
  case equals => exact ⟨_, rfl, beq_iff_eq.trans compare_eq_iff.symm⟩
  case octets => exact compare_eq_iff_octets left right
  case text => exact compare_eq_iff_text left right

theorem one_total_order :
    (∀ left right, OneOrder left right) ∧
    (∀ addresses, Value.distinct addresses = (addresses.map toNat).toFinset.card) ∧
    (∀ left right : Address, right.compare left = (left.compare right).swap) ∧
    (∀ left right : Address, left.compare right ≠ .gt → right.compare left ≠ .gt → left = right) ∧
    (∀ left middle right : Address, left.compare middle ≠ .gt → middle.compare right ≠ .gt →
      left.compare right ≠ .gt) ∧
    (∀ left right : Address, left.compare right ≠ .gt ∨ right.compare left ≠ .gt) := by
  simp only [Ne, ← Ordering.isLE_iff_ne_gt]
  refine ⟨oneOrder, distinct_eq_card, ?_, ?_, ?_, ?_⟩
  · exact fun left right => Std.OrientedCmp.eq_swap
  · exact fun left right forward backward =>
      compare_eq_iff.mp (Std.OrientedCmp.isLE_antisymm forward backward)
  · exact fun left middle right => Std.TransCmp.isLE_trans
  · intro left right
    have turned : right.compare left = (left.compare right).swap := Std.OrientedCmp.eq_swap
    rw [turned]
    cases left.compare right
    · exact .inl rfl
    · exact .inl rfl
    · exact .inr rfl

theorem one_total_order_loopback :
    unspecified.compare loopback ≠ .gt ∧ loopback.compare (ofNat 2) ≠ .gt ∧
      unspecified.compare (ofNat 2) ≠ .gt ∧ ofNat (2 ^ 128 + 1) = loopback := by
  obtain ⟨_, _, _, antisymmetric, transitive, _⟩ := one_total_order
  refine ⟨by decide, by decide, ?_, ?_⟩
  · exact transitive unspecified loopback (ofNat 2) (by decide) (by decide)
  · exact antisymmetric (ofNat (2 ^ 128 + 1)) loopback (by decide) (by decide)

end IPv6.Address
