import IPv6.Address.Forms
import IPv6.Proofs.Address.Canonical
import IPv6.Proofs.Text.Positional
/-!
The forms of an address are the digits of its number: the octets to the base 256, the nibbles and the
hexadecimal form to the base 16, the binary form to the base 2. Each reader takes exactly the digits that
write the number of the address.
-/

namespace IPv6.Address

open Text (Positional)

/-! ## Octets -/

theorem readLittleEndian_eq (octets : Octets) :
    Octets.readLittleEndian octets = Nat.ofDigits 256 (octets.map UInt8.toNat) := by
  induction octets with
  | nil => rfl
  | cons octet rest ih => rw [Octets.readLittleEndian, List.map_cons, Nat.ofDigits_cons, ih]

theorem positional_octets (octets : Octets) :
    Positional 256 (octets.map UInt8.toNat) (Octets.readBigEndian octets) := by
  constructor
  · intro digit member
    obtain ⟨octet, _, rfl⟩ := List.mem_map.mp member
    exact octet.toNat_lt
  · rw [Octets.readBigEndian, readLittleEndian_eq, List.map_reverse]

/-! ## Nibbles -/

theorem nibblesOf_cons (octet : UInt8) (rest : Octets) :
    nibblesOf (octet :: rest) = octet.toNat / 16 :: octet.toNat % 16 :: nibblesOf rest := rfl

theorem length_nibblesOf (octets : Octets) : (nibblesOf octets).length = 2 * octets.length := by
  induction octets with
  | nil => rfl
  | cons octet rest ih =>
    rw [nibblesOf_cons, List.length_cons, List.length_cons, ih, List.length_cons]
    omega

@[simp] theorem length_nibbles (address : Address) : address.nibbles.length = 32 := by
  rw [nibbles, length_nibblesOf, address.length_octets]

theorem positional_nibblesOf (octets : Octets) :
    Positional 16 (nibblesOf octets) (Octets.readBigEndian octets) := by
  suffices ∀ number, Positional 256 (octets.map UInt8.toNat) number →
      Positional 16 (nibblesOf octets) number from this _ (positional_octets octets)
  induction octets with
  | nil =>
    intro number positional
    rw [← positional.total]
    exact .nil 16
  | cons octet rest ih =>
    intro number positional
    obtain ⟨below, low, lows, rfl⟩ := Positional.cons_iff.mp positional
    have size : 256 ^ (rest.map UInt8.toNat).length = 16 ^ (nibblesOf rest).length := by
      rw [length_nibblesOf, List.length_map, Nat.pow_mul]
    have whole : 16 ^ (nibblesOf rest).length * octet.toNat =
        16 ^ ((nibblesOf rest).length + 1) * (octet.toNat / 16) +
          16 ^ (nibblesOf rest).length * (octet.toNat % 16) := by
      rw [Nat.pow_succ, Nat.mul_assoc, ← Nat.mul_add, Nat.div_add_mod]
    have second : Positional 16 (octet.toNat % 16 :: nibblesOf rest)
        (16 ^ (nibblesOf rest).length * (octet.toNat % 16) + low) :=
      Positional.cons_iff.mpr ⟨Nat.mod_lt _ (by decide), low, ih low lows, rfl⟩
    rw [nibblesOf_cons, size, whole, Nat.add_assoc]
    exact Positional.cons_iff.mpr ⟨by omega, _, second, rfl⟩

theorem positional_nibbles (address : Address) : Positional 16 address.nibbles address.toNat :=
  positional_nibblesOf address.octets

theorem octetsOfNibbles_nibblesOf (octets : Octets) :
    octetsOfNibbles (nibblesOf octets) = octets := by
  induction octets with
  | nil => rfl
  | cons octet rest ih =>
    rw [nibblesOf_cons, octetsOfNibbles, ih, Nat.div_add_mod, UInt8.ofNat_toNat]

theorem nibblesOf_octetsOfNibbles {nibbles : List Nat} (even : nibbles.length % 2 = 0)
    (small : ∀ nibble ∈ nibbles, nibble < 16) : nibblesOf (octetsOfNibbles nibbles) = nibbles := by
  fun_induction octetsOfNibbles nibbles with
  | case1 high low rest ih =>
    rw [List.forall_mem_cons, List.forall_mem_cons] at small
    rcases small with ⟨first, second, others⟩
    have octet : (UInt8.ofNat (16 * high + low)).toNat = 16 * high + low :=
      UInt8.toNat_ofNat_of_lt' (by simp only [UInt8.size]; omega)
    have shorter : rest.length % 2 = 0 := by
      simp only [List.length_cons] at even
      omega
    rw [nibblesOf_cons, octet, ih shorter others]
    congr 1
    · omega
    · congr 1
      omega
  | case2 nibbles short =>
    match nibbles, even, short with
    | [], _, _ => rfl
    | [_], even, _ => cases even
    | high :: low :: rest, _, short => exact absurd rfl (short high low rest)

theorem exists_nibbles_eq {nibbles : List Nat} (count : nibbles.length = 32)
    (small : ∀ nibble ∈ nibbles, nibble < 16) :
    ∃ address : Address, address.nibbles = nibbles := by
  have same := nibblesOf_octetsOfNibbles (by rw [count]) small
  have sixteen : (octetsOfNibbles nibbles).length = 16 := by
    have double := congrArg List.length same
    rw [length_nibblesOf, count] at double
    omega
  exact ⟨⟨octetsOfNibbles nibbles, sixteen⟩, same⟩

theorem ofNibbles?_eq_some_iff (given : List Nat) (address : Address) :
    ofNibbles? given = some address ↔ given = address.nibbles := by
  have small := (positional_nibbles address).small
  constructor
  · intro read
    rw [ofNibbles?] at read
    split at read
    case isFalse => cases read
    case isTrue fitting =>
      rw [ofOctets?] at read
      split at read
      case isFalse => cases read
      case isTrue =>
        cases read
        refine (nibblesOf_octetsOfNibbles (by rw [fitting.1]) ?_).symm
        intro nibble member
        exact Nat.lt_succ_of_le (of_decide_eq_true (List.all_eq_true.mp fitting.2 nibble member))
  · intro same
    subst same
    have fitting : address.nibbles.length = 32 ∧ address.nibbles.all (· ≤ 15) := by
      refine ⟨length_nibbles address, List.all_eq_true.mpr ?_⟩
      intro nibble member
      exact decide_eq_true (Nat.le_of_lt_succ (small nibble member))
    rw [ofNibbles?, if_pos fitting, nibbles, octetsOfNibbles_nibblesOf, ofOctets?,
      dif_pos address.length_octets]

/-! ## Hexadecimal digits -/

theorem exists_forall₂ {Item Result : Type} {Related : Item → Result → Prop} {items : List Item}
    (each : ∀ item ∈ items, ∃ result, Related item result) :
    ∃ results, List.Forall₂ Related items results := by
  induction items with
  | nil => exact ⟨[], .nil⟩
  | cons item rest ih =>
    obtain ⟨first, others⟩ := List.forall_mem_cons.mp each
    obtain ⟨result, related⟩ := first
    obtain ⟨results, later⟩ := ih others
    exact ⟨result :: results, .cons related later⟩

/-- A lowercase digit with its value. -/
def LowerDigit (char : Char) (value : Nat) : Prop := "0123456789abcdef".toList[value]? = some char

instance (char : Char) (value : Nat) : Decidable (LowerDigit char value) :=
  inferInstanceAs (Decidable (_ = _))

theorem lowerDigit_digit (value : Nat) (small : value < 16) :
    LowerDigit (Text.Hex.digit value) value := by
  have table : ∀ value < 16, LowerDigit (Text.Hex.digit value) value := by decide
  exact table value small

theorem exists_lowerDigits_fixed (width number : Nat) (bound : number < 16 ^ width) :
    ∃ digits, digits.length = width ∧
      List.Forall₂ LowerDigit (Text.Hex.fixed width number) digits ∧ Positional 16 digits number := by
  have last (number : Nat) : LowerDigit (Text.Hex.digit number) (number % 16) := by
    have digit := lowerDigit_digit (number % 16) (Nat.mod_lt number (by decide))
    rwa [Text.Hex.digit, Nat.mod_mod] at digit
  exact Positional.exists_of_printer (by decide) (fun _ => rfl)
    (fun _ number => ⟨_, last number, rfl⟩) width number bound

theorem ofOctets_eq_map (octets : Octets) :
    Text.Hex.ofOctets octets = (nibblesOf octets).map Text.Hex.digit := by
  induction octets with
  | nil => rfl
  | cons octet rest ih =>
    have low : Text.Hex.digit octet.toNat = Text.Hex.digit (octet.toNat % 16) := by
      rw [Text.Hex.digit, Text.Hex.digit, Nat.mod_mod]
    rw [nibblesOf_cons, List.map_cons, List.map_cons, ← ih, ← low]
    rfl

theorem hex_eq_map (address : Address) : address.hex = address.nibbles.map Text.Hex.digit :=
  ofOctets_eq_map address.octets

@[simp] theorem length_hex (address : Address) : address.hex.length = 32 := by
  rw [hex_eq_map, List.length_map, length_nibbles]

theorem hex_lowerDigits (address : Address) :
    List.Forall₂ LowerDigit address.hex address.nibbles := by
  rw [hex_eq_map, List.forall₂_map_left_iff, List.forall₂_same]
  exact fun nibble member => lowerDigit_digit nibble ((positional_nibbles address).small nibble member)

theorem hex_hexDigits (address : Address) : List.Forall₂ HexDigit address.hex address.nibbles :=
  (hex_lowerDigits address).imp fun _ _ lower => .inl lower

theorem readHex_pair_eq_some_iff (high low : Char) (number : Nat) :
    Text.Hex.read? [high, low] = some number ↔
      ∃ first second, HexDigit high first ∧ HexDigit low second ∧ 16 * first + second = number := by
  rw [readHex_eq_some_iff]
  constructor
  · intro numeral
    rcases numeral with ⟨_, _ | ⟨first, _ | ⟨second, _ | _⟩⟩, rfl⟩
    refine ⟨_, _, first, second, ?_⟩
    rw [List.reverse_cons, List.reverse_singleton, List.singleton_append, Nat.ofDigits_cons,
      Nat.ofDigits_singleton, Nat.add_comm]
  · intro parts
    rcases parts with ⟨_, _, first, second, rfl⟩
    refine ⟨_, .cons first (.cons second .nil), ?_⟩
    rw [List.reverse_cons, List.reverse_singleton, List.singleton_append, Nat.ofDigits_cons,
      Nat.ofDigits_singleton, Nat.add_comm]

theorem toOctets?_eq_some_iff (text : List Char) (octets : Octets) :
    Text.Hex.toOctets? text = some octets ↔ List.Forall₂ HexDigit text (nibblesOf octets) := by
  fun_induction Text.Hex.toOctets? text generalizing octets with
  | case1 =>
    cases octets with
    | nil => exact ⟨fun _ => .nil, fun _ => rfl⟩
    | cons => exact ⟨nofun, nofun⟩
  | case2 =>
    refine ⟨nofun, ?_⟩
    intro each
    have odd := each.length_eq
    rw [length_nibblesOf, List.length_singleton] at odd
    omega
  | case3 high low rest ih =>
    simp only [Option.bind_eq_bind, Option.bind_eq_some_iff, Option.pure_def, Option.some.injEq,
      readHex_pair_eq_some_iff]
    constructor
    · intro parts
      rcases parts with ⟨_, ⟨first, second, upper, lower, rfl⟩, others, read, rfl⟩
      have bound := upper.lt
      have bound' := lower.lt
      have octet : (UInt8.ofNat (16 * first + second)).toNat = 16 * first + second :=
        UInt8.toNat_ofNat_of_lt' (by simp only [UInt8.size]; omega)
      have quotient : (16 * first + second) / 16 = first := by omega
      have remainder : (16 * first + second) % 16 = second := by omega
      rw [nibblesOf_cons, octet, quotient, remainder]
      exact .cons upper (.cons lower ((ih others).mp read))
    · intro each
      cases octets with
      | nil => cases each
      | cons octet others =>
        rcases each with _ | ⟨upper, _ | ⟨lower, tail⟩⟩
        refine ⟨_, ⟨_, _, upper, lower, rfl⟩, others, (ih others).mpr tail, ?_⟩
        rw [Nat.div_add_mod, UInt8.ofNat_toNat]

theorem isDigit_iff (char : Char) :
    Text.Hex.isDigit char = true ↔ ∃ value, HexDigit char value := by
  simp only [Text.Hex.isDigit, Option.isSome_iff_exists, hexValue_eq_some_iff]

theorem ofHex?_eq_some_iff (text : List Char) (address : Address) :
    ofHex? text = some address ↔ List.Forall₂ HexDigit text address.nibbles := by
  constructor
  · intro read
    rw [ofHex?] at read
    split at read
    case isFalse => cases read
    case isTrue =>
      obtain ⟨octets, digits, made⟩ := Option.bind_eq_some_iff.mp read
      rw [ofOctets?] at made
      split at made
      case isFalse => cases made
      case isTrue =>
        cases made
        exact (toOctets?_eq_some_iff text octets).mp digits
  · intro each
    have form : isHexForm text = true := by
      have count : text.length = 32 := each.length_eq.trans (length_nibbles address)
      rw [isHexForm, Bool.and_eq_true, beq_iff_eq, List.all_eq_true]
      exact ⟨count, fun char member => (isDigit_iff char).mpr (exists_of_mem each member)⟩
    rw [ofHex?, if_pos form, (toOctets?_eq_some_iff text address.octets).mpr each,
      Option.bind_some, ofOctets?, dif_pos address.length_octets]

theorem exists_ofHex?_eq_some_iff (text : List Char) :
    (∃ address, ofHex? text = some address) ↔
      text.length = 32 ∧ ∀ char ∈ text, ∃ value, HexDigit char value := by
  simp only [ofHex?_eq_some_iff]
  constructor
  · intro digits
    rcases digits with ⟨address, each⟩
    exact ⟨each.length_eq.trans (length_nibbles address), fun _ member => exists_of_mem each member⟩
  · intro fitting
    rcases fitting with ⟨count, digits⟩
    obtain ⟨nibbles, each⟩ := exists_forall₂ digits
    have small : ∀ nibble ∈ nibbles, nibble < 16 := by
      intro nibble member
      obtain ⟨char, digit⟩ := exists_of_mem each.flip member
      exact HexDigit.lt digit
    obtain ⟨address, rfl⟩ := exists_nibbles_eq (each.length_eq.symm.trans count) small
    exact ⟨address, each⟩

theorem HexDigit.toLower {char : Char} {value : Nat} (digit : HexDigit char value) :
    char.toLower = Text.Hex.digit value := by
  rcases digit with lower | upper
  · exact Text.forall_place (by decide) lower
  · exact Text.forall_place (by decide) upper

theorem hex_eq_map_toLower {text : List Char} {address : Address}
    (each : List.Forall₂ HexDigit text address.nibbles) :
    address.hex = text.map Char.toLower := by
  rw [hex_eq_map]
  generalize address.nibbles = nibbles at each
  induction each with
  | nil => rfl
  | cons first _ ih => rw [List.map_cons, List.map_cons, ih, first.toLower]

/-! ## Binary digits -/

def BinaryDigit (char : Char) (value : Nat) : Prop := "01".toList[value]? = some char

instance (char : Char) (value : Nat) : Decidable (BinaryDigit char value) :=
  inferInstanceAs (Decidable (_ = _))

theorem BinaryDigit.lt {char : Char} {value : Nat} (digit : BinaryDigit char value) : value < 2 :=
  (List.getElem?_eq_some_iff.mp digit).1

@[simp] theorem length_bits (width number : Nat) : (bits width number).length = width := by
  induction width generalizing number with
  | zero => rfl
  | succ width ih => rw [bits, List.length_append, ih, List.length_singleton]

theorem binaryDigit_mod (number : Nat) :
    BinaryDigit (if number % 2 = 0 then '0' else '1') (number % 2) := by
  rcases Nat.mod_two_eq_zero_or_one number with even | odd
  · rw [even]
    rfl
  · rw [odd]
    rfl

theorem BinaryDigit.value {char : Char} {value : Nat} (digit : BinaryDigit char value) :
    (if char == '1' then 1 else 0) = value :=
  Text.forall_place (by decide) digit

/-- The digits of a number below a power of two, as many as the exponent says. -/
theorem exists_binaryDigits_bits (width number : Nat) (bound : number < 2 ^ width) :
    ∃ digits, List.Forall₂ BinaryDigit (bits width number) digits ∧
      Positional 2 digits number := by
  obtain ⟨digits, _, written⟩ := @Positional.exists_of_printer 2 BinaryDigit bits (by decide)
    (fun _ => rfl) (fun _ number => ⟨_, binaryDigit_mod number, rfl⟩) width number bound
  exact ⟨digits, written⟩

theorem readBits_concat (text : List Char) (char : Char) :
    readBits (text ++ [char]) = 2 * readBits text + if char == '1' then 1 else 0 := by
  rw [readBits, List.foldl_append]
  rfl

theorem readBits_lt (text : List Char) : readBits text < 2 ^ text.length := by
  induction text using List.reverseRecOn with
  | nil => exact Nat.one_pos
  | append_singleton text char ih =>
    rw [readBits_concat, List.length_append, List.length_singleton, Nat.pow_succ]
    split <;> omega

theorem readBits_bits (width number : Nat) (bound : number < 2 ^ width) :
    readBits (bits width number) = number := by
  induction width generalizing number with
  | zero => exact (Nat.lt_one_iff.mp bound).symm
  | succ width ih =>
    rw [bits, readBits_concat, ih (number / 2) (by omega), (binaryDigit_mod number).value,
      Nat.div_add_mod]

theorem bits_readBits (text : List Char) (digits : ∀ char ∈ text, char = '0' ∨ char = '1') :
    bits text.length (readBits text) = text := by
  induction text using List.reverseRecOn with
  | nil => rfl
  | append_singleton text char ih =>
    have others := ih fun other member => digits other (List.mem_append_left _ member)
    have step : ∀ value, BinaryDigit char value →
        bits (text.length + 1) (2 * readBits text + value) = text ++ [char] := by
      intro value digit
      have small := digit.lt
      have half : (2 * readBits text + value) / 2 = readBits text := by omega
      have low : (2 * readBits text + value) % 2 = value := by omega
      have last := binaryDigit_mod (2 * readBits text + value)
      rw [low] at last
      rw [bits, half, others, low, Option.some.inj (digit.symm.trans last)]
    rw [List.length_append, List.length_singleton, readBits_concat]
    rcases digits char (by simp) with rfl | rfl
    · exact step 0 rfl
    · exact step 1 rfl

theorem isBinaryForm_iff (text : List Char) :
    isBinaryForm text = true ↔ text.length = 128 ∧ ∀ char ∈ text, char = '0' ∨ char = '1' := by
  simp only [isBinaryForm, Bool.and_eq_true, beq_iff_eq, List.all_eq_true, Bool.or_eq_true]

@[simp] theorem length_binary (address : Address) : address.binary.length = 128 :=
  length_bits 128 address.toNat

theorem mem_bits {width number : Nat} {char : Char} (member : char ∈ bits width number) :
    char = '0' ∨ char = '1' := by
  induction width generalizing number with
  | zero => cases member
  | succ width ih =>
    rcases List.mem_append.mp member with inside | last
    · exact ih inside
    · rw [List.mem_singleton] at last
      split at last
      · exact .inl last
      · exact .inr last

theorem ofBinary?_eq_some_iff (text : List Char) (address : Address) :
    ofBinary? text = some address ↔ text = address.binary := by
  constructor
  · intro read
    rw [ofBinary?] at read
    split at read
    case isFalse => cases read
    case isTrue form =>
      cases read
      obtain ⟨size, chars⟩ := (isBinaryForm_iff text).mp form
      have bound : readBits text < Octets.capacity 16 := by
        have below := readBits_lt text
        rwa [size] at below
      have restored := bits_readBits text chars
      rw [size] at restored
      rw [binary, toNat_ofNat, Nat.mod_eq_of_lt bound, restored]
  · intro same
    have form : isBinaryForm address.binary = true :=
      (isBinaryForm_iff _).mpr ⟨length_binary address, fun _ member => mem_bits member⟩
    have number : readBits address.binary = address.toNat := readBits_bits 128 _ address.toNat_lt
    rw [same, ofBinary?, if_pos form, number, ofNat_toNat]

/-! ## Full groups -/

theorem length_chunks (size count : Nat) (text : List Char) :
    (chunks size count text).length = count := by
  induction count generalizing text with
  | zero => rfl
  | succ count ih => rw [chunks, List.length_cons, ih]

theorem flatten_chunks (size count : Nat) (text : List Char) :
    (chunks size count text).flatten = text.take (size * count) := by
  induction count generalizing text with
  | zero => rw [Nat.mul_zero, List.take_zero, chunks, List.flatten_nil]
  | succ count ih => rw [chunks, List.flatten_cons, ih, Nat.mul_succ, Nat.add_comm, List.take_add]

theorem length_of_mem_chunks {size count : Nat} {text piece : List Char}
    (enough : size * count ≤ text.length) (member : piece ∈ chunks size count text) :
    piece.length = size := by
  induction count generalizing text with
  | zero => cases member
  | succ count ih =>
    rw [Nat.mul_succ] at enough
    rcases List.mem_cons.mp member with rfl | later
    · exact List.length_take_of_le (by omega)
    · exact ih (by rw [List.length_drop]; omega) later

theorem length_exploded (address : Address) : address.exploded.length = 39 := by
  have sizes : (chunks 4 8 address.hex).map List.length = List.replicate 8 4 := by
    refine List.eq_replicate_iff.mpr ⟨by rw [List.length_map, length_chunks], ?_⟩
    intro size member
    obtain ⟨piece, inside, rfl⟩ := List.mem_map.mp member
    exact length_of_mem_chunks (by rw [length_hex]) inside
  rw [exploded, Text.length_join, sizes, length_chunks]
  rfl

theorem hexDigit_digit (number : Nat) : HexDigit (Text.Hex.digit number) (number % 16) := by
  have same : Text.Hex.digit number = Text.Hex.digit (number % 16) := by
    rw [Text.Hex.digit, Text.Hex.digit, Nat.mod_mod]
  rw [same]
  exact .inl (lowerDigit_digit _ (Nat.mod_lt _ (by decide)))

/-- Four digits are the group of two octets. -/
theorem hexGroup_octets (high low : UInt8) :
    HexGroup (Text.Hex.ofOctets [high, low]) (UInt16.ofNat (256 * high.toNat + low.toNat)) := by
  have bound := high.toNat_lt
  have bound' := low.toNat_lt
  have group : (UInt16.ofNat (256 * high.toNat + low.toNat)).toNat =
      256 * high.toNat + low.toNat := UInt16.toNat_ofNat_of_lt' (by simp only [UInt16.size]; omega)
  refine ⟨List.cons_ne_nil _ _, Nat.le_refl 4, ?_⟩
  refine ⟨[high.toNat / 16 % 16, high.toNat % 16, low.toNat / 16 % 16, low.toNat % 16], ?_, ?_⟩
  · exact .cons (hexDigit_digit _) (.cons (hexDigit_digit _)
      (.cons (hexDigit_digit _) (.cons (hexDigit_digit _) .nil)))
  · rw [group]
    simp only [List.reverse_cons, List.reverse_nil, List.nil_append, List.cons_append,
      Nat.ofDigits_cons, Nat.ofDigits_nil]
    omega

theorem hexGroups_chunks (count : Nat) (octets : Octets) (size : octets.length = 2 * count) :
    List.Forall₂ HexGroup (chunks 4 count (Text.Hex.ofOctets octets)) (groupsOf octets) := by
  induction count generalizing octets with
  | zero =>
    rw [List.length_eq_zero_iff.mp size]
    exact .nil
  | succ count ih =>
    match octets, size with
    | high :: low :: rest, size =>
      exact .cons (hexGroup_octets high low) (ih rest (by simpa [Nat.mul_succ] using size))

theorem spells_exploded (address : Address) : Spells address.exploded address.groups := by
  have hex : List.Forall₂ HexGroup (chunks 4 8 address.hex) address.groups :=
    hexGroups_chunks 8 address.octets address.length_octets
  refine ⟨⟨chunks 4 8 address.hex, none, none⟩, ?_, ?_⟩
  · rw [Writing.text, Option.toList_none, List.append_nil, exploded]
  · simpa using Writing.Denotes.full hex .absent (length_groups address)

end IPv6.Address
