import IPv6.Address.Input
import IPv6.Proofs.Address.Digits
import IPv6.Proofs.Value.OctetGrid
/-!
Each form of an address is written and read exactly: what is written is read as the address that it came
from, what is read is written again as it stood, and everything else is refused.
-/

namespace IPv6.Address

open Text (Positional)

/-! ## Readers with their refusals -/

/-- The address read, or else the refusal. -/
def orRefuse (read? : Option Address) (refusal : Refusal) : Except Fault Address :=
  match read? with
  | some address => .ok address
  | none => refuse refusal

theorem orRefuse_eq_ok_iff {read? : Option Address} {refusal : Refusal} {address : Address} :
    orRefuse read? refusal = .ok address ↔ read? = some address := by
  cases read? with
  | none => exact ⟨nofun, nofun⟩
  | some other => rw [orRefuse, Except.ok.injEq, Option.some.injEq]

theorem orRefuse_eq_refuse {read? : Option Address} {refusal : Refusal}
    (unread : ¬ ∃ address, read? = some address) :
    orRefuse read? refusal = refuse refusal := by
  cases read? with
  | none => rfl
  | some address => exact absurd ⟨address, rfl⟩ unread

/-- A reader takes the inputs of one form and no others, keeps what they say, and refuses the rest as
errors of one kind. -/
structure ReadsExactly {Input Written : Type} (read : Input → Except Fault Address)
    (Form : Input → Prop) (written : Address → Written) (given : Input → Written)
    (refusal : Input → Refusal) (kind : RefusalKind) : Prop where
  accepts : ∀ input, (∃ address, read input = .ok address) ↔ Form input
  keeps : ∀ input address, read input = .ok address → written address = given input
  refuses : ∀ input, ¬ Form input → read input = refuse (refusal input)
  kinds : ∀ input, (refusal input).kind = kind

theorem ReadsExactly.of_option {Input Written : Type} {read : Input → Except Fault Address}
    {Form : Input → Prop} {written : Address → Written} {given : Input → Written}
    {refusal : Input → Refusal} {kind : RefusalKind} (read? : Input → Option Address)
    (reads : ∀ input, read input = orRefuse (read? input) (refusal input))
    (accepts : ∀ input, (∃ address, read? input = some address) ↔ Form input)
    (keeps : ∀ input address, read? input = some address → written address = given input)
    (kinds : ∀ input, (refusal input).kind = kind) :
    ReadsExactly read Form written given refusal kind := by
  refine ⟨?_, ?_, ?_, kinds⟩
  · intro input
    simp only [reads, orRefuse_eq_ok_iff, accepts]
  · intro input address done
    rw [reads, orRefuse_eq_ok_iff] at done
    exact keeps input address done
  · intro input other
    rw [reads]
    exact orRefuse_eq_refuse fun found => other ((accepts input).mp found)

/-! ## Texts -/

theorem ofHexForm_text (text : String) :
    ofHexForm (.text text) = orRefuse (ofHex? text.toList) (.hexFormExpected (.text text)) := by
  rw [ofHexForm]
  cases ofHex? text.toList <;> rfl

theorem ofBinaryForm_text (text : String) :
    ofBinaryForm (.text text) =
      orRefuse (ofBinary? text.toList) (.binaryFormExpected text.length) := by
  rw [ofBinaryForm]
  cases ofBinary? text.toList <;> rfl

/-- Thirty-two hexadecimal digits of either case. -/
def HexText (text : String) : Prop :=
  text.length = 32 ∧ ∀ char ∈ text.toList, char ∈ "0123456789abcdefABCDEF".toList

instance (text : String) : Decidable (HexText text) :=
  -- Decided over the text, not over all characters.
  have : Decidable (∀ char ∈ text.toList, char ∈ "0123456789abcdefABCDEF".toList) :=
    List.decidableBAll _ _
  inferInstanceAs (Decidable (_ ∧ _))

/-- A hundred and twenty-eight bits. -/
def BinaryText (text : String) : Prop :=
  text.length = 128 ∧ ∀ char ∈ text.toList, char = '0' ∨ char = '1'

instance (text : String) : Decidable (BinaryText text) :=
  have : Decidable (∀ char ∈ text.toList, char = '0' ∨ char = '1') := List.decidableBAll _ _
  inferInstanceAs (Decidable (_ ∧ _))

theorem exists_hexDigit_iff (char : Char) :
    (∃ value, HexDigit char value) ↔ char ∈ "0123456789abcdefABCDEF".toList := by
  constructor
  · intro digit
    rcases digit with ⟨value, lower | upper⟩
    · exact Text.forall_place (by decide) lower
    · exact Text.forall_place (by decide) upper
  · intro member
    have table : "0123456789abcdefABCDEF".toList.all Text.Hex.isDigit = true := by decide
    exact (isDigit_iff char).mp (List.all_eq_true.mp table char member)

theorem hexForm_readsExactly :
    ReadsExactly (fun text => ofHexForm (.text text)) HexText (fun address => .ofList address.hex)
      String.toLower (fun text => .hexFormExpected (.text text)) .invalidAddressFormat := by
  refine .of_option (fun text => ofHex? text.toList) ofHexForm_text ?_ ?_ fun _ => rfl
  · intro text
    simp only [exists_ofHex?_eq_some_iff, exists_hexDigit_iff, HexText, String.length_toList]
  · intro text address read
    have each := (ofHex?_eq_some_iff text.toList address).mp read
    rw [hex_eq_map_toLower each, ← String.toList_map, String.ofList_toList]
    rfl

theorem exists_ofBinary?_eq_some_iff (text : List Char) :
    (∃ address, ofBinary? text = some address) ↔
      text.length = 128 ∧ ∀ char ∈ text, char = '0' ∨ char = '1' := by
  rw [← isBinaryForm_iff, ofBinary?]
  split
  case isTrue form => exact ⟨fun _ => form, fun _ => ⟨_, rfl⟩⟩
  case isFalse form => simp [form]

theorem binaryForm_readsExactly :
    ReadsExactly (fun text => ofBinaryForm (.text text)) BinaryText
      (fun address => .ofList address.binary) id (fun text => .binaryFormExpected text.length)
      .invalidAddressFormat := by
  refine .of_option (fun text => ofBinary? text.toList) ofBinaryForm_text ?_ ?_ fun _ => rfl
  · intro text
    simp only [exists_ofBinary?_eq_some_iff, BinaryText, String.length_toList]
  · intro text address read
    rw [← (ofBinary?_eq_some_iff text.toList address).mp read, String.ofList_toList, id]

/-! ## Nibbles -/

theorem exists_ofNibbles?_eq_some_iff (nibbles : List Nat) :
    (∃ address, ofNibbles? nibbles = some address) ↔
      nibbles.length = 32 ∧ ∀ nibble ∈ nibbles, nibble ≤ 15 := by
  simp only [ofNibbles?_eq_some_iff]
  constructor
  · intro given
    rcases given with ⟨address, rfl⟩
    refine ⟨length_nibbles address, ?_⟩
    exact fun nibble member => Nat.le_of_lt_succ ((positional_nibbles address).small nibble member)
  · intro fitting
    have small := fun nibble member => Nat.lt_succ_of_le (fitting.2 nibble member)
    obtain ⟨address, same⟩ := exists_nibbles_eq fitting.1 small
    exact ⟨address, same.symm⟩

theorem ofNibbleVector_column {given : Value} {numbers : List Nat}
    (column : given.octetGrid = .ok (Value.octetColumn numbers)) :
    ofNibbleVector given = orRefuse (ofNibbles? numbers) .nibblesExpected := by
  have entries : (Value.octetColumn numbers).entries.map Int.toNat = numbers := by
    show (numbers.map Int.ofNat).map Int.toNat = numbers
    rw [List.map_map]
    exact List.map_id numbers
  rw [ofNibbleVector, column]
  simp only [Value.shape_octetColumn, entries, List.cons.injEq, and_true]
  split
  case isTrue => cases ofNibbles? numbers <;> rfl
  case isFalse other =>
    refine (orRefuse_eq_refuse fun found => other ?_).symm
    exact ((exists_ofNibbles?_eq_some_iff numbers).mp found).1

theorem ofNibbleVector_nibbles (address : Address) :
    ofNibbleVector (.grid (Value.octetColumn address.nibbles)) = .ok address := by
  have octets : ∀ nibble ∈ address.nibbles, nibble < 256 := fun nibble member =>
    Nat.lt_trans ((positional_nibbles address).small nibble member) (by decide)
  rw [ofNibbleVector_column (Value.octetGrid_octetColumn octets), orRefuse_eq_ok_iff,
    ofNibbles?_eq_some_iff]

/-- Thirty-two octets, none above 15. -/
def NibbleOctets (octets : Octets) : Prop := octets.length = 32 ∧ ∀ octet ∈ octets, octet.toNat ≤ 15

theorem nibbles_readsExactly (form : Octets → Value)
    (column : ∀ octets, (form octets).octetGrid =
      .ok (Value.octetColumn (octets.map UInt8.toNat))) :
    ReadsExactly (fun octets => ofNibbleVector (form octets)) NibbleOctets nibbles
      (List.map UInt8.toNat) (fun _ => .nibblesExpected) .invalidAddressFormat := by
  refine .of_option (fun octets => ofNibbles? (octets.map UInt8.toNat))
    (fun octets => ofNibbleVector_column (column octets)) ?_ ?_ fun _ => rfl
  · intro octets
    simp only [exists_ofNibbles?_eq_some_iff, NibbleOctets, List.length_map, List.forall_mem_map]
  · intro octets address read
    exact ((ofNibbles?_eq_some_iff _ address).mp read).symm

/-! ## Numbers -/

theorem capacity_sixteen : Octets.capacity 16 = 2 ^ 128 := by decide

/-- The address of a number in range. -/
def ofInt? (number : Int) : Option Address :=
  if 0 ≤ number ∧ number < 2 ^ 128 then some (ofNat number.toNat) else none

theorem ofInteger_wholeNumber {given : Value} {number : Int}
    (whole : given.wholeNumber? = some number) :
    ofInteger given = orRefuse (ofInt? number) (.integerOutOfRange number) := by
  have range : ((Octets.capacity 16 : Nat) : Int) = 2 ^ 128 := by
    rw [capacity_sixteen]
    rfl
  rw [ofInteger, whole]
  simp only [range, ofInt?]
  split <;> rfl

theorem ofInt?_eq_some {number : Int} {address : Address} (read : ofInt? number = some address) :
    (address.toNat : Int) = number := by
  rw [ofInt?] at read
  split at read
  case isFalse => cases read
  case isTrue range =>
    cases read
    have bound : number.toNat < Octets.capacity 16 := by
      rw [capacity_sixteen]
      omega
    rw [toNat_ofNat, Nat.mod_eq_of_lt bound, Int.toNat_of_nonneg range.1]

theorem ofInt?_toNat (address : Address) : ofInt? address.toNat = some address := by
  have bound := address.toNat_lt
  rw [capacity_sixteen] at bound
  have range : 0 ≤ (address.toNat : Int) ∧ (address.toNat : Int) < 2 ^ 128 := by omega
  rw [ofInt?, if_pos range, Int.toNat_natCast, ofNat_toNat]

theorem integers_readExactly {Input : Type} (form : Input → Value) (number : Input → Int)
    (whole : ∀ input, (form input).wholeNumber? = some (number input)) :
    ReadsExactly (fun input => ofInteger (form input))
      (fun input => 0 ≤ number input ∧ number input < 2 ^ 128)
      (fun address => (address.toNat : Int)) number
      (fun input => .integerOutOfRange (number input)) .invalidArgument := by
  refine .of_option (fun input => ofInt? (number input))
    (fun input => ofInteger_wholeNumber (whole input)) ?_ ?_ fun _ => rfl
  · intro input
    rw [ofInt?]
    split
    case isTrue range => exact ⟨fun _ => range, fun _ => ⟨_, rfl⟩⟩
    case isFalse range => exact ⟨nofun, fun other => absurd other range⟩
  · exact fun input address => ofInt?_eq_some

/-! ## All forms -/

/-- The digits of an address in each form, and what each is read as. -/
structure Written (address : Address) : Prop where
  groups : ofTextValue (.text (.ofList address.exploded)) = .ok address
  hex : ofHexForm (.text (.ofList address.hex)) = .ok address
  binary : ofBinaryForm (.text (.ofList address.binary)) = .ok address
  nibbles : ofNibbleVector (.grid (Value.octetColumn address.nibbles)) = .ok address
  number : ofInteger (.integer address.toNat) = .ok address
  groupsLength : address.exploded.length = 39
  hexLength : address.hex.length = 32
  hexDigits : Numeral LowerDigit 16 address.hex address.toNat
  binaryLength : address.binary.length = 128
  binaryDigits : Numeral BinaryDigit 2 address.binary address.toNat

theorem written (address : Address) : Written address := by
  obtain ⟨bits, binaryDigits, binaryNumber⟩ :=
    exists_binaryDigits_bits 128 address.toNat (capacity_sixteen ▸ address.toNat_lt)
  constructor
  case groups =>
    rw [ofTextValue, readText_eq_ok_iff, String.toList_ofList]
    exact spells_exploded address
  case hex =>
    rw [ofHexForm_text, orRefuse_eq_ok_iff, String.toList_ofList, ofHex?_eq_some_iff]
    exact hex_hexDigits address
  case binary =>
    rw [ofBinaryForm_text, orRefuse_eq_ok_iff, String.toList_ofList, ofBinary?_eq_some_iff]
  case nibbles => exact ofNibbleVector_nibbles address
  case number => rw [ofInteger_wholeNumber rfl, ofInt?_toNat, orRefuse]
  case groupsLength => exact length_exploded address
  case hexLength => exact length_hex address
  case hexDigits => exact ⟨_, hex_lowerDigits address, (positional_nibbles address).total⟩
  case binaryLength => exact length_binary address
  case binaryDigits => exact ⟨bits, binaryDigits, binaryNumber.total⟩

theorem forms_written_and_read :
    (∀ address, Written address) ∧
    ReadsExactly (fun text => ofHexForm (.text text)) HexText (fun address => .ofList address.hex)
      String.toLower (fun text => .hexFormExpected (.text text)) .invalidAddressFormat ∧
    ReadsExactly (fun text => ofBinaryForm (.text text)) BinaryText
      (fun address => .ofList address.binary) id (fun text => .binaryFormExpected text.length)
      .invalidAddressFormat ∧
    (∀ kind, ReadsExactly (fun octets => ofNibbleVector (.sequence kind (Value.octetNumbers octets)))
      NibbleOctets nibbles (List.map UInt8.toNat) (fun _ => .nibblesExpected)
      .invalidAddressFormat) ∧
    ReadsExactly (fun octets => ofNibbleVector (.octets .buffer octets)) NibbleOctets nibbles
      (List.map UInt8.toNat) (fun _ => .nibblesExpected) .invalidAddressFormat ∧
    ReadsExactly (fun number => ofInteger (.integer number))
      (fun number => 0 ≤ number ∧ number < 2 ^ 128) (fun address => (address.toNat : Int)) id
      (fun number => .integerOutOfRange number) .invalidArgument ∧
    ReadsExactly (fun word => ofInteger (.word word))
      (fun word => 0 ≤ word.number ∧ word.number < 2 ^ 128)
      (fun address => (address.toNat : Int)) Word.number
      (fun word => .integerOutOfRange word.number) .invalidArgument := by
  refine ⟨written, hexForm_readsExactly, binaryForm_readsExactly, ?_, ?_, ?_, ?_⟩
  · exact fun kind => nibbles_readsExactly _ (Value.octetGrid_octetNumbers kind)
  · exact nibbles_readsExactly _ Value.octetGrid_buffer
  · exact integers_readExactly Value.integer id fun _ => rfl
  · exact integers_readExactly Value.word Word.number fun _ => rfl

theorem forms_written_and_read_short :
    ofBinaryForm (.text "0101") = refuse (.binaryFormExpected 4) ∧
    (∃ address, ofHexForm (.text "20010DB8000000000000000000000001") = .ok address) ∧
    ofInteger (.integer (2 ^ 128)) = refuse (.integerOutOfRange (2 ^ 128)) := by
  obtain ⟨_, hex, binary, _, _, integers, _⟩ := forms_written_and_read
  refine ⟨binary.refuses "0101" (by decide), ?_, integers.refuses (2 ^ 128) (by decide)⟩
  exact (hex.accepts "20010DB8000000000000000000000001").mpr (by decide)

end IPv6.Address
