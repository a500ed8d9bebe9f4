import IPv6.Address.Basic
import IPv6.Proofs.Text.Digits
import IPv6.Proofs.Text.Separated
/-!
The texts of addresses, said without the reader. A writing is a text in pieces; what it denotes follows
from its pieces alone.
-/

namespace IPv6.Address

/-- A hexadecimal digit of either case with its value. -/
def HexDigit (char : Char) (value : Nat) : Prop :=
  "0123456789abcdef".toList[value]? = some char ∨ "0123456789ABCDEF".toList[value]? = some char

def DecimalDigit (char : Char) (value : Nat) : Prop := "0123456789".toList[value]? = some char

/-- Digits to a base, the most significant first, and the number they write. -/
def Numeral (Digit : Char → Nat → Prop) (base : Nat) (text : List Char) (number : Nat) : Prop :=
  ∃ digits, List.Forall₂ Digit text digits ∧ Nat.ofDigits base digits.reverse = number

/-- One to four hexadecimal digits. -/
structure HexGroup (text : List Char) (group : UInt16) : Prop where
  present : text ≠ []
  short : text.length ≤ 4
  numeral : Numeral HexDigit 16 text group.toNat

/-- The decimal numeral of an octet, without leading zero. -/
structure DecimalOctet (text : List Char) (octet : UInt8) : Prop where
  present : text ≠ []
  leading : text.head? = some '0' → text = ['0']
  numeral : Numeral DecimalDigit 10 text octet.toNat

/-- Four decimal octets with points between them. -/
def DottedOctets (text : List Char) (octets : Octets) : Prop :=
  ∃ parts, text = Text.join ['.'] parts ∧ List.Forall₂ DecimalOctet parts octets ∧ octets.length = 4

/-- Dotted octets stand for two groups, and their absence for none. -/
inductive DottedTail : Option (List Char) → List UInt16 → Prop
  | absent : DottedTail none []
  | dotted {text : List Char} {octets : Octets} (spelled : DottedOctets text octets) :
      DottedTail (some text) (groupsOf octets)

/-- The pieces of a text: hexadecimal fields, those after `::` where it has one, and dotted octets at
the end where it has any. -/
structure Writing where
  before : List (List Char)
  after? : Option (List (List Char))
  dotted? : Option (List Char)

namespace Writing

def text (writing : Writing) : List Char :=
  match writing.after? with
  | none => Text.join [':'] (writing.before ++ writing.dotted?.toList)
  | some after =>
    Text.join [':'] writing.before ++ [':', ':'] ++
      Text.join [':'] (after ++ writing.dotted?.toList)

/-- The groups that a writing stands for: eight without `::`, and with it seven at most, between which
zeros fill the eight up. -/
inductive Denotes : Writing → List UInt16 → Prop
  | full {fields : List (List Char)} {dotted? : Option (List Char)} {groups low : List UInt16}
      (hex : List.Forall₂ HexGroup fields groups) (tail : DottedTail dotted? low)
      (count : groups.length + low.length = 8) :
      Denotes ⟨fields, none, dotted?⟩ (groups ++ low)
  | gapped {before after : List (List Char)} {dotted? : Option (List Char)}
      {left right low : List UInt16}
      (hexBefore : List.Forall₂ HexGroup before left) (hexAfter : List.Forall₂ HexGroup after right)
      (tail : DottedTail dotted? low) (count : left.length + (right ++ low).length ≤ 7) :
      Denotes ⟨before, some after, dotted?⟩
        (left ++ List.replicate (8 - (left.length + (right ++ low).length)) 0 ++ (right ++ low))

end Writing

/-- A text of the grammar with the groups it spells. -/
def Spells (text : List Char) (groups : List UInt16) : Prop :=
  ∃ writing : Writing, writing.text = text ∧ writing.Denotes groups

/-! ## Digits and the readers of single digits -/

instance (char : Char) (value : Nat) : Decidable (HexDigit char value) :=
  inferInstanceAs (Decidable (_ ∨ _))

instance (char : Char) (value : Nat) : Decidable (DecimalDigit char value) :=
  inferInstanceAs (Decidable (_ = _))

theorem HexDigit.lt {char : Char} {value : Nat} (digit : HexDigit char value) : value < 16 := by
  rcases digit with found | found
  · exact (List.getElem?_eq_some_iff.mp found).1
  · exact (List.getElem?_eq_some_iff.mp found).1

theorem DecimalDigit.lt {char : Char} {value : Nat} (digit : DecimalDigit char value) :
    value < 10 :=
  (List.getElem?_eq_some_iff.mp digit).1

theorem hexDigit_of_value {char : Char} {value : Nat} (read : Text.Hex.value? char = some value) :
    HexDigit char value := by
  have ascii : char.toNat < 128 := by
    unfold Text.Hex.value? at read
    split at read
    case isTrue range => exact Nat.lt_of_le_of_lt range.2 (by decide)
    case isFalse =>
      split at read
      case isTrue range => exact Nat.lt_of_le_of_lt range.2 (by decide)
      case isFalse =>
        split at read
        case isTrue range => exact Nat.lt_of_le_of_lt range.2 (by decide)
        case isFalse => cases read
  have table : ∀ code < 128, ∀ value ∈ Text.Hex.value? (Char.ofNat code),
      HexDigit (Char.ofNat code) value := by decide
  have named := table char.toNat ascii
  rw [Char.ofNat_toNat] at named
  exact named value read

theorem hexValue_eq_some_iff (char : Char) (value : Nat) :
    Text.Hex.value? char = some value ↔ HexDigit char value := by
  constructor
  · exact hexDigit_of_value
  · intro digit
    have bound := digit.lt
    rcases digit with found | found
    · have table : ∀ value < 16,
          ("0123456789abcdef".toList[value]?).bind Text.Hex.value? = some value := by decide
      have read := table value bound
      rwa [found] at read
    · have table : ∀ value < 16,
          ("0123456789ABCDEF".toList[value]?).bind Text.Hex.value? = some value := by decide
      have read := table value bound
      rwa [found] at read

theorem decimalDigit_of_value {char : Char} {value : Nat}
    (read : Text.Decimal.value? char = some value) : DecimalDigit char value := by
  have ascii : char.toNat < 128 := by
    unfold Text.Decimal.value? at read
    split at read
    case isTrue range => exact Nat.lt_of_le_of_lt range.2 (by decide)
    case isFalse => cases read
  have table : ∀ code < 128, ∀ value ∈ Text.Decimal.value? (Char.ofNat code),
      DecimalDigit (Char.ofNat code) value := by decide
  have named := table char.toNat ascii
  rw [Char.ofNat_toNat] at named
  exact named value read

theorem decimalValue_eq_some_iff (char : Char) (value : Nat) :
    Text.Decimal.value? char = some value ↔ DecimalDigit char value := by
  constructor
  · exact decimalDigit_of_value
  · intro digit
    have table : ∀ value < 10,
        ("0123456789".toList[value]?).bind Text.Decimal.value? = some value := by decide
    have read := table value digit.lt
    rw [DecimalDigit] at digit
    rwa [digit] at read

end IPv6.Address
