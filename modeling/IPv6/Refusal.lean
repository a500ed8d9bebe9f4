import IPv6.Value.Text
/-!
Why an operation refuses its input. Each refusal is of one kind and carries a system error number; its
report is the message, the kind and the number in one line.
-/

namespace IPv6

inductive RefusalKind
  | invalidAddressFormat
  | formatError
  | invalidArgument
deriving DecidableEq, Repr

namespace RefusalKind

def name : RefusalKind → String
  | invalidAddressFormat => "INVALID_ADDRESS_FORMAT"
  | formatError => "FORMAT_ERROR"
  | invalidArgument => "INVALID_ARGUMENT"

def label : RefusalKind → String
  | invalidAddressFormat => "invalid_address_format"
  | formatError => "format_error"
  | invalidArgument => "invalid_argument"

end RefusalKind

/-- A message with its kind and error number, in one line. -/
def reportText (message : List Char) (kind : RefusalKind) (code : List Char) : List Char :=
  message ++ " [".toList ++ kind.label.toList ++ ", errno ".toList ++ code ++ [']']

/-- The number of an error without one of its own. -/
def invalidArgumentCode : Int := 22

def unsupportedFamilyCode : Int := 97

inductive Refusal
  /-- The text is no address. -/
  | notAnAddress (text : String)
  /-- Only text is read as an address text. -/
  | textExpected (given : Value)
  | hexFormExpected (given : Value)
  | binaryFormExpected (length : Nat)
  | nibblesExpected
  /-- Only sixteen octets have an address text. -/
  | noAddressText (octets : Octets)
  /-- The text leaves no room for a terminator. -/
  | addressTextTooLong
  | integerExpected (given : Value)
  | integerOutOfRange (number : Int)
  /-- An integer never stands for the octets of an address. -/
  | integerAsAddress (given : Value)
  | octetsExpected (given : Value)
  | addressSize (size : Nat)
  | noIPv4 (address : Address)
  | portExpected (given : Value)
  | portOutOfRange (given : Value)
  | recordSizeExpected (given : Value)
  | recordSize (size : Int)
  | encodedAddressSize (size : Nat)
  | recordLength (length : Nat)
  | recordFamily (family : Nat)
  | labelled (flow scope : UInt32)
  | matrixExpected (shape : List Nat)
  | recordsExpected (element : ElementType)

namespace Refusal

def kind : Refusal → RefusalKind
  | notAnAddress _ | textExpected _ | hexFormExpected _ | binaryFormExpected _ | nibblesExpected =>
    .invalidAddressFormat
  | noAddressText _ | addressTextTooLong => .formatError
  | _ => .invalidArgument

def code : Refusal → Int
  | recordFamily _ => unsupportedFamilyCode
  | _ => invalidArgumentCode

def message : Refusal → List Char
  | notAnAddress text => "not an IPv6 address: ".toList ++ Text.Quoted.encode text.toList
  | textExpected given => "expected str, got ".toList ++ given.typeName.toList
  | hexFormExpected given => "Expected 32-char hex string, got ".toList ++ given.shown
  | binaryFormExpected length =>
    "Expected 128-char binary string, got ".toList ++ Text.Decimal.ofNat length ++ " chars".toList
  | nibblesExpected => "Expected 32 nibble values in 0..15".toList
  | noAddressText octets => "inet_ntop failed for ".toList ++ Text.Hex.ofOctets octets
  | addressTextTooLong =>
    "presentation text exceeds ".toList ++ Text.Decimal.ofNat (Address.textRoom - 1) ++
      " chars".toList
  | integerExpected given => "expected an int, got ".toList ++ given.shown
  | integerOutOfRange number =>
    "integer out of range for an IPv6 address: ".toList ++ Text.Decimal.ofInt number
  | integerAsAddress given =>
    "cannot build an address from int ".toList ++ given.shown ++ ", use from_int()".toList
  | octetsExpected given => "cannot build an address from ".toList ++ given.shown
  | addressSize size => "expected 16 bytes, got ".toList ++ Text.Decimal.ofNat size
  | noIPv4 address => address.chars ++ " does not embed an IPv4 address".toList
  | portExpected given => "port must be an int in 0..65535, got ".toList ++ given.shown
  | portOutOfRange given => "port out of range: ".toList ++ given.shown
  | recordSizeExpected given => "sockaddr_in6 size must be an int, got ".toList ++ given.shown
  | recordSize size =>
    "sockaddr_in6 is ".toList ++ Text.Decimal.ofNat Record.size ++ " bytes, got ".toList ++
      Text.Decimal.ofInt size
  | encodedAddressSize size => "expected 16 address bytes, got ".toList ++ Text.Decimal.ofNat size
  | recordLength length =>
    "sin6_len must be ".toList ++ Text.Decimal.ofNat Record.size ++ ", got ".toList ++
      Text.Decimal.ofNat length
  | recordFamily family =>
    "expected address family ".toList ++ Text.Decimal.ofNat Record.familyNumber ++ ", got ".toList ++
      Text.Decimal.ofNat family
  | labelled flow scope =>
    "flow label ".toList ++ Text.Decimal.ofNat flow.toNat ++ " / scope id ".toList ++
      Text.Decimal.ofNat scope.toNat ++ " not supported".toList
  | matrixExpected shape => "expected an (n, 16) matrix, got shape ".toList ++ Grid.shapeText shape
  | recordsExpected element =>
    "expected SOCKADDR_IN6 records, got dtype ".toList ++ element.name.toList

def report (refusal : Refusal) : String :=
  String.ofList (reportText refusal.message refusal.kind (Text.Decimal.ofInt refusal.code))

end Refusal

/-- The number that a system error carries; one that is missing, zero or no integer counts as an
invalid argument. -/
def systemCode : Value → Value
  | .integer number => if number = 0 then .integer invalidArgumentCode else .integer number
  | .boolean true => .boolean true
  | _ => .integer invalidArgumentCode

/-- Everything that can go wrong: a refusal, or a value that an operation has no meaning for. -/
inductive Fault
  | refused (refusal : Refusal)
  /-- No value of this type can be used. -/
  | wrongType
  /-- The type can be used, this value cannot. -/
  | wrongValue
  /-- A number does not fit. -/
  | overflow
  /-- The value lacks the operation asked of it. -/
  | missingMember
  /-- Nothing stands where an index points. -/
  | wrongIndex
  /-- No memory holds so many octets. -/
  | exhausted

namespace Fault

instance : Coe Refusal Fault := ⟨refused⟩

end Fault

def refuse {α : Type} (refusal : Refusal) : Except Fault α := .error (.refused refusal)

end IPv6
