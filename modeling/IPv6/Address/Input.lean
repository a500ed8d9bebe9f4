import IPv6.Address.Forms
import IPv6.Value.Number
/-!
Addresses from what callers hand over. Absence stands for the unspecified address, text is read, and
anything else has to give sixteen octets; an integer never does.
-/

namespace IPv6.Address

def readText (text : String) : Except Fault Address :=
  match ofText? text with
  | some address => .ok address
  | none => refuse (.notAnAddress text)

/-- A payload of sixteen octets. -/
def ofPayload (payload : Payload) : Except Fault Address :=
  if payload.size = 16 then
    match ofOctets? payload.octets with
    | some address => .ok address
    | none => refuse (.addressSize payload.size)
  else refuse (.addressSize payload.size)

def ofRaw (given : Value) : Except Fault Address :=
  match given with
  | .boolean _ | .integer _ => refuse (.integerAsAddress given)
  | _ =>
    match given.payload with
    | .ok payload => ofPayload payload
    | .error .wrongType | .error .wrongValue => refuse (.octetsExpected given)
    | .error fault => .error fault

/-- The address that a value is made into, and that it is taken for where one is expected. An address
stands for itself either way. -/
def ofValue : Value → Except Fault Address
  | .absent => .ok unspecified
  | .address address => .ok address
  | .text text => readText text
  | given => ofRaw given

/-- The address made again from the octets that it is saved as. -/
def rebuild (address : Address) : Except Fault Address :=
  ofValue (.octets .constant address.octets)

def ofTextValue : Value → Except Fault Address
  | .text text => readText text
  | given => refuse (.textExpected given)

def parse? : Value → Option Address
  | .text text => ofText? text
  | _ => none

def ofInteger (given : Value) : Except Fault Address :=
  match given.wholeNumber? with
  | none => refuse (.integerExpected given)
  | some number =>
    if 0 ≤ number ∧ number < Octets.capacity 16 then .ok (ofNat number.toNat)
    else refuse (.integerOutOfRange number)

/-- The text of octets that need not be sixteen; it has to leave room for a terminator. -/
def textOfOctets (octets : Octets) : Except Fault String :=
  match ofOctets? octets with
  | some address =>
    if address.chars.length < textRoom then .ok address.text else refuse .addressTextTooLong
  | none => refuse (.noAddressText octets)

def ipv4Text (address : Address) : Except Fault String :=
  match address.ipv4Text? with
  | some text => .ok text
  | none => refuse (.noIPv4 address)

/-- The hexadecimal form. Anything of thirty-two items that is no text lacks what reading needs. -/
def ofHexForm (given : Value) : Except Fault Address :=
  match given with
  | .text text =>
    match ofHex? text.toList with
    | some address => .ok address
    | none => refuse (.hexFormExpected given)
  | _ =>
    match given.length? with
    | none => .error .wrongType
    | some length =>
      if length = 32 then
        match given with
        | .octets .constant _ | .octets .buffer _ => .error .wrongType
        | _ => .error .missingMember
      else refuse (.hexFormExpected given)

def isBitText (text : String) : Bool := ["", "0", "1", "01"].contains text

/-- Whether the items are all bits; the first that is not decides. -/
def checkBits : List Value → Except Fault Unit
  | [] => .error .wrongType
  | .text text :: rest => if isBitText text then checkBits rest else refuse (.binaryFormExpected 128)
  | _ :: _ => .error .wrongType

def ofBinaryForm (given : Value) : Except Fault Address :=
  match given with
  | .text text =>
    match ofBinary? text.toList with
    | some address => .ok address
    | none => refuse (.binaryFormExpected text.length)
  | _ =>
    match given.length? with
    | none => .error .wrongType
    | some length =>
      if length = 128 then
        match given.items with
        | .ok items => (checkBits items).bind fun _ => .error .wrongType
        | .error fault => .error fault
      else refuse (.binaryFormExpected length)

def ofNibbleVector (given : Value) : Except Fault Address :=
  match given.octetGrid with
  | .error fault => .error fault
  | .ok grid =>
    if grid.shape = [32] then
      match ofNibbles? (grid.entries.map Int.toNat) with
      | some address => .ok address
      | none => refuse .nibblesExpected
    else refuse .nibblesExpected

/-- White space of octets: the ASCII part of it without the information separators. -/
def isBlankOctet (octet : UInt8) : Bool := octet == 0x20 || (0x9 ≤ octet && octet ≤ 0xd)

/-- The hexadecimal form of any form, or nothing. Octets can be stripped but not read. -/
def normalForm? (given : Value) : Except Fault (Option String) :=
  match given with
  | .text text => .ok ((normalize? text.toList).map String.ofList)
  | .octets .constant octets | .octets .buffer octets =>
    let core := ((octets.dropWhile isBlankOctet).reverse.dropWhile isBlankOctet).reverse
    if core.length = 32 ∨ core.length = 128 then .error .wrongType else .ok none
  | _ => .error .missingMember

end IPv6.Address
