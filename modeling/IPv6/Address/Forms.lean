import IPv6.Address.Printer
import IPv6.Address.Reader
import IPv6.Text.Blank
/-!
Four more forms of an address, each fixed in length: eight full groups, thirty-two hexadecimal digits, a
hundred and twenty-eight bits, and thirty-two nibbles.
-/

namespace IPv6.Address

def hex (address : Address) : List Char := Text.Hex.ofOctets address.octets

def chunks (size : Nat) : (count : Nat) → List Char → List (List Char)
  | 0, _ => []
  | count + 1, text => text.take size :: chunks size count (text.drop size)

/-- Eight groups of four digits. -/
def exploded (address : Address) : List Char := Text.join [':'] (chunks 4 8 address.hex)

/-- Exactly `width` binary digits, the most significant first. -/
def bits : (width number : Nat) → List Char
  | 0, _ => []
  | width + 1, number => bits width (number / 2) ++ [if number % 2 = 0 then '0' else '1']

def binary (address : Address) : List Char := bits 128 address.toNat

def nibblesOf (octets : Octets) : List Nat :=
  octets.flatMap fun octet => [octet.toNat / 16, octet.toNat % 16]

def nibbles (address : Address) : List Nat := nibblesOf address.octets

def isHexForm (text : List Char) : Bool := text.length == 32 && text.all Text.Hex.isDigit

def isBinaryForm (text : List Char) : Bool :=
  text.length == 128 && text.all fun char => char == '0' || char == '1'

def ofHex? (text : List Char) : Option Address :=
  if isHexForm text then (Text.Hex.toOctets? text).bind ofOctets? else none

def readBits (text : List Char) : Nat :=
  text.foldl (fun number char => 2 * number + if char == '1' then 1 else 0) 0

def ofBinary? (text : List Char) : Option Address :=
  if isBinaryForm text then some (ofNat (readBits text)) else none

def octetsOfNibbles : List Nat → Octets
  | high :: low :: rest => UInt8.ofNat (16 * high + low) :: octetsOfNibbles rest
  | _ => []

def ofNibbles? (nibbles : List Nat) : Option Address :=
  if nibbles.length = 32 ∧ nibbles.all (· ≤ 15) then ofOctets? (octetsOfNibbles nibbles) else none

/-- The hexadecimal form of whichever form the text has, blanks around it set aside. -/
def normalize? (text : List Char) : Option (List Char) :=
  let form := Text.trim Text.isBlank text
  match read? form with
  | some address => some address.hex
  | none =>
    match ofHex? form with
    | some address => some address.hex
    | none => (ofBinary? form).map hex

end IPv6.Address
