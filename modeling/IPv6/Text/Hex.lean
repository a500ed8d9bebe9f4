import IPv6.Octets
import IPv6.Text.Fields
/-!
Hexadecimal text: lowercase when written, either case when read, two digits for an octet.
-/

namespace IPv6.Text.Hex

def digits : List Char := "0123456789abcdef".toList

/-- The lowercase digit of the low four bits. -/
def digit (number : Nat) : Char := digits.getD (number % 16) '0'

def value? (char : Char) : Option Nat :=
  if '0' ≤ char ∧ char ≤ '9' then some (char.toNat - '0'.toNat)
  else if 'a' ≤ char ∧ char ≤ 'f' then some (char.toNat - 'a'.toNat + 10)
  else if 'A' ≤ char ∧ char ≤ 'F' then some (char.toNat - 'A'.toNat + 10)
  else none

def isDigit (char : Char) : Bool := (value? char).isSome

/-- Digits most significant first; `none` at anything but a digit. -/
def read? (text : List Char) : Option Nat :=
  text.foldlM (fun number char => (value? char).map (16 * number + ·)) 0

/-- Exactly `width` digits, the low ones of the number. -/
def fixed : (width number : Nat) → List Char
  | 0, _ => []
  | width + 1, number => fixed width (number / 16) ++ [digit number]

/-- As many digits as the number needs, and one for zero. -/
def plain (number : Nat) : List Char :=
  if number < 16 then [digit number] else plain (number / 16) ++ [digit number]

def ofOctet (octet : UInt8) : List Char := fixed 2 octet.toNat

def ofOctets (octets : Octets) : List Char := octets.flatMap ofOctet

/-- The octets with a blank between two of them. -/
def spaced (octets : Octets) : List Char := Text.join [' '] (octets.map ofOctet)

/-- Two digits an octet; `none` at an odd length or at anything but a digit. -/
def toOctets? : List Char → Option Octets
  | [] => some []
  | [_] => none
  | high :: low :: rest => do
    let octet ← read? [high, low]
    let octets ← toOctets? rest
    return UInt8.ofNat octet :: octets

end IPv6.Text.Hex
