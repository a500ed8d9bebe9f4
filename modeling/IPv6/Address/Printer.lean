import IPv6.Address.Class
import IPv6.Text.Decimal
import IPv6.Text.Fields
import IPv6.Text.Hex
/-!
The text of an address: lowercase groups without leading zeros, the first longest run of two or more zero
groups written `::`, and the last thirty-two bits dotted where an IPv4 address stands.
-/

namespace IPv6.Address

def zeroPrefix (groups : List UInt16) : Nat := (groups.takeWhile (· == 0)).length

/-- A run of zero groups. -/
structure Run where
  start : Nat
  length : Nat
deriving DecidableEq, Repr

/-- The first of the longest runs; its length is zero where there is no zero group. -/
def longestRun : List UInt16 → Run
  | [] => ⟨0, 0⟩
  | group :: rest =>
    let here := zeroPrefix (group :: rest)
    let later := longestRun rest
    if later.length ≤ here then ⟨0, here⟩ else ⟨later.start + 1, later.length⟩

def groupText (group : UInt16) : List Char := Text.Hex.plain group.toNat

def groupsText (groups : List UInt16) : List Char := Text.join [':'] (groups.map groupText)

def dottedText (octets : Octets) : List Char :=
  Text.join ['.'] (octets.map fun octet => Text.Decimal.ofNat octet.toNat)

/-- The text of eight groups around a run of zeros. -/
def gapText (groups : List UInt16) (run : Run) : List Char :=
  groupsText (groups.take run.start) ++ [':', ':'] ++
    groupsText (groups.drop (run.start + run.length))

/-- The lead of a dotted text: six zero groups, or five and then `ffff`. -/
def dottedLead? (groups : List UInt16) (run : Run) : Option (List Char) :=
  if run = ⟨0, 6⟩ then some [':', ':']
  else if run = ⟨0, 5⟩ ∧ groups[5]? = some 0xffff then some "::ffff:".toList
  else none

def chars (address : Address) : List Char :=
  let run := longestRun address.groups
  if run.length < 2 then groupsText address.groups
  else
    match dottedLead? address.groups run with
    | some lead => lead ++ dottedText address.ipv4Octets
    | none => gapText address.groups run

def text (address : Address) : String := String.ofList address.chars

/-- Room for the longest text that any address may have, and a terminator. -/
def textRoom : Nat := 46

/-- The dotted IPv4 address of a mapped or compatible address. -/
def ipv4Text? (address : Address) : Option String :=
  if address.embedsIPv4 then some (String.ofList (dottedText address.ipv4Octets)) else none

end IPv6.Address
