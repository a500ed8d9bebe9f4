import IPv6.Refusal
/-!
The octets a value stands for. A count stands for so many zeros, a sequence for its items, and an address
or an endpoint for its own octets; text and absence stand for none.
-/

namespace IPv6

/-- Octets as a value gives them; a run of zeros is not spelled out before its size is known to fit. -/
inductive Payload
  | zeros (count : Nat)
  | literal (octets : Octets)
deriving DecidableEq

namespace Payload

def size : Payload → Nat
  | .zeros count => count
  | .literal given => given.length

def octets : Payload → Octets
  | .zeros count => Octets.zeros count
  | .literal given => given

end Payload

namespace Value

/-- Counts stop short of `2 ^ 63` by the octets that a block needs for itself. -/
def countLimit : Int := 0x8000000000000000 - 33

/-- The memory there is for one block of octets: no block of so many is given out. -/
def memoryLimit : Int := 0x10000000000

def countPayload (count : Int) : Except Fault Payload :=
  if count < -0x8000000000000000 ∨ countLimit ≤ count then .error .overflow
  else if count < 0 then .error .wrongValue
  else if memoryLimit ≤ count then .error .exhausted
  else .ok (.zeros count.toNat)

/-- An item of a sequence as one octet; a truth value counts as 0 or 1. -/
def itemOctet (item : Value) : Except Fault UInt8 :=
  match item.index? with
  | none => .error .wrongType
  | some number =>
    if 0 ≤ number ∧ number < 256 then .ok (UInt8.ofNat number.toNat) else .error .wrongValue

/-- The stored form of an entry, least octet first. -/
def entryOctets (element : ElementType) (entry : Int) : Octets :=
  match element with
  | .boolean => [if entry = 0 then 0 else 1]
  | .word type => Octets.littleEndian element.size (entry % type.count).toNat
  | .real bits => Octets.littleEndian element.size (BinaryFormat.pattern bits entry)

def gridOctets (grid : Grid) : Octets := grid.entries.flatMap (entryOctets grid.element)

/-- A grid of one whole number is a count like any other. -/
def gridPayload (grid : Grid) : Except Fault Payload :=
  match grid.number? with
  | some number => countPayload number
  | none => .ok (.literal (gridOctets grid))

def payload : Value → Except Fault Payload
  | .boolean flag => .ok (.zeros (if flag then 1 else 0))
  | .integer number | .word ⟨_, number, _⟩ => countPayload number
  | .octets _ given => .ok (.literal given)
  | .sequence _ items => (items.mapM itemOctet).map .literal
  | .grid given => gridPayload given
  | .records _ given => .ok (.literal (given.flatMap Record.octets))
  | .address given => .ok (.literal given.octets)
  | .endpoint given => .ok (.literal given.octets)
  | .absent | .real _ | .text _ | .protocol _ => .error .wrongType

/-- The values that stepping through a value gives. -/
def items : Value → Except Fault (List Value)
  | .text given => .ok (given.toList.map fun char => .text (String.singleton char))
  | .octets _ given => .ok (given.map fun octet => .integer octet.toNat)
  | .sequence _ items => .ok items
  | .grid given =>
    match given.rows? with
    | none => .error .wrongType
    | some rows => .ok (rows.map fun row =>
        match row.shape, row.element, row.entries with
        | [], .word type, [entry] => ((Word.ofInt? type entry).map Value.word).getD (.grid row)
        | _, _, _ => .grid row)
  | .records _ given => .ok (given.map fun record => .octets .constant record.octets)
  | _ => .error .wrongType

end Value

end IPv6
