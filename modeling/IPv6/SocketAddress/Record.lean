import IPv6.Address.Basic
/-!
The twenty-eight octets of a native socket address and the fields in them.

| octets  | field   | order         |
|---------|---------|---------------|
| 0, 1    | family  | least first   |
| 2, 3    | port    | most first    |
| 4 to 7  | flow    | most first    |
| 8 to 23 | address | as it stands  |
| 24 to 27| scope   | least first   |

In the BSD layout octet 0 holds the length of the record and octet 1 alone the family.
-/

namespace IPv6

inductive ByteOrder
  | leastFirst
  | mostFirst
deriving DecidableEq, Repr

namespace ByteOrder

def write : ByteOrder → (width number : Nat) → Octets
  | leastFirst => Octets.littleEndian
  | mostFirst => Octets.bigEndian

def read : ByteOrder → Octets → Nat
  | leastFirst => Octets.readLittleEndian
  | mostFirst => Octets.readBigEndian

@[simp] theorem length_write (order : ByteOrder) (width number : Nat) :
    (order.write width number).length = width := by
  cases order <;> simp [write]

end ByteOrder

/-- Where a field stands in a record. -/
structure Slot where
  offset : Nat
  size : Nat
  order : ByteOrder
deriving DecidableEq, Repr

inductive Field
  | length
  | family
  | port
  | flow
  | address
  | scope
deriving DecidableEq, Repr

namespace Field

def all : List Field := [length, family, port, flow, address, scope]

def name : Field → String
  | length => "len"
  | family => "family"
  | port => "port"
  | flow => "flowinfo"
  | address => "addr"
  | scope => "scope_id"

end Field

inductive Layout
  | systemV
  | bsd
deriving DecidableEq, Repr

namespace Layout

def slot? : Layout → Field → Option Slot
  | systemV, .length => none
  | bsd, .length => some ⟨0, 1, .leastFirst⟩
  | systemV, .family => some ⟨0, 2, .leastFirst⟩
  | bsd, .family => some ⟨1, 1, .leastFirst⟩
  | _, .port => some ⟨2, 2, .mostFirst⟩
  | _, .flow => some ⟨4, 4, .mostFirst⟩
  | _, .address => some ⟨8, 16, .mostFirst⟩
  | _, .scope => some ⟨24, 4, .leastFirst⟩

/-- The fields of the layout in the order of their octets. -/
def slots (layout : Layout) : List (Field × Slot) :=
  Field.all.filterMap fun field => (layout.slot? field).map (field, ·)

def find? (layout : Layout) (name : String) : Option (Field × Slot) :=
  layout.slots.find? fun (field, _) => field.name == name

def bsdSystems : List String := ["darwin", "freebsd", "openbsd", "netbsd", "dragonfly"]

/-- The layout of an operating system, known by how its name begins. -/
def ofSystem (system : String) : Layout :=
  if bsdSystems.any fun name => name.isPrefixOf system then bsd else systemV

end Layout

structure Record where
  octets : Octets
  length_octets : octets.length = 28
deriving DecidableEq

namespace Record

def size : Nat := 28

def ofOctets? (octets : Octets) : Option Record :=
  if length_octets : octets.length = 28 then some ⟨octets, length_octets⟩ else none

def zero : Record := ⟨Octets.zeros 28, Octets.length_zeros 28⟩

def segment (record : Record) (offset size : Nat) : Octets :=
  (record.octets.drop offset).take size

/-- The record with the octets from `offset` on replaced, where they all fit. -/
def replace (record : Record) (offset : Nat) (octets : Octets) : Record :=
  if fits : offset + octets.length ≤ 28 then
    ⟨record.octets.take offset ++ octets ++ record.octets.drop (offset + octets.length), by
      have whole := record.length_octets
      simp only [List.length_append, List.length_take, List.length_drop]
      omega⟩
  else record

def read (record : Record) (slot : Slot) : Nat :=
  slot.order.read (record.segment slot.offset slot.size)

def write (record : Record) (slot : Slot) (number : Nat) : Record :=
  record.replace slot.offset (slot.order.write slot.size number)

def put (record : Record) (layout : Layout) (field : Field) (number : Nat) : Record :=
  match layout.slot? field with
  | some slot => record.write slot number
  | none => record

def port (record : Record) : UInt16 := UInt16.ofNat (record.read ⟨2, 2, .mostFirst⟩)

def flow (record : Record) : UInt32 := UInt32.ofNat (record.read ⟨4, 4, .mostFirst⟩)

def scope (record : Record) : UInt32 := UInt32.ofNat (record.read ⟨24, 4, .leastFirst⟩)

def address (record : Record) : Address :=
  ⟨record.segment 8 16, by
    have whole := record.length_octets
    simp only [segment, List.length_take, List.length_drop]
    omega⟩

/-- The number that names the address family. -/
def familyNumber : Nat := 10

/-- All zero but for the family and, where the layout has one, the length. -/
def blank (layout : Layout) : Record :=
  (zero.put layout .length size).put layout .family familyNumber

def withPort (record : Record) (port : UInt16) : Record :=
  record.write ⟨2, 2, .mostFirst⟩ port.toNat

def withFlow (record : Record) (flow : UInt32) : Record :=
  record.write ⟨4, 4, .mostFirst⟩ flow.toNat

def withAddress (record : Record) (address : Address) : Record := record.replace 8 address.octets

def withScope (record : Record) (scope : UInt32) : Record :=
  record.write ⟨24, 4, .leastFirst⟩ scope.toNat

end Record

end IPv6
