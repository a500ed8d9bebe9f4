import IPv6.Address.Input
/-!
Socket addresses to records and back. A record is read only if it has the family, and the length where
the layout has one, that writing gives it.
-/

namespace IPv6

structure SocketAddress where
  address : Address
  port : UInt16
  flow : UInt32
  scope : UInt32
deriving DecidableEq

namespace SocketAddress

def encode (layout : Layout) (given : SocketAddress) : Record :=
  ((((Record.blank layout).withPort given.port).withFlow given.flow).withAddress
    given.address).withScope given.scope

def ofRecord (record : Record) : SocketAddress :=
  ⟨record.address, record.port, record.flow, record.scope⟩

def checkLength (layout : Layout) (record : Record) : Except Fault Unit :=
  match layout.slot? .length with
  | none => .ok ()
  | some slot =>
    if record.read slot = Record.size then .ok () else refuse (.recordLength (record.read slot))

def checkFamily (layout : Layout) (record : Record) : Except Fault Unit :=
  match layout.slot? .family with
  | none => .ok ()
  | some slot =>
    if record.read slot = Record.familyNumber then .ok ()
    else refuse (.recordFamily (record.read slot))

def decodeRecord (layout : Layout) (record : Record) : Except Fault SocketAddress := do
  checkLength layout record
  checkFamily layout record
  return ofRecord record

def recordOf (octets : Octets) : Except Fault Record :=
  match Record.ofOctets? octets with
  | some record => .ok record
  | none => refuse (.recordSize octets.length)

def decode (layout : Layout) (octets : Octets) : Except Fault SocketAddress := do
  let record ← recordOf octets
  decodeRecord layout record

end SocketAddress

/-- Whether a number is the size of a record. -/
def checkRecordSize (given : Value) : Except Fault Unit :=
  match given.wholeNumber? with
  | none => refuse (.recordSizeExpected given)
  | some number => if number = Record.size then .ok () else refuse (.recordSize number)

def recordOfPayload (payload : Payload) : Except Fault Record :=
  if payload.size = Record.size then SocketAddress.recordOf payload.octets
  else refuse (.recordSize payload.size)

def decodeValue (layout : Layout) (given : Value) : Except Fault SocketAddress := do
  let payload ← given.payload
  let record ← recordOfPayload payload
  SocketAddress.decodeRecord layout record

/-! ## Values into fields -/

/-- Whether a port lies in its range; only numbers compare. -/
def isPortInRange : Value → Except Fault Bool
  | .boolean _ => .ok true
  | .integer number | .word ⟨_, number, _⟩ => .ok (0 ≤ number && number ≤ 0xffff)
  | .real number => .ok (number.isBetweenZeroAnd 0xffff)
  | .grid given =>
    match given.entries with
    | [entry] => .ok (0 ≤ entry && entry ≤ 0xffff)
    | _ => .error .wrongValue
  | _ => .error .wrongType

/-- A vector that takes the place of `count` octets: as many, or one for all of them. -/
def spread (count : Nat) (entries : List Nat) : Except Fault Octets :=
  let octets := entries.map UInt8.ofNat
  match octets with
  | [octet] => .ok (List.replicate count octet)
  | _ => if octets.length = count then .ok octets else .error .wrongValue

/-- The lengths of a shape that are left when leading ones beyond the rank are dropped. -/
def dropLeadingOnes (rank : Nat) : List Nat → List Nat
  | 1 :: inner => if rank ≤ inner.length then dropLeadingOnes rank inner else 1 :: inner
  | shape => shape

/-- A number for a field of one number. -/
def fieldNumber (width : Nat) (given : Value) : Except Fault Nat :=
  match given with
  | .sequence _ _ => .error .wrongValue
  | .octets .buffer _ | .octets .view _ | .grid _ | .records _ _ => do
    let shape := (given.shape?).getD []
    let entries ← given.entries width
    match dropLeadingOnes 0 shape, entries with
    | [], [entry] => return entry
    | _, _ => .error .wrongValue
  | _ => given.stored width

/-- Octets for a field of `count` octets. -/
def fieldOctets (count : Nat) (given : Value) : Except Fault Octets :=
  match given.shape? with
  | none => .error .wrongValue
  | some shape =>
    let rank := match given with
      | .sequence _ _ => shape
      | _ => dropLeadingOnes 1 shape
    if 1 < rank.length then .error .wrongValue
    else do
      let entries ← given.entries 1
      spread count entries

/-- The record with a value stored in the field that a slot describes. -/
def storeField (record : Record) (field : Field) (slot : Slot) (given : Value) :
    Except Fault Record :=
  match field with
  | .address => do
    let octets ← fieldOctets slot.size given
    return record.replace slot.offset octets
  | _ => do
    let number ← fieldNumber slot.size given
    return record.write slot number

def storeNamed (layout : Layout) (record : Record) (name : String) (given : Value) :
    Except Fault Record :=
  match layout.find? name with
  | none => .error .wrongValue
  | some (field, slot) => storeField record field slot given

/-- A field read back: a number, or octets for the address. -/
def loadNamed (layout : Layout) (record : Record) (name : String) : Except Fault Value :=
  match layout.find? name with
  | none => .error .wrongValue
  | some (.address, slot) => .ok (.octets .constant (record.segment slot.offset slot.size))
  | some (_, slot) => .ok (.integer (record.read slot))

/-- Sixteen octets for the address, from a value already known to have sixteen items. -/
def addressOctets (given : Value) : Except Fault Octets := do
  let payload ← given.payload
  if payload.size = 16 then return payload.octets else .error .wrongValue

/-- The address has sixteen items and the port is in its range before anything is stored; then port,
flow, address and scope are stored in this order. -/
def encodeValues (layout : Layout) (address port flow scope : Value) : Except Fault Record := do
  match address.length? with
  | none => .error .wrongType
  | some count => if count = 16 then pure () else refuse (.encodedAddressSize count)
  let inRange ← isPortInRange port
  if inRange then pure () else refuse (.portOutOfRange port)
  let portNumber ← fieldNumber 2 port
  let flowNumber ← fieldNumber 4 flow
  let octets ← addressOctets address
  let scopeNumber ← fieldNumber 4 scope
  let record := (Record.blank layout).withPort (UInt16.ofNat portNumber)
  let labelled := record.withFlow (UInt32.ofNat flowNumber)
  return (labelled.replace 8 octets).withScope (UInt32.ofNat scopeNumber)

end IPv6
