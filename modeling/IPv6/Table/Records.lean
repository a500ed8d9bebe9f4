import IPv6.Endpoint.Input
import IPv6.Table.Addresses
/-!
Many endpoints at once, as records in one block. Records are cut from the joined octets of the items, so
only the total has to be a whole number of records.
-/

namespace IPv6.Table

/-- Octets cut into records from the front; what is left of the last record is dropped. -/
def cutRecords (count : Nat) (octets : Octets) : List Record :=
  match count with
  | 0 => []
  | count + 1 =>
    match Record.ofOctets? (octets.take Record.size) with
    | some record => record :: cutRecords count (octets.drop Record.size)
    | none => []

def recordsOfOctets (octets : Octets) : Except Fault (List Record) :=
  if octets.length % Record.size = 0 then .ok (cutRecords (octets.length / Record.size) octets)
  else .error .wrongValue

def payloadsOf (given : Value) : Except Fault (List Payload) := do
  let items ← given.items
  items.mapM Value.payload

def pack (given : Value) : Except Fault (List Record) := do
  let payloads ← payloadsOf given
  let size := payloads.foldr (fun payload total => payload.size + total) 0
  if size % Record.size = 0 then
    recordsOfOctets (payloads.flatMap Payload.octets)
  else .error .wrongValue

def unpackRecords (layout : Layout) (records : List Record) : Except Fault (List Endpoint) :=
  records.mapM (Endpoint.ofRecord layout)

def unpack (layout : Layout) : Value → Except Fault (List Endpoint)
  | .records _ records => unpackRecords layout records
  | .grid grid => refuse (.recordsExpected grid.element)
  | .word word => refuse (.recordsExpected (.word word.type))
  | _ => .error .missingMember

/-- The octets of the address, then the port. -/
def recordKeys : List (Record → Nat) :=
  octetKeys.map (fun key record => key record.address) ++ [fun record => record.port.toNat]

def sortRecords (records : List Record) : List Record := sortByKeys recordKeys records

/-- Sorted first and read afterwards: the first record in order that cannot be read is reported. -/
def sortEndpoints (layout : Layout) (given : Value) : Except Fault (List Endpoint) := do
  let records ← pack given
  unpackRecords layout (sortRecords records)

end IPv6.Table
