import IPv6.SocketAddress.Codec
/-!
Endpoints from what callers hand over. A port is an integer of any width in its range, and an address is
anything that stands for one; a record is accepted without flow label and scope.
-/

namespace IPv6.Endpoint

def portOf (given : Value) : Except Fault UInt16 :=
  match given.wholeNumber? with
  | none => refuse (.portExpected given)
  | some number =>
    if 0 ≤ number ∧ number ≤ 0xffff then .ok (UInt16.ofNat number.toNat)
    else refuse (.portOutOfRange given)

def setPort (endpoint : Endpoint) (given : Value) : Except Fault Endpoint :=
  (portOf given).map endpoint.withPort

def setAddress (endpoint : Endpoint) (given : Value) : Except Fault Endpoint :=
  (Address.ofValue given).map endpoint.withAddress

/-- The address an endpoint starts with: loopback where none is given. -/
def startAddress : Value → Value
  | .absent => .address Address.loopback
  | given => given

/-- The port an endpoint starts with. -/
def startPort : Value := .integer 0

/-- A new endpoint. The port is looked at before the address. -/
def ofValues (layout : Layout) (port address : Value) : Except Fault Endpoint := do
  let opened ← (Endpoint.mk (Record.blank layout)).setPort port
  opened.setAddress (startAddress address)

def ofSocketAddress (layout : Layout) (given : SocketAddress) : Except Fault Endpoint :=
  if given.flow = 0 ∧ given.scope = 0 then .ok (make layout given.port given.address)
  else refuse (.labelled given.flow given.scope)

def ofRecord (layout : Layout) (record : Record) : Except Fault Endpoint := do
  let given ← SocketAddress.decodeRecord layout record
  ofSocketAddress layout given

def ofNative (layout : Layout) (given : Value) : Except Fault Endpoint := do
  let decoded ← decodeValue layout given
  ofSocketAddress layout decoded

/-- The endpoint made again from the parts that it is saved as: its port and the octets of its
address. -/
def rebuild (layout : Layout) (endpoint : Endpoint) : Except Fault Endpoint :=
  ofValues layout (.integer endpoint.port.toNat) (.octets .constant endpoint.address.octets)

/-- The protocol of an endpoint, or the number of a protocol. -/
def protocolOf : Value → Except Fault Value
  | .endpoint given => .ok (.protocol given.protocol)
  | .protocol given => .ok (.integer given.number)
  | _ => .error .missingMember

/-- What a socket call takes: address text, port, and zero flow label and scope. -/
def socketArguments (endpoint : Endpoint) : String × UInt16 × UInt32 × UInt32 :=
  (endpoint.address.text, endpoint.port, 0, 0)

end IPv6.Endpoint
