import IPv6.Session.Basic
import IPv6.Value.Copying
import IPv6.Value.Order
/-!
The steps of a session. A step that fails leaves the session as it was.
-/

namespace IPv6

inductive Action
  /-- A new endpoint of a port and an address. -/
  | make (port address : Argument)
  /-- A new endpoint from the octets of a record. -/
  | receive (source : Argument)
  | copy (how : Copying) (source : Argument)
  /-- A list of the items in order. -/
  | sort (source : Argument)
  | setPort (target given : Argument)
  | setAddress (target given : Argument)
  /-- A view of an endpoint. -/
  | expose (target : Argument)
  /-- The octets of this moment. -/
  | snapshot (target : Argument)
  | address (target : Argument)
  | read (target start count : Argument)
  | write (target start given : Argument)
  | splice (target start stop given : Argument)
  | newBuffer
  | encode (address port flow scope : Argument)
  | setField (target name given : Argument)
  /-- A value worked out from the values of the arguments: records packed, say, or one of the endpoints
  that are unpacked or sorted. -/
  | evaluate (operation : List Value → Except Fault Value) (arguments : List Argument)

namespace Session

/-- A bound of a slice; absence leaves it out. -/
def boundOf (value : Value) : Except Fault (Option Int) :=
  match value, value.index? with
  | .absent, _ => .ok none
  | _, some bound => .ok (some bound)
  | _, none => .error .wrongType

/-- The octets that may replace a slice: octets, or a column of them. -/
def replacementOf : Value → Except Fault Octets
  | .octets _ octets => .ok octets
  | .grid grid =>
    match grid.shape, grid.element == .word .uint8 with
    | [_], true => .ok (Value.gridOctets grid)
    | _, _ => .error .wrongValue
  | .records _ _ => .error .wrongValue
  | _ => .error .wrongType

/-- The name of a field; a record by itself has no items for other indices. -/
def fieldName : Value → Except Fault String
  | .text text => .ok text
  | .absent | .boolean _ | .sequence .tuple [] => .error .wrongType
  | _ => .error .wrongIndex

def slicedOctets (value : Value) (start stop : Int) : Except Fault Octets :=
  match value with
  | .octets _ octets => .ok ((Slice.ofBounds octets.length start stop).read octets)
  | .sequence kind items => do
    let slice := Slice.ofBounds items.length start stop
    let payload ← (Value.sequence kind (slice.read items)).payload
    return payload.octets
  | .grid grid =>
    match grid.rows? with
    | some rows => .ok (((Slice.ofBounds rows.length start stop).read rows).flatMap Value.gridOctets)
    | none => .error .wrongIndex
  | .records _ records =>
    .ok (((Slice.ofBounds records.length start stop).read records).flatMap Record.octets)
  | _ => .error .wrongType

/-- What takes the place of a slice, and the bounds of the slice where they are given. -/
structure Replacement where
  start? : Option Int
  stop? : Option Int
  given : Value

def Replacement.slice (replacement : Replacement) (length : Nat) : Slice :=
  Slice.ofBounds? length replacement.start? replacement.stop?

/-- As many items as are given, from a start on. -/
def overwriting (session : Session) (start given : Argument) : Except Fault Replacement := do
  let startValue ← session.argumentValue start
  let value ← session.argumentValue given
  match value.length? with
  | none => .error .wrongType
  | some length =>
    let stop ← Value.added startValue (.integer length)
    return ⟨startValue.index?, some stop, value⟩

def splicing (session : Session) (start stop given : Argument) : Except Fault Replacement := do
  let start? ← boundOf (← session.argumentValue start)
  let stop? ← boundOf (← session.argumentValue stop)
  let value ← session.argumentValue given
  return ⟨start?, stop?, value⟩

/-- The octets of a slice of a writable object replaced. -/
def replaceSlice (session : Session) (object : Object) (replacement : Replacement) :
    Except Fault Session :=
  match writable? object with
  | none => .error .wrongType
  | some buffer => do
    let current := session.contents buffer
    let octets ← replacementOf replacement.given
    let changed ← (replacement.slice current.length).write current octets
    return session.store buffer changed

/-- The record that a value begins with, where the value has as many items as a record octets. -/
def recordView (value : Value) : Except Fault Record :=
  match value.length? with
  | none => .error .wrongType
  | some length =>
    if length = Record.size then
      match value with
      | .octets _ octets => SocketAddress.recordOf octets
      | .grid _ | .records _ _ => do
        let payload ← value.payload
        match Record.ofOctets? (payload.octets.take Record.size) with
        | some record => return record
        | none => .error .wrongValue
      | _ => .error .wrongType
    else refuse (.recordSize length)

/-- The octets after the change. Those of a grid are changed for the answer alone. -/
def setRecordField (layout : Layout) (session : Session) (object : Object) (name : Value)
    (given : Value) : Except Fault (Object × Session) := do
  let record ← recordView (session.value object)
  match writable? object, session.value object with
  | some buffer, _ =>
    let field ← fieldName name
    let changed ← storeNamed layout record field given
    return (.constant (.octets .constant changed.octets), session.store buffer changed.octets)
  | none, .grid grid =>
    let field ← fieldName name
    let changed ← storeNamed layout record field given
    let rest := (Value.gridOctets grid).drop Record.size
    return (.constant (.octets .constant (changed.octets ++ rest)), session)
  | none, _ => .error .wrongValue

/-- The buffer that a view of the object shows. What has a view of its own has none to ask for. -/
def exposed (session : Session) : Object → Except Fault Nat
  | .constant (.word _) | .constant (.grid _) | .constant (.records _ _) => .error .wrongType
  | object => (session.endpointOf object).map fun (buffer, _) => buffer

def done (session : Session) : Object × Session := (.constant .absent, session)

def addEndpoint (session : Session) (endpoint : Endpoint) : Object × Session :=
  session.introduce (.endpoint endpoint)

/-- The object an action gives and the session after it. -/
def perform (layout : Layout) (session : Session) : Action → Except Fault (Object × Session)
  | .make port address => do
    let portValue ← session.argumentValue port
    let addressValue ← session.argumentValue address
    let endpoint ← Endpoint.ofValues layout portValue addressValue
    return session.addEndpoint endpoint
  | .receive source => do
    let value ← session.argumentValue source
    let endpoint ← Endpoint.ofNative layout value
    return session.addEndpoint endpoint
  | .copy how source => do
    let (object, session) ← session.resolve source
    match how.keepsItems, object with
    | true, .list _ => return (object, session)
    | _, _ =>
      let copied ← Value.copied layout how (session.value object)
      return session.introduce copied
  | .sort source => do
    let (object, session) ← session.resolve source
    match object with
    | .list items =>
      let sorted ← Value.sortedOn session.value items
      return (.list sorted, session)
    | _ =>
      let items ← (session.value object).items
      let sorted ← Value.sortedOn id items
      return session.introduce (.sequence .list sorted)
  | .setPort target given => do
    let (object, session) ← session.resolve target
    let value ← session.argumentValue given
    let (buffer, endpoint) ← session.endpointOf object
    let changed ← endpoint.setPort value
    return (object, session.store buffer changed.octets)
  | .setAddress target given => do
    let (object, session) ← session.resolve target
    let value ← session.argumentValue given
    let (buffer, endpoint) ← session.endpointOf object
    let changed ← endpoint.setAddress value
    return (object, session.store buffer changed.octets)
  | .expose target => do
    let (object, session) ← session.resolve target
    let buffer ← session.exposed object
    return (.view buffer, session)
  | .snapshot target => do
    let value ← session.argumentValue target
    let payload ← value.payload
    return (.constant (.octets .constant payload.octets), session)
  | .address target => do
    let (object, session) ← session.resolve target
    let (_, endpoint) ← session.endpointOf object
    return (.constant (.address endpoint.address), session)
  | .read target start count => do
    let value ← session.argumentValue target
    let startValue ← session.argumentValue start
    let stop ← Value.added startValue (← session.argumentValue count)
    match startValue.index? with
    | none => .error .wrongType
    | some first =>
      let octets ← slicedOctets value first stop
      return (.constant (.octets .constant octets), session)
  | .write target start given => do
    let (object, session) ← session.resolve target
    let replacement ← session.overwriting start given
    let changed ← session.replaceSlice object replacement
    return changed.done
  | .splice target start stop given => do
    let (object, session) ← session.resolve target
    let replacement ← session.splicing start stop given
    let changed ← session.replaceSlice object replacement
    return changed.done
  | .newBuffer => .ok (session.introduce (.octets .buffer (Record.blank layout).octets))
  | .encode address port flow scope => do
    let addressValue ← session.argumentValue address
    let portValue ← session.argumentValue port
    let flowValue ← session.argumentValue flow
    let scopeValue ← session.argumentValue scope
    let record ← encodeValues layout addressValue portValue flowValue scopeValue
    return session.introduce (.octets .buffer record.octets)
  | .setField target name given => do
    let (object, session) ← session.resolve target
    let nameValue ← session.argumentValue name
    let value ← session.argumentValue given
    setRecordField layout session object nameValue value
  | .evaluate operation arguments => do
    let values ← session.argumentValues arguments
    let value ← operation values
    return session.introduce value

/-- One step: its outcome, bound to a name where one is given, and the session after it. -/
def step (layout : Layout) (session : Session) (action : Action) (name? : Option String) :
    Except Fault Object × Session :=
  match session.perform layout action with
  | .error fault => (.error fault, session)
  | .ok (object, changed) =>
    match name? with
    | some name => (.ok object, changed.bind name object)
    | none => (.ok object, changed)

/-- The session after some steps, one after the other. -/
def run (layout : Layout) (session : Session) (steps : List (Action × Option String)) : Session :=
  steps.foldl (fun session (action, name?) => (session.step layout action name?).2) session

end Session

end IPv6
