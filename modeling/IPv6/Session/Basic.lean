import IPv6.Session.Slice
import IPv6.Table.Records
/-!
Sessions: a store of octet buffers and named registers. An endpoint and every view of it name one buffer,
so what is written through one is read through the others, and a list names the objects in it; everything
else in a register never changes.
-/

namespace IPv6

/-- What a register holds. -/
inductive Object
  | endpoint (buffer : Nat)
  | buffer (buffer : Nat)
  | view (buffer : Nat)
  | constant (value : Value)
  | list (items : List Object)

structure Session where
  buffers : List Octets
  registers : List (String × Object)

/-- An argument of an action: a value written out, the name of a register, or a list of these. -/
inductive Argument
  | given (value : Value)
  | register (name : String)
  | list (items : List Argument)

namespace Session

def empty : Session := ⟨[], []⟩

def contents (session : Session) (buffer : Nat) : Octets := session.buffers.getD buffer []

def allocate (session : Session) (octets : Octets) : Nat × Session :=
  (session.buffers.length, { session with buffers := session.buffers ++ [octets] })

def store (session : Session) (buffer : Nat) (octets : Octets) : Session :=
  { session with buffers := session.buffers.set buffer octets }

def bind (session : Session) (name : String) (object : Object) : Session :=
  { session with registers := (name, object) :: session.registers.filter (·.1 != name) }

def register? (session : Session) (name : String) : Option Object := session.registers.lookup name

def endpointIn? (session : Session) (buffer : Nat) : Option Endpoint :=
  (Record.ofOctets? (session.contents buffer)).map Endpoint.mk

mutual

/-- What an object shows at this moment. -/
def value (session : Session) : Object → Value
  | .endpoint buffer =>
    match session.endpointIn? buffer with
    | some endpoint => .endpoint endpoint
    | none => .absent
  | .buffer buffer => .octets .buffer (session.contents buffer)
  | .view buffer => .octets .view (session.contents buffer)
  | .constant value => value
  | .list items => .sequence .list (session.values items)

def values (session : Session) : List Object → List Value
  | [] => []
  | item :: rest => session.value item :: session.values rest

end

/-- The octets an object shows; a value that is no octets shows none. -/
def shown? (session : Session) (object : Object) : Option Octets :=
  match session.value object with
  | .octets _ octets => some octets
  | .address address => some address.octets
  | .endpoint endpoint => some endpoint.octets
  | _ => none

/-- A value that can change gets a buffer of its own. -/
def introduce (session : Session) : Value → Object × Session
  | .endpoint endpoint =>
    let (buffer, session) := session.allocate endpoint.octets
    (.endpoint buffer, session)
  | .octets .buffer octets =>
    let (buffer, session) := session.allocate octets
    (.buffer buffer, session)
  | value => (.constant value, session)

mutual

def resolve (session : Session) : Argument → Except Fault (Object × Session)
  | .given value => .ok (session.introduce value)
  | .register name =>
    match session.register? name with
    | some object => .ok (object, session)
    | none => .error .missingMember
  | .list items => do
    let (objects, changed) ← session.resolveAll items
    return (.list objects, changed)

def resolveAll (session : Session) : List Argument → Except Fault (List Object × Session)
  | [] => .ok ([], session)
  | item :: rest => do
    let (first, opened) ← session.resolve item
    let (others, changed) ← opened.resolveAll rest
    return (first :: others, changed)

end

mutual

def argumentValue (session : Session) : Argument → Except Fault Value
  | .given value => .ok value
  | .register name =>
    match session.register? name with
    | some object => .ok (session.value object)
    | none => .error .missingMember
  | .list items => (session.argumentValues items).map (.sequence .list)

def argumentValues (session : Session) : List Argument → Except Fault (List Value)
  | [] => .ok []
  | item :: rest => do
    let first ← session.argumentValue item
    let others ← session.argumentValues rest
    return first :: others

end

/-- The buffer and the endpoint in it, of an object that is one. -/
def endpointOf (session : Session) : Object → Except Fault (Nat × Endpoint)
  | .endpoint buffer =>
    match session.endpointIn? buffer with
    | some endpoint => .ok (buffer, endpoint)
    | none => .error .missingMember
  | _ => .error .missingMember

/-- The buffer of an object whose octets can be written. -/
def writable? : Object → Option Nat
  | .buffer buffer => some buffer
  | .view buffer => some buffer
  | _ => none

end Session

end IPv6
