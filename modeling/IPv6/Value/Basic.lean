import IPv6.Endpoint.Basic
import IPv6.Number.Binary64
import IPv6.Number.Grid
/-!
What a caller may hand over where an address, a port, a buffer or a vector is expected.
-/

namespace IPv6

/-- A constant never changes, a buffer can be written, a view shows the octets of something else. -/
inductive OctetsKind
  | constant
  | buffer
  | view
deriving DecidableEq, Repr

inductive SequenceKind
  | list
  | tuple
deriving DecidableEq, Repr

inductive Value
  | absent
  | boolean (flag : Bool)
  | integer (number : Int)
  | word (word : Word)
  | real (number : Binary64)
  | text (text : String)
  | octets (kind : OctetsKind) (octets : Octets)
  | sequence (kind : SequenceKind) (items : List Value)
  | grid (grid : Grid)
  | records (layout : Layout) (records : List Record)
  | address (address : Address)
  | endpoint (endpoint : Endpoint)
  | protocol (protocol : Protocol)

namespace Value

instance : Inhabited Value := ⟨absent⟩

def typeName : Value → String
  | .absent => "NoneType"
  | .boolean _ => "bool"
  | .integer _ => "int"
  | .word given => given.type.name
  | .real _ => "float"
  | .text _ => "str"
  | .octets .constant _ => "bytes"
  | .octets .buffer _ => "bytearray"
  | .octets .view _ => "memoryview"
  | .sequence .list _ => "list"
  | .sequence .tuple _ => "tuple"
  | .grid _ | .records _ _ => "ndarray"
  | .address _ => "IPv6Address"
  | .endpoint _ => "IPv6Endpoint"
  | .protocol _ => "TCP"

/-- The whole number of an integer of any width; a truth value is none. -/
def wholeNumber? : Value → Option Int
  | .integer number => some number
  | .word given => some given.number
  | _ => none

/-- The number by which the value counts or indexes; a truth value is 0 or 1. -/
def index? : Value → Option Int
  | .boolean flag => some (if flag then 1 else 0)
  | .integer number => some number
  | .word given => some given.number
  | .grid given => given.number?
  | _ => none

/-- How many items the value has; `none` for a value without items. -/
def length? : Value → Option Nat
  | .text given => some given.length
  | .octets _ given => some given.length
  | .sequence _ items => some items.length
  | .grid given => given.shape.head?
  | .records _ given => some given.length
  | _ => none

end Value

end IPv6
