import IPv6.Endpoint.Input
/-!
Copies of values. A copy of an endpoint keeps its address and port and nothing else; most other values
stand for themselves.
-/

namespace IPv6

/-- How a copy is made: by the value's own means, of the value alone, of all that it holds, or from the
parts that it is saved as. -/
inductive Copying
  | own
  | shallow
  | deep
  | saved
deriving DecidableEq, Repr

namespace Copying

/-- Whether a copied list holds the very items of the first one. -/
def keepsItems : Copying → Bool
  | own | shallow => true
  | deep | saved => false

end Copying

namespace Value

mutual

def deepCopy (layout : Layout) : Value → Except Fault Value
  | .endpoint given => .ok (.endpoint (given.copy layout))
  | .octets .view _ => .error .wrongType
  | .sequence kind items => (deepCopies layout items).map (.sequence kind)
  | value => .ok value

def deepCopies (layout : Layout) : List Value → Except Fault (List Value)
  | [] => .ok []
  | item :: rest => do
    let first ← deepCopy layout item
    let others ← deepCopies layout rest
    return first :: others

end

/-- Only some values have a means of copying of their own. -/
def ownCopy (layout : Layout) : Value → Except Fault Value
  | .endpoint given => .ok (.endpoint (given.copy layout))
  | .sequence .list items => .ok (.sequence .list items)
  | .octets .buffer given => .ok (.octets .buffer given)
  | .grid given => .ok (.grid given)
  | .records kept given => .ok (.records kept given)
  | .word given => .ok (.word given)
  | _ => .error .missingMember

def shallowCopy (layout : Layout) : Value → Except Fault Value
  | .endpoint given => .ok (.endpoint (given.copy layout))
  | .octets .view _ => .error .wrongType
  | value => .ok value

/-- Buffers, grids and records are saved as more than a maker and its arguments. -/
def savedCopy (layout : Layout) : Value → Except Fault Value
  | .endpoint given => (given.rebuild layout).map .endpoint
  | .address given => given.rebuild.map .address
  | .word given => .ok (.word given)
  | .protocol given => .ok (.protocol given)
  | .octets .buffer _ | .grid _ | .records _ _ => .error .wrongValue
  | _ => .error .wrongType

def copied (layout : Layout) : Copying → Value → Except Fault Value
  | .own => ownCopy layout
  | .shallow => shallowCopy layout
  | .deep => deepCopy layout
  | .saved => savedCopy layout

/-- A shallow copy, a deep one, and one from the saved parts. -/
def copies (layout : Layout) (value : Value) : Except Fault Value := do
  let shallow ← shallowCopy layout value
  let deep ← deepCopy layout value
  let saved ← savedCopy layout value
  return .sequence .list [shallow, deep, saved]

end Value

end IPv6
