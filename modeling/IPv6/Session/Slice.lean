import IPv6.Refusal
/-!
Slices of octets. A bound below zero counts from the end, and both bounds are moved into the octets there
are; octets that replace a slice have to be as many.
-/

namespace IPv6

/-- The octets from `start` up to `stop`; none where `stop` comes first. -/
structure Slice where
  start : Nat
  stop : Nat
deriving DecidableEq, Repr

namespace Slice

def position (length : Nat) (bound : Int) : Nat :=
  if bound < 0 then (length + bound).toNat else min bound.toNat length

def ofBounds (length : Nat) (start stop : Int) : Slice := ⟨position length start, position length stop⟩

/-- A bound that is left out stands at its end of the octets. -/
def ofBounds? (length : Nat) (start? stop? : Option Int) : Slice :=
  ofBounds length (start?.getD 0) (stop?.getD length)

def size (slice : Slice) : Nat := slice.stop - slice.start

def read {Item : Type} (slice : Slice) (items : List Item) : List Item :=
  (items.drop slice.start).take slice.size

/-- The octets with those of the slice replaced by as many others. -/
def write (slice : Slice) (octets replacement : Octets) : Except Fault Octets :=
  if replacement.length = slice.size then
    .ok (octets.take slice.start ++ replacement ++ octets.drop (slice.start + replacement.length))
  else .error .wrongValue

end Slice

end IPv6
