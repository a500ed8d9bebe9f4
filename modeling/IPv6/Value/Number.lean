import IPv6.Text.Numeral
import IPv6.Value.Octets
/-!
Values stored as unsigned numbers of a fixed width. A word loses the bits above the width; every other
number has to fit once its fraction is cut off.
-/

namespace IPv6

def wrap (width : Nat) (number : Int) : Nat := (number % Octets.capacity width).toNat

namespace Value

/-- The whole number that a value stands for where any number is welcome. -/
def toInteger : Value → Except Fault Int
  | .boolean flag => .ok (if flag then 1 else 0)
  | .integer number | .word ⟨_, number, _⟩ => .ok number
  | .real .nan => .error .wrongValue
  | .real (.infinite _) => .error .overflow
  | .real (.finite negative significand exponent) =>
    .ok (Binary64.wholePart negative significand exponent)
  | .text given =>
    match Text.Numeral.read? given.toList with
    | some number => .ok number
    | none => .error .wrongValue
  | .octets _ given =>
    match Text.Numeral.readAscii? given with
    | some number => .ok number
    | none => .error .wrongValue
  | .address given => .ok given.toNat
  | .sequence _ _ => .error .wrongValue
  | .grid _ | .records _ _ | .absent | .endpoint _ | .protocol _ => .error .wrongType

/-- A single value in `width` octets. -/
def stored (width : Nat) : Value → Except Fault Nat
  | .word ⟨_, number, _⟩ => .ok (wrap width number)
  | value => do
    let number ← toInteger value
    if 0 ≤ number ∧ number < Octets.capacity width then return number.toNat else .error .overflow

/-- The type of a value that is a word, alone or in a grid. -/
def wordType? : Value → Option WordType
  | .word given => some given.type
  | .grid given =>
    match given.element with
    | .word type => some type
    | _ => none
  | _ => none

/-- Two numbers that count or index, added; words stay in their type and take other numbers into it. -/
def added (left right : Value) : Except Fault Int :=
  match left.index?, right.index? with
  | some first, some second =>
    match left.wordType?, right.wordType? with
    | none, none => .ok (first + second)
    | some type, none =>
      if type.contains second then .ok (type.wrap (first + second)) else .error .overflow
    | none, some type =>
      if type.contains first then .ok (type.wrap (first + second)) else .error .overflow
    | some leftType, some rightType =>
      match leftType.join? rightType with
      | some type => .ok (type.wrap (first + second))
      | none => .error .wrongType
  | _, _ => .error .wrongType

/-- No grid has more lengths than this. -/
def depthLimit : Nat := 64

mutual

/-- The lengths of nested values; `none` where the nesting is uneven. -/
def shape? : Value → Option (List Nat)
  | .octets .buffer given | .octets .view given => some [given.length]
  | .sequence _ items => (commonShape? items).map fun inner => items.length :: inner
  | .grid given => some given.shape
  | .records _ given => some [given.length]
  | _ => some []

def commonShape? : List Value → Option (List Nat)
  | [] => some []
  | [item] => shape? item
  | item :: rest => do
    let first ← shape? item
    let others ← commonShape? rest
    if first = others then return first else none

end

mutual

/-- The entries of nested values, each in `width` octets. -/
def entries (width : Nat) : Value → Except Fault (List Nat)
  | .octets .buffer given | .octets .view given => .ok (given.map UInt8.toNat)
  | .sequence _ items => itemEntries width items
  | .grid given => .ok (given.entries.map (wrap width))
  | .records _ _ => .error .wrongType
  | value => (stored width value).map ([·])

def itemEntries (width : Nat) : List Value → Except Fault (List Nat)
  | [] => .ok []
  | item :: rest => do
    let first ← entries width item
    let others ← itemEntries width rest
    return first ++ others

end

/-- A value as a grid of octets. -/
def octetGrid (value : Value) : Except Fault Grid :=
  match shape? value with
  | none => .error .wrongValue
  | some shape =>
    if depthLimit < shape.length then .error .wrongValue
    else do
      let entries ← entries 1 value
      match Grid.ofEntries? (.word .uint8) shape (entries.map Int.ofNat) with
      | some cells => return cells
      | none => .error .wrongValue

end Value

end IPv6
