import IPv6.Text.Decimal
/-!
Whole numbers of a fixed width.
-/

namespace IPv6

structure WordType where
  signed : Bool
  bits : Nat
deriving DecidableEq, Repr

namespace WordType

def int64 : WordType := ⟨true, 64⟩
def uint8 : WordType := ⟨false, 8⟩
def uint16 : WordType := ⟨false, 16⟩

def all : List WordType :=
  [8, 16, 32, 64].flatMap fun bits => [⟨true, bits⟩, ⟨false, bits⟩]

/-- How many numbers the type has. -/
def count (type : WordType) : Nat := 1 <<< type.bits

def lowest (type : WordType) : Int := if type.signed then -(type.count / 2 : Nat) else 0

def highest (type : WordType) : Int :=
  if type.signed then (type.count / 2 : Nat) - 1 else type.count - 1

def name (type : WordType) : String :=
  (if type.signed then "int" else "uint") ++ String.ofList (Text.Decimal.ofNat type.bits)

def ofName? (name : String) : Option WordType := all.find? fun type => type.name == name

/-- The number of the type that differs by a multiple of the count. -/
def wrap (type : WordType) (number : Int) : Int :=
  type.lowest + (number - type.lowest) % type.count

def contains (type : WordType) (number : Int) : Bool :=
  type.lowest ≤ number && number ≤ type.highest

/-- The least type that holds the numbers of both, where there is one. -/
def join? (left right : WordType) : Option WordType :=
  if left.signed = right.signed then some (if left.bits < right.bits then right else left)
  else
    let (signed, unsigned) := if left.signed then (left, right) else (right, left)
    if unsigned.bits < signed.bits then some signed
    else if unsigned.bits < 64 then some ⟨true, 2 * unsigned.bits⟩
    else none

end WordType

structure Word where
  type : WordType
  number : Int
  in_range : type.lowest ≤ number ∧ number ≤ type.highest
deriving DecidableEq

namespace Word

def ofInt? (type : WordType) (number : Int) : Option Word :=
  if in_range : type.lowest ≤ number ∧ number ≤ type.highest then some ⟨type, number, in_range⟩
  else none

end Word

end IPv6
