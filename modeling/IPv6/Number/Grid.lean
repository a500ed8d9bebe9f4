import IPv6.Number.Binary64
import IPv6.Number.Word
/-!
Rectangular grids of numbers of one element type. All entries are whole numbers, also where the element
type has fractions.
-/

namespace IPv6

inductive ElementType
  | boolean
  | word (type : WordType)
  | real (bits : Nat)
deriving DecidableEq, Repr

namespace ElementType

def name : ElementType → String
  | boolean => "bool"
  | word type => type.name
  | real bits => "float" ++ String.ofList (Text.Decimal.ofNat bits)

/-- Octets of one element. -/
def size : ElementType → Nat
  | boolean => 1
  | word type => type.bits / 8
  | real bits => bits / 8

def all : List ElementType :=
  boolean :: WordType.all.map word ++ [16, 32, 64].map real

def ofName? (name : String) : Option ElementType := all.find? fun type => type.name == name

end ElementType

namespace BinaryFormat

/-- How many bits of a binary format are the fraction: the rest are the sign and the exponent. -/
def fractionBits : (bits : Nat) → Nat
  | 16 => 10
  | 32 => 23
  | _ => 52

/-- What is added to an exponent, so that none is negative. -/
def bias (bits : Nat) : Nat := 1 <<< (bits - fractionBits bits - 2) - 1

/-- The magnitude of a whole number in a format: to the nearest number that the format has, a half to the
even one, and infinite beyond them. -/
def magnitude (bits number : Nat) : Nat :=
  let exponent := number.log2
  let significand := Binary64.roundRatio (number <<< fractionBits bits) (1 <<< exponent)
  -- The leading bit counts into the exponent, and so does a carry of the rounding.
  let rounded := (exponent + bias bits - 1) <<< fractionBits bits + significand
  if number = 0 then 0 else min rounded ((2 * bias bits + 1) <<< fractionBits bits)

/-- The bits of a whole number, the sign in front. -/
def pattern (bits : Nat) (number : Int) : Nat :=
  (if number < 0 then 1 <<< (bits - 1) else 0) + magnitude bits number.natAbs

end BinaryFormat

def volume (shape : List Nat) : Nat := shape.foldr (· * ·) 1

/-- Entries are listed row by row; a shape without lengths holds one entry. -/
structure Grid where
  element : ElementType
  shape : List Nat
  entries : List Int
  length_entries : entries.length = volume shape
deriving DecidableEq

namespace Grid

def zeros (element : ElementType) (shape : List Nat) : Grid :=
  ⟨element, shape, List.replicate (volume shape) 0, by simp⟩

def ofEntries? (element : ElementType) (shape : List Nat) (entries : List Int) : Option Grid :=
  if length_entries : entries.length = volume shape then
    some ⟨element, shape, entries, length_entries⟩
  else none

/-- A column of entries. -/
def ofList (element : ElementType) (entries : List Int) : Grid :=
  ⟨element, [entries.length], entries, by simp [volume]⟩

/-- The entries in blocks of one size, `count` of them. -/
def blocks {Entry : Type} (size : Nat) : (count : Nat) → List Entry → List (List Entry)
  | 0, _ => []
  | count + 1, entries => entries.take size :: blocks size count (entries.drop size)

/-- The whole number that a grid without lengths holds. -/
def number? (grid : Grid) : Option Int :=
  match grid.shape, grid.element, grid.entries with
  | [], .word _, [entry] => some entry
  | _, _, _ => none

/-- The grids along the first length; `none` for a single entry. -/
def rows? (grid : Grid) : Option (List Grid) :=
  match grid.shape with
  | [] => none
  | count :: inner =>
    (blocks (volume inner) count grid.entries).mapM (ofEntries? grid.element inner)

end Grid

end IPv6
