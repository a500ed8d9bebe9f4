import IPv6.Address.Input
/-!
Many addresses at once: the matrix with a row of octets for each, the rows in order, and for each class of
address the mask of the rows that belong to it.
-/

namespace IPv6.Table

def addressesOf (given : Value) : Except Fault (List Address) := do
  let items ← given.items
  items.mapM Address.ofValue

def octetEntries (octets : Octets) : List Int := octets.map fun octet => (octet.toNat : Int)

theorem length_entries (addresses : List Address) :
    (addresses.flatMap fun address => octetEntries address.octets).length =
      volume [addresses.length, 16] := by
  induction addresses with
  | nil => rfl
  | cons address rest ih =>
    have row := address.length_octets
    simp only [List.flatMap_cons, List.length_append, ih]
    simp only [octetEntries, List.length_map, row, volume, List.foldr, List.length_cons]
    omega

/-- A row of sixteen octets for each address. -/
def matrix (addresses : List Address) : Grid :=
  ⟨.word .uint8, [addresses.length, 16], addresses.flatMap fun address => octetEntries address.octets,
    length_entries addresses⟩

def rowAddress? (row : List Int) : Option Address :=
  Address.ofOctets? (row.map fun entry => UInt8.ofNat entry.toNat)

def addressesOfMatrix (given : Value) : Except Fault (List Address) := do
  let grid ← given.octetGrid
  match grid.shape with
  | [count, 16] =>
    match (Grid.blocks 16 count grid.entries).mapM rowAddress? with
    | some addresses => return addresses
    | none => refuse (.matrixExpected grid.shape)
  | shape => refuse (.matrixExpected shape)

/-! ## Order -/

/-- Rows by one key, equal ones left in their order. -/
def sortOn {Row : Type} (key : Row → Nat) (rows : List Row) : List Row :=
  rows.mergeSort fun left right => key left ≤ key right

/-- Rows by several keys, the first the most significant: one stable pass a key, from the last. -/
def sortByKeys {Row : Type} (keys : List (Row → Nat)) (rows : List Row) : List Row :=
  keys.foldr sortOn rows

def octetKeys : List (Address → Nat) :=
  (List.finRange 16).map fun index address => (address.octet index).toNat

def sortAddresses (addresses : List Address) : List Address := sortByKeys octetKeys addresses

/-- The addresses of the items in order: the rows of the matrix, sorted and read back. -/
def sortItems (given : Value) : Except Fault (List Address) := do
  let addresses ← addressesOf given
  addressesOfMatrix (.grid (matrix (sortAddresses addresses)))

/-! ## Masks -/

/-- Octets of a row from one column up to another. -/
def columns (first count : Nat) (address : Address) : Octets := (address.octets.drop first).take count

def allZero (octets : Octets) : Bool := octets.all (· == 0)

def anyNonzero (octets : Octets) : Bool := octets.any (· != 0)

def column (index : Nat) (address : Address) : UInt8 := address.octets.getD index 0

def rowBelongs (address : Address) : Address.Class → Bool
  | .unspecified => allZero address.octets
  | .loopback =>
    allZero (columns 0 12 address) && allZero (columns 12 3 address) && column 15 address == 1
  | .linkLocal => column 0 address == 0xfe && column 1 address &&& 0xc0 == 0x80
  | .siteLocal => column 0 address == 0xfe && column 1 address &&& 0xc0 == 0xc0
  | .ipv4Mapped =>
    allZero (columns 0 10 address) && column 10 address == 0xff && column 11 address == 0xff
  | .ipv4Compatible =>
    allZero (columns 0 12 address) &&
      (anyNonzero (columns 12 3 address) || 1 < (column 15 address).toNat)
  | .multicast => column 0 address == 0xff

def mask (kind : Address.Class) (addresses : List Address) : List Bool :=
  addresses.map fun address => rowBelongs address kind

def maskGrid (kind : Address.Class) (addresses : List Address) : Grid :=
  Grid.ofList .boolean ((mask kind addresses).map fun flag => if flag then 1 else 0)

/-- One mask for each class. -/
def classify (given : Value) : Except Fault (List (Address.Class × Grid)) := do
  let addresses ← addressesOf given
  return Address.Class.all.map fun kind => (kind, maskGrid kind addresses)

end IPv6.Table
