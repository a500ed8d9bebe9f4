import IPv6.Octets
/-!
Addresses: sixteen octets in network order, which are also a number below `2 ^ 128` and eight groups of
sixteen bits. Addresses are ordered as their octets are.
-/

namespace IPv6

structure Address where
  octets : Octets
  length_octets : octets.length = 16
deriving DecidableEq

namespace Address

def ofOctets? (octets : Octets) : Option Address :=
  if length_octets : octets.length = 16 then some ⟨octets, length_octets⟩ else none

def ofNat (number : Nat) : Address := ⟨Octets.bigEndian 16 number, Octets.length_bigEndian 16 number⟩

def toNat (address : Address) : Nat := Octets.readBigEndian address.octets

def unspecified : Address := ofNat 0

def loopback : Address := ofNat 1

def octet (address : Address) (index : Fin 16) : UInt8 :=
  address.octets.get (index.cast address.length_octets.symm)

/-- Pairs of octets as sixteen-bit numbers, the first octet the higher. -/
def groupsOf : Octets → List UInt16
  | high :: low :: rest => UInt16.ofNat (256 * high.toNat + low.toNat) :: groupsOf rest
  | _ => []

def groups (address : Address) : List UInt16 := groupsOf address.octets

def octetsOfGroups (groups : List UInt16) : Octets :=
  groups.flatMap fun group => Octets.bigEndian 2 group.toNat

theorem length_octetsOfGroups (groups : List UInt16) :
    (octetsOfGroups groups).length = 2 * groups.length := by
  induction groups with
  | nil => rfl
  | cons group rest ih =>
    simp only [octetsOfGroups, List.flatMap_cons, List.length_append, Octets.length_bigEndian,
      List.length_cons] at ih ⊢
    omega

def ofGroups? (groups : List UInt16) : Option Address :=
  if count : groups.length = 8 then
    some ⟨octetsOfGroups groups, by rw [length_octetsOfGroups, count]⟩
  else none

/-- The order of the octets, the first the most significant. -/
def compare (left right : Address) : Ordering := Ord.compare left.octets right.octets

instance : Ord Address := ⟨compare⟩

theorem ext_octets {left right : Address} (same : left.octets = right.octets) : left = right := by
  cases left
  cases right
  simpa using same

theorem toNat_lt (address : Address) : address.toNat < Octets.capacity 16 := by
  have bound := Octets.readBigEndian_lt address.octets
  rwa [address.length_octets] at bound

theorem ofNat_toNat (address : Address) : ofNat address.toNat = address := by
  apply ext_octets
  have restored := Octets.bigEndian_readBigEndian address.octets
  rw [address.length_octets] at restored
  exact restored

theorem toNat_ofNat (number : Nat) : (ofNat number).toNat = number % Octets.capacity 16 := by
  simp [toNat, ofNat, Octets.readBigEndian_bigEndian]

end Address

end IPv6
