import IPv6.Address.Basic
/-!
The classes of address that have a prefix of their own:

* link-local `fe80::/10`, site-local `fec0::/10`, multicast `ff00::/8`;
* mapped from IPv4 `::ffff:0:0/96`;
* compatible with IPv4 `::/96`, without the unspecified address `::` and the loopback address `::1`.
-/

namespace IPv6.Address

inductive Class
  | unspecified
  | loopback
  | linkLocal
  | siteLocal
  | ipv4Mapped
  | ipv4Compatible
  | multicast
deriving DecidableEq, Repr

namespace Class

def all : List Class :=
  [unspecified, loopback, linkLocal, siteLocal, ipv4Mapped, ipv4Compatible, multicast]

def name : Class → String
  | unspecified => "unspecified"
  | loopback => "loopback"
  | linkLocal => "link_local"
  | siteLocal => "site_local"
  | ipv4Mapped => "ipv4_mapped"
  | ipv4Compatible => "ipv4_compatible"
  | multicast => "multicast"

end Class

def mappedLead : Octets := Octets.zeros 10 ++ [0xff, 0xff]

/-- The last four octets, where an IPv4 address stands. -/
def ipv4Octets (address : Address) : Octets := address.octets.drop 12

@[simp] theorem length_ipv4Octets (address : Address) : address.ipv4Octets.length = 4 := by
  rw [ipv4Octets, List.length_drop, address.length_octets]

def isUnspecified (address : Address) : Bool := address.octets == Octets.zeros 16

def isLoopback (address : Address) : Bool := address.octets == Octets.zeros 15 ++ [1]

def isLinkLocal (address : Address) : Bool :=
  address.octet 0 == 0xfe && address.octet 1 &&& 0xc0 == 0x80

def isSiteLocal (address : Address) : Bool :=
  address.octet 0 == 0xfe && address.octet 1 &&& 0xc0 == 0xc0

def isIPv4Mapped (address : Address) : Bool := address.octets.take 12 == mappedLead

def isIPv4Compatible (address : Address) : Bool :=
  address.octets.take 12 == Octets.zeros 12 && 1 < Octets.readBigEndian address.ipv4Octets

def isMulticast (address : Address) : Bool := address.octet 0 == 0xff

def belongs (address : Address) : Class → Bool
  | .unspecified => address.isUnspecified
  | .loopback => address.isLoopback
  | .linkLocal => address.isLinkLocal
  | .siteLocal => address.isSiteLocal
  | .ipv4Mapped => address.isIPv4Mapped
  | .ipv4Compatible => address.isIPv4Compatible
  | .multicast => address.isMulticast

def classes (address : Address) : List Class := Class.all.filter address.belongs

def embedsIPv4 (address : Address) : Bool := address.isIPv4Mapped || address.isIPv4Compatible

end IPv6.Address
