import IPv6.Address.Printer
import IPv6.SocketAddress.Record
/-!
Endpoints: an address and a port, held in a native record. Only those two fields count when endpoints are
compared or copied.
-/

namespace IPv6

/-- What an endpoint speaks: a stream socket of the TCP protocol in the IPv6 family. -/
inductive Protocol
  | tcp
deriving DecidableEq, Repr

namespace Protocol

def name : Protocol → String
  | tcp => "TCP()"

def socketType : Protocol → Nat
  | tcp => 1

def number : Protocol → Nat
  | tcp => 6

def family : Protocol → Nat
  | tcp => Record.familyNumber

end Protocol

structure Endpoint where
  record : Record
deriving DecidableEq

namespace Endpoint

def octets (endpoint : Endpoint) : Octets := endpoint.record.octets

def port (endpoint : Endpoint) : UInt16 := endpoint.record.port

def address (endpoint : Endpoint) : Address := endpoint.record.address

def withPort (endpoint : Endpoint) (port : UInt16) : Endpoint := ⟨endpoint.record.withPort port⟩

def withAddress (endpoint : Endpoint) (address : Address) : Endpoint :=
  ⟨endpoint.record.withAddress address⟩

def make (layout : Layout) (port : UInt16) (address : Address) : Endpoint :=
  ((Endpoint.mk (Record.blank layout)).withPort port).withAddress address

/-- A fresh endpoint of the same address and port; all other octets are as in a new one. -/
def copy (layout : Layout) (endpoint : Endpoint) : Endpoint :=
  make layout endpoint.port endpoint.address

def protocol (_ : Endpoint) : Protocol := .tcp

/-- By address, and by port where the addresses are equal. -/
def compare (left right : Endpoint) : Ordering :=
  (left.address.compare right.address).then (Ord.compare left.port right.port)

def same (left right : Endpoint) : Bool :=
  left.address == right.address && left.port == right.port

def portText (endpoint : Endpoint) : List Char := Text.Decimal.ofNat endpoint.port.toNat

def chars (endpoint : Endpoint) : List Char :=
  '[' :: endpoint.address.chars ++ ']' :: ':' :: endpoint.portText

def text (endpoint : Endpoint) : String := String.ofList endpoint.chars

end Endpoint

end IPv6
