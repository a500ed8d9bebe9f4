import IPv6.Number.Grid.Printer
import IPv6.SocketAddress.Record
/-!
Records as text: a tuple of fields for each, with the numbers of one field as wide as the widest, and the
type of every field behind them.
-/

namespace IPv6

namespace Slot

def orderMark (slot : Slot) : List Char :=
  match slot.size, slot.order with
  | 1, _ => []
  | _, .leastFirst => ['<']
  | _, .mostFirst => ['>']

def unsignedType (slot : Slot) : List Char := slot.orderMark ++ 'u' :: Text.Decimal.ofNat slot.size

end Slot

namespace Layout

def quoted (text : List Char) : List Char := '\x27' :: text ++ ['\x27']

/-- A field with its type; the address is a row of octets. -/
def fieldType (field : Field) (slot : Slot) : List Char :=
  let type := match field with
    | .address => quoted "u1".toList ++ ", (".toList ++ Text.Decimal.ofNat slot.size ++ ",)".toList
    | _ => quoted slot.unsignedType
  '(' :: quoted field.name.toList ++ ", ".toList ++ type ++ [')']

def typeText (layout : Layout) : List Char :=
  '[' :: Text.join [',', ' '] (layout.slots.map fun (field, slot) => fieldType field slot) ++ [']']

end Layout

namespace Record

/-- The numbers that a field holds: one, or one for each octet of the address. -/
def fieldNumbers (record : Record) (field : Field) (slot : Slot) : List Int :=
  match field with
  | .address => (record.segment slot.offset slot.size).map fun octet => (octet.toNat : Int)
  | _ => [(record.read slot : Int)]

/-- A field of a record, each number in so many columns. -/
def fieldText (record : Record) (columns : Nat) (field : Field) (slot : Slot) : List Char :=
  let numbers := (record.fieldNumbers field slot).map fun number =>
    Grid.padLeft columns (Text.Decimal.ofInt number)
  match field with
  | .address => '[' :: Text.join [',', ' '] numbers ++ [']']
  | _ => numbers.flatten

/-- One word for each record. -/
def words (layout : Layout) (records : List Record) : List (List Char) :=
  let written := Grid.writtenEntries [records.length] records
  let columns := layout.slots.map fun (field, slot) =>
    (field, slot, Grid.columnsOf (written.flatMap fun record => record.fieldNumbers field slot))
  records.map fun record =>
    let fields := columns.map fun (field, slot, width) => record.fieldText width field slot
    '(' :: Text.join [',', ' '] fields ++ [')']

def tableBody (style : Grid.Style) (layout : Layout) (records : List Record) : List Char :=
  Grid.nestedWords style [records.length] (words layout records)

/-- The form that tells one table of records from another. -/
def shownTable (layout : Layout) (records : List Record) : List Char :=
  Grid.withNotes (tableBody .exact layout records)
    (Grid.shapeNotes [records.length] records.length ++ ["dtype=".toList ++ layout.typeText])

/-- The form for a reader. -/
def plainTable (layout : Layout) (records : List Record) : List Char :=
  tableBody .plain layout records

end Record

end IPv6
