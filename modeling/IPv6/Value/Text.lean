import IPv6.SocketAddress.Printer
import IPv6.Text.Quoted
import IPv6.Value.Basic
/-!
Values as text: `shown` is the exact form that tells one value from another, `plain` the form for a
reader, which is the text itself for a text.
-/

namespace IPv6.Value

def enclose (kind : SequenceKind) (items : List (List Char)) : List Char :=
  match kind, items with
  | .list, _ => '[' :: Text.join [',', ' '] items ++ [']']
  | .tuple, [item] => '(' :: item ++ [',', ')']
  | .tuple, _ => '(' :: Text.join [',', ' '] items ++ [')']

mutual

/-- The exact form of a value. -/
def shown : Value → List Char
  | .absent => "None".toList
  | .boolean flag => Grid.booleanText flag
  | .integer number => Text.Decimal.ofInt number
  | .word given =>
    "np.".toList ++ given.type.name.toList ++ '(' :: Text.Decimal.ofInt given.number ++ [')']
  | .real number => number.text
  | .text given => Text.Quoted.encode given.toList
  | .octets .constant given => 'b' :: Text.Quoted.encodeOctets given
  | .octets .buffer given => "bytearray(b".toList ++ Text.Quoted.encodeBuffer given ++ [')']
  | .octets .view _ => "<memory>".toList
  | .sequence kind items => enclose kind (shownItems items)
  | .grid given => given.shown
  | .records layout given => Record.shownTable layout given
  | .address given => "IPv6Address(".toList ++ Text.Quoted.encode given.chars ++ [')']
  | .endpoint given =>
    "IPv6Endpoint(".toList ++ given.portText ++ ", ".toList ++
      Text.Quoted.encode given.address.chars ++ [')']
  | .protocol given => given.name.toList

def shownItems : List Value → List (List Char)
  | [] => []
  | item :: rest => shown item :: shownItems rest

end

/-- The form for a reader. -/
def plain : Value → List Char
  | .text given => given.toList
  | .word given => Text.Decimal.ofInt given.number
  | .grid given => given.plain
  | .records layout given => Record.plainTable layout given
  | .address given => given.chars
  | .endpoint given => given.chars
  | value => value.shown

end IPv6.Value
