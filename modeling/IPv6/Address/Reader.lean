import IPv6.Address.Basic
import IPv6.Text.Decimal
import IPv6.Text.Fields
import IPv6.Text.Hex
/-!
Reading an address from text. Groups of one to four hexadecimal digits stand between colons; `::` stands
once at most, for one zero group or more; the last two groups may be four decimal octets with points.
-/

namespace IPv6.Address

def readGroup? (text : List Char) : Option UInt16 :=
  if 1 ≤ text.length ∧ text.length ≤ 4 then (Text.Hex.read? text).map UInt16.ofNat else none

def readDottedOctet? (text : List Char) : Option UInt8 :=
  match Text.Decimal.strict? text with
  | some number => if number < 256 then some (UInt8.ofNat number) else none
  | none => none

/-- Four decimal octets with points, as two groups. -/
def readDotted? (text : List Char) : Option (List UInt16) := do
  let octets ← (Text.fields '.' text).mapM readDottedOctet?
  if octets.length = 4 then return groupsOf octets else none

/-- Groups, the last of which may be dotted. -/
def readTail? : List (List Char) → Option (List UInt16)
  | [] => some []
  | [last] =>
    match readGroup? last with
    | some group => some [group]
    | none => readDotted? last
  | field :: rest => do
    let group ← readGroup? field
    let groups ← readTail? rest
    return group :: groups

/-- The text around the first `::`. -/
def cutAtGap : List Char → Option (List Char × List Char)
  | [] => none
  | ':' :: ':' :: rest => some ([], rest)
  | char :: rest => (cutAtGap rest).map fun (before, after) => (char :: before, after)

def readBeforeGap? (text : List Char) : Option (List UInt16) :=
  if text = [] then some [] else (Text.fields ':' text).mapM readGroup?

def readAfterGap? (text : List Char) : Option (List UInt16) :=
  if text = [] then some [] else readTail? (Text.fields ':' text)

def readGroups? (text : List Char) : Option (List UInt16) :=
  match cutAtGap text with
  | none => readTail? (Text.fields ':' text)
  | some (before, after) => do
    let left ← readBeforeGap? before
    let right ← readAfterGap? after
    let written := left.length + right.length
    if written ≤ 7 then return left ++ List.replicate (8 - written) 0 ++ right else none

def read? (text : List Char) : Option Address := (readGroups? text).bind ofGroups?

def ofText? (text : String) : Option Address := read? text.toList

end IPv6.Address
