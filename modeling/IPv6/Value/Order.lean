import IPv6.Refusal
/-!
Values compared one with another. Numbers compare with numbers, texts with texts, octets with octets,
sequences of one kind item by item, addresses with addresses and endpoints with endpoints; nothing else
has an order, and values of different kinds are never equal.
-/

namespace IPv6.Value

/-- The order of two addresses or two endpoints. -/
def order? : Value → Value → Option Ordering
  | .address left, .address right => some (left.compare right)
  | .endpoint left, .endpoint right => some (left.compare right)
  | _, _ => none

def compare (left right : Value) : Except Fault Ordering :=
  match order? left right with
  | some order => .ok order
  | none => .error .missingMember

def same (left right : Value) : Except Fault Bool :=
  match left, right with
  | .address left, .address right => .ok (left == right)
  | .endpoint left, .endpoint right => .ok (left.same right)
  | _, _ => .error .missingMember

/-! ## Any two values -/

/-- What two values are to each other: in an order, two numbers one of which is not a number, or without
order but perhaps equal. -/
inductive Comparison
  | ordered (order : Ordering)
  | unordered
  | apart (equal : Bool)
deriving DecidableEq, Repr

namespace Comparison

def isEqual : Comparison → Bool
  | ordered order => order.isEq
  | unordered => false
  | apart equal => equal

end Comparison

def number? : Value → Option Binary64
  | .boolean flag => some (Binary64.ofInt (if flag then 1 else 0))
  | .integer number => some (Binary64.ofInt number)
  | .word given => some (Binary64.ofInt given.number)
  | .real number => some number
  | _ => none

def compareNumbers (left right : Value) : Comparison :=
  match number? left, number? right with
  | some left, some right =>
    match left.compare? right with
    | some order => .ordered order
    | none => .unordered
  | _, _ => .apart false

mutual

def comparison : Value → Value → Comparison
  | .absent, .absent => .apart true
  | .protocol left, .protocol right => .apart (left == right)
  | .text left, .text right => .ordered (Ord.compare left.toList right.toList)
  | .octets .view left, .octets _ right => .apart (left == right)
  | .octets _ left, .octets .view right => .apart (left == right)
  | .octets _ left, .octets _ right => .ordered (Ord.compare left right)
  | .sequence .list left, .sequence .list right => itemComparison left right
  | .sequence .tuple left, .sequence .tuple right => itemComparison left right
  | .address left, .address right => .ordered (left.compare right)
  | .endpoint left, .endpoint right => .ordered (left.compare right)
  | left, right => compareNumbers left right

/-- The first items that are not equal decide, and then the lengths. -/
def itemComparison : List Value → List Value → Comparison
  | [], [] => .ordered .eq
  | [], _ :: _ => .ordered .lt
  | _ :: _, [] => .ordered .gt
  | left :: lefts, right :: rights =>
    let first := comparison left right
    if first.isEqual then itemComparison lefts rights else first

end

inductive Relation
  | eq
  | ne
  | lt
  | le
  | gt
  | ge
deriving DecidableEq, Repr

namespace Relation

def all : List Relation := [eq, ne, lt, le, gt, ge]

def name : Relation → String
  | eq => "eq"
  | ne => "ne"
  | lt => "lt"
  | le => "le"
  | gt => "gt"
  | ge => "ge"

def holds : Relation → Ordering → Bool
  | eq, order => order.isEq
  | ne, order => order.isNe
  | lt, order => order.isLT
  | le, order => order.isLE
  | gt, order => order.isGT
  | ge, order => order.isGE

/-- What values without a common order answer. -/
def ofStrangers (equal : Bool) : Relation → Except Fault Bool
  | eq => .ok equal
  | ne => .ok !equal
  | _ => .error .wrongType

def ofComparison (relation : Relation) : Comparison → Except Fault Bool
  | .ordered order => .ok (relation.holds order)
  | .unordered => .ok (relation == ne)
  | .apart equal => relation.ofStrangers equal

end Relation

def relates (relation : Relation) (left right : Value) : Except Fault Bool :=
  relation.ofComparison (comparison left right)

/-- Whether a value is never an entry of a grid, nor turned into one. -/
def isForeign : Value → Bool
  | .absent | .address _ | .endpoint _ => true
  | _ => false

/-- A grid answers for each entry; entries have no order with what is foreign to them. -/
def gridRelation (relation : Relation) (grid : Grid) : Except Fault Grid :=
  let answers (flag : Int) : Grid :=
    ⟨.boolean, grid.shape, grid.entries.map fun _ => flag, by simp [grid.length_entries]⟩
  match relation with
  | .eq => .ok (answers 0)
  | .ne => .ok (answers 1)
  | _ => if grid.entries.isEmpty then .ok (answers 0) else .error .wrongType

/-- The answer to a relation: for each entry of a grid that meets a foreign value, else for the whole. -/
def answer (relation : Relation) (left right : Value) : Except Fault Value :=
  match left, right with
  | .grid cells, other | other, .grid cells =>
    if other.isForeign ∧ cells.shape ≠ [] then (gridRelation relation cells).map .grid
    else (relates relation left right).map .boolean
  | _, _ => (relates relation left right).map .boolean

/-! ## Sorting -/

def sortedAddresses (addresses : List Address) : List Address :=
  addresses.mergeSort fun left right => (left.compare right).isLE

def sortedEndpoints (endpoints : List Endpoint) : List Endpoint :=
  endpoints.mergeSort fun left right => (left.compare right).isLE

def hasOrder (left right : Value) : Bool :=
  match comparison left right with
  | .apart _ => false
  | _ => true

/-- Whether the second of two values does not have to stand before the first. -/
def mayPrecede (left right : Value) : Bool := comparison right left != .ordered .lt

/-- Items in the order of the values they stand for; a single item needs no order. -/
def sortedOn {Item : Type} (view : Item → Value) (items : List Item) : Except Fault (List Item) :=
  match items with
  | [] => .ok []
  | first :: rest =>
    if rest.all fun item => hasOrder (view first) (view item) then
      .ok ((first :: rest).mergeSort fun left right => mayPrecede (view left) (view right))
    else .error .wrongType

/-- Different addresses. -/
def distinct (addresses : List Address) : Nat := addresses.eraseDups.length

end IPv6.Value
