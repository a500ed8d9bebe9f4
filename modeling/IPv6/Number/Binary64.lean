import IPv6.Text.Decimal
/-!
Binary floating-point numbers of 53 significant bits: the nearest one to a decimal fraction, the shortest
decimal fraction that reads back, and the whole part. Everything is exact arithmetic on whole numbers.
-/

namespace IPv6

/-- A finite number is `significand * 2 ^ exponent`, with its sign. -/
inductive Binary64
  | nan
  | infinite (negative : Bool)
  | finite (negative : Bool) (significand : Nat) (exponent : Int)
deriving DecidableEq, Repr

namespace Binary64

def leastExponent : Int := -1074
def precision : Nat := 53

/-- A ratio to the nearest whole number, a half to the even neighbour. -/
def roundRatio (numerator denominator : Nat) : Nat :=
  let quotient := numerator / denominator
  let doubled := 2 * (numerator % denominator)
  if doubled < denominator then quotient
  else if denominator < doubled then quotient + 1
  else quotient + quotient % 2

/-- `numerator / denominator` in units of `2 ^ exponent`, as a ratio. -/
def inUnits (numerator denominator : Nat) (exponent : Int) : Nat × Nat :=
  if 0 ≤ exponent then (numerator, denominator <<< exponent.toNat)
  else (numerator <<< (-exponent).toNat, denominator)

/-- The exponent whose units give the ratio 53 significant bits, where the range allows. -/
def unitExponent (numerator denominator : Nat) : Int :=
  let guess : Int := (numerator.log2 : Int) - denominator.log2 - precision
  let (top, bottom) := inUnits numerator denominator guess
  max leastExponent (if top / bottom < 1 <<< precision then guess else guess + 1)

/-- The nearest significand and exponent to a positive ratio. -/
def nearest (numerator denominator : Nat) : Nat × Int :=
  let exponent := unitExponent numerator denominator
  let (top, bottom) := inUnits numerator denominator exponent
  let significand := roundRatio top bottom
  if significand = 1 <<< precision then (1 <<< (precision - 1), exponent + 1)
  else (significand, exponent)

/-- `digits * 10 ^ scale` as a ratio. -/
def decimalRatio (digits : Nat) (scale : Int) : Nat × Nat :=
  if 0 ≤ scale then (digits * Nat.pow 10 scale.toNat, 1)
  else (digits, Nat.pow 10 (-scale).toNat)

def ofDecimal (negative : Bool) (digits : Nat) (scale : Int) : Binary64 :=
  if digits = 0 then .finite negative 0 0
  else
    let (numerator, denominator) := decimalRatio digits scale
    let (significand, exponent) := nearest numerator denominator
    .finite negative significand exponent

/-- The magnitude of a finite number as a ratio. -/
def ratio (significand : Nat) (exponent : Int) : Nat × Nat :=
  if 0 ≤ exponent then (significand <<< exponent.toNat, 1)
  else (significand, 1 <<< (-exponent).toNat)

/-- The whole part, toward zero. -/
def wholePart (negative : Bool) (significand : Nat) (exponent : Int) : Int :=
  let (numerator, denominator) := ratio significand exponent
  if negative then -((numerator / denominator : Nat) : Int) else (numerator / denominator : Nat)

/-- Whether the number lies between zero and the bound, both included. -/
def isBetweenZeroAnd (bound : Nat) : Binary64 → Bool
  | .finite negative significand exponent =>
    let (numerator, denominator) := ratio significand exponent
    (!negative || significand == 0) && numerator ≤ bound * denominator
  | _ => false

/-- A whole number, however large. -/
def ofInt (number : Int) : Binary64 := .finite (number < 0) number.natAbs 0

def signed (negative : Bool) (significand : Nat) : Int :=
  if negative then -(significand : Int) else significand

/-- The order of two numbers, exactly; none where one of them is not a number. -/
def compare? : Binary64 → Binary64 → Option Ordering
  | .nan, _ | _, .nan => none
  | .infinite left, .infinite right => some (Ord.compare right left)
  | .infinite negative, .finite _ _ _ => some (if negative then .lt else .gt)
  | .finite _ _ _, .infinite negative => some (if negative then .gt else .lt)
  | .finite leftNegative left leftExponent, .finite rightNegative right rightExponent =>
    let unit := min leftExponent rightExponent
    some (Ord.compare (signed leftNegative (left <<< (leftExponent - unit).toNat))
      (signed rightNegative (right <<< (rightExponent - unit).toNat)))

/-! ## Decimal text -/

/-- The power of ten just above a positive ratio: `10 ^ (p - 1) ≤ ratio < 10 ^ p`. -/
def magnitude (numerator denominator : Nat) : Int :=
  let guess : Int := (((numerator.log2 : Int) - denominator.log2) * 30103) / 100000
  let reaches (power : Int) : Bool :=
    let (top, bottom) := decimalRatio 1 power
    top * denominator ≤ numerator * bottom
  if reaches (guess + 1) then guess + 2
  else if reaches guess then guess + 1
  else if reaches (guess - 1) then guess
  else guess - 1

/-- The neighbours of a ratio on the grid of `10 ^ scale`, the nearer one first. -/
def gridNeighbours (numerator denominator : Nat) (scale : Int) : List Nat :=
  let (unitTop, unitBottom) := decimalRatio 1 scale
  let top := numerator * unitBottom
  let bottom := denominator * unitTop
  let below := top / bottom
  if roundRatio top bottom = below then [below, below + 1] else [below + 1, below]

/-- The fewest significant digits that read back as the number, and their scale. -/
def shortest (significand : Nat) (exponent : Int) : Nat × Int :=
  let (numerator, denominator) := ratio significand exponent
  let power := magnitude numerator denominator
  let canonical := nearest numerator denominator
  let readsBack (scale : Int) (digits : Nat) : Bool :=
    let (top, bottom) := decimalRatio digits scale
    digits != 0 && nearest top bottom == canonical
  let candidates := (List.range 17).flatMap fun count =>
    let scale := power - (count + 1 : Nat)
    ((gridNeighbours numerator denominator scale).filter (readsBack scale)).map (·, scale)
  candidates.headD (0, 0)

/-- Positional text is used from `10 ^ (-4)` up to, not including, `10 ^ 16`. -/
def positionalFrom : Int := -4
def positionalBelow : Int := 16

/-- The decimal digits with the point after the first `point` of them. -/
def positional (digits : List Char) (point : Int) : List Char :=
  if point ≤ 0 then '0' :: '.' :: List.replicate (-point).toNat '0' ++ digits
  else
    let whole := digits.take point.toNat ++ List.replicate (point.toNat - digits.length) '0'
    let fraction := digits.drop point.toNat
    whole ++ '.' :: (if fraction.isEmpty then ['0'] else fraction)

def scientific (digits : List Char) (power : Int) : List Char :=
  let mantissa :=
    match digits with
    | [] => []
    | [digit] => [digit]
    | digit :: rest => digit :: '.' :: rest
  let exponent := Text.Decimal.ofNat power.natAbs
  mantissa ++ 'e' :: (if power < 0 then '-' else '+') ::
    (if exponent.length < 2 then '0' :: exponent else exponent)

def magnitudeText (significand : Nat) (exponent : Int) : List Char :=
  if significand = 0 then ['0', '.', '0']
  else
    let (number, scale) := shortest significand exponent
    let digits := ((Text.Decimal.ofNat number).reverse.dropWhile (· == '0')).reverse
    let point : Int := (Text.Decimal.ofNat number).length + scale
    if positionalFrom ≤ point - 1 ∧ point - 1 < positionalBelow then positional digits point
    else scientific digits (point - 1)

def text : Binary64 → List Char
  | .nan => "nan".toList
  | .infinite negative => (if negative then ['-'] else []) ++ "inf".toList
  | .finite negative significand exponent =>
    (if negative then ['-'] else []) ++ magnitudeText significand exponent

/-- Digits, then a point and more digits, then a power of ten; the last two may be missing. -/
def readMagnitude? (text : List Char) : Option (Nat × Int) := do
  let mantissa := text.takeWhile (· != 'e')
  let power ← match text.dropWhile (· != 'e') with
    | [] => some 0
    | _ :: '-' :: digits => (Text.Decimal.read? digits).map fun power => -Int.ofNat power
    | _ :: '+' :: digits => (Text.Decimal.read? digits).map Int.ofNat
    | _ :: digits => (Text.Decimal.read? digits).map Int.ofNat
  let whole := mantissa.takeWhile (· != '.')
  let fraction := (mantissa.dropWhile (· != '.')).drop 1
  let digits ← if whole.isEmpty then none else Text.Decimal.read? (whole ++ fraction)
  return (digits, power - fraction.length)

def read? (text : List Char) : Option Binary64 :=
  let (negative, rest) := match text with
    | '-' :: rest => (true, rest)
    | _ => (false, text)
  if rest = "nan".toList then some .nan
  else if rest = "inf".toList then some (.infinite negative)
  else (readMagnitude? rest).map fun (digits, scale) => ofDecimal negative digits scale

end Binary64

end IPv6
