/-!
Decimal numerals without sign, and the strict form that has no leading zero.
-/

namespace IPv6.Text.Decimal

def digit (number : Nat) : Char := Char.ofNat ('0'.toNat + number % 10)

def ofNat (number : Nat) : List Char :=
  if number < 10 then [digit number] else ofNat (number / 10) ++ [digit number]

def ofInt (number : Int) : List Char :=
  if number < 0 then '-' :: ofNat number.natAbs else ofNat number.natAbs

def value? (char : Char) : Option Nat :=
  if '0' ≤ char ∧ char ≤ '9' then some (char.toNat - '0'.toNat) else none

def read? (text : List Char) : Option Nat :=
  text.foldlM (fun number char => (value? char).map (10 * number + ·)) 0

/-- One or more digits whose first is zero only where it stands alone. -/
def strict? : List Char → Option Nat
  | [] => none
  | '0' :: _ :: _ => none
  | text => read? text

end IPv6.Text.Decimal
