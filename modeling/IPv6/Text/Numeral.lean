import IPv6.Text.Blank
/-!
Signed whole numbers as people write them: blanks around, one sign, decimal digits of any script, and
single underscores between digits.
-/

namespace IPv6.Text.Numeral

/-- The zeros of the decimal scripts of Unicode 14; the other nine digits follow each. -/
def zeros : List Nat :=
  [0x30, 0x660, 0x6f0, 0x7c0, 0x966, 0x9e6, 0xa66, 0xae6, 0xb66, 0xbe6, 0xc66, 0xce6, 0xd66, 0xde6,
   0xe50, 0xed0, 0xf20, 0x1040, 0x1090, 0x17e0, 0x1810, 0x1946, 0x19d0, 0x1a80, 0x1a90, 0x1b50,
   0x1bb0, 0x1c40, 0x1c50, 0xa620, 0xa8d0, 0xa900, 0xa9d0, 0xa9f0, 0xaa50, 0xabf0, 0xff10, 0x104a0,
   0x10d30, 0x11066, 0x110f0, 0x11136, 0x111d0, 0x112f0, 0x11450, 0x114d0, 0x11650, 0x116c0,
   0x11730, 0x118e0, 0x11950, 0x11c50, 0x11d50, 0x11da0, 0x16a60, 0x16ac0, 0x16b50, 0x1d7ce,
   0x1d7d8, 0x1d7e2, 0x1d7ec, 0x1d7f6, 0x1e140, 0x1e2f0, 0x1e950, 0x1fbf0]

def value? (char : Char) : Option Nat :=
  (zeros.find? fun start => start ≤ char.toNat && char.toNat < start + 10).map (char.toNat - ·)

/-- A numeral with more digits than this is refused. -/
def digitLimit : Nat := 4300

/-- Digits in groups parted by single underscores; their values, in order. -/
def digits? (digit? : Char → Option Nat) : List Char → Option (List Nat)
  | [] => none
  | [char] => (digit? char).map ([·])
  | char :: '_' :: rest => do
    let first ← digit? char
    let others ← digits? digit? rest
    return first :: others
  | char :: rest => do
    let first ← digit? char
    let others ← digits? digit? rest
    return first :: others

def magnitude? (digit? : Char → Option Nat) (text : List Char) : Option Nat := do
  let digits ← digits? digit? text
  if digits.length ≤ digitLimit then
    return digits.foldl (10 * · + ·) 0
  else none

def signed? (digit? : Char → Option Nat) : List Char → Option Int
  | '+' :: rest => (magnitude? digit? rest).map Int.ofNat
  | '-' :: rest => (magnitude? digit? rest).map fun number => -Int.ofNat number
  | text => (magnitude? digit? text).map Int.ofNat

/-- A blank that may stand around a numeral. The four information separators may not. -/
def isMargin (char : Char) : Bool := isBlank char && !(0x1c ≤ char.toNat && char.toNat ≤ 0x1f)

def read? (text : List Char) : Option Int := signed? value? (trim isMargin text)

/-- The same numerals in octets: ASCII digits and ASCII blanks only. -/
def readAscii? (octets : List UInt8) : Option Int :=
  let chars := octets.map fun octet => Char.ofNat octet.toNat
  signed? (fun char => if char.toNat < 0x80 then value? char else none)
    (trim (fun char => char.toNat < 0x80 && isMargin char) chars)

end IPv6.Text.Numeral
