import IPv6.Text.Hex
import IPv6.Text.Printable
/-!
Quoted text: one line, printable characters only, from which the text can be read back. A text is
quoted with apostrophes unless it has an apostrophe and no double quote.
-/

namespace IPv6.Text.Quoted

def apostrophe : Char := '\x27'
def doubleQuote : Char := '\x22'
def backslash : Char := '\x5c'

def mark (text : List Char) : Char :=
  if text.contains apostrophe && !text.contains doubleQuote then doubleQuote else apostrophe

/-- A character without plain form: its code point in two, four or eight digits. -/
def escapeCode (code : Nat) : List Char :=
  if code < 0x100 then backslash :: 'x' :: Hex.fixed 2 code
  else if code < 0x10000 then backslash :: 'u' :: Hex.fixed 4 code
  else backslash :: 'U' :: Hex.fixed 8 code

def escape (quote char : Char) : List Char :=
  if char = quote ∨ char = backslash then [backslash, char]
  else if char = '\n' then [backslash, 'n']
  else if char = '\r' then [backslash, 'r']
  else if char = '\t' then [backslash, 't']
  else if isPrintable char then [char]
  else escapeCode char.toNat

def encode (text : List Char) : List Char :=
  let quote := mark text
  quote :: text.flatMap (escape quote) ++ [quote]

/-- Octets outside printable ASCII are written as two hexadecimal digits. -/
def escapeOctet (isQuote : Char → Bool) (octet : UInt8) : List Char :=
  let char := Char.ofNat octet.toNat
  if isQuote char ∨ char = backslash then [backslash, char]
  else if char = '\n' then [backslash, 'n']
  else if char = '\r' then [backslash, 'r']
  else if char = '\t' then [backslash, 't']
  else if 0x20 ≤ octet.toNat ∧ octet.toNat < 0x7f then [char]
  else backslash :: 'x' :: Hex.ofOctet octet

def octetMark (octets : Octets) : Char := mark (octets.map fun octet => Char.ofNat octet.toNat)

/-- Only the enclosing mark is escaped. -/
def encodeOctets (octets : Octets) : List Char :=
  let quote := octetMark octets
  quote :: octets.flatMap (escapeOctet (· == quote)) ++ [quote]

/-- Apostrophes are escaped whichever mark encloses the octets. -/
def encodeBuffer (octets : Octets) : List Char :=
  let quote := octetMark octets
  quote :: octets.flatMap (escapeOctet fun char => char == apostrophe) ++ [quote]

end IPv6.Text.Quoted
