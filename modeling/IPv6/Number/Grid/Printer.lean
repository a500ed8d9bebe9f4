import IPv6.Number.Grid
import IPv6.Text.Fields
/-!
Grids as text: nested brackets, with entries of one column as wide as the widest of them, in lines of
limited width. Of a large grid only the edges are written.
-/

namespace IPv6.Grid

/-- How nested entries are laid out: what separates them, the columns of a line, and the columns before
the first entry. -/
structure Style where
  separator : List Char
  width : Nat
  margin : Nat
deriving Repr

namespace Style

/-- The form that tells one grid from another stands in parentheses after a word of five letters. -/
def exact : Style := ⟨[',', ' '], 74, 7⟩

/-- The form for a reader stands alone. -/
def plain : Style := ⟨[' '], 75, 1⟩

/-- The style one bracket further in. -/
def inner (style : Style) : Style :=
  { style with width := style.width - 1, margin := style.margin + 1 }

end Style

/-! ## Large grids -/

/-- A grid of more entries is cut to its edges. -/
def entryLimit : Nat := 1000

/-- How many items stay at each edge. -/
def edgeSize : Nat := 3

/-- The items at the edges, with a gap for those left out. -/
def edges {Item : Type} (gap : List Item) (items : List Item) : List Item :=
  if 2 * edgeSize < items.length then
    items.take edgeSize ++ gap ++ items.drop (items.length - edgeSize)
  else items

def edgeEntries {Entry : Type} : (shape : List Nat) → List Entry → List Entry
  | [], entries => entries
  | count :: inner, entries =>
    (edges [] (blocks (volume inner) count entries)).flatMap (edgeEntries inner)

/-- The entries that are written. -/
def writtenEntries {Entry : Type} (shape : List Nat) (entries : List Entry) : List Entry :=
  if entryLimit < entries.length then edgeEntries shape entries else entries

/-! ## Layout -/

def trimEnd (line : List Char) : List Char := (line.reverse.dropWhile (· == ' ')).reverse

/-- Words after one another; a word that does not fit starts a new line, unless the line is empty. -/
def fill (style : Style) (line : List Char) : List (List Char) → List Char
  | [] => line
  | word :: rest =>
    let margin := List.replicate style.margin ' '
    let wraps := style.width - 1 < line.length + word.length && style.margin < line.length
    let next := (if wraps then margin else line) ++ word
    (if wraps then trimEnd line ++ ['\n'] else []) ++
      fill style (if rest.isEmpty then next else next ++ style.separator) rest

def row (style : Style) (words : List (List Char)) : List Char :=
  '[' :: (fill style (List.replicate style.margin ' ') words).drop style.margin ++ [']']

/-- Rows stand under one another, with a free line for each further length. -/
def nested (cuts : Bool) : Style → (shape : List Nat) → List (List Char) → List Char
  | _, [], words => words.flatten
  | style, [_], words => row style (if cuts then edges ["...".toList] words else words)
  | style, count :: inner, words =>
    let rows := (blocks (volume inner) count words).map (nested cuts style.inner inner)
    let shown := if cuts then edges ["...".toList] rows else rows
    let lineEnd := trimEnd style.separator ++ List.replicate inner.length '\n' ++
      List.replicate style.margin ' '
    '[' :: Text.join lineEnd shown ++ [']']

def nestedWords (style : Style) (shape : List Nat) (words : List (List Char)) : List Char :=
  if words.isEmpty then ['[', ']'] else nested (entryLimit < words.length) style shape words

/-- A text moved to the right end of so many columns. -/
def padLeft (columns : Nat) (text : List Char) : List Char :=
  List.replicate (columns - text.length) ' ' ++ text

/-- The most columns that one of the numbers takes. -/
def columnsOf (numbers : List Int) : Nat :=
  (numbers.map fun number => (Text.Decimal.ofInt number).length).foldl max 0

/-! ## Grids -/

def booleanText (flag : Bool) : List Char := (if flag then "True" else "False").toList

/-- An entry in a number of columns. -/
def entryText (element : ElementType) (columns : Nat) (entry : Int) : List Char :=
  match element with
  | .boolean => padLeft columns (booleanText (entry != 0))
  | .word _ => padLeft columns (Text.Decimal.ofInt entry)
  | .real _ => padLeft columns (Text.Decimal.ofInt entry) ++ ['.']

def entryColumns (grid : Grid) : Nat :=
  match grid.element, grid.shape with
  | _, [] => 0
  | .boolean, _ => 5
  | _, shape => columnsOf (writtenEntries shape grid.entries)

def body (style : Style) (grid : Grid) : List Char :=
  nestedWords style grid.shape (grid.entries.map (entryText grid.element (entryColumns grid)))

def shapeText (shape : List Nat) : List Char :=
  match shape with
  | [length] => '(' :: Text.Decimal.ofNat length ++ [',', ')']
  | _ => '(' :: Text.join [',', ' '] (shape.map Text.Decimal.ofNat) ++ [')']

/-- The body with notes behind it, on a new line where they do not fit. -/
def withNotes (body : List Char) (notes : List (List Char)) : List Char :=
  match notes with
  | [] => "array(".toList ++ body ++ [')']
  | _ =>
    let opened := "array(".toList ++ body ++ [',']
    let note := Text.join [',', ' '] notes ++ [')']
    let lastLine := opened.reverse.takeWhile (· != '\n')
    let gap := if 75 < lastLine.length + note.length + 1 then '\n' :: List.replicate 6 ' ' else [' ']
    opened ++ gap ++ note

/-- The shape, where the entries that are written do not show it. -/
def shapeNotes (shape : List Nat) (count : Nat) : List (List Char) :=
  if (count = 0 ∧ shape ≠ [0]) ∨ entryLimit < count then ["shape=".toList ++ shapeText shape] else []

/-- Element types that are told from the entries alone. -/
def isTypePlain (element : ElementType) : Bool :=
  element == .boolean || element == .word .int64 || element == .real 64

def typeNotes (grid : Grid) : List (List Char) :=
  if isTypePlain grid.element ∧ grid.entries ≠ [] then []
  else ["dtype=".toList ++ grid.element.name.toList]

/-- The form that tells one grid from another. -/
def shown (grid : Grid) : List Char :=
  withNotes (body Style.exact grid) (shapeNotes grid.shape grid.entries.length ++ typeNotes grid)

/-- The form for a reader; a single fraction keeps its decimal. -/
def plain (grid : Grid) : List Char :=
  match grid.shape, grid.element with
  | [], .real _ => body Style.plain grid ++ ['0']
  | _, _ => body Style.plain grid

end IPv6.Grid
