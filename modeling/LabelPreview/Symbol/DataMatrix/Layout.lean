import LabelPreview.Graphic.Bitmap
import LabelPreview.Symbol.CheckWords
import LabelPreview.Symbol.DataMatrix.Words
import LabelPreview.Text.Basic

/-! # Layout of a Data Matrix symbol

Words are laid on the modules along diagonals, up and down in turn. A word has the shape of a stair of eight
modules; one that sticks out comes in on the opposite side, and corners have shapes of their own.
-/

namespace LabelPreview.DataMatrix

/-! ## Shapes -/

/-- A row and a column; they may lie outside of the symbol. -/
abbrev Place := Int × Int

/-- The modules of a word, the highest bit first. -/
inductive Shape where
  /-- A stair with its lower right corner at a place. -/
  | stair (row column : Nat)
  | corner (modules : List Place)

/-- The modules of a stair. -/
def stairModules (row column : Int) : List Place := [
  (row - 2, column - 2), (row - 2, column - 1), (row - 1, column - 2), (row - 1, column - 1),
  (row - 1, column), (row, column - 2), (row, column - 1), (row, column)]

/-- Where a place is that sticks out at the top or on the left. -/
def wrapped (rows columns : Nat) (p : Place) : Place :=
  let (row, column) := p
  let (row, column) :=
    if row < 0 then (row + rows, column + (4 - ((rows + 4) % 8 : Nat))) else (row, column)
  if column < 0 then (row + (4 - ((columns + 4) % 8 : Nat)), column + columns) else (row, column)

/-- Where the diagonal with a number begins, as a row and a column. It may be below the symbol. -/
def diagonalStart (rows k : Nat) : Nat × Nat :=
  if 8 * k < rows + 1 then (8 * k + 4, 0) else (rows + 4, 8 * k - rows)

/-- The corner that a diagonal begins with, for some sizes. -/
def corners (rows columns k : Nat) : List Shape :=
  let r : Int := rows
  let c : Int := columns
  let side : List Place := [(0, c - 1), (1, c - 1), (2, c - 1), (3, c - 1)]
  let start := diagonalStart rows k
  let first :=
    if start = (rows, 0) then [Shape.corner ([(r - 1, 0), (r - 1, 1), (r - 1, 2), (0, c - 2)] ++ side)]
    else []
  let second :=
    if start = (rows - 2, 0) ∧ columns % 4 ≠ 0 then
      [Shape.corner [(r - 3, 0), (r - 2, 0), (r - 1, 0), (0, c - 4), (0, c - 3), (0, c - 2), (0, c - 1),
        (1, c - 1)]]
    else []
  let third :=
    if start = (rows - 2, 0) ∧ columns % 8 = 4 then
      [Shape.corner ([(r - 3, 0), (r - 2, 0), (r - 1, 0), (0, c - 2)] ++ side)]
    else []
  let fourth :=
    if start = (rows + 4, 2) ∧ columns % 8 = 0 then
      [Shape.corner [(r - 1, 0), (r - 1, c - 1), (0, c - 3), (0, c - 2), (0, c - 1), (1, c - 3),
        (1, c - 2), (1, c - 1)]]
    else []
  first ++ second ++ third ++ fourth

/-- The stairs of a diagonal upwards. -/
def upward (rows columns k : Nat) : List Shape :=
  let sum := 8 * k + 4
  (List.range columns).filterMap fun column =>
    if column % 2 = 0 ∧ column ≤ sum ∧ sum - column < rows then some (.stair (sum - column) column)
    else none

/-- The stairs of a diagonal downwards. -/
def downward (rows columns k : Nat) : List Shape :=
  let sum := 8 * k + 8
  (List.range rows).filterMap fun row =>
    if row % 2 = 1 ∧ row ≤ sum ∧ sum - row < columns then some (.stair row (sum - row))
    else none

/-- All shapes in the order of the words. -/
def shapes (rows columns : Nat) : List Shape :=
  (List.range ((rows + columns) / 8 + 1)).flatMap fun k =>
    corners rows columns k ++ upward rows columns k ++ downward rows columns k

/-! ## Laying words -/

/-- The modules inside of all borders; `none` where no word has been laid. -/
structure Grid where
  rows : Nat
  columns : Nat
  modules : Array (Option Bool)

namespace Grid

def empty (rows columns : Nat) : Grid := ⟨rows, columns, Array.replicate (rows * columns) none⟩

def get? (g : Grid) (row column : Nat) : Option Bool := g.modules.getD (row * g.columns + column) none

def set (g : Grid) (row column : Nat) (dark : Bool) : Grid :=
  { g with modules := g.modules.setIfInBounds (row * g.columns + column) (some dark) }

def layWord (g : Grid) (places : List Place) (word : Nat) : Grid :=
  (places.zipIdx).foldl (fun g (place, i) =>
    let (row, column) := wrapped g.rows g.columns place
    g.set row.toNat column.toNat (word.testBit (7 - i))) g

/-- Lays words on shapes. A stair whose corner is taken is passed over. -/
def lay : Grid → List Shape → (words : List Nat) → Grid
  | g, [], _ => g
  | g, _, [] => g
  | g, .corner places :: shapes, word :: words => lay (g.layWord places word) shapes words
  | g, .stair row column :: shapes, word :: words =>
    if (g.get? row column).isSome then lay g shapes (word :: words)
    else lay (g.layWord (stairModules row column) word) shapes words

/-- In some sizes the words leave four modules in the lower right corner, two of which are dark. -/
def fillCorner (g : Grid) : Grid :=
  if (g.get? (g.rows - 1) (g.columns - 1)).isSome then g
  else (g.set (g.rows - 1) (g.columns - 1) true).set (g.rows - 2) (g.columns - 2) true

def isDark (g : Grid) (row column : Nat) : Bool := g.get? row column == some true

end Grid

/-! ## Symbols -/

def checkCode : CheckCode := ⟨0x12D, 1⟩

/-- The words that belong to a block: every block takes one in turn. -/
def blockWords (blocks block : Nat) (words : List Nat) : List Nat :=
  (words.zipIdx).filterMap fun (word, i) => if i % blocks = block then some word else none

/-- The data words and the check words. -/
def protectedWords (size : Size) (words : List Nat) : List Nat :=
  let blocks := (List.range size.blocks).map fun block => blockWords size.blocks block words
  words ++ interleave (blocks.map (checkCode.checkWords (size.checkWords / size.blocks)))

/-- A module of the symbol. The border of a region is solid below and on the left, and alternates above and
on the right. -/
def moduleAt (size : Size) (g : Grid) (row column : Nat) : Bool :=
  let height := size.regionHeight + 2
  let width := size.regionWidth + 2
  let (y, x) := (row % height, column % width)
  if y = height - 1 then true
  else if y = 0 then x % 2 == 0
  else if x = 0 then true
  else if x = width - 1 then y % 2 == 1
  else g.isDark (row / height * size.regionHeight + (y - 1)) (column / width * size.regionWidth + (x - 1))

def symbol (size : Size) (words : List Nat) : Bitmap :=
  let shapes := shapes size.rows size.columns
  let g := ((Grid.empty size.rows size.columns).lay shapes (protectedWords size words)).fillCorner
  let height := size.rows + 2 * size.down
  let width := size.columns + 2 * size.across
  { width, height
    pixels := (List.range height).flatMap fun row => (List.range width).map (moduleAt size g row) }

/-- The symbol of a text, if it is not empty, has only characters below 256 and is not too long. -/
def encode (s : Text) : Option Bitmap :=
  if s.isEmpty || s.any fun c => 256 ≤ c.toNat then none
  else (wordsOf (s.map Char.toNat)).map fun (size, words) => symbol size words

end LabelPreview.DataMatrix
