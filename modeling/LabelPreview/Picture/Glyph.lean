import LabelPreview.Picture.Image
import LabelPreview.Text.Basic

/-! # Glyphs

The two built-in typefaces are drawn from rectangles on a grid with sixteen units to the em. A character is a stem
with a block for every bit of its number, so that all characters of a byte look different.
-/

namespace LabelPreview

inductive Typeface where
  | proportional
  | mono
  deriving DecidableEq, Repr

/-- A rectangle in grid units, upwards from the baseline. -/
structure GridRect where
  left : Int
  bottom : Int
  right : Int
  top : Int
  deriving DecidableEq, Repr

namespace Typeface

/-- Font `0` is the proportional one. -/
def ofName (name : Text) : Typeface := if name = ['0'] then .proportional else .mono

/-- Grid units to the em. -/
def em : Nat := 16

/-- Grid units above the baseline; the others are below it. -/
def ascent : Nat := 12

def hasGlyph (c : Char) : Bool :=
  let n := c.toNat
  (0x20 ≤ n && n ≤ 0x7E) || (0xA1 ≤ n && n ≤ 0xFF) || n == 0x2013

/-- The blocks of the bits that are set in a number; every third character hangs below the baseline. -/
def blocks (n : Nat) : List GridRect :=
  let base : Int := if n % 3 = 0 then -2 else 0
  let block (i : Nat) : GridRect :=
    let x : Int := 2 + 2 * (i % 2 : Nat)
    let y : Int := 2 * (i / 2 : Nat) + base
    ⟨x, y, x + 2, y + 2⟩
  ⟨1, base, 2, 8 + base⟩ :: ((List.range 8).filter n.testBit).map block

/-- The rectangles of a character. A character without a glyph is a filled box. -/
def rects (c : Char) : List GridRect :=
  if c = ' ' then []
  else if hasGlyph c then blocks c.toNat
  else [⟨1, 0, 6, 10⟩]

/-- How far the pen moves, in grid units. -/
def advance (face : Typeface) (c : Char) : Nat :=
  match face with
  | .proportional => if hasGlyph c then 7 + c.toNat % 4 else 8
  | .mono => 8

end Typeface

/-! ## Lines -/

/-- A line of text in a typeface, `size` dots to the em. -/
structure TextLine where
  face : Typeface
  size : Rat
  text : Text

namespace TextLine

/-- The size of a grid unit. -/
def unit (l : TextLine) : Rat := l.size / Typeface.em

/-- The characters with the place of the pen for each, and the place of the pen at the end. -/
def pens (face : Typeface) (unit : Rat) (pen : Rat) : Text → List (Char × Rat) × Rat
  | [] => ([], pen)
  | c :: rest =>
    let (placed, final) := pens face unit (pen + face.advance c * unit) rest
    ((c, pen) :: placed, final)

def width (l : TextLine) : Rat := (pens l.face l.unit 0 l.text).2

/-- The nearest whole number; a half goes away from zero. -/
def round (x : Rat) : Int := if x < 0 then -(-x + 1 / 2).floor else (x + 1 / 2).floor

/-- How much of each pixel lies between two points, in 256ths. -/
def overlaps (low high : Rat) : List (Int × Nat) :=
  let first := low.floor
  (List.range (high.ceil - first).toNat).map fun (k : Nat) =>
    let i := first + k
    (i, ((lesser high (i + 1) - greater low i) * 256).floor.toNat)

/-- The places that are in an image of a size, from places with their shares. -/
def inside (size : Nat) (places : List (Int × Nat)) : List (Nat × Nat) :=
  places.filterMap fun (i, share) => if 0 ≤ i ∧ i < size then some (i.toNat, share) else none

/-- Adds the pixels of a glyph to the coverage of an image; `pen` is where the glyph begins. The glyph is
rasterized on whole pixels and then moved by whole pixels. -/
def drawGlyph (l : TextLine) (width height : Nat) (coverage : Array Nat) (c : Char) (pen : Rat) :
    Array Nat :=
  let rects := Typeface.rects c
  match rects with
  | [] => coverage
  | first :: _ =>
    let unit := l.unit
    let top := ((rects.foldl (fun t r => max t r.top) first.top) * unit).ceil
    let left := ((rects.foldl (fun t r => min t r.left) first.left) * unit).floor
    let x := round (pen + left) - left
    let y := round (Typeface.ascent * unit - top) + top - 1
    rects.foldl (fun coverage r =>
      let columns := inside width <| (overlaps (r.left * unit) (r.right * unit)).map
        fun (i, share) => (x + i, share)
      let rows := inside height <| (overlaps (r.bottom * unit) (r.top * unit)).map
        fun (j, share) => (y - j, share)
      rows.foldl (fun coverage (row, high) =>
        columns.foldl (fun coverage (column, wide) =>
          coverage.modify (row * width + column) fun n => min 255 (n + wide * high * 255 / 65536))
          coverage)
        coverage)
      coverage

/-- The line as an image with one pixel to a dot. -/
def image (l : TextLine) : Image :=
  let (placed, final) := pens l.face l.unit 0 l.text
  let width := final.ceil.toNat
  let height := l.size.ceil.toNat
  { width, height
    coverage := placed.foldl (fun coverage (c, pen) => l.drawGlyph width height coverage c pen)
      (Array.replicate (width * height) 0) }

end TextLine

end LabelPreview
