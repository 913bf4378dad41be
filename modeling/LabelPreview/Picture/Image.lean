import LabelPreview.Graphic.Bitmap
import LabelPreview.Picture.Frame

/-! # Images

An image says for each of its pixels how much of it is covered, in 255ths. It is drawn on a canvas with an ink.
Images in the pixels of the canvas, and bitmaps at any size, take the pixel nearest to a centre; other images
are interpolated.
-/

namespace LabelPreview

structure Image where
  width : Nat
  height : Nat
  /-- Row by row. -/
  coverage : Array Nat

namespace Image

def ofBitmap (b : Bitmap) : Image where
  width := b.width
  height := b.height
  coverage := (b.pixels.map fun black => if black then 255 else 0).toArray

/-- Sides and number of pixels belong together, and there are some. -/
def isSound (i : Image) : Bool :=
  i.width != 0 && i.height != 0 && i.coverage.size == i.width * i.height

def pixel (i : Image) (x y : Nat) : Nat := i.coverage.getD (y * i.width + x) 0

/-- The units of an axis for the pixels of a span. -/
def units (a : Axis) (length : Nat) (s : Span) : Array Nat :=
  ((List.range' s.first s.count).map (a.unit length)).toArray

/-- Draws every pixel of the canvas with the pixel of the image at its centre. -/
def drawNearest (i : Image) (p : Placement) (ink : Ink) (c : Canvas) : Canvas :=
  let (across, down) := if p.swapped then (i.height, i.width) else (i.width, i.height)
  let columns := p.across.span across c.width
  let rows := p.down.span down c.height
  let us := units p.across across columns
  let vs := units p.down down rows
  c.paint columns rows fun x y under =>
    let u := us.getD (x - columns.first) 0
    let v := vs.getD (y - rows.first) 0
    ink.blend (if p.swapped then i.pixel v u else i.pixel u v) under

/-- The neighbours on an axis for the pixels of a span. -/
def neighbours (a : Axis) (length : Nat) (s : Span) : Array (Nat × Nat × Nat) :=
  ((List.range' s.first s.count).map (a.neighbours length)).toArray

/-- The coverage between two by two pixels. -/
def between (i : Image) : (across down : Nat × Nat × Nat) → Nat
  | (x₀, x₁, wx), (y₀, y₁, wy) =>
    let upper := i.pixel x₀ y₀ * (256 - wx) + i.pixel x₁ y₀ * wx
    let lower := i.pixel x₀ y₁ * (256 - wx) + i.pixel x₁ y₁ * wx
    (upper * (256 - wy) + lower * wy + 32768) / 65536

/-- Draws every pixel of the canvas with the image interpolated at its centre. -/
def drawSmooth (i : Image) (p : Placement) (ink : Ink) (c : Canvas) : Canvas :=
  let (across, down) := if p.swapped then (i.height, i.width) else (i.width, i.height)
  let columns := p.across.span across c.width
  let rows := p.down.span down c.height
  let us := neighbours p.across across columns
  let vs := neighbours p.down down rows
  c.paint columns rows fun x y under =>
    let u := us.getD (x - columns.first) (0, 0, 0)
    let v := vs.getD (y - rows.first) (0, 0, 0)
    ink.blend (if p.swapped then i.between v u else i.between u v) under

end Image

end LabelPreview
