import LabelPreview.Picture.Color

/-! # Canvases

A canvas is a grid of opaque pixels. All drawing goes through `paint`, which changes the pixels of a span of
columns and a span of rows and no others.
-/

namespace LabelPreview

/-! ## Ink -/

/-- What a drawing does to a pixel that it covers. -/
inductive Ink where
  /-- The pixel takes the color. -/
  | solid (color : Color)
  /-- Reverse video: every channel is complemented. -/
  | invert
  deriving DecidableEq, Repr

namespace Ink

/-- A channel that is covered in part, in 255ths, rounded to the nearest value. -/
def mix (coverage : Nat) (under top : UInt8) : UInt8 :=
  UInt8.ofNat ((under.toNat * (255 - coverage) + top.toNat * coverage + 127) / 255)

def complement (c : Color) : Color := ⟨255 - c.red, 255 - c.green, 255 - c.blue⟩

/-- The color of a pixel after all of it is covered. -/
def cover (ink : Ink) (under : Color) : Color :=
  match ink with
  | .solid color => color
  | .invert => complement under

/-- The color of a pixel of which `coverage` 255ths are covered. -/
def blend (ink : Ink) (coverage : Nat) (under : Color) : Color :=
  if coverage = 0 then under
  else if 255 ≤ coverage then ink.cover under
  else
    let top := ink.cover under
    ⟨mix coverage under.red top.red, mix coverage under.green top.green,
      mix coverage under.blue top.blue⟩

end Ink

/-! ## Spans -/

/-- Consecutive rows or columns. -/
structure Span where
  first : Nat
  count : Nat
  deriving DecidableEq, Repr

namespace Span

def Contains (s : Span) (i : Nat) : Prop := s.first ≤ i ∧ i < s.first + s.count

instance (s : Span) (i : Nat) : Decidable (s.Contains i) := inferInstanceAs (Decidable (_ ∧ _))

/-- From `low` up to but not including `high`, as far as it lies below `size`. -/
def between (low high : Int) (size : Nat) : Span :=
  let first := (max 0 low).toNat
  ⟨first, (min high size).toNat - first⟩

/-- The part below `size`. -/
def clip (s : Span) (size : Nat) : Span := ⟨s.first, min s.count (size - s.first)⟩

end Span

/-! ## Canvas -/

structure Canvas where
  width : Nat
  height : Nat
  pixels : Array Color
  size_pixels : pixels.size = width * height

namespace Canvas

def filled (width height : Nat) (c : Color) : Canvas where
  width := width
  height := height
  pixels := Array.replicate (width * height) c
  size_pixels := Array.size_replicate

/-- The pixel in a column and a row. -/
def pixel? (c : Canvas) (x y : Nat) : Option Color :=
  if x < c.width then c.pixels[y * c.width + x]? else none

/-- Changes `n` pixels of a row from column `x` on; `start` is the index of the row. -/
def paintRow (f : Nat → Color → Color) (start : Nat) : (n x : Nat) → Array Color → Array Color
  | 0, _, pixels => pixels
  | n + 1, x, pixels => paintRow f start n (x + 1) (pixels.modify (start + x) (f x))

/-- Changes a span of columns in `n` rows from row `y` on. -/
def paintRows (f : Nat → Nat → Color → Color) (width : Nat) (columns : Span) :
    (n y : Nat) → Array Color → Array Color
  | 0, _, pixels => pixels
  | n + 1, y, pixels =>
    paintRows f width columns n (y + 1)
      (paintRow (fun x => f x y) (y * width) columns.count columns.first pixels)

theorem size_paintRow (f : Nat → Color → Color) (start n x : Nat) (pixels : Array Color) :
    (paintRow f start n x pixels).size = pixels.size := by
  induction n generalizing x pixels with
  | zero => rfl
  | succ n ih => rw [paintRow, ih, Array.size_modify]

theorem size_paintRows (f : Nat → Nat → Color → Color) (width : Nat) (columns : Span) (n y : Nat)
    (pixels : Array Color) : (paintRows f width columns n y pixels).size = pixels.size := by
  induction n generalizing y pixels with
  | zero => rfl
  | succ n ih => rw [paintRows, ih, size_paintRow]

/-- Changes every pixel in the given columns and rows; `f` is told where the pixel is. -/
def paint (c : Canvas) (columns rows : Span) (f : Nat → Nat → Color → Color) : Canvas where
  width := c.width
  height := c.height
  pixels :=
    paintRows f c.width (columns.clip c.width) (rows.clip c.height).count rows.first c.pixels
  size_pixels := by rw [size_paintRows, c.size_pixels]

end Canvas

end LabelPreview
