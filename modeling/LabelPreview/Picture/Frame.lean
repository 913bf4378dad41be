import LabelPreview.Command.Letters
import LabelPreview.Picture.Canvas

/-! # Frames

A frame says where the dots of a drawing lie on the canvas. Its origin is a point of the canvas, a dot is
`scale` pixels, and the drawing may be turned by quarters. All positions are exact.
-/

namespace LabelPreview

/-- The value of a finite number of single precision. -/
def exact (x : Float32) : Rat :=
  let bits : Nat := x.toBits.toNat
  let exponent : Nat := bits / 0x800000 % 256
  let fraction : Nat := bits % 0x800000
  let whole : Nat := if exponent = 0 then fraction else 0x800000 + fraction
  let magnitude : Rat := mkRat (Nat.mul whole (Nat.pow 2 (max exponent 1 - 1)) : Nat) (Nat.pow 2 149)
  if bits < 0x80000000 then magnitude else -magnitude

/-- The lesser of two numbers. -/
def lesser (a b : Rat) : Rat := if a ≤ b then a else b

/-- The greater of two numbers. -/
def greater (a b : Rat) : Rat := if a ≤ b then b else a

/-! ## Axes -/

/-- A coordinate of the canvas as a function of a coordinate of an image: the image starts at `origin` and a
unit of it is `step` pixels, which is negative if the image runs the other way. -/
structure Axis where
  origin : Rat
  step : Rat

namespace Axis

/-- The nearest whole number; a half goes up. -/
def nearest (x : Rat) : Int := (x + 1 / 2).floor

/-- The pixels whose centres lie on an image of `length` units. A centre on the lower edge is outside and one
on the upper edge is inside. -/
def span (a : Axis) (length size : Nat) : Span :=
  let far := a.origin + a.step * length
  Span.between (nearest (lesser a.origin far)) (nearest (greater a.origin far)) size

/-- The coordinate of the image at the centre of a pixel. -/
def coordinate (a : Axis) (pixel : Nat) : Rat := ((pixel : Rat) + 1 / 2 - a.origin) / a.step

/-- The unit of the image at the centre of a pixel. -/
def unit (a : Axis) (length pixel : Nat) : Nat := min (a.coordinate pixel).floor.toNat (length - 1)

/-- The two units whose centres are on either side of the centre of a pixel, and how much of 256 parts the
second one counts. -/
def neighbours (a : Axis) (length pixel : Nat) : Nat × Nat × Nat :=
  let u := a.coordinate pixel - 1 / 2
  let low := u.floor
  let weight := ((u - low) * 256).floor.toNat
  let inside (i : Int) : Nat := min i.toNat (length - 1)
  (inside low, inside (low + 1), weight)

end Axis

/-- How an image lies on the canvas: which axis of it runs across, and where. -/
structure Placement where
  /-- The rows of the image run down the canvas as columns. -/
  swapped : Bool
  across : Axis
  down : Axis

/-! ## Frames -/

structure Frame where
  x : Rat
  y : Rat
  scale : Rat
  orientation : Orientation

namespace Frame

/-- The frame of a whole label. -/
def label (scale : Rat) : Frame := ⟨0, 0, scale, .normal⟩

/-- A vector of the frame on the canvas. -/
def vector (f : Frame) (dx dy : Rat) : Rat × Rat :=
  let (a, b) := (dx * f.scale, dy * f.scale)
  match f.orientation with
  | .normal => (a, b)
  | .rotated => (-b, a)
  | .inverted => (-a, -b)
  | .bottomUp => (b, -a)

/-- The frame with its origin moved. -/
def shift (f : Frame) (dx dy : Rat) : Frame :=
  let (a, b) := f.vector dx dy
  { f with x := f.x + a, y := f.y + b }

/-- An upright frame, turned about its origin. -/
def turn (f : Frame) (orientation : Orientation) : Frame := { f with orientation }

/-- An image at the origin of a frame, whose pixels are `width` by `height` dots. -/
def place (f : Frame) (width height : Rat) : Placement :=
  let (u, v) := (f.scale * width, f.scale * height)
  match f.orientation with
  | .normal => ⟨false, ⟨f.x, u⟩, ⟨f.y, v⟩⟩
  | .rotated => ⟨true, ⟨f.x, -v⟩, ⟨f.y, u⟩⟩
  | .inverted => ⟨false, ⟨f.x, -u⟩, ⟨f.y, -v⟩⟩
  | .bottomUp => ⟨true, ⟨f.x, v⟩, ⟨f.y, -u⟩⟩

end Frame

namespace Placement

/-- Whether the pixels of the image are as large as those of the canvas and in the same order. -/
def isAligned (p : Placement) : Bool := !p.swapped && p.across.step == 1 && p.down.step == 1

end Placement

end LabelPreview
