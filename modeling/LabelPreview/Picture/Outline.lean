import LabelPreview.Picture.Curve
import LabelPreview.Picture.Frame

/-! # Outlines

An outline is drawn where closed chains of straight lines wind around. A pixel at the edge is covered in part: it
counts how many of sixteen points in it are inside.
-/

namespace LabelPreview

/-! ## Rounded rectangles -/

/-- A rectangle with the same rounding at all corners. -/
structure RoundedRect where
  left : Float
  top : Float
  right : Float
  bottom : Float
  radius : Float

namespace RoundedRect

/-- The corners, clockwise. -/
def corners (r : RoundedRect) : List Curve :=
  [⟨⟨r.right - r.radius, r.top⟩, ⟨r.right, r.top⟩, ⟨r.right, r.top + r.radius⟩⟩,
    ⟨⟨r.right, r.bottom - r.radius⟩, ⟨r.right, r.bottom⟩, ⟨r.right - r.radius, r.bottom⟩⟩,
    ⟨⟨r.left + r.radius, r.bottom⟩, ⟨r.left, r.bottom⟩, ⟨r.left, r.bottom - r.radius⟩⟩,
    ⟨⟨r.left, r.top + r.radius⟩, ⟨r.left, r.top⟩, ⟨r.left + r.radius, r.top⟩⟩]

/-- A closed chain along curves. -/
def chainOf (curves : List Curve) : List Point := curves.flatMap fun q => q.start :: q.chain

/-- How often a corner may be halved. -/
def maxHalvings : Nat := 8

/-- The chain beside a rectangle with sharp corners. Outside of it the corners stay sharp; inside, every side is
followed in its full length, and the chain goes by way of the corner to the next one. -/
def besideSharp (r : RoundedRect) (distance : Float) : List Point :=
  let (left, top) := (r.left - distance, r.top - distance)
  let (right, bottom) := (r.right + distance, r.bottom + distance)
  if distance >= 0 then [⟨right, top⟩, ⟨right, bottom⟩, ⟨left, bottom⟩, ⟨left, top⟩]
  else
    [⟨r.right, top⟩, ⟨r.right, r.top⟩, ⟨right, r.top⟩, ⟨right, r.bottom⟩, ⟨r.right, r.bottom⟩,
      ⟨r.right, bottom⟩, ⟨r.left, bottom⟩, ⟨r.left, r.bottom⟩, ⟨left, r.bottom⟩, ⟨left, r.top⟩,
      ⟨r.left, r.top⟩, ⟨r.left, top⟩]

/-- The closed chain beside a rectangle, at a distance to the outside. -/
def beside (r : RoundedRect) (distance : Float) : List Point :=
  if r.radius <= 0 then r.besideSharp distance
  else if distance == 0 then chainOf r.corners
  else chainOf (r.corners.flatMap fun q => q.parallels distance maxHalvings 0 1)

end RoundedRect

/-! ## Winding -/

/-- Closed chains. Areas that they wind around are inside. -/
structure Outline where
  chains : List (List Point)

namespace Outline

/-- The straight lines of a closed chain. -/
def sides : List Point → List (Point × Point)
  | [] => []
  | p :: rest => List.zip (p :: rest) (rest ++ [p])

/-- Where a side crosses a horizontal line, and whether it goes down or up. -/
def crossing? (y : Float) (side : Point × Point) : Option (Float × Int) :=
  let (p, q) := side
  let x := p.x + (q.x - p.x) * (y - p.y) / (q.y - p.y)
  if p.y <= y && y < q.y then some (x, 1)
  else if q.y <= y && y < p.y then some (x, -1)
  else none

/-- The stretches with a winding number other than 0; `start` is where the one that is open began. -/
def stretches : (winding : Int) → (start : Float) → List (Float × Int) → List (Float × Float)
  | _, _, [] => []
  | winding, start, (x, turn) :: rest =>
    if winding = 0 then stretches turn x rest
    else if winding + turn = 0 then (start, x) :: stretches 0 x rest
    else stretches (winding + turn) start rest

/-- The parts of a horizontal line that are inside. -/
def inside (o : Outline) (y : Float) : List (Float × Float) :=
  let crossings := (o.chains.flatMap sides).filterMap (crossing? y)
  stretches 0 0 (crossings.mergeSort fun a b => a.1 <= b.1)

/-! ## Pixels -/

/-- The quarters of pixels whose centres lie between two points of a line. -/
def quarters (limit : Nat) (low high : Float) : Span :=
  let first (x : Float) : Nat := min (4 * x + 0.5).floor.toUInt64.toNat (4 * limit)
  ⟨first low, first high - first low⟩

/-- What is inside on the four lines of a row. -/
def rowSpans (o : Outline) (limit y : Nat) : List Span :=
  [0, 1, 2, 3].flatMap fun (k : Nat) =>
    (o.inside (y.toFloat + (k.toFloat + 0.5) / 4)).map fun (low, high) => quarters limit low high

/-- How many quarters of a pixel lie in a span. -/
def shared (s : Span) (x : Nat) : Nat := min (s.first + s.count) (4 * x + 4) - max s.first (4 * x)

/-- How much of a pixel is covered, in 255ths. -/
def coverage (spans : List Span) (x : Nat) : Nat :=
  min 255 (16 * spans.foldl (fun n s => n + shared s x) 0)

/-- Draws an outline in pixels of the canvas. `columns` and `rows` are where it may have an effect. -/
def draw (o : Outline) (columns rows : Span) (ink : Ink) (c : Canvas) : Canvas :=
  let rows := rows.clip c.height
  let table := ((List.range' rows.first rows.count).map (o.rowSpans c.width)).toArray
  c.paint columns rows fun x y under =>
    ink.blend (coverage (table.getD (y - rows.first) []) x) under

end Outline

end LabelPreview
