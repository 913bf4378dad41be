/-! # Curves

A curve is bent from its start to its finish towards a control point. It is drawn as a chain of straight pieces,
and a line of some thickness along it is bounded by curves that run beside it.
-/

namespace LabelPreview

structure Point where
  x : Float
  y : Float

namespace Point

/-- The point at a fraction of the way to another one. -/
def towards (p q : Point) (t : Float) : Point := ⟨p.x + (q.x - p.x) * t, p.y + (q.y - p.y) * t⟩

def distance (p q : Point) : Float :=
  let (dx, dy) := (q.x - p.x, q.y - p.y)
  Float.sqrt (dx * dx + dy * dy)

/-- The area between two arrows, with a sign. -/
def cross (a b : Point) : Float := a.x * b.y - a.y * b.x

end Point

structure Curve where
  start : Point
  control : Point
  finish : Point

namespace Curve

def point (q : Curve) (t : Float) : Point :=
  (q.start.towards q.control t).towards (q.control.towards q.finish t) t

/-- Where the curve is going, as an arrow of length 1. -/
def direction (q : Curve) (t : Float) : Point :=
  let p := q.start.towards q.control t
  let r := q.control.towards q.finish t
  let length := p.distance r
  ⟨(r.x - p.x) / length, (r.y - p.y) / length⟩

/-! ## Straight pieces -/

/-- Half the number of bits of a number, with an odd bit left out. -/
def halfBits (n : Nat) : Nat := if n = 0 then 0 else (n.log2 + 1) / 2

/-- The number of straight pieces that stand for a curve: two or more, twice as many whenever the curve is bent
four times as far. -/
def pieces (q : Curve) : Nat :=
  let bend (a b c : Float) : Nat := ((2 * b - a - c).abs * 64).floor.toUInt64.toNat
  let dx := bend q.start.x q.control.x q.finish.x
  let dy := bend q.start.y q.control.y q.finish.y
  let distance := max dx dy + min dx dy / 2
  1 <<< min 6 (max 1 (halfBits ((distance + 16) / 32)))

/-- The corners of the straight pieces, without the start. -/
def chain (q : Curve) : List Point :=
  let n := q.pieces
  (List.range n).map fun k => q.point ((k + 1).toFloat / n.toFloat)

/-! ## Curves beside a curve -/

/-- The point beside the curve at a distance, on the left as seen on a canvas. -/
def beside (q : Curve) (distance t : Float) : Point :=
  let p := q.point t
  let v := q.direction t
  ⟨p.x + distance * v.y, p.y - distance * v.x⟩

/-- How far a curve may be from where it ought to be, in pixels. -/
def tolerance : Float := 0.25

/-- Where the lines through the ends meet, if that is between them. -/
def meeting? (start finish forward backward : Point) : Option Point :=
  let apart : Point := ⟨start.x - finish.x, start.y - finish.y⟩
  let a := backward.cross apart
  let b := forward.cross apart
  let area := forward.cross backward
  if area == 0 || (a >= 0 && b >= 0) || (a < 0 && b < 0) then none
  else
    let u := a / area
    some ⟨start.x + forward.x * u, start.y + forward.y * u⟩

/-- The roots between 0 and 1 of a quadratic function, given by its values at the ends and by the value of its
control point. -/
def crossings (first control last : Float) : List Float :=
  let a := first - 2 * control + last
  let b := control - first
  let roots :=
    if a == 0 then [-first / (2 * b)]
    else
      let root := Float.sqrt (b * b - a * first)
      [(root - b) / a, (-root - b) / a]
  roots.filter fun t => 0 < t && t < 1

/-- Whether a curve goes past a point that it should meet; `inner` is the point that the first one is beside. -/
def isClose (q : Curve) (goal inner : Point) : Bool :=
  if (q.point 0.5).distance goal <= tolerance then true
  else
    let height (p : Point) : Float :=
      (p.y - goal.y) * (inner.x - goal.x) - (p.x - goal.x) * (inner.y - goal.y)
    match crossings (height q.start) (height q.control) (height q.finish) with
    | [t] => (q.point t).distance goal <= tolerance * (1 - (t - 0.5).abs * 2)
    | _ => false

/-- The curves at a distance beside the part of a curve between two places. The part is halved until a single
curve is close enough. -/
def parallels (q : Curve) (distance : Float) : (halvings : Nat) → (first last : Float) → List Curve
  | 0, first, last =>
    let start := q.beside distance first
    [⟨start, start, q.beside distance last⟩]
  | n + 1, first, last =>
    let middle := (first + last) / 2
    let start := q.beside distance first
    let finish := q.beside distance last
    let halves := parallels q distance n first middle ++ parallels q distance n middle last
    match meeting? start finish (q.direction first) (q.direction last) with
    | none => if start.distance finish <= tolerance then [⟨start, start, finish⟩] else halves
    | some control =>
      let single : Curve := ⟨start, control, finish⟩
      if single.isClose (q.beside distance middle) (q.point middle) then [single] else halves

end Curve

end LabelPreview
