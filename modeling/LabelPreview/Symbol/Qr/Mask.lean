import LabelPreview.Graphic.Bitmap
import LabelPreview.Symbol.Qr.Layout

/-! # Masks of a QR code

One of eight masks is laid over the words, the one that leaves the fewest patterns that a reader may stumble
over. What is counted against a mask is a penalty.
-/

namespace LabelPreview.Qr

/-- The modules that a mask flips. -/
def flips (mask x y : Nat) : Bool :=
  match mask with
  | 0 => (x + y) % 2 == 0
  | 1 => y % 2 == 0
  | 2 => x % 3 == 0
  | 3 => (x + y) % 3 == 0
  | 4 => (x / 3 + y / 2) % 2 == 0
  | 5 => x * y % 2 + x * y % 3 == 0
  | 6 => (x * y % 2 + x * y % 3) % 2 == 0
  | _ => ((x + y) % 2 + x * y % 3) % 2 == 0

/-- Everything that a symbol shows, but for the mask. -/
structure Draft where
  version : Nat
  level : Level
  spots : Array Spot
  /-- The bits of the words where they are laid. -/
  laid : Array Bool

namespace Draft

def ofSegment (s : Segment) (version : Nat) (level : Level) : Draft :=
  let n := side version
  let spots := Qr.spots version
  let bits := (wordsOf s version level).flatMap (bitsOf 8)
  ⟨version, level, spots, lay spots n (path n) bits (Array.replicate (n * n) false)⟩

/-- The rows of the symbol under a mask. -/
def rows (d : Draft) (mask : Nat) : List (List Bool) :=
  let n := side d.version
  let format := formatInfo d.level mask
  (List.range n).map fun y => (List.range n).map fun x =>
    match d.spots.getD (y * n + x) .data with
    | .fixed dark => dark
    | .format bit => format.testBit bit
    | .data => d.laid.getD (y * n + x) false != flips mask x y

end Draft

/-! ## Penalties -/

/-- Five equal modules in a line count three, and every further one counts one. `run` is the length of the
run of modules like `last`. -/
def runPenalty : (last : Bool) → (run : Nat) → List Bool → Nat
  | _, run, [] => if run < 5 then 0 else run - 2
  | last, run, m :: rest =>
    if m = last then runPenalty last (run + 1) rest
    else (if run < 5 then 0 else run - 2) + runPenalty m 1 rest

def linePenalty : List Bool → Nat
  | [] => 0
  | m :: rest => runPenalty m 1 rest

/-- Squares of two by two equal modules in a pair of rows. -/
def squares : (upper lower : List Bool) → Nat
  | a :: b :: upper, c :: d :: lower =>
    (if a = b ∧ a = c ∧ a = d then 1 else 0) + squares (b :: upper) (d :: lower)
  | _, _ => 0

/-- All squares count three. -/
def squarePenalty : List (List Bool) → Nat
  | upper :: lower :: rest => 3 * squares upper lower + squarePenalty (lower :: rest)
  | _ => 0

/-- A line through a finder pattern. -/
def finderLine : List Bool := [true, false, true, true, true, false, true]

/-- Stretches of a line that look like a finder pattern, with four light modules on a side. `light` is the
number of light modules in front. -/
def finderLikes : (light : Nat) → List Bool → Nat
  | _, [] => 0
  | light, m :: rest =>
    let line := m :: rest
    let found := finderLine.isPrefixOf line &&
      (4 ≤ light || [false, false, false, false].isPrefixOf (line.drop 7))
    (if found then 1 else 0) + finderLikes (if m then 0 else light + 1) rest

/-- Adds up what is found in each line. -/
def total (count : List Bool → Nat) (lines : List (List Bool)) : Nat :=
  lines.foldl (fun n line => n + count line) 0

/-- Ten for every twentieth of all modules that dark ones are away from a half. -/
def balancePenalty (rows : List (List Bool)) : Nat :=
  let modules := total List.length rows
  let dark := total (List.count true) rows
  (max (2 * dark) modules - min (2 * dark) modules) * 10 / modules * 10

/-- The columns of rows of one length. -/
def columns : (width : Nat) → List (List Bool) → List (List Bool)
  | 0, _ => []
  | n + 1, rows => rows.map (fun row => row.headD false) :: columns n (rows.map List.tail)

def penalty (rows : List (List Bool)) : Nat :=
  let lines := rows ++ columns rows.length rows
  total linePenalty lines + squarePenalty rows + 40 * total (finderLikes 0) lines + balancePenalty rows

/-! ## Symbols -/

/-- The first of the symbols with the least penalty. -/
def best (first : List (List Bool)) (others : List (List (List Bool))) : List (List Bool) :=
  (others.foldl (fun (best, least) rows =>
    let p := penalty rows
    if p < least then (rows, p) else (best, least)) (first, penalty first)).1

/-- The symbol of a text, if it is not empty and not too long. -/
def encode (level : Level) (s : Text) : Option Bitmap :=
  if s.isEmpty then none
  else
    let segment := Segment.ofText s
    (segment.version? level).map fun version =>
      let draft := Draft.ofSegment segment version level
      let rows := best (draft.rows 0) ((List.range' 1 7).map draft.rows)
      ⟨rows.length, rows.length, rows.flatten⟩

end LabelPreview.Qr
