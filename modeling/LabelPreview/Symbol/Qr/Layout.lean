import LabelPreview.Symbol.Qr.Words

/-! # Layout of a QR code

Finder, alignment and timing patterns have their places, and so have the bits that tell format and version. All
other modules are left to the words, which fill them from the lower right corner in double columns, up and down
in turn.
-/

namespace LabelPreview.Qr

/-- What a module is for. -/
inductive Spot where
  | fixed (dark : Bool)
  /-- A bit of the format. -/
  | format (bit : Nat)
  /-- A bit of a word. -/
  | data
  deriving DecidableEq, Repr

/-! ## Patterns -/

/-- The number of the square ring around a centre that a module is on. -/
def ring (centreX centreY x y : Nat) : Nat :=
  max (max x centreX - min x centreX) (max y centreY - min y centreY)

/-- A finder pattern with the light modules around it is dark in the middle and on its third ring. -/
def finder? (side x y : Nat) : Option Bool :=
  let dark (ring : Nat) : Bool := ring != 2 && ring != 4
  if x < 8 ∧ y < 8 then some (dark (ring 3 3 x y))
  else if side - 8 ≤ x ∧ y < 8 then some (dark (ring (side - 4) 3 x y))
  else if x < 8 ∧ side - 8 ≤ y then some (dark (ring 3 (side - 4) x y))
  else none

/-- An alignment pattern is light on its first ring. -/
def alignment? (centres : List (Nat × Nat)) (x y : Nat) : Option Bool :=
  (centres.find? fun (cx, cy) => ring cx cy x y ≤ 2).map fun (cx, cy) => ring cx cy x y != 1

def timing? (x y : Nat) : Option Bool :=
  if y = 6 then some (x % 2 == 0) else if x = 6 then some (y % 2 == 0) else none

/-- The bit of the format that a module shows. Each bit is shown twice. -/
def formatBit? (side x y : Nat) : Option Nat :=
  if x = 8 then
    if y < 6 then some y
    else if y = 7 then some 6
    else if y = 8 then some 7
    else if side - 7 ≤ y then some (y + 15 - side)
    else none
  else if y = 8 then
    if x = 7 then some 8
    else if x < 6 then some (14 - x)
    else if side - 8 ≤ x then some (side - 1 - x)
    else none
  else none

/-- The bit of the version that a module shows. Small versions show none. -/
def versionBit? (version x y : Nat) : Option Nat :=
  let near := side version - 11
  if version < 7 then none
  else if x < 6 ∧ near ≤ y ∧ y < near + 3 then some (3 * x + (y - near))
  else if y < 6 ∧ near ≤ x ∧ x < near + 3 then some (3 * y + (x - near))
  else none

/-! ## Protected numbers -/

/-- The remainder of a polynomial of bits; `degree` is that of the divisor. -/
def bitRemainder (divisor degree : Nat) : (steps n : Nat) → Nat
  | 0, n => n
  | k + 1, n =>
    bitRemainder divisor degree k (if n.testBit (degree + k) then n ^^^ (divisor <<< k) else n)

/-- The version followed by twelve check bits. -/
def versionInfo (version : Nat) : Nat :=
  let n := version <<< 12
  n + bitRemainder 0x1F25 12 6 n

/-- Level and mask followed by ten check bits; some bits are flipped, so that the format is never blank. -/
def formatInfo (level : Level) (mask : Nat) : Nat :=
  let n := (8 * level.bits + mask) <<< 10
  (n + bitRemainder 0x537 10 5 n) ^^^ 0x5412

/-! ## Modules -/

/-- The centres of all alignment patterns; there is none where a finder pattern is. -/
def alignmentPairs (version : Nat) : List (Nat × Nat) :=
  let centres := alignmentCentres version
  let last := side version - 7
  (centres.flatMap fun x => centres.map fun y => (x, y)).filter fun p =>
    p != (6, 6) && p != (6, last) && p != (last, 6)

def spot (version : Nat) (centres : List (Nat × Nat)) (x y : Nat) : Spot :=
  let side := side version
  match ((finder? side x y).or (alignment? centres x y)).or (timing? x y) with
  | some dark => .fixed dark
  | none =>
    if x = 8 ∧ y = side - 8 then .fixed true
    else
      match formatBit? side x y, versionBit? version x y with
      | some bit, _ => .format bit
      | none, some bit => .fixed ((versionInfo version).testBit bit)
      | none, none => .data

/-- The modules row by row. -/
def spots (version : Nat) : Array Spot :=
  let n := side version
  let centres := alignmentPairs version
  ((List.range n).flatMap fun y => (List.range n).map fun x => spot version centres x y).toArray

/-- The right columns of the double columns, from the right. The column of the timing pattern is left out. -/
def rightColumns (side : Nat) : List Nat :=
  ((List.range' 8 ((side - 7) / 2) 2).reverse) ++ [5, 3, 1]

/-- The way that the words take through a symbol. -/
def path (side : Nat) : List (Nat × Nat) :=
  (rightColumns side).zipIdx.flatMap fun (right, k) =>
    let rows := if k % 2 = 0 then (List.range side).reverse else List.range side
    rows.flatMap fun y => [(right, y), (right - 1, y)]

/-- Lays bits along a way; modules that have another purpose are passed over. -/
def lay (spots : Array Spot) (side : Nat) :
    List (Nat × Nat) → (bits : List Bool) → Array Bool → Array Bool
  | [], _, modules => modules
  | _, [], modules => modules
  | (x, y) :: rest, bit :: bits, modules =>
    let i := y * side + x
    if spots.getD i .data = .data then lay spots side rest bits (modules.setIfInBounds i bit)
    else lay spots side rest (bit :: bits) modules

end LabelPreview.Qr
