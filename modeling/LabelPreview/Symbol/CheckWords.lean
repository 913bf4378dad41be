/-! # Check words

Words of eight bits are the elements of a field in which sums are exclusive ors. The words of a block are taken
as the coefficients of a polynomial; its check words are the remainder that makes it vanish at chosen powers of
the element 2.
-/

namespace LabelPreview

/-- How a symbology computes check words. -/
structure CheckCode where
  /-- The polynomial of degree eight that the field is made with, as bits. -/
  modulus : Nat
  /-- The exponent of the first power of 2 at which a block vanishes. -/
  firstRoot : Nat
  deriving DecidableEq, Repr

namespace CheckCode

/-- Twice an element. -/
def double (k : CheckCode) (a : Nat) : Nat := if a < 128 then 2 * a else (2 * a) ^^^ k.modulus

/-- The product of two elements. -/
def times (k : CheckCode) (a b : Nat) : Nat :=
  [7, 6, 5, 4, 3, 2, 1, 0].foldl (fun product i =>
    if b.testBit i then k.double product ^^^ a else k.double product) 0

/-- The first powers of 2 at which blocks vanish. -/
def roots (k : CheckCode) : (count : Nat) → List Nat
  | 0 => []
  | n + 1 => Nat.repeat k.double k.firstRoot 1 :: (roots k n).map k.double

/-- The product of all differences from the given elements, the highest coefficient first. -/
def polynomial (k : CheckCode) : (roots : List Nat) → List Nat
  | [] => [1]
  | r :: rest =>
    let p := polynomial k rest
    List.zipWith (· ^^^ ·) (p ++ [0]) (0 :: p.map (k.times r))

/-- Takes one more word into a remainder; `divisor` is without its first coefficient. -/
def divide (k : CheckCode) (divisor : List Nat) (remainder : List Nat) (word : Nat) : List Nat :=
  let factor := word ^^^ remainder.headD 0
  List.zipWith (· ^^^ ·) (remainder.tail ++ [0]) (divisor.map (k.times factor))

/-- The check words of a block. -/
def checkWords (k : CheckCode) (count : Nat) (block : List Nat) : List Nat :=
  let divisor := (k.polynomial (k.roots count)).tail
  block.foldl (k.divide divisor) (List.replicate count 0)

end CheckCode

/-- The first words of all blocks, then the second ones, and so on. Blocks may differ in length. -/
def interleave (blocks : List (List Nat)) : List Nat :=
  let longest := blocks.foldl (fun n b => max n b.length) 0
  (List.range longest).flatMap fun i => blocks.filterMap fun b => b[i]?

end LabelPreview
