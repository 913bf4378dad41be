/-! # Black-and-white bitmaps -/

namespace LabelPreview

/-- Pixels row by row, `true` for black. -/
structure Bitmap where
  width : Nat
  height : Nat
  pixels : List Bool
  deriving DecidableEq, Repr

/-- The bits of a byte, the highest first. -/
def byteBits (b : UInt8) : List Bool :=
  [7, 6, 5, 4, 3, 2, 1, 0].map fun i => b.toNat.testBit i

namespace Bitmap

/-- A bitmap from whole bytes, eight pixels each. -/
def ofBytes (rowBytes height : Nat) (bytes : List UInt8) : Bitmap where
  width := 8 * rowBytes
  height := height
  pixels := (bytes.take (rowBytes * height)).flatMap byteBits

end Bitmap

end LabelPreview
