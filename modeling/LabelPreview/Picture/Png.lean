import LabelPreview.Picture.Canvas

/-! # PNG files

The opening of a PNG file tells the size of the picture.
-/

namespace LabelPreview.Png

def signature : List UInt8 := [0x89, 0x50, 0x4E, 0x47, 0x0D, 0x0A, 0x1A, 0x0A]

/-- A number in four bytes, the highest first. -/
def word (n : Nat) : List UInt8 := [24, 16, 8, 0].map fun shift => UInt8.ofNat (n >>> shift)

/-- The signature and the beginning of the first chunk: its length and name, the sides, eight bits to a channel,
and four channels. -/
def opening (c : Canvas) : List UInt8 :=
  signature ++ word 13 ++ [0x49, 0x48, 0x44, 0x52] ++ word c.width ++ word c.height ++ [8, 6]

end LabelPreview.Png
