import LabelPreview.Picture.Image
import LabelPreview.Render.Error

/-! # Drawing bitmaps -/

namespace LabelPreview

/-- Draws a bitmap at the origin of a frame; its pixels are `width` by `height` dots. -/
def Bitmap.draw (b : Bitmap) (width height : Nat) (frame : Frame) (ink : Ink) (c : Canvas) : Except DrawError Canvas :=
  let image := Image.ofBitmap b
  if image.isSound then .ok (image.drawNearest (frame.place width height) ink c) else .error .invalidShape

end LabelPreview
