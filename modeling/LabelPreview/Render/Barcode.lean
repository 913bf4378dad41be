import LabelPreview.Render.Bitmap
import LabelPreview.Render.Text
import LabelPreview.Symbol.Payload

/-! # Drawing barcodes

A symbol is drawn module by module, and its caption in the middle below it or above it.
-/

namespace LabelPreview

namespace BarcodeField

/-- Width and height of a module in dots. The modules of a matrix symbol are square; if it names no size, they
have the one of the printer. Those of a linear symbol are as high as its bars. -/
def moduleSize (b : BarcodeField) (label : Label) (pitch : Nat) : Nat × Nat :=
  match b.symbology with
  | .qrCode _ _ magnification => (magnification.getD pitch, magnification.getD pitch)
  | .dataMatrix _ size => (size.getD pitch, size.getD pitch)
  | .code39 .. | .code128 .. | .ean13 .. =>
    let sizes := b.sizes label
    (sizes.moduleWidth, sizes.height)

/-- Dots between a symbol and its caption. -/
def captionGap : Nat := 2

/-- Draws the caption of a symbol that takes up `width` by `height` dots. -/
def drawCaption (b : BarcodeField) (label : Label) (caption : Text) (width height : Nat) (frame : Frame)
    (ink : Ink) (c : Canvas) : Canvas :=
  let size : Nat := 10 * (b.sizes label).moduleWidth
  let line : TextLine := ⟨.mono, size, caption⟩
  let x : Rat := greater ((width - line.width) / 2) 0
  let y : Rat := if b.symbology.captionAbove then -(size + captionGap) else height + captionGap
  Paragraph.draw ⟨[line], size, none⟩ (frame.shift x y) ink c

/-- Draws a barcode with its upper left corner at the origin of a frame. -/
def draw (b : BarcodeField) (label : Label) (pitch : Nat) (frame : Frame) (ink : Ink) (c : Canvas) :
    Except DrawError Canvas :=
  let payload := b.payload
  match b.symbology.symbol? payload with
  | none => .error .barcode
  | some symbol => do
    let (width, height) := b.moduleSize label pitch
    let frame := frame.turn b.symbology.orientation
    let drawn ← symbol.draw width height frame ink c
    return if b.symbology.hasCaption then
      b.drawCaption label payload.caption (symbol.width * width) (symbol.height * height) frame ink drawn
    else drawn

end BarcodeField

end LabelPreview
