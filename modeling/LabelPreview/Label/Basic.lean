import LabelPreview.Command.Letters
import LabelPreview.Graphic.Bitmap

/-! # Label documents

A label is a list of items in the order in which they are drawn, with the settings that hold for the whole of
it. Lengths are in dots.
-/

namespace LabelPreview

/-! ## Text settings -/

structure Font where
  name : Text := ['0']
  orientation : Orientation := .normal
  height : Option Nat := none
  width : Option Nat := none
  deriving DecidableEq, Repr

/-- The frame of a text with several lines. -/
structure TextBlock where
  /-- A width of 0 leaves the lines as they are. -/
  width : Nat := 0
  maxLines : Nat := 1
  lineSpacing : Int := 0
  justification : Justification := .left
  hangingIndent : Nat := 0
  deriving DecidableEq, Repr

/-! ## Barcode settings -/

structure BarcodeDefaults where
  moduleWidth : Nat := 2
  /-- Width of a wide bar in narrow bars. -/
  ratio : Float := 3.0
  height : Nat := 10

/-- How the bars of a linear symbol are drawn. -/
structure BarStyle where
  orientation : Orientation := .normal
  /-- Without a height the one of the defaults is taken. -/
  height : Option Nat := none
  caption : Bool := true
  captionAbove : Bool := false
  deriving DecidableEq, Repr

inductive Symbology where
  | code39 (bars : BarStyle) (checkDigit : Bool)
  | code128 (bars : BarStyle) (uccCheckDigit : Bool) (mode : Code128Mode)
  | ean13 (bars : BarStyle)
  /-- The magnification is in dots to a module; `none` leaves it to the resolution. -/
  | qrCode (orientation : Orientation) (model : Nat) (magnification : Option Nat)
  /-- The module size is in dots; `none` leaves it to the resolution. -/
  | dataMatrix (orientation : Orientation) (moduleSize : Option Nat)
  deriving DecidableEq, Repr

namespace Symbology

def bars? : Symbology → Option BarStyle
  | .code39 bars _ | .code128 bars _ _ | .ean13 bars => some bars
  | .qrCode .. | .dataMatrix .. => none

def orientation : Symbology → Orientation
  | .code39 bars _ | .code128 bars _ _ | .ean13 bars => bars.orientation
  | .qrCode orientation _ _ | .dataMatrix orientation _ => orientation

/-- The height of the bars, `none` if it comes from the defaults. -/
def height (s : Symbology) : Option Nat := s.bars?.bind BarStyle.height

/-- Only linear symbols have a caption. -/
def hasCaption (s : Symbology) : Bool := s.bars?.any BarStyle.caption

def captionAbove (s : Symbology) : Bool := s.bars?.any BarStyle.captionAbove

end Symbology

/-! ## Items -/

structure TextField where
  /-- As written, before the code page is applied. -/
  data : Text
  font : Font
  block : Option TextBlock
  /-- The character in front of a byte written in hexadecimal. -/
  hexEscape : Option Char
  deriving DecidableEq, Repr

structure BarcodeField where
  /-- As written, before the code page is applied. -/
  data : Text
  symbology : Symbology
  /-- The defaults in effect when the field was made. -/
  defaults : Option BarcodeDefaults
  hexEscape : Option Char

/-- A box; without a width or a height it has nothing to draw. -/
structure Box where
  width : Option Nat := none
  height : Option Nat := none
  thickness : Option Nat := none
  color : BoxColor := .black
  /-- From 0, square, to 8. -/
  roundedness : Nat := 0
  deriving DecidableEq, Repr

namespace Box

def border (b : Box) : Nat := b.thickness.getD 1

/-- A box whose border takes up all of it. -/
def isSolid (b : Box) : Bool := b.width == some b.border && b.height == some b.border

end Box

inductive Content where
  | text (field : TextField)
  | barcode (field : BarcodeField)
  | box (shape : Box)
  | graphic (bitmap : Bitmap)

/-- Something to draw with its upper left corner at a position. -/
structure Item where
  x : Int
  y : Int
  reversed : Bool
  content : Content

structure Label where
  items : List Item := []
  home : Int × Int := (0, 0)
  defaultFont : Font := {}
  barcodeDefaults : Option BarcodeDefaults := none

/-! ## Sizes of a barcode -/

structure BarcodeSizes where
  moduleWidth : Nat
  height : Nat
  hasCaption : Bool
  orientation : Orientation
  deriving DecidableEq, Repr

namespace BarcodeField

/-- Settings of the symbol itself go first, then the defaults the field was made with, those of the label,
and those of a printer. -/
def sizes (b : BarcodeField) (label : Label) : BarcodeSizes :=
  let defaults := (b.defaults.or label.barcodeDefaults).getD {}
  { moduleWidth := defaults.moduleWidth
    height := b.symbology.height.getD defaults.height
    hasCaption := b.symbology.hasCaption
    orientation := b.symbology.orientation }

/-- The data as people read it; Code 39 shows its start and stop characters. -/
def shownData (b : BarcodeField) : Text :=
  match b.symbology with
  | .code39 .. => '*' :: b.data ++ ['*']
  | _ => b.data

end BarcodeField

end LabelPreview
