import LabelPreview.Decimal.Leading
import LabelPreview.Picture.Color

/-! # Drawing options

Resolution, label size, scale and colors. All arithmetic on sizes is in single precision.
-/

namespace LabelPreview

/-- Which side of a label is its width. -/
inductive LabelOrientation where
  | portrait
  | landscape
  deriving DecidableEq, Repr

inductive OptionsError where
  | dpi (dpi : Nat)
  | dimensions (written : Text)
  | color (written : Text)
  | notPositive (setting : String)
  | json
  deriving DecidableEq, Repr

namespace OptionsError

def message : OptionsError → String
  | .dpi n => s!"Unsupported resolution {n} dpi. Must be 152, 203, 300 or 600"
  | .dimensions written =>
    "Invalid label dimensions \"" ++ String.ofList written ++ "\". Expected <width>x<height> in inches"
  | .color written => "Invalid color \"" ++ String.ofList written ++ "\". Expected #RRGGBB"
  | .notPositive setting => setting ++ " must be greater than 0"
  | .json => "Options are not readable"

end OptionsError

structure Options where
  /-- Dots to an inch of the printer. -/
  dpi : Nat := 203
  /-- Width and height in inches. -/
  dimensions : Text := ['4', 'x', '6']
  orientation : LabelOrientation := .portrait
  scale : Float32 := 1.0
  devicePixelRatio : Float32 := 1.0
  foreground : Text := ['#', '0', '0', '0', '0', '0', '0']
  background : Text := ['#', 'F', 'F', 'F', 'F', 'F', 'F']

namespace Options

def supportedDpi : List Nat := [152, 203, 300, 600]

def isPositive (x : Float32) : Bool := 0.0 < x && x.isFinite

/-- A length in inches; an underscore may stand for the decimal point. -/
def inches? (s : Text) : Option Float32 :=
  match Text.float32? (s.trim.map fun c => if c = '_' then '.' else c) with
  | some x => if isPositive x then some x else none
  | none => none

/-- The two lengths on either side of the first `x` of either case. -/
def lengths? (s : Text) : Option (Float32 × Float32) :=
  let isCross (c : Char) : Bool := c == 'x' || c == 'X'
  match s.dropWhile fun c => !isCross c with
  | _ :: height => do
    let width ← inches? (s.takeWhile fun c => !isCross c)
    let height ← inches? height
    return (width, height)
  | [] => none

/-- Width and height in inches as seen on the canvas. -/
def labelSize (o : Options) : Except OptionsError (Float32 × Float32) :=
  match lengths? o.dimensions, o.orientation with
  | some (width, height), .portrait => .ok (width, height)
  | some (width, height), .landscape => .ok (height, width)
  | none, _ => .error (.dimensions o.dimensions)

def readColor (s : Text) : Except OptionsError Color :=
  match Color.read? s with
  | some c => .ok c
  | none => .error (.color s)

def foregroundColor (o : Options) : Except OptionsError Color := readColor o.foreground

def backgroundColor (o : Options) : Except OptionsError Color := readColor o.background

/-- Refuses options that nothing can be drawn with. -/
def validate (o : Options) : Except OptionsError Unit :=
  if !supportedDpi.contains o.dpi then .error (.dpi o.dpi)
  else if !isPositive o.scale then .error (.notPositive "scale")
  else if !isPositive o.devicePixelRatio then .error (.notPositive "device_pixel_ratio")
  else
    match o.labelSize, o.foregroundColor, o.backgroundColor with
    | .error e, _, _ => .error e
    | _, .error e, _ => .error e
    | _, _, .error e => .error e
    | .ok _, .ok _, .ok _ => .ok ()

/-- An inch is a hundred pixels at a device pixel ratio of 1. The count ends where 32 bits do. -/
def pixels (o : Options) (inches : Float32) : Nat :=
  (inches * 100.0 * o.devicePixelRatio).round.toUInt32.toNat

/-- Canvas size in pixels. -/
def canvasSize (o : Options) : Except OptionsError (Nat × Nat) :=
  o.labelSize.map fun (width, height) => (o.pixels width, o.pixels height)

/-- Pixels to a dot before `scale` is applied. -/
def baseScale (o : Options) : Float32 := o.devicePixelRatio * 100.8 / Float32.ofNat o.dpi

/-- The longer side of the label in dots. Text that is taller would not show. -/
def maxFontSize (o : Options) : Except OptionsError Float32 :=
  o.labelSize.map fun (width, height) =>
    (if width < height then height else width) * Float32.ofNat o.dpi

/-- Module size of a matrix symbol that names none: a hundredth of an inch. -/
def dotsPerModule (o : Options) : Nat := max (o.dpi / 100) 1

end Options

end LabelPreview
