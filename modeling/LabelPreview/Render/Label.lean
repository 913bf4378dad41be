import LabelPreview.Render.Barcode
import LabelPreview.Render.Box

/-! # Drawing labels

The items of a label are drawn in order on a canvas in the background color. An item that can not be drawn is
replaced by a short text in red, so only the options and the size of the canvas can keep a label from being
drawn.
-/

namespace LabelPreview

/-! ## Errors -/

inductive RenderError where
  | options (cause : OptionsError)
  | canvas (width height : Nat)
  deriving DecidableEq, Repr

def RenderError.message : RenderError → String
  | .options cause => cause.message
  | .canvas width height => s!"Canvas of {width}x{height} pixels can not be allocated"

/-! ## Setup -/

/-- What drawing any item needs to know of valid options. -/
structure Style where
  foreground : Color
  background : Color
  /-- Pixels to a dot. -/
  scale : Float32
  /-- The module size of matrix symbols that name none. -/
  modulePitch : Nat

namespace Style

/-- The ink for a color, unless the item is reversed. -/
def ink (s : Style) (reversed : Bool) (color : BoxColor) : Ink :=
  if reversed then .invert
  else
    match color with
    | .black => .solid s.foreground
    | .white => .solid s.background

/-- The frame of something at a position on the label. -/
def frame (s : Style) (x y : Int) : Frame := (Frame.label (exact s.scale)).shift x y

end Style

/-- What drawing a label needs to know of valid options. -/
structure Setup extends Style where
  width : Nat
  height : Nat
  /-- The height of the tallest text, in dots. -/
  fontLimit : Rat

def Setup.ofOptions (o : Options) : Except OptionsError Setup := do
  o.validate
  let (width, height) ← o.canvasSize
  let fontLimit ← o.maxFontSize
  return {
    width
    height
    foreground := ← o.foregroundColor
    background := ← o.backgroundColor
    scale := o.baseScale * o.scale
    fontLimit := exact fontLimit
    modulePitch := o.dotsPerModule }

/-! ## Items -/

def Content.kind : Content → String
  | .text _ => "text"
  | .barcode _ => "barcode"
  | .box _ => "graphic box"
  | .graphic _ => "graphic field"

namespace Item

def draw (i : Item) (label : Label) (s : Setup) (c : Canvas) : Except DrawError Canvas :=
  let frame := s.frame i.x i.y
  match i.content with
  | .text field => .ok (field.draw s.fontLimit frame (s.ink i.reversed .black) c)
  | .barcode field => field.draw label s.modulePitch frame (s.ink i.reversed .black) c
  | .box shape => shape.draw i.x i.y s.scale.toFloat (s.ink i.reversed shape.color) c
  | .graphic bitmap => bitmap.draw 1 1 frame (s.ink i.reversed .black) c

/-- What is written in place of an item that can not be drawn. -/
def excuse (i : Item) : Text :=
  match i.content with
  | .barcode field => "Invalid barcode: ".toList ++ field.shownData
  | content => "Invalid ".toList ++ content.kind.toList

def excuseSize : Nat := 14

def excuseColor : Color := ⟨255, 0, 0⟩

def drawExcuse (i : Item) (s : Setup) (c : Canvas) : Canvas :=
  Paragraph.draw ⟨[⟨.proportional, excuseSize, i.excuse⟩], excuseSize, none⟩ (s.frame i.x i.y)
    (.solid excuseColor) c

/-- Draws the item or its excuse. -/
def drawOrExcuse (i : Item) (label : Label) (s : Setup) (c : Canvas) : Canvas :=
  match i.draw label s c with
  | .ok c => c
  | .error _ => i.drawExcuse s c

end Item

/-! ## Labels -/

/-- Whether there is a canvas of a size: it has an area, and the bytes of a row are counted in 31 bits. -/
def Canvas.isPossible (width height : Nat) : Bool := width != 0 && height != 0 && 4 * width < 0x80000000

/-- Draws all items of a label in order. -/
def Setup.draw (s : Setup) (label : Label) : Except RenderError Canvas :=
  if Canvas.isPossible s.width s.height then
    .ok (label.items.foldl (fun c item => item.drawOrExcuse label s c)
      (Canvas.filled s.width s.height s.background))
  else .error (.canvas s.width s.height)

/-- Draws a label with options. -/
def Label.draw (label : Label) (o : Options) : Except RenderError Canvas :=
  match Setup.ofOptions o with
  | .ok s => s.draw label
  | .error cause => .error (.options cause)

end LabelPreview
