import LabelPreview.Proofs.Render.CodePage
import LabelPreview.Proofs.Render.Size
import Mathlib.Algebra.Order.Field.Rat
import Mathlib.Tactic.Linarith

/-!
# Drawing step by step

Drawing a label takes steps that could be refused: the options are read once more, bytes are looked up in the code
page, and a rasterizer is asked for glyphs, rectangles and paths. Here all of them are taken in order, and what had
been drawn before a step was refused stays on the canvas. Whatever is refused, the canvas keeps its size.
-/

namespace LabelPreview

/-! ## Rasterizers -/

structure Rect where
  x : Rat
  y : Rat
  width : Rat
  height : Rat

namespace Rect

/-- The rectangle with its sides moved inwards. -/
def inset (q : Rect) (d : Rat) : Rect := ⟨q.x + d, q.y + d, q.width - 2 * d, q.height - 2 * d⟩

/-- The rectangle has an area, and it lies where those of labels do. -/
structure Plain (q : Rect) : Prop where
  width : 0 < q.width
  height : 0 < q.height
  across : 0 ≤ q.x ∧ q.x + q.width ≤ 96000
  down : 0 ≤ q.y ∧ q.y + q.height ≤ 96000

theorem Plain.inset {q : Rect} (h : q.Plain) {d : Rat} (inwards : 0 ≤ d) (width : 2 * d < q.width)
    (height : 2 * d < q.height) : (q.inset d).Plain := by
  obtain ⟨-, -, ⟨left, right⟩, top, bottom⟩ := h
  constructor
  · show 0 < q.width - 2 * d
    linarith
  · show 0 < q.height - 2 * d
    linarith
  · show 0 ≤ q.x + d ∧ q.x + d + (q.width - 2 * d) ≤ 96000
    constructor <;> linarith
  · show 0 ≤ q.y + d ∧ q.y + d + (q.height - 2 * d) ≤ 96000
    constructor <;> linarith

end Rect

/-- Which typefaces there are, the pixels of a character of a typeface in a size, and whether there is a rectangle, or
a path round one with corners of a radius. -/
structure Rasterizer where
  hasFace : Typeface → Bool
  glyph : Typeface → Rat → Char → Image
  hasRect : Rect → Bool
  hasPath : Rect → Rat → Bool

structure Rasterizer.Sound (r : Rasterizer) : Prop where
  glyph (face : Typeface) (size : Rat) (c : Char) :
    (r.glyph face size c).coverage.size = (r.glyph face size c).width * (r.glyph face size c).height
  rect {q : Rect} (plain : q.Plain) : r.hasRect q = true
  path {q : Rect} {radius : Rat} (plain : q.Plain) (round : 0 < radius) : r.hasPath q radius = true

/-! ## Attempts -/

/-- All that a step can be refused for. -/
inductive RenderFault where
  | options (cause : OptionsError)
  | encoding (cause : CodePage.Unmapped)
  | font (name : String)
  | canvas (width height : Nat)
  | drawing (cause : DrawError)
  | png (cause : String)
  deriving DecidableEq, Repr

def RenderError.fault : RenderError → RenderFault
  | .options cause => .options cause
  | .canvas width height => .canvas width height

/-- Why a step was refused, and what had been drawn before it. -/
structure Refused where
  fault : RenderFault
  canvas : Canvas

abbrev Attempt := Except Refused Canvas

/-- A step that leaves a canvas as it is. -/
def Refused.on {α : Type} (c : Canvas) (step : Except RenderFault α) : Except Refused α :=
  step.mapError fun fault => ⟨fault, c⟩

theorem Refused.on_ok_bind {α β : Type} (c : Canvas) (a : α) (next : α → Except Refused β) :
    (on c (.ok a) >>= next) = next a := rfl

namespace Attempt

/-- A step that draws on a canvas. -/
def ofDraw (c : Canvas) (step : Except DrawError Canvas) : Attempt := Refused.on c (step.mapError .drawing)

/-- What is on the canvas at the end. -/
def canvas : Attempt → Canvas
  | .ok c => c
  | .error refused => refused.canvas

end Attempt

/-! ## Lines of text -/

/-- A glyph without pixels is passed over. -/
def Rasterizer.takes (r : Rasterizer) (face : Typeface) (size : Rat) (c : Char) : Bool :=
  let image := r.glyph face size c
  image.width == 0 || image.height == 0 || image.coverage.size == image.width * image.height

/-- A line that has no image is passed over, whatever its glyphs are. -/
def TextLine.attempt (r : Rasterizer) (l : TextLine) : Except RenderFault Unit :=
  if l.image.isSound && l.text.any (fun c => !r.takes l.face l.size c) then .error (.drawing .invalidShape)
  else .ok ()

namespace Paragraph

variable (r : Rasterizer) (p : Paragraph) (frame : Frame) (ink : Ink)

def attemptLine (c : Canvas) (l : TextLine × Nat) : Attempt := do
  Refused.on c (l.1.attempt r)
  return p.drawLine frame ink l.2 l.1 c

/-- The lines before one that is refused are drawn. -/
def attempt (c : Canvas) : Attempt := p.lines.zipIdx.foldlM (p.attemptLine r frame ink) c

end Paragraph

namespace TextField

def attemptEncode (t : TextField) (limit : Rat) (data : Text) : Except RenderFault TextLine := do
  let face := Typeface.ofName t.font.name
  let shown ← (CodePage.encode t.hexEscape data).mapError .encoding
  return ⟨face, t.size limit, airHyphens face shown⟩

/-- All lines are encoded, those too that a block leaves out then. -/
def attemptParagraph (t : TextField) (limit : Rat) : Except RenderFault Paragraph := do
  let lines ← match t.block with
    | some block => do
      let lines ← (splitLines t.data).mapM (t.attemptEncode limit)
      pure (lines.take block.maxLines)
    | none => do
      let line ← t.attemptEncode limit t.data
      pure [line]
  return ⟨lines, t.size limit, t.block⟩

end TextField

/-! ## Barcodes -/

namespace BarcodeField

def attemptSymbol (b : BarcodeField) : Except RenderFault (Payload × Bitmap) := do
  let shown ← (CodePage.encode b.hexEscape b.data).mapError .encoding
  let payload := b.symbology.payload shown
  match b.symbology.symbol? payload with
  | none => .error (.drawing .barcode)
  | some symbol => return (payload, symbol)

/-- The symbol is drawn before its caption. -/
def attempt (r : Rasterizer) (b : BarcodeField) (label : Label) (pitch : Nat) (frame : Frame) (ink : Ink)
    (c : Canvas) : Attempt := do
  let (payload, symbol) ← Refused.on c b.attemptSymbol
  let (width, height) := b.moduleSize label pitch
  let frame := frame.turn b.symbology.orientation
  let drawn ← Attempt.ofDraw c (symbol.draw width height frame ink c)
  if b.symbology.hasCaption then
    Refused.on drawn (TextLine.attempt r ⟨.mono, (10 * (b.sizes label).moduleWidth : Nat), payload.caption⟩)
    return b.drawCaption label payload.caption (symbol.width * width) (symbol.height * height) frame ink drawn
  else return drawn

end BarcodeField

/-! ## Boxes -/

namespace Box

/-- The radius of the corners of a box of a size. -/
def radius (b : Box) (width height : Nat) : Rat := (min b.roundedness 8 : Nat) / 8 * ((min width height : Nat) / 2)

/-- What is drawn along, with the radius there: the middle of the border, or the sides of the box if the border leaves
nothing inside. -/
def path (r : Rasterizer) (b : Box) (sides : Rect) (radius : Rat) : Rect × Rat :=
  if !b.isSolid && r.hasRect (sides.inset (b.border / 2)) then (sides.inset (b.border / 2), radius - b.border / 2)
  else (sides, radius)

/-- Without a radius the path is a rectangle, and there always is one. -/
def attempt (r : Rasterizer) (b : Box) (x y : Int) : Except RenderFault Unit :=
  match b.width, b.height with
  | some width, some height =>
    let sides : Rect := ⟨x, y, width, height⟩
    let (along, radius) := b.path r sides (b.radius width height)
    if width = 0 ∨ height = 0 ∨ r.hasRect sides = false then .error (.drawing .invalidShape)
    else if 0 < radius ∧ r.hasPath along radius = false then .error (.drawing .invalidShape)
    else .ok ()
  | _, _ => .ok ()

end Box

/-! ## Items -/

namespace Item

variable (r : Rasterizer) (o : Options) (i : Item) (label : Label) (s : Style) (c : Canvas)

/-- Texts read the options for the size of their font. -/
def attempt : Attempt :=
  let frame := s.frame i.x i.y
  match i.content with
  | .text field => do
    let paragraph ← Refused.on c do
      let limit ← o.maxFontSize.mapError .options
      field.attemptParagraph (exact limit)
    paragraph.attempt r (frame.turn field.font.orientation) (s.ink i.reversed .black) c
  | .barcode field => field.attempt r label s.modulePitch frame (s.ink i.reversed .black) c
  | .box shape => do
    Refused.on c (shape.attempt r i.x i.y)
    Attempt.ofDraw c (shape.draw i.x i.y s.scale.toFloat (s.ink i.reversed shape.color) c)
  | .graphic bitmap => Attempt.ofDraw c (bitmap.draw 1 1 frame (s.ink i.reversed .black) c)

def attemptExcuse : Attempt :=
  Paragraph.attempt r ⟨[⟨.proportional, excuseSize, i.excuse⟩], excuseSize, none⟩ (s.frame i.x i.y)
    (.solid excuseColor) c

/-- The item, or its excuse over what there is of the item, or what there is of both. -/
def attemptOrExcuse : Canvas :=
  match i.attempt r o label s c with
  | .ok drawn => drawn
  | .error refused => (i.attemptExcuse r s refused.canvas).canvas

end Item

/-! ## Labels -/

/-- The size of the canvas is read from the options, and all items are tried on it. -/
def Label.attempt (r : Rasterizer) (o : Options) (label : Label) (s : Style) : Except RenderFault Canvas := do
  let (width, height) ← o.canvasSize.mapError .options
  if Canvas.isPossible width height then
    return label.items.foldl (fun c i => i.attemptOrExcuse r o label s c) (Canvas.filled width height s.background)
  else .error (.canvas width height)

end LabelPreview
