import LabelPreview.Label.Basic
import LabelPreview.Picture.Outline
import LabelPreview.Render.Error

/-! # Drawing boxes

The border of a box lies inside it: it is a line of the thickness of the border, drawn along the middle of it.
-/

namespace LabelPreview

namespace Box

/-- A rectangle with sides in dots. -/
structure Sides where
  left : Float
  top : Float
  right : Float
  bottom : Float

namespace Sides

def shrink (s : Sides) (dx dy : Float) : Sides :=
  ⟨s.left + dx, s.top + dy, s.right - dx, s.bottom - dy⟩

/-- The rectangle in pixels. -/
def rounded (s : Sides) (scale radius : Float) : RoundedRect :=
  ⟨scale * s.left, scale * s.top, scale * s.right, scale * s.bottom, scale * radius⟩

end Sides

/-- The outline of a box in pixels. A border as thick as the box is high has no area to go round: it is a
single line, which ends where the middle of the border would turn. -/
def outline (b : Box) (s : Sides) (width height : Nat) (scale : Float) : Outline :=
  let border := b.border
  let shorter := (min width height).toFloat
  let radius := (min b.roundedness 8).toFloat / 8 * (shorter / 2)
  let inset := border.toFloat / 2
  if b.isSolid || width < border || height < border then ⟨[(s.rounded scale radius).beside 0]⟩
  else if width = border then ⟨[((s.shrink 0 inset).rounded scale 0).beside 0]⟩
  else if height = border then ⟨[((s.shrink inset 0).rounded scale 0).beside 0]⟩
  else
    let middle := (s.shrink inset inset).rounded scale (max (radius - inset) 0)
    ⟨[middle.beside (scale * inset), (middle.beside (-(scale * inset))).reverse]⟩

/-- Draws a box. A box without a width or a height is passed over. -/
def draw (b : Box) (x y : Int) (scale : Float) (ink : Ink) (c : Canvas) : Except DrawError Canvas :=
  match b.width, b.height with
  | some width, some height =>
    if width = 0 ∨ height = 0 then .error .invalidShape
    else
      let s : Sides := ⟨Float.ofInt x, Float.ofInt y, Float.ofInt (x + width), Float.ofInt (y + height)⟩
      let reach (low high : Float) (size : Nat) : Span :=
        Span.between (scale * low).floor.toInt64.toInt (scale * high).ceil.toInt64.toInt size
      .ok ((b.outline s width height scale).draw (reach s.left s.right c.width)
        (reach s.top s.bottom c.height) ink c)
  | _, _ => .ok c

end Box

end LabelPreview
