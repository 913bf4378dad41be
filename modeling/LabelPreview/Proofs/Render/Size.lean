import LabelPreview.Render.Label

/-!
# Sizes of pictures

Whatever is drawn on a canvas, the canvas keeps its size. So a label is drawn on a canvas of the size that the options
ask for, whatever its items are, or there is no such canvas.
-/

namespace LabelPreview

/-! ## Pictures -/

namespace Canvas

def size (c : Canvas) : Nat × Nat := (c.width, c.height)

theorem size_foldl {α : Type} {draw : Canvas → α → Canvas} (h : ∀ c a, (draw c a).size = c.size) (as : List α)
    (c : Canvas) : (as.foldl draw c).size = c.size := by
  induction as generalizing c with
  | nil => rfl
  | cons a as ih => rw [List.foldl_cons, ih, h]

end Canvas

theorem Image.size_drawNearest (i : Image) (p : Placement) (ink : Ink) (c : Canvas) :
    (i.drawNearest p ink c).size = c.size := rfl

theorem Image.size_drawSmooth (i : Image) (p : Placement) (ink : Ink) (c : Canvas) :
    (i.drawSmooth p ink c).size = c.size := rfl

theorem Outline.size_draw (o : Outline) (columns rows : Span) (ink : Ink) (c : Canvas) :
    (o.draw columns rows ink c).size = c.size := rfl

/-! ## Bitmaps -/

namespace Bitmap

/-- The bitmap has an area, and a pixel for every place of it. -/
structure Proper (b : Bitmap) : Prop where
  width : b.width ≠ 0
  height : b.height ≠ 0
  filled : b.pixels.length = b.width * b.height

theorem Proper.isSound {b : Bitmap} (h : b.Proper) : (Image.ofBitmap b).isSound = true := by
  simp [Image.isSound, Image.ofBitmap, h.width, h.height, h.filled]

theorem Proper.draw_eq {b : Bitmap} (h : b.Proper) (width height : Nat) (frame : Frame) (ink : Ink) (c : Canvas) :
    b.draw width height frame ink c =
      .ok ((Image.ofBitmap b).drawNearest (frame.place width height) ink c) := if_pos h.isSound

theorem size_draw {b : Bitmap} {width height : Nat} {frame : Frame} {ink : Ink} {c d : Canvas}
    (h : b.draw width height frame ink c = .ok d) : d.size = c.size := by
  unfold draw at h
  simp only at h
  split at h
  · cases h
    apply Image.size_drawNearest
  · cases h

end Bitmap

/-! ## Items -/

namespace Paragraph

theorem size_drawLine (p : Paragraph) (frame : Frame) (ink : Ink) (index : Nat) (line : TextLine) (c : Canvas) :
    (p.drawLine frame ink index line c).size = c.size := by
  unfold drawLine
  simp only
  split
  · split
    · apply Image.size_drawNearest
    · apply Image.size_drawSmooth
  · rfl

theorem size_draw (p : Paragraph) (frame : Frame) (ink : Ink) (c : Canvas) :
    (p.draw frame ink c).size = c.size := by
  apply Canvas.size_foldl
  rintro c ⟨line, index⟩
  apply size_drawLine

end Paragraph

theorem BarcodeField.size_draw {b : BarcodeField} {label : Label} {pitch : Nat} {frame : Frame} {ink : Ink}
    {c d : Canvas} (h : b.draw label pitch frame ink c = .ok d) : d.size = c.size := by
  unfold draw at h
  simp only at h
  split at h
  · cases h
  · rename_i symbol _
    cases drawn : symbol.draw _ _ _ ink c with
    | error cause =>
      rw [drawn] at h
      cases h
    | ok bars =>
      rw [drawn] at h
      cases h
      rw [← Bitmap.size_draw drawn]
      split
      · apply Paragraph.size_draw
      · rfl

theorem Box.size_draw {b : Box} {x y : Int} {scale : Float} {ink : Ink} {c d : Canvas}
    (h : b.draw x y scale ink c = .ok d) : d.size = c.size := by
  unfold draw at h
  split at h
  · split at h
    · cases h
    · cases h
      apply Outline.size_draw
  · cases h
    rfl

namespace Item

theorem size_draw {i : Item} {label : Label} {s : Setup} {c d : Canvas} (h : i.draw label s c = .ok d) :
    d.size = c.size := by
  unfold draw at h
  simp only at h
  split at h
  · cases h
    apply Paragraph.size_draw
  · exact BarcodeField.size_draw h
  · exact Box.size_draw h
  · exact Bitmap.size_draw h

theorem size_drawOrExcuse (i : Item) (label : Label) (s : Setup) (c : Canvas) :
    (i.drawOrExcuse label s c).size = c.size := by
  unfold drawOrExcuse
  split
  · rename_i drawn
    exact size_draw drawn
  · apply Paragraph.size_draw

end Item

theorem Setup.draw_cases (s : Setup) (label : Label) :
    if Canvas.isPossible s.width s.height then
      ∃ picture, s.draw label = .ok picture ∧ picture.size = (s.width, s.height)
    else s.draw label = .error (.canvas s.width s.height) := by
  unfold draw
  split
  · refine ⟨_, rfl, ?_⟩
    rw [Canvas.size_foldl fun c i => i.size_drawOrExcuse label s c]
    rfl
  · rfl

end LabelPreview
