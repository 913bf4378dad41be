import LabelPreview.Proofs.Picture.Paint
import LabelPreview.Proofs.Render.Size
import Mathlib.Algebra.Order.Field.Rat
import Mathlib.Data.Rat.Floor
import Mathlib.Logic.Function.Iterate
import Mathlib.Tactic.Linarith

/-!
# Graphics one over the other

At one pixel to a dot, a graphic covers just the pixels of the canvas under its black pixels. Of those that cover a
pixel the last one that is not reversed sets its color, and every reversed one behind it complements the color.
-/

namespace LabelPreview

/-! ## One pixel to a dot -/

namespace Axis

theorem nearest_intCast (n : Int) : nearest n = n := by
  unfold nearest
  -- the half does not reach the next number
  show ⌊(n : Rat) + 1 / 2⌋ = n
  rw [Int.floor_eq_iff]
  constructor <;> linarith

theorem span_unit (x : Int) (length size : Nat) :
    (⟨x, 1⟩ : Axis).span length size = Span.between x (x + length) size := by
  have far : (x : Rat) + 1 * length = (x + length : Int) := by push_cast; ring
  have positive : (0 : Rat) ≤ length := Nat.cast_nonneg length
  have order : (x : Rat) ≤ (x + length : Int) := by push_cast; linarith
  simp only [span, far, lesser, greater, if_pos order, nearest_intCast]

theorem unit_unit {x : Int} {length pixel : Nat} (low : x ≤ pixel) (high : pixel < x + length) :
    (⟨x, 1⟩ : Axis).unit length pixel = (pixel - x).toNat := by
  have floor : ((⟨x, 1⟩ : Axis).coordinate pixel).floor = pixel - x := by
    unfold coordinate
    show ⌊((pixel : Rat) + 1 / 2 - x) / 1⌋ = pixel - x
    rw [Int.floor_eq_iff]
    push_cast
    constructor <;> linarith
  unfold unit
  rw [floor]
  omega

end Axis

theorem Image.getD_units {a : Axis} {length pixel : Nat} {s : Span} (h : s.Contains pixel) :
    (Image.units a length s).getD (pixel - s.first) 0 = a.unit length pixel := by
  obtain ⟨low, high⟩ := h
  have inside : pixel - s.first < s.count := by omega
  have there : s.first + 1 * (pixel - s.first) = pixel := by omega
  unfold Image.units
  rw [Array.getD_eq_getD_getElem?, List.getElem?_toArray, List.getElem?_map, List.getElem?_range' inside, there]
  rfl

theorem Image.pixel?_drawNearest_unit (i : Image) (x y : Int) (ink : Ink) (c : Canvas) (u v : Nat) :
    (i.drawNearest ⟨false, ⟨x, 1⟩, ⟨y, 1⟩⟩ ink c).pixel? u v =
      (c.pixel? u v).map fun under =>
        if (x ≤ u ∧ u < x + i.width) ∧ y ≤ v ∧ v < y + i.height then
          ink.blend (i.pixel (u - x).toNat (v - y).toNat) under
        else under := by
  unfold drawNearest
  simp only [Bool.false_eq_true, if_false]
  rw [Canvas.pixel?_paint]
  cases there : c.pixel? u v with
  | none => rfl
  | some under =>
    obtain ⟨hu, hv⟩ := Canvas.lt_of_pixel? there
    have columns : ((⟨x, 1⟩ : Axis).span i.width c.width).Contains u ↔ x ≤ u ∧ u < x + i.width := by
      rw [Axis.span_unit, Span.contains_between]
      simp only [hu, and_true]
    have rows : ((⟨y, 1⟩ : Axis).span i.height c.height).Contains v ↔ y ≤ v ∧ v < y + i.height := by
      rw [Axis.span_unit, Span.contains_between]
      simp only [hv, and_true]
    simp only [Option.map_some, columns, rows]
    split_ifs with covered
    · obtain ⟨across, down⟩ := covered
      rw [getD_units (columns.mpr across), getD_units (rows.mpr down), Axis.unit_unit across.1 across.2,
        Axis.unit_unit down.1 down.2]
    · rfl

theorem Setup.place_unit {s : Setup} (scale : exact s.scale = 1) (x y : Int) :
    (s.frame x y).place (1 : Nat) (1 : Nat) = ⟨false, ⟨x, 1⟩, ⟨y, 1⟩⟩ := by
  simp [Style.frame, Frame.label, Frame.shift, Frame.vector, Frame.place, scale]

/-! ## One graphic -/

theorem Ink.blend_bit (ink : Ink) (black : Bool) (under : Color) :
    ink.blend (if black then 255 else 0) under = if black then ink.cover under else under := by
  cases black <;> rfl

namespace Bitmap

/-- Black in a column and a row; there is nothing beside the bitmap. -/
def isBlack (b : Bitmap) (u v : Int) : Bool :=
  decide (0 ≤ u ∧ u < b.width ∧ 0 ≤ v ∧ v < b.height) && b.pixels.getD (v.toNat * b.width + u.toNat) false

theorem pixel_ofBitmap (b : Bitmap) (u v : Nat) :
    (Image.ofBitmap b).pixel u v = if b.pixels.getD (v * b.width + u) false then 255 else 0 := by
  simp only [Image.pixel, Image.ofBitmap, Array.getD_eq_getD_getElem?, List.getElem?_toArray, List.getElem?_map,
    List.getD_eq_getElem?_getD]
  cases b.pixels[v * b.width + u]? <;> rfl

/-- A bitmap of the same scale as the canvas covers what is under its black pixels. -/
theorem pixel?_drawNearest (b : Bitmap) (x y : Int) (ink : Ink) (c : Canvas) (u v : Nat) :
    ((Image.ofBitmap b).drawNearest ⟨false, ⟨x, 1⟩, ⟨y, 1⟩⟩ ink c).pixel? u v =
      (c.pixel? u v).map fun under => if b.isBlack (u - x) (v - y) then ink.cover under else under := by
  rw [Image.pixel?_drawNearest_unit]
  congr 1
  funext under
  show (if (x ≤ u ∧ u < x + b.width) ∧ y ≤ v ∧ v < y + b.height then _ else _) = _
  split_ifs with covered black black
  · rw [pixel_ofBitmap, Ink.blend_bit, if_pos (Bool.and_eq_true_iff.mp black).2]
  · rw [isBlack, decide_eq_true (by omega), Bool.true_and] at black
    rw [pixel_ofBitmap, Ink.blend_bit, if_neg black]
  · have inside := of_decide_eq_true (Bool.and_eq_true_iff.mp black).1
    omega
  · rfl

end Bitmap

/-! ## Graphics in their order -/

namespace Item

/-- A black pixel of the graphic lies over the pixel of the canvas. -/
def blackens (i : Item) (x y : Nat) : Bool :=
  match i.content with
  | .graphic b => b.isBlack (x - i.x) (y - i.y)
  | _ => false

def IsGraphic (i : Item) : Prop := ∃ b : Bitmap, i.content = .graphic b ∧ b.Proper

/-- What the item makes of the color of a pixel. -/
def tint (s : Setup) (x y : Nat) (under : Color) (i : Item) : Color :=
  if i.blackens x y then (s.ink i.reversed .black).cover under else under

variable {s : Setup}

theorem pixel?_drawOrExcuse {i : Item} (graphic : i.IsGraphic) (scale : exact s.scale = 1) (label : Label) (x y : Nat)
    (c : Canvas) : (i.drawOrExcuse label s c).pixel? x y = (c.pixel? x y).map fun under => tint s x y under i := by
  obtain ⟨left, top, reversed, content⟩ := i
  obtain ⟨b, rfl, proper⟩ := graphic
  unfold drawOrExcuse draw
  simp only [proper.draw_eq, Setup.place_unit scale]
  exact b.pixel?_drawNearest left top _ c x y

theorem foldl_tint_reversed {items : List Item} {x y : Nat}
    (reversed : ∀ i ∈ items, i.blackens x y = true → i.reversed = true) (under : Color) :
    items.foldl (tint s x y) under = Ink.complement^[items.countP fun i => i.blackens x y] under := by
  induction items generalizing under with
  | nil => rfl
  | cons i items ih =>
    have rest : ∀ j ∈ items, j.blackens x y = true → j.reversed = true :=
      fun j hj => reversed j (List.mem_cons_of_mem i hj)
    rw [List.foldl_cons, ih rest, List.countP_cons]
    cases black : i.blackens x y with
    | true =>
      have inverted : tint s x y under i = Ink.complement under := by
        rw [tint, black, reversed i List.mem_cons_self black]
        rfl
      rw [inverted, if_pos rfl, Function.iterate_succ_apply]
    | false =>
      have same : tint s x y under i = under := by
        rw [tint, black]
        rfl
      rw [same, if_neg Bool.false_ne_true, Nat.add_zero]

end Item

namespace Setup

/-- A label of graphics at one pixel to a dot. The color of a pixel is that of the last graphic over it that is not
reversed, or the background, complemented once for each reversed graphic over it that comes later. -/
theorem draw_graphics {s : Setup} (scale : exact s.scale = 1) (possible : Canvas.isPossible s.width s.height = true)
    {label : Label} (graphics : ∀ i ∈ label.items, i.IsGraphic) :
    ∃ picture, s.draw label = .ok picture ∧ picture.size = (s.width, s.height) ∧
      ∀ x y, x < s.width → y < s.height →
        (∀ before i after, label.items = before ++ i :: after → i.blackens x y = true → i.reversed = false →
          (∀ j ∈ after, j.blackens x y = true → j.reversed = true) →
          picture.pixel? x y = some (Ink.complement^[after.countP fun j => j.blackens x y] s.foreground)) ∧
        ((∀ i ∈ label.items, i.blackens x y = true → i.reversed = true) →
          picture.pixel? x y = some (Ink.complement^[label.items.countP fun i => i.blackens x y] s.background)) := by
  have drawn := s.draw_cases label
  rw [if_pos possible] at drawn
  obtain ⟨picture, drawn, size⟩ := drawn
  refine ⟨picture, drawn, size, fun x y hx hy => ?_⟩
  have pixel : picture.pixel? x y = some (label.items.foldl (Item.tint s x y) s.background) := by
    rw [draw, if_pos possible] at drawn
    cases drawn
    rw [Canvas.pixel?_foldl fun i hi => Item.pixel?_drawOrExcuse (graphics i hi) scale label x y,
      Canvas.pixel?_filled s.background hx hy]
    rfl
  constructor
  · intro before i after items black solid reversed
    have covered (under : Color) : Item.tint s x y under i = s.foreground := by
      rw [Item.tint, black, solid]
      rfl
    rw [pixel, items, List.foldl_append, List.foldl_cons, covered, Item.foldl_tint_reversed reversed]
  · intro reversed
    rw [pixel, Item.foldl_tint_reversed reversed]

/-- A reversed graphic that begins beside the canvas, one that is not reversed over it, and a reversed one over that,
which ends beside the canvas. -/
theorem draw_graphics_three :
    let s : Setup :=
      { width := 3, height := 1, foreground := .black, background := .white, scale := 1.0, fontLimit := 600,
        modulePitch := 2 }
    let bar : Bitmap := ⟨3, 1, [true, true, true]⟩
    let label : Label :=
      { items := [⟨-2, 0, true, .graphic bar⟩, ⟨-1, 0, false, .graphic bar⟩, ⟨1, 0, true, .graphic bar⟩] }
    ∃ picture, s.draw label = .ok picture ∧ picture.pixel? 0 0 = some .black ∧ picture.pixel? 1 0 = some .white ∧
      picture.pixel? 2 0 = some .black := by
  intro s bar label
  have proper : bar.Proper := ⟨by decide, by decide, rfl⟩
  have graphics : ∀ i ∈ label.items, i.IsGraphic := by
    simp [label, Item.IsGraphic, proper]
  have scale : exact s.scale = 1 := by decide +kernel
  obtain ⟨picture, drawn, -, pixels⟩ := draw_graphics scale (by decide) graphics
  refine ⟨picture, drawn, ?_, ?_, ?_⟩
  · exact (pixels 0 0 (by decide) (by decide)).1 [_] _ [_] rfl (by decide) rfl (by decide)
  · exact ((pixels 1 0 (by decide) (by decide)).1 [_] _ [_] rfl (by decide) rfl (by decide)).trans (by decide)
  · exact ((pixels 2 0 (by decide) (by decide)).2 (by decide)).trans (by decide)

end Setup

end LabelPreview
