import LabelPreview.Picture.Canvas
import Mathlib.Algebra.GroupWithZero.Nat

/-!
# What painting changes

Painting changes the pixels of the canvas that lie in a span of columns and in a span of rows, each of them once,
and no others. So a picture that was painted in many steps is told pixel by pixel.
-/

namespace LabelPreview

namespace Span

theorem contains_clip {s : Span} {size i : Nat} : (s.clip size).Contains i ↔ s.Contains i ∧ i < size := by
  simp only [Contains, clip]
  omega

theorem contains_between {low high : Int} {size i : Nat} :
    (between low high size).Contains i ↔ low ≤ i ∧ i < high ∧ i < size := by
  simp only [Contains, between]
  omega

end Span

namespace Canvas

theorem getElem?_paintRow (f : Nat → Color → Color) (start n x : Nat) (pixels : Array Color) (j : Nat) :
    (paintRow f start n x pixels)[j]? =
      pixels[j]?.map fun under => if start + x ≤ j ∧ j < start + x + n then f (j - start) under else under := by
  induction n generalizing x pixels with
  | zero =>
    have none : ¬(start + x ≤ j ∧ j < start + x + 0) := by omega
    simp only [paintRow, none, if_false, Option.map_id']
  | succ n ih =>
    rw [paintRow, ih, Array.getElem?_modify]
    by_cases here : start + x = j
    · -- the rest of the row leaves its first pixel alone
      have rest : ¬(start + (x + 1) ≤ j ∧ j < start + (x + 1) + n) := by omega
      have first : start + x ≤ j ∧ j < start + x + (n + 1) := by omega
      have column : j - start = x := by omega
      simp only [if_pos here, if_neg rest, if_pos first, Option.map_id', column]
    · have same : start + (x + 1) ≤ j ∧ j < start + (x + 1) + n ↔ start + x ≤ j ∧ j < start + x + (n + 1) := by
        omega
      simp only [if_neg here, same]

theorem in_row_iff {width u v y : Nat} {columns : Span} (hu : u < width)
    (inside : ∀ i, columns.Contains i → i < width) :
    y * width + columns.first ≤ v * width + u ∧ v * width + u < y * width + columns.first + columns.count ↔
      v = y ∧ columns.Contains u := by
  constructor
  · intro h
    have column : columns.Contains (v * width + u - y * width) := by
      unfold Span.Contains
      omega
    have lt := inside _ column
    rcases Nat.lt_trichotomy v y with above | rfl | below
    · have := Nat.mul_le_mul_right width above
      rw [Nat.succ_mul] at this
      omega
    · rw [Nat.add_sub_cancel_left] at column
      exact ⟨rfl, column⟩
    · have := Nat.mul_le_mul_right width below
      rw [Nat.succ_mul] at this
      omega
  · rintro ⟨rfl, column⟩
    unfold Span.Contains at column
    omega

theorem getElem?_paintRows (f : Nat → Nat → Color → Color) {width : Nat} {columns : Span}
    (inside : ∀ i, columns.Contains i → i < width) (n y : Nat) (pixels : Array Color) {u : Nat} (hu : u < width)
    (v : Nat) :
    (paintRows f width columns n y pixels)[v * width + u]? =
      pixels[v * width + u]?.map fun under =>
        if columns.Contains u ∧ y ≤ v ∧ v < y + n then f u v under else under := by
  induction n generalizing y pixels with
  | zero =>
    have none : ¬(columns.Contains u ∧ y ≤ v ∧ v < y + 0) := by omega
    simp only [paintRows, none, if_false, Option.map_id']
  | succ n ih =>
    rw [paintRows, ih, getElem?_paintRow, Option.map_map]
    congr 1
    funext under
    simp only [Function.comp_def, in_row_iff hu inside]
    by_cases row : v = y
    · subst row
      have rest : ¬(columns.Contains u ∧ v + 1 ≤ v ∧ v < v + 1 + n) := by omega
      have first : v ≤ v ∧ v < v + (n + 1) := by omega
      have column : v * width + u - v * width = u := Nat.add_sub_cancel_left _ _
      simp only [if_neg rest, first, true_and, and_true, column]
    · have same : y + 1 ≤ v ∧ v < y + 1 + n ↔ y ≤ v ∧ v < y + (n + 1) := by omega
      simp only [row, false_and, if_false, same]

theorem pixel?_of_height_le (c : Canvas) {x y : Nat} (h : c.height ≤ y) : c.pixel? x y = none := by
  have beyond : c.pixels.size ≤ y * c.width + x := by
    rw [c.size_pixels, Nat.mul_comm]
    exact Nat.le_trans (Nat.mul_le_mul_right _ h) (Nat.le_add_right _ _)
  unfold pixel?
  rw [Array.getElem?_eq_none beyond, ite_self]

theorem lt_of_pixel? {c : Canvas} {x y : Nat} {color : Color} (h : c.pixel? x y = some color) :
    x < c.width ∧ y < c.height := by
  have column : x < c.width := Nat.lt_of_not_le fun beside => by
    rw [pixel?, if_neg (Nat.not_lt.mpr beside)] at h
    cases h
  have row : y < c.height := Nat.lt_of_not_le fun below => by
    rw [pixel?_of_height_le c below] at h
    cases h
  exact ⟨column, row⟩

/-- A pixel in the columns and in the rows is changed, and no other. -/
theorem pixel?_paint (c : Canvas) (columns rows : Span) (f : Nat → Nat → Color → Color) (x y : Nat) :
    (c.paint columns rows f).pixel? x y =
      (c.pixel? x y).map fun under => if columns.Contains x ∧ rows.Contains y then f x y under else under := by
  by_cases below : y < c.height
  · unfold pixel?
    by_cases hx : x < c.width
    · have inside : ∀ i, (columns.clip c.width).Contains i → i < c.width := fun i h => (Span.contains_clip.mp h).2
      have painted := getElem?_paintRows f inside (rows.clip c.height).count rows.first c.pixels hx y
      have row : rows.first ≤ y ∧ y < rows.first + (rows.clip c.height).count ↔ rows.Contains y ∧ y < c.height :=
        Span.contains_clip
      simp only [Span.contains_clip, row, hx, below, and_true] at painted
      rw [if_pos hx]
      exact (if_pos hx).trans painted
    · rw [if_neg hx]
      exact if_neg hx
  · rw [pixel?_of_height_le c (Nat.le_of_not_lt below)]
    exact pixel?_of_height_le _ (Nat.le_of_not_lt below)

theorem pixel?_filled {width height x y : Nat} (color : Color) (hx : x < width) (hy : y < height) :
    (filled width height color).pixel? x y = some color := by
  have there : y * width + x < width * height := by
    have := Nat.mul_le_mul_right width hy
    rw [Nat.succ_mul, Nat.mul_comm height] at this
    omega
  show (if x < width then (Array.replicate (width * height) color)[y * width + x]? else none) = some color
  rw [if_pos hx, Array.getElem?_replicate, if_pos there]

theorem pixel?_foldl {α : Type} {draw : Canvas → α → Canvas} {tint : Color → α → Color} {x y : Nat} {as : List α}
    (h : ∀ a ∈ as, ∀ c, (draw c a).pixel? x y = (c.pixel? x y).map fun under => tint under a) (c : Canvas) :
    (as.foldl draw c).pixel? x y = (c.pixel? x y).map fun under => as.foldl tint under := by
  induction as generalizing c with
  | nil => simp only [List.foldl_nil, Option.map_id']
  | cons a as ih =>
    rw [List.foldl_cons, ih fun b hb => h b (List.mem_cons_of_mem a hb), h a List.mem_cons_self, Option.map_map]
    rfl

end Canvas

end LabelPreview
