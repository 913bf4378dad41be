import LabelPreview.Graphic.Bitmap

/-! # Bars

A linear symbol is a row of modules. It is described by the widths of its bars and spaces, which take turns.
-/

namespace LabelPreview.Bars

/-- The modules of bars and spaces of the given widths; `bar` says which comes first. -/
def modules : (bar : Bool) → List Nat → List Bool
  | _, [] => []
  | bar, width :: rest => List.replicate width bar ++ modules (!bar) rest

/-- The row of modules of a symbol, which begins with a bar. -/
def symbol (widths : List Nat) : Bitmap :=
  let row := modules true widths
  ⟨row.length, 1, row⟩

/-- The decimal digits of a number, as widths. -/
def widthsOf (n : Nat) : List Nat := (Nat.toDigits 10 n).map fun c => c.toNat - 48

end LabelPreview.Bars
