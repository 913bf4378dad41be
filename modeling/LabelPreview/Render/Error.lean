/-! # Drawing errors -/

namespace LabelPreview

/-- Why an item can not be drawn. -/
inductive DrawError where
  /-- A bitmap or a box without area, or a bitmap whose pixels do not fit its sides. -/
  | invalidShape
  /-- Data that the symbology has no symbol for. -/
  | barcode
  deriving DecidableEq, Repr

end LabelPreview
