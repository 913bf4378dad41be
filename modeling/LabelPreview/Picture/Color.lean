import LabelPreview.Text.Basic

/-! # Colors -/

namespace LabelPreview

/-- An opaque color. -/
structure Color where
  red : UInt8
  green : UInt8
  blue : UInt8
  deriving DecidableEq, Repr

namespace Color

def black : Color := ⟨0, 0, 0⟩

def white : Color := ⟨255, 255, 255⟩

/-- A byte in two hexadecimal digits. A plus sign may take the place of a leading zero. -/
def channel? (high low : Char) : Option UInt8 :=
  match Text.hexDigit? low with
  | none => none
  | some l =>
    if high = '+' then some (UInt8.ofNat l)
    else (Text.hexDigit? high).map fun h => UInt8.ofNat (16 * h + l)

/-- A color written `#RRGGBB`. -/
def read? (s : Text) : Option Color :=
  match s with
  | ['#', a, b, c, d, e, f] =>
    match channel? a b, channel? c d, channel? e f with
    | some red, some green, some blue => some ⟨red, green, blue⟩
    | _, _, _ => none
  | _ => none

end Color

end LabelPreview
