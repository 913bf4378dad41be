import LabelPreview.Text.Basic

/-! # Settings written as one letter

Letters are read in either case, with blanks around them.
-/

namespace LabelPreview

/-- A letter that is none of those a setting admits. -/
inductive LetterError where
  | orientation
  | color
  | code128Mode
  deriving DecidableEq, Repr

namespace LetterError

def message : LetterError → String
  | .orientation => "Invalid orientation value. Must be N, R, I, or B"
  | .color => "Color must be B or W"
  | .code128Mode => "Invalid Code 128 mode. Must be N, U, A, or D"

end LetterError

/-- A field as its letter in upper case; `none` if it is not a single character. -/
def letter? (field : Text) : Option Char :=
  match field.trim.asciiUpper with
  | [c] => some c
  | _ => none

/-! ## Orientation -/

/-- Clockwise quarter turns. -/
inductive Orientation where
  | normal
  | rotated
  | inverted
  | bottomUp
  deriving DecidableEq, Repr

namespace Orientation

def degrees : Orientation → Nat
  | .normal => 0
  | .rotated => 90
  | .inverted => 180
  | .bottomUp => 270

def read (field : Text) : Except LetterError Orientation :=
  match letter? field with
  | some 'N' => .ok .normal
  | some 'R' => .ok .rotated
  | some 'I' => .ok .inverted
  | some 'B' => .ok .bottomUp
  | _ => .error .orientation

end Orientation

/-! ## Color of a box -/

inductive BoxColor where
  | black
  | white
  deriving DecidableEq, Repr

namespace BoxColor

def read (field : Text) : Except LetterError BoxColor :=
  match letter? field with
  | some 'B' => .ok .black
  | some 'W' => .ok .white
  | _ => .error .color

end BoxColor

/-! ## Code 128 mode -/

inductive Code128Mode where
  | normal
  | ucc
  | auto
  | ean
  deriving DecidableEq, Repr

namespace Code128Mode

def read (field : Text) : Except LetterError Code128Mode :=
  match letter? field with
  | some 'N' => .ok .normal
  | some 'U' => .ok .ucc
  | some 'A' => .ok .auto
  | some 'D' => .ok .ean
  | _ => .error .code128Mode

end Code128Mode

/-! ## Justification -/

inductive Justification where
  | left
  | center
  | right
  | justified
  deriving DecidableEq, Repr

namespace Justification

/-- Any other letter is left, as printers take it. -/
def read (field : Text) : Justification :=
  match letter? field with
  | some 'C' => .center
  | some 'R' => .right
  | some 'J' => .justified
  | _ => .left

end Justification

/-- Only `Y` is yes; everything else is no. -/
def isYes (field : Text) : Bool := letter? field == some 'Y'

end LabelPreview
