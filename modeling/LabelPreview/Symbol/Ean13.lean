import LabelPreview.Symbol.Bars
import LabelPreview.Text.Basic

/-! # EAN-13

Twelve digits and a check digit. The first digit has no bars of its own: it is told by the parity of the six
digits after it.
-/

namespace LabelPreview.Ean13

/-! ## Digits -/

def digitValue (c : Char) : Nat := c.toNat - 48

/-- The sum of digits with weights in turn, the first of which is 1 or 3. -/
def weightedSum : (triple : Bool) → Text → Nat
  | _, [] => 0
  | triple, c :: rest => (if triple then 3 else 1) * digitValue c + weightedSum (!triple) rest

/-- Thirteen digits whose sum, with the weights 1 and 3 in turn, ends in 0. -/
def isValid (s : Text) : Bool :=
  s.length == 13 && s.all Char.isDigit && weightedSum false s % 10 == 0

/-- The digit that makes a valid number of twelve digits; other texts have none. The weights are told from the
right end, where the first one is 3. -/
def checkDigit? (digits : Text) : Option Char :=
  if digits.length = 12 ∧ digits.all Char.isDigit then
    some (Char.ofNat (48 + (10 - weightedSum true digits.reverse % 10) % 10))
  else none

/-- A digit stands for itself, any other character for `0`. -/
def asDigit (c : Char) : Char := if c.isDigit then c else '0'

/-- Twelve characters: zeros fill up in front, and what is too long is cut off. -/
def twelve (digits : Text) : Text :=
  (List.replicate (12 - digits.length) '0' ++ digits).take 12

/-- The digits of a symbol. Thirteen characters have a check digit of their own. -/
def complete? (data : Text) : Option Text :=
  let digits := data.map asDigit
  if digits.length = 13 then some digits
  else
    let number := twelve digits
    (checkDigit? number).map fun digit => number ++ [digit]

/-! ## Bars -/

/-- The widths of a space, a bar, a space and a bar, by digit. -/
def patterns : List (List Nat) := [
  [3, 2, 1, 1], [2, 2, 2, 1], [2, 1, 2, 2], [1, 4, 1, 1], [1, 1, 3, 2],
  [1, 2, 3, 1], [1, 1, 1, 4], [1, 3, 1, 2], [1, 2, 1, 3], [3, 1, 1, 2]]

/-- The digits of the left half that are drawn backwards, by first digit; the highest of six bits is the
leftmost digit. -/
def parities : List Nat := [0x00, 0x0B, 0x0D, 0x0E, 0x13, 0x19, 0x1C, 0x15, 0x16, 0x1A]

def digitWidths (c : Char) : List Nat := patterns.getD (digitValue c) []

/-- The widths of the six digits after the first one. -/
def leftWidths (first : Char) (digits : Text) : List Nat :=
  let parity := parities.getD (digitValue first) 0
  digits.zipIdx.flatMap fun (c, i) =>
    if parity.testBit (5 - i) then (digitWidths c).reverse else digitWidths c

/-! ## Symbols -/

/-- The symbol of a valid number. -/
def encode (s : Text) : Option Bitmap :=
  match isValid s, s with
  | true, first :: digits =>
    some <| Bars.symbol <|
      [1, 1, 1] ++ leftWidths first (digits.take 6) ++ [1, 1, 1, 1, 1] ++
        (digits.drop 6).flatMap digitWidths ++ [1, 1, 1]
  | _, _ => none

end LabelPreview.Ean13
