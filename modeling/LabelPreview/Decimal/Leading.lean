import LabelPreview.Text.Basic
import LabelPreview.Decimal.Nearest

/-! # Numbers at the start of a parameter

A parameter is read as the number it begins with; what follows the number is ignored.
-/

namespace LabelPreview

namespace Text

def isInlineSpace (c : Char) : Bool := c == ' ' || c == '\t'

/-- A sign, if there is one, and the rest. `true` stands for minus. -/
def takeSign : Text → Bool × Text
  | '-' :: rest => (true, rest)
  | '+' :: rest => (false, rest)
  | s => (false, s)

def digits (s : Text) : Text := s.takeWhile Char.isDigit

def afterDigits (s : Text) : Text := s.dropWhile Char.isDigit

/-- The whole number that the text begins with, if it fits in 64 bits. -/
def leadingInt? (s : Text) : Option Int :=
  let (negative, body) := takeSign (s.dropWhile isInlineSpace)
  let run := digits body
  if run.isEmpty then none
  else
    let value : Int := if negative then -(decimalValue run : Int) else decimalValue run
    if -0x8000000000000000 ≤ value ∧ value < 0x8000000000000000 then some value else none

/-- Digits with at most one point and at least one digit before it or after it. Gives the digits without
the point, how many of them follow it, and the rest. -/
def takeMantissa (s : Text) : Option (Text × Nat × Text) :=
  let whole := digits s
  match afterDigits s with
  | '.' :: rest =>
    let fraction := digits rest
    if whole.isEmpty && fraction.isEmpty then none
    else some (whole ++ fraction, fraction.length, afterDigits rest)
  | rest => if whole.isEmpty then none else some (whole, 0, rest)

/-- The exponent part of a number and the rest; `none` if the letter is not followed by digits. -/
def takeExponent : Text → Option (Int × Text)
  | c :: s =>
    if c = 'e' ∨ c = 'E' then
      let (negative, body) := takeSign s
      let run := digits body
      if run.isEmpty then none
      else some (if negative then -(decimalValue run : Int) else decimalValue run, afterDigits body)
    else some (0, c :: s)
  | [] => some (0, [])

/-- A decimal number and the rest of the text. -/
def takeDecimal (s : Text) : Option (Decimal × Text) := do
  let (negative, body) := takeSign s
  let (run, places, rest) ← takeMantissa body
  let (exponent, rest) ← takeExponent rest
  return (⟨negative, decimalValue run, exponent - places⟩, rest)

/-- The decimal number that the text begins with. An exponent letter without digits spoils the number. -/
def leadingFloat? (s : Text) : Option Float :=
  (takeDecimal (s.dropWhile isInlineSpace)).map fun (d, _) => d.toFloat

/-- The whole text as a number of single precision; infinity and not-a-number may be written by name. -/
def float32? (s : Text) : Option Float32 :=
  match takeDecimal s with
  | some (d, []) => some d.toFloat32
  | _ =>
    let (negative, body) := takeSign s
    let name := asciiLower body
    let sign (x : Float32) : Float32 := if negative then -x else x
    if name = ['i', 'n', 'f'] ∨ name = ['i', 'n', 'f', 'i', 'n', 'i', 't', 'y'] then
      some (sign (Float32.ofBits 0x7F800000))
    else if name = ['n', 'a', 'n'] then some (sign (Float32.ofBits 0x7FC00000))
    else none

end Text

end LabelPreview
