/-! # The binary number nearest to a decimal one

A decimal number is a coefficient times a power of ten. It is rounded once, in exact arithmetic, to the
nearest number of a binary format; a tie goes to the even neighbour.
-/

namespace LabelPreview

structure Decimal where
  negative : Bool
  coefficient : Nat
  exponent : Int

/-- The parameters of a binary interchange format. -/
structure BinaryFormat where
  /-- Significant bits of a normal number. -/
  precision : Nat
  /-- The last bit of the smallest number is 2 to this power. -/
  lowest : Int
  /-- The bits of infinity, which follow those of the largest number. -/
  infinity : Nat

namespace BinaryFormat

def single : BinaryFormat := ⟨24, -149, 0x7F800000⟩

def double : BinaryFormat := ⟨53, -1074, 0x7FF0000000000000⟩

/-- Rounds a quotient to the nearest whole number, a tie to the even one. -/
def roundQuotient (num den : Nat) : Nat :=
  let q := num / den
  let twice := 2 * (num % den)
  if twice < den then q else if den < twice then q + 1 else q + q % 2

/-- The exponent of the last bit that a number `num / den` keeps. -/
def lastBit (f : BinaryFormat) (num den : Nat) : Int :=
  let guess : Int := (num.log2 : Int) - (den.log2 : Int)
  let above := if guess < 0 then den ≤ num <<< (-guess).toNat else den <<< guess.toNat ≤ num
  max f.lowest ((if above then guess else guess - 1) - (f.precision - 1 : Nat))

/-- The bits of the number nearest to `num / den`. Because the fields of a binary number are laid out in
order of size, rounding up to a new binade needs no case of its own. -/
def nearest (f : BinaryFormat) (num den : Nat) : Nat :=
  if num = 0 then 0
  else
    let q := f.lastBit num den
    let m := if q < 0 then roundQuotient (num <<< (-q).toNat) den
      else roundQuotient num (den <<< q.toNat)
    min f.infinity ((q - f.lowest).toNat <<< (f.precision - 1) + m)

/-- The bits nearest to `coefficient * 10 ^ exponent`. Magnitudes that no format holds are settled before
the power is formed. -/
def ofDecimal (f : BinaryFormat) (d : Decimal) : Nat :=
  if d.coefficient = 0 then 0
  else
    let magnitude := d.exponent + ((Nat.toDigits 10 d.coefficient).length : Int)
    if 400 < magnitude then f.infinity
    else if magnitude < -400 then 0
    else if d.exponent < 0 then f.nearest d.coefficient (Nat.pow 10 (-d.exponent).toNat)
    else f.nearest (d.coefficient * Nat.pow 10 d.exponent.toNat) 1

end BinaryFormat

namespace Decimal

def toFloat (d : Decimal) : Float :=
  let bits := BinaryFormat.double.ofDecimal d
  Float.ofBits (UInt64.ofNat (if d.negative then bits + 0x8000000000000000 else bits))

def toFloat32 (d : Decimal) : Float32 :=
  let bits := BinaryFormat.single.ofDecimal d
  Float32.ofBits (UInt32.ofNat (if d.negative then bits + 0x80000000 else bits))

end Decimal

end LabelPreview
