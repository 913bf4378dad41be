import LabelPreview.Text.Basic

/-! # Graphic data in hexadecimal digits

Digits fill the rows one half byte at a time. A count letter repeats the next digit, and `,`, `!` and `:`
stand for the rest of a row: zeros, ones, or a copy of the row above. Reading ends with the last row.
-/

namespace LabelPreview.HexRows

/-- What a count letter adds to the number of repetitions. -/
def countLetter? (c : Char) : Option Nat :=
  if 'G' ≤ c ∧ c ≤ 'Y' then some (c.toNat - 70)
  else if 'g' ≤ c ∧ c ≤ 'z' then some (20 * (c.toNat - 102))
  else none

/-- The half bytes read so far, the last one first. -/
structure Drawn where
  halves : List Nat
  size : Nat

namespace Drawn

def empty : Drawn := ⟨[], 0⟩

/-- Adds the same half byte `n` times. -/
def push (d : Drawn) (n half : Nat) : Drawn := ⟨List.replicate n half ++ d.halves, d.size + n⟩

/-- Fills the current row with a half byte. A row that has not been started is filled as a whole. -/
def fillRow (width half : Nat) (d : Drawn) : Drawn := d.push (width - d.size % width) half

/-- Ends a started row with zeros. -/
def endRow (width : Nat) (d : Drawn) : Drawn := if d.size % width = 0 then d else d.fillRow width 0

/-- Copies the row above; above the first row all is zero. -/
def copyRow (width : Nat) (d : Drawn) : Drawn :=
  if d.size = 0 then d.push width 0 else ⟨d.halves.take width ++ d.halves, d.size + width⟩

end Drawn

/-- Reads until `wanted` half bytes are there. `times` is the repetition for the next digit, 0 if no count
was given. A character that is neither data nor blank is an error. -/
def read (width wanted : Nat) : Drawn → (times : Nat) → Text → Except Char Drawn
  | d, _, [] => .ok d
  | d, times, c :: rest =>
    if wanted ≤ d.size then .ok d
    else
      match Text.hexDigit? c with
      | some half => read width wanted (d.push (max times 1) half) 0 rest
      | none =>
        match countLetter? c with
        | some n => read width wanted d (times + n) rest
        | none =>
          if c = ',' then read width wanted (d.fillRow width 0) 0 rest
          else if c = '!' then read width wanted (d.fillRow width 15) 0 rest
          else if c = ':' then read width wanted ((d.endRow width).copyRow width) 0 rest
          else if Text.isBlank c then read width wanted d 0 rest
          else .error c

/-- Two half bytes to a byte, the high one first. -/
def pack : List Nat → List UInt8
  | high :: low :: rest => UInt8.ofNat (16 * high + low) :: pack rest
  | _ => []

/-- The bytes of `height` rows. Rows that the data does not reach are zero. -/
def decode (rowBytes height : Nat) (data : Text) : Except Char (List UInt8) :=
  let width := 2 * rowBytes
  let wanted := width * height
  (read width wanted Drawn.empty 0 data).map fun d =>
    pack ((d.halves.reverse ++ List.replicate (wanted - d.size) 0).take wanted)

end LabelPreview.HexRows
