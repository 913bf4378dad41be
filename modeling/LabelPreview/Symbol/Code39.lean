import LabelPreview.Symbol.Bars
import LabelPreview.Text.Basic

/-! # Code 39

Nine bars and spaces to a character, of which the wide ones are two modules wide, and a space between
characters. A pair of characters of the alphabet stands for any other ASCII character.
-/

namespace LabelPreview.Code39

/-! ## Alphabet -/

/-- The characters of the symbology; the place of a character is its value. -/
def alphabet : Text := [
  '0', '1', '2', '3', '4', '5', '6', '7', '8', '9', 'A', 'B', 'C', 'D', 'E', 'F', 'G', 'H', 'I', 'J', 'K', 'L',
  'M', 'N', 'O', 'P', 'Q', 'R', 'S', 'T', 'U', 'V', 'W', 'X', 'Y', 'Z', '-', '.', ' ', '$', '/', '+', '%']

/-- The value of a character of the alphabet. -/
def value? (c : Char) : Option Nat := alphabet.idxOf? c

/-- The sum of the values of all characters, if the alphabet has them all. -/
def sum? : Text → Option Nat
  | [] => some 0
  | c :: rest =>
    match value? c, sum? rest with
    | some value, some sum => some (value + sum)
    | _, _ => none

/-- The check character: its value is the sum of the values of all characters, modulo 43. -/
def checkCharacter? (data : Text) : Option Char :=
  (sum? data).bind fun sum => alphabet[sum % alphabet.length]?

/-- The data and its check character, if it has one. -/
def withCheckCharacter (data : Text) : Text := data ++ (checkCharacter? data).toList

/-! ## Bars -/

/-- The wide ones of nine bars and spaces, by value; the first one is the highest of nine bits. -/
def patterns : List Nat := [
  0x034, 0x121, 0x061, 0x160, 0x031, 0x130, 0x070, 0x025, 0x124, 0x064, 0x109, 0x049, 0x148, 0x019, 0x118,
  0x058, 0x00D, 0x10C, 0x04C, 0x01C, 0x103, 0x043, 0x142, 0x013, 0x112, 0x052, 0x007, 0x106, 0x046, 0x016,
  0x181, 0x0C1, 0x1C0, 0x091, 0x190, 0x0D0, 0x085, 0x184, 0x0C4, 0x0A8, 0x0A2, 0x08A, 0x02A]

/-- The pattern at both ends of a symbol. -/
def guardPattern : Nat := 0x094

def patternWidths (pattern : Nat) : List Nat :=
  [8, 7, 6, 5, 4, 3, 2, 1, 0].map fun i => if pattern.testBit i then 2 else 1

/-! ## Full ASCII -/

/-- The character at a distance from another one. -/
def letter (first : Char) (distance : Nat) : Char := Char.ofNat (first.toNat + distance)

/-- How a character is written with the alphabet, if it is an ASCII character. -/
def spelling? (c : Char) : Option Text :=
  let n := c.toNat
  if n = 0 then some ['%', 'U']
  else if c = '@' then some ['%', 'V']
  else if c = '`' then some ['%', 'W']
  else if c = ' ' ∨ c = '-' ∨ c = '.' ∨ c.isDigit ∨ c.isUpper then some [c]
  else if n ≤ 26 then some ['$', letter 'A' (n - 1)]
  else if n < 32 then some ['%', letter 'A' (n - 27)]
  else if n ≤ 58 then some ['/', letter 'A' (n - 33)]
  else if n ≤ 63 then some ['%', letter 'F' (n - 59)]
  else if n ≤ 95 then some ['%', letter 'K' (n - 91)]
  else if n ≤ 122 then some ['+', letter 'A' (n - 97)]
  else if n ≤ 127 then some ['%', letter 'P' (n - 123)]
  else none

def spell : Text → Option Text
  | [] => some []
  | c :: rest =>
    match spelling? c, spell rest with
    | some pair, some others => some (pair ++ others)
    | _, _ => none

/-! ## Symbols -/

/-- The longest text of a symbol, spelled out. -/
def limit : Nat := 80

/-- The text in characters of the alphabet. Text of the alphabet stands for itself. -/
def characters? (s : Text) : Option Text :=
  if s.isEmpty || limit < s.length then none
  else if s.all fun c => (value? c).isSome then some s
  else (spell s).filter fun spelled => spelled.length ≤ limit

/-- The widths of a character with the space after it. -/
def characterWidths (c : Char) : List Nat :=
  patternWidths (((value? c).bind fun value => patterns[value]?).getD guardPattern) ++ [1]

/-- The symbol of a text. -/
def encode (s : Text) : Option Bitmap :=
  (characters? s).map fun characters =>
    Bars.symbol (patternWidths guardPattern ++ [1] ++ characters.flatMap characterWidths ++
      patternWidths guardPattern)

end LabelPreview.Code39
