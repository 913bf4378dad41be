import LabelPreview.Text.Basic

/-! # The code page of a printer

Field data is printed byte by byte. Every byte of its UTF-8 form, or of an escape, shows the character that
code page 850 has for it; most control bytes show nothing.
-/

namespace LabelPreview.CodePage

/-- The characters of the bytes from 26 to 31. -/
def low : List Char := ['0', '⅓', '⅔', 'Ĳ', 'ĳ', '\\']

/-- The characters of the bytes from 127 on. -/
def high : List Char := [
  '⌂', 'Ç', 'ü', 'é', 'â', 'ä', 'à', 'å', 'ç', 'ê', 'ë', 'è', 'ï', 'î', 'ì', 'Ä', 'Å',
  'É', 'æ', 'Æ', 'ô', 'ö', 'ò', 'û', 'ù', 'ÿ', 'Ö', 'Ü', 'ø', '£', 'Ø', '×', 'ƒ',
  'á', 'í', 'ó', 'ú', 'ñ', 'Ñ', 'ª', 'º', '¿', '®', '¬', '½', '¼', '¡', '«', '»',
  '░', '▒', '▓', '│', '┤', 'Á', 'Â', 'À', '©', '╣', '║', '╗', '╝', '¢', '¥', '┐',
  '└', '┴', '┬', '├', '─', '┼', 'ã', 'Ã', '╚', '╔', '╩', '╦', '╠', '═', '╬', '¤',
  'ð', 'Ð', 'Ê', 'Ë', 'È', 'i', 'Í', 'Î', 'Ï', '┘', '┌', '█', '▄', '¦', 'Ì', '▀',
  'Ó', 'ß', 'Ô', 'Ò', 'õ', 'Õ', 'µ', 'þ', 'Þ', 'Ú', 'Û', 'Ù', 'ý', 'Ý', '¯', '´',
  '-', 'Ð', '±', '¾', '¶', '§', '÷', '¸', '°', '¨', '·', '¹', '³', '²', '■', ' ']

/-- The character that a byte shows. -/
def glyph? (b : UInt8) : Option Char :=
  let n := b.toNat
  if n < 26 then none
  else if n < 32 then low[n - 26]?
  else if n < 127 then some (Char.ofNat n)
  else high[n - 127]?

def decode (bytes : List UInt8) : Text := bytes.filterMap glyph?

/-- The bytes of a text in which `escape` and two hexadecimal digits stand for a byte. An escape without two
digits is taken as it stands. -/
def escapedBytes (escape : Char) : Text → List UInt8
  | [] => []
  | [c] => String.utf8EncodeChar c
  | [c, d] => String.utf8EncodeChar c ++ String.utf8EncodeChar d
  | c :: a :: b :: rest =>
    match if c = escape then Text.hexDigit? a else none, Text.hexDigit? b with
    | some high, some low => UInt8.ofNat (16 * high + low) :: escapedBytes escape rest
    | _, _ => String.utf8EncodeChar c ++ escapedBytes escape (a :: b :: rest)

/-- What a printer shows for field data. -/
def shown (escape : Option Char) (data : Text) : Text :=
  decode <| match escape with
    | some c => escapedBytes c data
    | none => data.utf8

/-- Every byte of the UTF-8 form as the character of the same number. -/
def bytesAsChars (s : Text) : Text := s.utf8.map fun b => Char.ofNat b.toNat

end LabelPreview.CodePage
