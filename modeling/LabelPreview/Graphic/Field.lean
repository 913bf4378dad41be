import LabelPreview.Decimal.Leading
import LabelPreview.Graphic.Base64
import LabelPreview.Graphic.Bitmap
import LabelPreview.Graphic.HexRows
import LabelPreview.Graphic.Inflate

/-! # Graphic fields

The parameters of a graphic field are a compression letter, a byte count that is not used, the total number of
bytes, the bytes of a row, and the data.
-/

namespace LabelPreview

inductive GraphicError where
  | missingParameters
  | zeroRowBytes
  | tooWide (rowBytes : Nat)
  | tooTall (rows : Nat)
  | unsupportedCompression (letter : Text)
  | invalidHex (c : Char)
  | base64 (cause : Base64.Error)
  | inflate (cause : Inflate.Error)
  | tooSmall (expected actual : Nat)
  deriving DecidableEq, Repr

namespace GraphicError

def message : GraphicError → String
  | .missingParameters => "^GF requires compression type, byte counts and data"
  | .zeroRowBytes => "Bytes per row must be greater than 0"
  | .tooWide rowBytes => s!"Graphic width must not exceed 32000 dots, got {rowBytes} bytes per row"
  | .tooTall rows => s!"Graphic height must not exceed 32000 dots, got {rows} rows"
  | .unsupportedCompression letter => "Unsupported graphic compression type " ++ String.ofList letter
  | .invalidHex c => "Invalid character '" ++ c.toString ++ "' in ASCII hex graphic data"
  | .base64 cause => "Invalid base64 graphic data: " ++ cause.message
  | .inflate cause => "Could not inflate graphic data: " ++ cause.message
  | .tooSmall expected actual =>
    s!"Graphic data too small: expected {expected} bytes, got {actual}"

end GraphicError

namespace GraphicField

/-- The longest side of a graphic in dots. -/
def maxSide : Nat := 32000

structure Header where
  compression : Text
  rowBytes : Nat
  height : Nat
  data : Text

/-- Cuts the parameters at the first four commas. -/
def cutFields (params : Text) : Option (Text × Text × Text × Text) := do
  let (compression, rest) ← params.cutAt ','
  let (_, rest) ← rest.cutAt ','
  let (total, rest) ← rest.cutAt ','
  let (row, data) ← rest.cutAt ','
  return (compression, total, row, data)

def readHeader (params : Text) : Except GraphicError Header :=
  match cutFields params with
  | none => .error .missingParameters
  | some (compression, total, row, data) =>
    match Text.count? total.trim, Text.count? row.trim with
    | some total, some row =>
      if row = 0 then .error .zeroRowBytes
      else if maxSide < 8 * row then .error (.tooWide row)
      else if maxSide < total / row then .error (.tooTall (total / row))
      else .ok ⟨compression, row, total / row, data.trim⟩
    | _, _ => .error .missingParameters

/-- The bytes of a base64 payload. It ends at a colon, and blanks in it do not count. -/
def decodePayload (payload : Text) : Except GraphicError (List UInt8) :=
  let symbols := (payload.takeWhile (· != ':')).filter fun c => !Text.isBlank c
  (Base64.decode (Text.utf8 symbols)).mapError .base64

/-- The bytes that the data of a field stands for. The mark in front of the data goes before the letter. -/
def decodeData (h : Header) : Except GraphicError (List UInt8) :=
  match Text.after? [':', 'Z', '6', '4', ':'] h.data with
  | some payload => do
    let bytes ← decodePayload payload
    (Inflate.inflate (h.rowBytes * h.height) bytes).mapError .inflate
  | none =>
    match Text.after? [':', 'B', '6', '4', ':'] h.data with
    | some payload => decodePayload payload
    | none =>
      let letter := h.compression.trim.asciiUpper
      if letter = ['A'] then (HexRows.decode h.rowBytes h.height h.data).mapError .invalidHex
      else .error (.unsupportedCompression letter)

/-- The bitmap of a graphic field. -/
def decode (params : Text) : Except GraphicError Bitmap := do
  let h ← readHeader params
  let bytes ← decodeData h
  let expected := h.rowBytes * h.height
  if bytes.length < expected then .error (.tooSmall expected bytes.length)
  else return Bitmap.ofBytes h.rowBytes h.height bytes

end GraphicField

end LabelPreview
