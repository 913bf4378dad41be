import LabelPreview.CodePage
import LabelPreview.Label.Basic
import LabelPreview.Symbol.Code128
import LabelPreview.Symbol.Code39
import LabelPreview.Symbol.DataMatrix.Layout
import LabelPreview.Symbol.Ean13
import LabelPreview.Symbol.Qr.Mask

/-! # Payloads

The data of a barcode field is prepared before it becomes a symbol: check digits are added, and marks and headers
are set or taken off.
-/

namespace LabelPreview

/-- What a symbol says, and what is printed with it for people. -/
structure Payload where
  content : Text
  /-- Matrix symbols have no caption. -/
  caption : Text := []
  /-- Only QR codes have levels. -/
  level : Qr.Level := .low

namespace Payload

/-- The data of Code 39. The caption shows the start and stop characters. -/
def code39 (checkDigit : Bool) (data : Text) : Payload :=
  let content := if checkDigit then Code39.withCheckCharacter data else data
  { content, caption := '*' :: content ++ ['*'] }

/-- The data of Code 128. In EAN mode a function character goes in front. -/
def code128 (mode : Code128Mode) (data : Text) : Payload :=
  { content := if mode = .ean then Code128.fnc1 :: data else data, caption := data }

/-- The data of EAN-13. Without all its digits a number has no content, and so no symbol. -/
def ean13 (data : Text) : Payload :=
  match Ean13.complete? data with
  | some digits => { content := digits, caption := digits }
  | none => { content := [] }

/-- Data of a QR code may begin with the letter of a level, the letter of an input mode and a comma. -/
def qrCode (data : Text) : Payload :=
  match data with
  | letter :: input :: ',' :: content =>
    match Qr.Level.ofLetter? letter with
    | some level => if input = 'A' ∨ input = 'M' then { content, level } else { content := data }
    | none => { content := data }
  | _ => { content := data }

end Payload

namespace Symbology

/-- Prepares data that has been through the code page. -/
def payload (s : Symbology) (data : Text) : Payload :=
  match s with
  | .code39 _ checkDigit => .code39 checkDigit data
  | .code128 _ _ mode => .code128 mode data
  | .ean13 _ => .ean13 data
  | .qrCode .. => .qrCode data
  | .dataMatrix .. => { content := data }

/-- The symbol of a payload, with one pixel to a module; `none` if the symbology has no symbol for it. -/
def symbol? (s : Symbology) (p : Payload) : Option Bitmap :=
  match s with
  | .code39 .. => Code39.encode p.content
  | .code128 .. => Code128.encode p.content
  | .ean13 .. => Ean13.encode p.content
  | .qrCode .. => Qr.encode p.level p.content
  | .dataMatrix .. => DataMatrix.encode p.content

end Symbology

namespace BarcodeField

def payload (b : BarcodeField) : Payload := b.symbology.payload (CodePage.shown b.hexEscape b.data)

end BarcodeField

end LabelPreview
