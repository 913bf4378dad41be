import LabelPreview.Command.Kind
import LabelPreview.Command.Token
import LabelPreview.Graphic.Field
import LabelPreview.Label.Basic

/-! # Directives

What one command asks for, read from its parameters alone.
-/

namespace LabelPreview

/-! ## Reasons for refusing a command -/

inductive CommandError where
  | letter (cause : LetterError)
  | barcodeHeight
  | moduleWidth
  | wideBarRatio
  | defaultHeight
  | qrModel
  | qrMagnification
  | boxWidth
  | boxHeight
  | borderThickness
  | roundedness
  | originOutOfRange
  | fontSize
  | homeOutOfRange
  | homeIncomplete
  | graphic (cause : GraphicError)
  | notImplemented
  deriving DecidableEq, Repr

def CommandError.message : CommandError → String
  | .letter cause => cause.message
  | .barcodeHeight => "Barcode height must be between 1 and 32000 dots"
  | .moduleWidth => "Module width must be between 1 and 10 dots"
  | .wideBarRatio => "Wide bar to narrow bar ratio must be between 2.0 and 3.0"
  | .defaultHeight => "Height must be greater than 0"
  | .qrModel => "QR model must be 1 or 2"
  | .qrMagnification => "Magnification factor must be between 1 and 10"
  | .boxWidth => "Box width must be between 1 and 32000 dots"
  | .boxHeight => "Box height must be between 1 and 32000 dots"
  | .borderThickness => "Border thickness must be between 1 and 32000 dots"
  | .roundedness => "Roundedness must be between 0 and 8"
  | .originOutOfRange => "Field origin coordinates must be between 0 and 32000"
  | .fontSize => "Font height and width must be between 10 and 32000 dots"
  | .homeOutOfRange => "^LH coordinates must be between 0 and 32000"
  | .homeIncomplete => "^LH command requires both x and y coordinates"
  | .graphic cause => cause.message
  | .notImplemented => "Command not implemented"

/-! ## Changes of a font -/

/-- What a font command sets; `none` keeps what is there. A size can be set to nothing. -/
structure FontChange where
  name : Option Text := none
  orientation : Option Orientation := none
  height : Option (Option Nat) := none
  width : Option (Option Nat) := none
  deriving DecidableEq, Repr

def FontChange.applyTo (c : FontChange) (font : Font) : Font where
  name := c.name.getD font.name
  orientation := c.orientation.getD font.orientation
  height := c.height.getD font.height
  width := c.width.getD font.width

namespace Directive

/-! ## Numbers in a field -/

/-- A number that has to lie between two limits. -/
def within (low high : Int) (e : CommandError) (field : Text) : Except CommandError Nat :=
  match Text.leadingInt? field with
  | some n => if low ≤ n ∧ n ≤ high then .ok n.toNat else .error e
  | none => .error e

/-- A number brought between two limits, if the field is there and holds one. -/
def clamped? (low high : Int) (field : Option Text) : Option Int :=
  (field.bind Text.leadingInt?).map fun n => max low (min n high)

def letter {α : Type} (r : Except LetterError α) : Except CommandError α := r.mapError .letter

/-- Reads a field that is there and filled; otherwise the value stays as it is. -/
def readFilled {α : Type} (fields : List Text) (index : Nat) (unset : α)
    (read : Text → Except CommandError α) : Except CommandError α :=
  match filled? fields index with
  | some f => read f
  | none => .ok unset

/-! ## Positions -/

/-- A coordinate of a field; a field without a number leaves it open. -/
def coordinate (field : Text) : Except CommandError (Option Nat) :=
  match Text.leadingInt? field with
  | none => .ok none
  | some n => if 0 ≤ n ∧ n ≤ 32000 then .ok (some n.toNat) else .error .originOutOfRange

/-- The two coordinates of a move. Fewer than two fields ask for none. -/
def readOrigin (params : Text) : Except CommandError (Option (Option Nat × Option Nat)) :=
  match fields params with
  | x :: y :: _ => do
    let x ← coordinate x
    let y ← coordinate y
    return some (x, y)
  | _ => .ok none

def readHome (params : Text) : Except CommandError (Nat × Nat) :=
  match fields params with
  | x :: y :: _ => do
    let x ← within 0 32000 .homeOutOfRange x
    let y ← within 0 32000 .homeOutOfRange y
    return (x, y)
  | _ => .error .homeIncomplete

/-! ## Text -/

/-- A font size; without a number, or with 0, there is none. -/
def fontSize (field : Option Text) : Except CommandError (Option Nat) :=
  match field.bind Text.leadingInt? with
  | none => .ok none
  | some n =>
    if n = 0 then .ok none
    else if 10 ≤ n ∧ n ≤ 32000 then .ok (some n.toNat)
    else .error .fontSize

/-- The default font keeps its name if none is given, and loses a size that is not given. -/
def readDefaultFont (params : Text) : Except CommandError FontChange := do
  let fields := fields params
  let height ← fontSize fields[1]?
  let width ← fontSize fields[2]?
  return { name := filled? fields 0, height := some height, width := some width }

/-- A size that is kept if the field holds no number. -/
def changedSize (field : Option Text) : Except CommandError (Option (Option Nat)) :=
  if (field.bind Text.leadingInt?).isSome then (fontSize field).map some else .ok none

/-- An orientation that is kept if there is nothing to read. -/
def changedTurn (turn : Text) : Except CommandError (Option Orientation) :=
  if turn.isEmpty then .ok none else (letter (Orientation.read turn)).map some

/-- The first field is the name of the font, one character, with the orientation behind it. -/
def readFieldFont (params : Text) : Except CommandError FontChange := do
  let fields := fields params
  let first := fields.headD []
  let orientation ← changedTurn (first.drop 1)
  let height ← changedSize fields[1]?
  let width ← changedSize fields[2]?
  return { name := first.head?.map fun c => [c], orientation, height, width }

/-- Numbers out of range are brought into it. -/
def readBlock (params : Text) : TextBlock :=
  let fields := fields params
  { width := ((clamped? 0 32000 fields[0]?).getD 0).toNat
    maxLines := ((clamped? 1 9999 fields[1]?).getD 1).toNat
    lineSpacing := (clamped? (-9999) 9999 fields[2]?).getD 0
    justification := (fields[3]?.map Justification.read).getD .left
    hangingIndent := ((clamped? 0 9999 fields[4]?).getD 0).toNat }

/-- The escape character of a command that names none. -/
def defaultHexEscape : Char := '_'

/-! ## Barcodes -/

def barHeight (field : Text) : Except CommandError (Option Nat) :=
  (within 1 32000 .barcodeHeight field).map some

def orientation (field : Text) : Except CommandError Orientation := letter (Orientation.read field)

def yes (field : Text) : Except CommandError Bool := .ok (isYes field)

/-- The settings of the bars. Code 39 has another field between the first two. -/
def readBars (fields : List Text) (height caption above : Nat) : Except CommandError BarStyle := do
  let orientation ← readFilled fields 0 .normal orientation
  let height ← readFilled fields height none barHeight
  let caption ← readFilled fields caption true yes
  let captionAbove ← readFilled fields above false yes
  return { orientation, height, caption, captionAbove }

def readCode39 (params : Text) : Except CommandError Symbology := do
  let fields := fields params
  let bars ← readBars fields 2 3 4
  let checkDigit ← readFilled fields 1 false yes
  return .code39 bars checkDigit

def readCode128 (params : Text) : Except CommandError Symbology := do
  let fields := fields params
  let bars ← readBars fields 1 2 3
  let checkDigit ← readFilled fields 4 false yes
  let mode ← readFilled fields 5 .auto fun f => letter (Code128Mode.read f)
  return .code128 bars checkDigit mode

def readEan13 (params : Text) : Except CommandError Symbology :=
  (readBars (fields params) 1 2 3).map .ean13

def readQrCode (params : Text) : Except CommandError Symbology := do
  let fields := fields params
  let orientation ← readFilled fields 0 .normal orientation
  let model ← readFilled fields 1 2 (within 1 2 .qrModel)
  let magnification ← readFilled fields 2 none fun f => (within 1 10 .qrMagnification f).map some
  return .qrCode orientation model magnification

def readDataMatrix (params : Text) : Except CommandError Symbology := do
  let fields := fields params
  let orientation ← readFilled fields 0 .normal orientation
  let moduleSize ← readFilled fields 1 none barHeight
  return .dataMatrix orientation moduleSize

def wideBarRatio (field : Text) : Except CommandError Float :=
  match Text.leadingFloat? field with
  | some ratio => if 2.0 ≤ ratio ∧ ratio ≤ 3.0 then .ok ratio else .error .wideBarRatio
  | none => .error .wideBarRatio

/-- A height above 0. Sizes end where 32 bits do. -/
def defaultBarHeight (field : Text) : Except CommandError Nat :=
  match Text.leadingInt? field with
  | some n => if 0 < n then .ok (min n.toNat 0xFFFFFFFF) else .error .defaultHeight
  | none => .error .defaultHeight

def readBarcodeDefaults (params : Text) : Except CommandError BarcodeDefaults := do
  let fields := fields params
  let moduleWidth ← readFilled fields 0 2 (within 1 10 .moduleWidth)
  let ratio ← readFilled fields 1 3.0 wideBarRatio
  let height ← readFilled fields 2 10 defaultBarHeight
  return { moduleWidth, ratio, height }

/-! ## Boxes -/

def boxSide (e : CommandError) (field : Text) : Except CommandError (Option Nat) :=
  (within 1 32000 e field).map some

def readBox (params : Text) : Except CommandError Box := do
  let fields := fields params
  let width ← readFilled fields 0 none (boxSide .boxWidth)
  let height ← readFilled fields 1 none (boxSide .boxHeight)
  let thickness ← readFilled fields 2 none (boxSide .borderThickness)
  let color ← readFilled fields 3 .black fun f => letter (BoxColor.read f)
  let roundedness ← readFilled fields 4 0 (within 0 8 .roundedness)
  return { width, height, thickness, color, roundedness }

end Directive

end LabelPreview
