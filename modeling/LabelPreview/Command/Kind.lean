import LabelPreview.Command.Catalog

/-! # What a command is for -/

namespace LabelPreview

inductive CommandKind where
  | fieldOrigin
  | fieldTypeset
  | labelHome
  | changeFont
  | font
  | fieldBlock
  | fieldReverse
  | fieldHex
  | barcodeDefaults
  | code39
  | code128
  | ean13
  | qrCode
  | dataMatrix
  | fieldData
  | graphicBox
  | graphicField
  | fieldSeparator
  | comment
  | unsupported
  deriving DecidableEq, Repr

namespace CommandKind

/-- The commands that have an effect on a label. -/
def handled : List (List Char × CommandKind) := [
  (['^', 'F', 'O'], .fieldOrigin), (['^', 'F', 'T'], .fieldTypeset), (['^', 'L', 'H'], .labelHome),
  (['^', 'C', 'F'], .changeFont), (['^', 'A'], .font), (['^', 'F', 'B'], .fieldBlock),
  (['^', 'F', 'R'], .fieldReverse), (['^', 'F', 'H'], .fieldHex), (['^', 'B', 'Y'], .barcodeDefaults),
  (['^', 'B', '3'], .code39), (['^', 'B', 'C'], .code128), (['^', 'B', 'E'], .ean13),
  (['^', 'B', 'Q'], .qrCode), (['^', 'B', 'X'], .dataMatrix), (['^', 'F', 'D'], .fieldData),
  (['^', 'G', 'B'], .graphicBox), (['^', 'G', 'F'], .graphicField), (['^', 'F', 'S'], .fieldSeparator),
  (['^', 'F', 'X'], .comment)]

/-- The kind of a command; `none` when the catalog does not know it. -/
def ofCommand? (command : List Char) : Option CommandKind :=
  (Catalog.find? command).map fun _ => (handled.lookup command).getD .unsupported

end CommandKind

end LabelPreview
