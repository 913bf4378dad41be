import LabelPreview.Label.Builder

/-!
# What a command does to a builder

A command is read into a directive, which can fail and does not look at the builder. Carrying a directive out
can not fail. `run_handle` shows that working in place comes to the same, so that later proofs split on
directives and not on commands.
-/

namespace LabelPreview

inductive Directive where
  /-- No effect. -/
  | pass
  /-- Moves the next field; a missing coordinate stays as it is. -/
  | moveTo (x y : Option Nat)
  | home (x y : Nat)
  | defaultFont (change : FontChange)
  | fieldFont (change : FontChange)
  | block (format : TextBlock)
  | reverse
  | hexEscape (c : Char)
  | barcodeDefaults (defaults : BarcodeDefaults)
  | barcode (symbology : Symbology)
  | fieldData (data : Text)
  | box (shape : Box)
  | graphic (bitmap : Bitmap)
  | endField

namespace Directive

def ofOrigin : Option (Option Nat × Option Nat) → Directive
  | some (x, y) => .moveTo x y
  | none => .pass

/-- The directive of a command with its parameters. -/
def read : CommandKind → Text → Except CommandError Directive
  | .fieldOrigin, params | .fieldTypeset, params => (readOrigin params).map ofOrigin
  | .labelHome, params => (readHome params).map fun (x, y) => .home x y
  | .changeFont, params => (readDefaultFont params).map .defaultFont
  | .font, params => (readFieldFont params).map .fieldFont
  | .fieldBlock, params => .ok (.block (readBlock params))
  | .fieldReverse, _ => .ok .reverse
  | .fieldHex, params => .ok (.hexEscape (params.headD defaultHexEscape))
  | .barcodeDefaults, params => (readBarcodeDefaults params).map .barcodeDefaults
  | .code39, params => (readCode39 params).map .barcode
  | .code128, params => (readCode128 params).map .barcode
  | .ean13, params => (readEan13 params).map .barcode
  | .qrCode, params => (readQrCode params).map .barcode
  | .dataMatrix, params => (readDataMatrix params).map .barcode
  | .fieldData, params => .ok (.fieldData params)
  | .graphicBox, params => (readBox params).map .box
  | .graphicField, params => ((GraphicField.decode params).mapError .graphic).map .graphic
  | .fieldSeparator, _ => .ok .endField
  | .comment, _ => .ok .pass
  | .unsupported, _ => .error .notImplemented

theorem map_eq_ok {ε α β : Type} {r : Except ε α} {f : α → β} {b : β} (h : r.map f = .ok b) :
    ∃ a, r = .ok a ∧ f a = b := by
  cases r with
  | error e => cases h
  | ok a => cases h; exact ⟨a, rfl, rfl⟩

end Directive

namespace Builder

/-! ## Carrying a directive out -/

def item (b : Builder) (content : Content) : Item := ⟨b.position.1, b.position.2, b.reverse, content⟩

def withItem (b : Builder) (content : Content) : Builder :=
  { b with label := { b.label with items := b.label.items ++ [b.item content] }, reverse := false }

def fieldContent (b : Builder) (data : Text) : Content :=
  match b.barcode with
  | some symbology => .barcode ⟨data, symbology, b.label.barcodeDefaults, b.hexEscape⟩
  | none => .text ⟨data, b.fieldFont.getD b.label.defaultFont, b.block, b.hexEscape⟩

def perform (b : Builder) : Directive → Builder
  | .pass => b
  | .moveTo x y =>
    { b with cursor := some (moved b.label.home.1 b.position.1 x, moved b.label.home.2 b.position.2 y) }
  | .home x y => { b with label := { b.label with home := (x, y) } }
  | .defaultFont change =>
    { b with label := { b.label with defaultFont := change.applyTo b.label.defaultFont } }
  | .fieldFont change => { b with fieldFont := some (change.applyTo b.label.defaultFont) }
  | .block format => { b with block := some format }
  | .reverse => { b with reverse := true }
  | .hexEscape c => { b with hexEscape := some c }
  | .barcodeDefaults defaults =>
    { b with label := { b.label with barcodeDefaults := some defaults } }
  | .barcode symbology => { b with barcode := some symbology }
  | .fieldData data => { b.withItem (b.fieldContent data) with hexEscape := none, barcode := none }
  | .box shape => b.withItem (.box shape)
  | .graphic bitmap => b.withItem (.graphic bitmap)
  | .endField => { b with fieldFont := none, block := none }

/-! ## Working in place -/

/-- The result of carrying a directive out, if there is one. -/
def outcome (b : Builder) :
    Except CommandError Directive → EStateM.Result CommandError Builder Unit
  | .ok d => .ok () (b.perform d)
  | .error cause => .error cause b

theorem run_reading {α : Type} (r : Except CommandError α) (write : α → Edit Unit) (d : α → Directive)
    (b : Builder) (h : ∀ a, (write a).run b = .ok () (b.perform (d a))) :
    (ofExcept r >>= write : Edit Unit).run b = b.outcome (r.map d) := by
  cases r with
  | error cause => rfl
  | ok a => exact h a

theorem run_addItem (content : Content) (b : Builder) :
    (addItem content).run b = .ok () (b.withItem content) := rfl

theorem run_addField (data : Text) (b : Builder) :
    (addField data).run b = .ok () (b.perform (.fieldData data)) := by
  rcases b with ⟨label, cursor, fieldFont, block, reverse, hexEscape, _ | symbology⟩ <;> rfl

/-- Carrying a command out in place comes to reading it first; a refused command leaves the builder as it
was. -/
theorem run_handle (kind : CommandKind) (params : Text) (b : Builder) :
    (handle kind params).run b = b.outcome (Directive.read kind params) := by
  cases kind with
  | fieldOrigin | fieldTypeset =>
    refine run_reading (Directive.readOrigin params) _ _ b fun move => ?_
    cases move <;> rfl
  | labelHome => exact run_reading (Directive.readHome params) _ _ b fun _ => rfl
  | changeFont => exact run_reading (Directive.readDefaultFont params) _ _ b fun _ => rfl
  | font => exact run_reading (Directive.readFieldFont params) _ _ b fun _ => rfl
  | barcodeDefaults => exact run_reading (Directive.readBarcodeDefaults params) _ _ b fun _ => rfl
  | code39 => exact run_reading (Directive.readCode39 params) _ _ b fun _ => rfl
  | code128 => exact run_reading (Directive.readCode128 params) _ _ b fun _ => rfl
  | ean13 => exact run_reading (Directive.readEan13 params) _ _ b fun _ => rfl
  | qrCode => exact run_reading (Directive.readQrCode params) _ _ b fun _ => rfl
  | dataMatrix => exact run_reading (Directive.readDataMatrix params) _ _ b fun _ => rfl
  | graphicBox => exact run_reading (Directive.readBox params) _ _ b fun shape => run_addItem _ b
  | graphicField =>
    exact run_reading ((GraphicField.decode params).mapError .graphic) _ _ b fun _ => run_addItem _ b
  | fieldData => exact run_addField params b
  | fieldBlock | fieldReverse | fieldHex | fieldSeparator | comment | unsupported => rfl

end Builder

end LabelPreview
