import LabelPreview.Command.Kind
import LabelPreview.Label.Directive

/-! # Building a label

A builder is the label made so far and the settings that wait for the next field. Every command works on it
in place.
-/

namespace LabelPreview

structure Builder where
  label : Label := {}
  /-- Where the next field goes; before the first move it is the home position. -/
  cursor : Option (Int × Int) := none
  fieldFont : Option Font := none
  block : Option TextBlock := none
  reverse : Bool := false
  hexEscape : Option Char := none
  barcode : Option Symbology := none

/-- Work on a builder. A refusal does not take back what was changed before it. -/
abbrev Edit := EStateM CommandError Builder

namespace Builder

open Directive

/-! ## Positions -/

def position (b : Builder) : Int × Int := b.cursor.getD b.label.home

/-- A coordinate counted from the home position, or the present one. -/
def moved (home now : Int) : Option Nat → Int
  | some n => home + n
  | none => now

def moveTo (params : Text) : Edit Unit := do
  match ← ofExcept (readOrigin params) with
  | some (x, y) =>
    modify fun b => { b with
      cursor := some (moved b.label.home.1 b.position.1 x, moved b.label.home.2 b.position.2 y) }
  | none => pure ()

def setHome (params : Text) : Edit Unit := do
  let (x, y) ← ofExcept (readHome params)
  modify fun b => { b with label := { b.label with home := (x, y) } }

/-! ## Settings -/

def setDefaultFont (params : Text) : Edit Unit := do
  let change ← ofExcept (readDefaultFont params)
  modify fun b =>
    { b with label := { b.label with defaultFont := change.applyTo b.label.defaultFont } }

/-- The font of one field starts from the default font. -/
def setFieldFont (params : Text) : Edit Unit := do
  let change ← ofExcept (readFieldFont params)
  modify fun b => { b with fieldFont := some (change.applyTo b.label.defaultFont) }

def setBarcodeDefaults (params : Text) : Edit Unit := do
  let defaults ← ofExcept (readBarcodeDefaults params)
  modify fun b => { b with label := { b.label with barcodeDefaults := some defaults } }

/-- Announces a barcode for the next data field. -/
def announce (read : Text → Except CommandError Symbology) (params : Text) : Edit Unit := do
  let symbology ← ofExcept (read params)
  modify fun b => { b with barcode := some symbology }

/-! ## Items -/

/-- Adds an item at the current position. Reverse video is for one item only. -/
def addItem (content : Content) : Edit Unit := do
  let reversed ← modifyGet fun b => (b.reverse, { b with reverse := false })
  modify fun b =>
    let item : Item := ⟨b.position.1, b.position.2, reversed, content⟩
    { b with label := { b.label with items := b.label.items ++ [item] } }

/-- Adds a barcode if one was announced, else a text. -/
def addField (data : Text) : Edit Unit := do
  let announced ← modifyGet fun b => (b.barcode, { b with barcode := none })
  let b ← get
  match announced with
  | some symbology => addItem (.barcode ⟨data, symbology, b.label.barcodeDefaults, b.hexEscape⟩)
  | none => addItem (.text ⟨data, b.fieldFont.getD b.label.defaultFont, b.block, b.hexEscape⟩)
  modify fun b => { b with hexEscape := none }

def addBox (params : Text) : Edit Unit := do
  let shape ← ofExcept (readBox params)
  addItem (.box shape)

def addGraphic (params : Text) : Edit Unit := do
  let bitmap ← ofExcept ((GraphicField.decode params).mapError .graphic)
  addItem (.graphic bitmap)

/-! ## All commands -/

/-- Carries a command out. -/
def handle : CommandKind → Text → Edit Unit
  | .fieldOrigin, params | .fieldTypeset, params => moveTo params
  | .labelHome, params => setHome params
  | .changeFont, params => setDefaultFont params
  | .font, params => setFieldFont params
  | .fieldBlock, params => modify fun b => { b with block := some (readBlock params) }
  | .fieldReverse, _ => modify fun b => { b with reverse := true }
  | .fieldHex, params => modify fun b => { b with hexEscape := some (params.headD defaultHexEscape) }
  | .barcodeDefaults, params => setBarcodeDefaults params
  | .code39, params => announce readCode39 params
  | .code128, params => announce readCode128 params
  | .ean13, params => announce readEan13 params
  | .qrCode, params => announce readQrCode params
  | .dataMatrix, params => announce readDataMatrix params
  | .fieldData, params => addField params
  | .graphicBox, params => addBox params
  | .graphicField, params => addGraphic params
  | .fieldSeparator, _ => modify fun b => { b with fieldFont := none, block := none }
  | .comment, _ => pure ()
  | .unsupported, _ => throw .notImplemented

/-- The builder after a command, or the reason for its refusal. -/
def apply (b : Builder) (kind : CommandKind) (params : Text) : Except CommandError Builder :=
  match (handle kind params).run b with
  | .ok _ next => .ok next
  | .error cause _ => .error cause

end Builder

end LabelPreview
