import LabelPreview.Proofs.Builder.Steps
import Mathlib.Data.List.Induction

/-!
# Fields and their history

A builder keeps the settings that wait for the next item. What they are, and so what the next item becomes, is
told here from the accepted steps alone, by the last step of a kind since the last one that ends its effect.
-/

namespace LabelPreview

/-! ## What a step is for -/

namespace Step

open Directive

def symbology? : Step → Option Symbology
  | ⟨.code39, params⟩ => (readCode39 params).toOption
  | ⟨.code128, params⟩ => (readCode128 params).toOption
  | ⟨.ean13, params⟩ => (readEan13 params).toOption
  | ⟨.qrCode, params⟩ => (readQrCode params).toOption
  | ⟨.dataMatrix, params⟩ => (readDataMatrix params).toOption
  | _ => none

def barcodeDefaults? : Step → Option BarcodeDefaults
  | ⟨.barcodeDefaults, params⟩ => (readBarcodeDefaults params).toOption
  | _ => none

def hexEscape? : Step → Option Char
  | ⟨.fieldHex, params⟩ => some (params.headD defaultHexEscape)
  | _ => none

def block? : Step → Option TextBlock
  | ⟨.fieldBlock, params⟩ => some (readBlock params)
  | _ => none

def changeDefaultFont (font : Font) : Step → Font
  | ⟨.changeFont, params⟩ => ((readDefaultFont params).toOption.getD {}).applyTo font
  | _ => font

/-- The font of one field that a step sets, starting from the default font. -/
def fieldFont? (font : Font) : Step → Option Font
  | ⟨.font, params⟩ => (readFieldFont params).toOption.map fun change => change.applyTo font
  | _ => none

def reverses (s : Step) : Bool := s.kind = .fieldReverse

def makesField (s : Step) : Bool := s.kind = .fieldData

def makesItem (s : Step) : Bool :=
  s.kind = .fieldData ∨ s.kind = .graphicBox ∨ s.kind = .graphicField

def endsField (s : Step) : Bool := s.kind = .fieldSeparator

end Step

/-! ## What the steps so far set -/

namespace History

/-- The steps after the last one that ends an effect, newest first. -/
def since {σ : Type} (ends : σ → Bool) (past : List σ) : List σ :=
  past.reverse.takeWhile fun s => !ends s

def barcode (past : List Step) : Option Symbology :=
  (since Step.makesField past).findSome? Step.symbology?

def hexEscape (past : List Step) : Option Char :=
  (since Step.makesField past).findSome? Step.hexEscape?

def reversed (past : List Step) : Bool := (since Step.makesItem past).any Step.reverses

def barcodeDefaults (past : List Step) : Option BarcodeDefaults :=
  past.reverse.findSome? Step.barcodeDefaults?

def block (past : List Step) : Option TextBlock := (since Step.endsField past).findSome? Step.block?

def defaultFont (past : List Step) : Font := past.foldl Step.changeDefaultFont {}

/-- Every step with the default font that it finds. -/
def withDefaultFont : Font → List Step → List (Font × Step)
  | _, [] => []
  | font, s :: rest => (font, s) :: withDefaultFont (s.changeDefaultFont font) rest

def fieldFont (past : List Step) : Option Font :=
  (since (fun (_, s) => s.endsField) (withDefaultFont {} past)).findSome? fun (font, s) =>
    s.fieldFont? font

/-- What data becomes: a barcode if one was announced, else a text. -/
def fieldContent (past : List Step) (data : Text) : Content :=
  match barcode past with
  | some symbology => .barcode ⟨data, symbology, barcodeDefaults past, hexEscape past⟩
  | none => .text ⟨data, (fieldFont past).getD (defaultFont past), block past, hexEscape past⟩

/-! ## One more step -/

@[simp]
theorem since_snoc {σ : Type} (ends : σ → Bool) (past : List σ) (s : σ) :
    since ends (past ++ [s]) = if ends s then [] else s :: since ends past := by
  cases h : ends s <;> simp [since, h]

theorem withDefaultFont_snoc (font : Font) (past : List Step) (s : Step) :
    withDefaultFont font (past ++ [s]) =
      withDefaultFont font past ++ [(past.foldl Step.changeDefaultFont font, s)] := by
  induction past generalizing font with
  | nil => rfl
  | cons t past ih => simp [withDefaultFont, ih]

@[simp]
theorem barcode_snoc (past : List Step) (s : Step) :
    barcode (past ++ [s]) = if s.makesField then none else s.symbology?.or (barcode past) := by
  cases h : s.makesField <;> cases hs : s.symbology? <;> simp [barcode, h, hs]

@[simp]
theorem hexEscape_snoc (past : List Step) (s : Step) :
    hexEscape (past ++ [s]) = if s.makesField then none else s.hexEscape?.or (hexEscape past) := by
  cases h : s.makesField <;> cases hs : s.hexEscape? <;> simp [hexEscape, h, hs]

@[simp]
theorem reversed_snoc (past : List Step) (s : Step) :
    reversed (past ++ [s]) = (!s.makesItem && (s.reverses || reversed past)) := by
  cases h : s.makesItem <;> simp [reversed, h]

@[simp]
theorem barcodeDefaults_snoc (past : List Step) (s : Step) :
    barcodeDefaults (past ++ [s]) = s.barcodeDefaults?.or (barcodeDefaults past) := by
  cases hs : s.barcodeDefaults? <;> simp [barcodeDefaults, hs]

@[simp]
theorem block_snoc (past : List Step) (s : Step) :
    block (past ++ [s]) = if s.endsField then none else s.block?.or (block past) := by
  cases h : s.endsField <;> cases hs : s.block? <;> simp [block, h, hs]

@[simp]
theorem defaultFont_snoc (past : List Step) (s : Step) :
    defaultFont (past ++ [s]) = s.changeDefaultFont (defaultFont past) := by
  simp [defaultFont]

@[simp]
theorem fieldFont_snoc (past : List Step) (s : Step) :
    fieldFont (past ++ [s]) =
      if s.endsField then none else (s.fieldFont? (defaultFont past)).or (fieldFont past) := by
  have found : withDefaultFont {} (past ++ [s]) = withDefaultFont {} past ++ [(defaultFont past, s)] :=
    withDefaultFont_snoc {} past s
  rw [fieldFont, found, since_snoc]
  cases h : s.endsField with
  | true => simp [h]
  | false => cases hs : s.fieldFont? (defaultFont past) <;> simp [h, hs, fieldFont]

end History

/-! ## The builder knows its history -/

namespace Builder

structure Follows (b : Builder) (past : List Step) : Prop where
  barcode : b.barcode = History.barcode past
  hexEscape : b.hexEscape = History.hexEscape past
  reverse : b.reverse = History.reversed past
  barcodeDefaults : b.label.barcodeDefaults = History.barcodeDefaults past
  block : b.block = History.block past
  defaultFont : b.label.defaultFont = History.defaultFont past
  fieldFont : b.fieldFont = History.fieldFont past

theorem follows_nil : Follows {} [] := ⟨rfl, rfl, rfl, rfl, rfl, rfl, rfl⟩

-- From here on every step has a known kind, so that these can be computed.
attribute [simp] Step.symbology? Step.barcodeDefaults? Step.hexEscape? Step.block? Step.changeDefaultFont
  Step.fieldFont? Step.reverses Step.makesField Step.makesItem Step.endsField

theorem Follows.snoc {b : Builder} {past : List Step} (hb : b.Follows past) {kind : CommandKind}
    {params : Text} {d : Directive} (h : Directive.read kind params = .ok d) :
    (b.perform d).Follows (past ++ [⟨kind, params⟩]) := by
  obtain ⟨hbarcode, hhex, hreverse, hdefaults, hblock, hdefault, hfont⟩ := hb
  cases kind with
  | fieldOrigin | fieldTypeset =>
    obtain ⟨move, -, rfl⟩ := Directive.map_eq_ok h
    cases move <;> constructor <;> simp [perform, Directive.ofOrigin, *]
  | labelHome | changeFont | font | barcodeDefaults | code39 | code128 | ean13 | qrCode | dataMatrix =>
    obtain ⟨value, hv, rfl⟩ := Directive.map_eq_ok h
    constructor <;> simp [perform, Except.toOption, *]
  | graphicBox | graphicField =>
    obtain ⟨value, hv, rfl⟩ := Directive.map_eq_ok h
    constructor <;> simp [perform, withItem, *]
  | fieldData | fieldBlock | fieldReverse | fieldHex | fieldSeparator | comment =>
    cases h
    constructor <;> simp [perform, withItem, *]
  | unsupported => cases h

theorem accepted_snoc_of_read {s : Step} {d : Directive}
    (h : Directive.read s.kind s.params = .ok d) (b : Builder) (ss : List Step) :
    b.accepted (ss ++ [s]) = b.accepted ss ++ [s] := by
  rw [accepted_append, accepted_cons_of_read h, accepted]

theorem accepted_snoc_of_refused {s : Step} {cause : CommandError}
    (h : Directive.read s.kind s.params = .error cause) (b : Builder) (ss : List Step) :
    b.accepted (ss ++ [s]) = b.accepted ss := by
  rw [accepted_append, accepted_cons_of_refused h, accepted, List.append_nil]

theorem steps_follows (ss : List Step) :
    (({} : Builder).steps ss).Follows (({} : Builder).accepted ss) := by
  induction ss using List.reverseRecOn with
  | nil => exact follows_nil
  | append_singleton ss s ih =>
    rw [steps_snoc]
    cases h : Directive.read s.kind s.params with
    | ok d =>
      rw [step_of_read h, accepted_snoc_of_read h]
      exact ih.snoc h
    | error cause =>
      rw [step_of_refused h, accepted_snoc_of_refused h]
      exact ih

/-! ## Items -/

theorem Follows.fieldContent {b : Builder} {past : List Step} (hb : b.Follows past) (data : Text) :
    b.fieldContent data = History.fieldContent past data := by
  unfold Builder.fieldContent History.fieldContent
  rw [hb.barcode]
  cases History.barcode past with
  | some symbology => simp only [hb.barcodeDefaults, hb.hexEscape]
  | none => simp only [hb.fieldFont, hb.defaultFont, hb.block, hb.hexEscape]

theorem Follows.item {b : Builder} {past : List Step} (hb : b.Follows past) (content : Content) :
    b.item content = ⟨b.position.1, b.position.2, History.reversed past, content⟩ := by
  rw [Builder.item, hb.reverse]

theorem items_perform (b : Builder) (d : Directive) :
    b.label.items <+: (b.perform d).label.items := by
  cases d with
  | fieldData | box | graphic => exact List.prefix_append _ _
  | _ => exact List.prefix_rfl

theorem items_steps (b : Builder) (ss : List Step) : b.label.items <+: (b.steps ss).label.items := by
  induction ss generalizing b with
  | nil => exact List.prefix_rfl
  | cons s ss ih =>
    refine List.IsPrefix.trans ?_ (ih (b.step s))
    exact step_induction (P := fun next => b.label.items <+: next.label.items) s List.prefix_rfl
      fun d _ => items_perform b d

theorem step_fieldData (b : Builder) (data : Text) :
    (b.step ⟨.fieldData, data⟩).label.items = b.label.items ++ [b.item (b.fieldContent data)] := by
  rw [step_of_read (d := .fieldData data) rfl]
  rfl

theorem step_drawing {b : Builder} {s : Step} (hs : s.kind = .graphicBox ∨ s.kind = .graphicField)
    (h : (b.answer s).1 = .ok ()) :
    ∃ content, (b.step s).label.items = b.label.items ++ [b.item content] := by
  rw [answer_eq] at h
  cases hr : Directive.read s.kind s.params with
  | error cause => rw [hr] at h; cases h
  | ok d =>
    rw [step_of_read hr]
    rcases hs with hk | hk
    · rw [hk] at hr
      obtain ⟨shape, -, rfl⟩ := Directive.map_eq_ok hr
      exact ⟨.box shape, rfl⟩
    · rw [hk] at hr
      obtain ⟨bitmap, -, rfl⟩ := Directive.map_eq_ok hr
      exact ⟨.graphic bitmap, rfl⟩

/-- A step after a run appends just this item, and later steps leave it in its place. -/
def Appends (before : List Step) (s : Step) (i : Item) : Prop :=
  (({} : Builder).steps (before ++ [s])).label.items =
      (({} : Builder).steps before).label.items ++ [i] ∧
    ∀ after, (({} : Builder).steps (before ++ [s])).label.items <+:
      (({} : Builder).steps (before ++ s :: after)).label.items

theorem appends_of_step {before : List Step} {s : Step} {i : Item}
    (h : ((({} : Builder).steps before).step s).label.items =
      (({} : Builder).steps before).label.items ++ [i]) : Appends before s i := by
  refine ⟨?_, fun after => ?_⟩
  · rw [steps_snoc, h]
  · rw [show before ++ s :: after = (before ++ [s]) ++ after by simp,
      steps_append {} (before ++ [s]) after]
    exact items_steps _ after

/-- What an item is, by the steps before it. A data field is a barcode or a text as its history says, with the
settings of that history. A drawing is reversed if its history says so. -/
theorem item_by_history (before : List Step) :
    let now := ({} : Builder).steps before
    let past := ({} : Builder).accepted before
    (∀ data, Appends before ⟨.fieldData, data⟩
      ⟨now.position.1, now.position.2, History.reversed past, History.fieldContent past data⟩) ∧
    ∀ s : Step, s.kind = .graphicBox ∨ s.kind = .graphicField → (now.answer s).1 = .ok () →
      ∃ content, Appends before s
        ⟨now.position.1, now.position.2, History.reversed past, content⟩ := by
  intro now past
  have known : now.Follows past := steps_follows before
  refine ⟨fun data => appends_of_step ?_, fun s hs accepted => ?_⟩
  · rw [step_fieldData, known.item, known.fieldContent]
  · obtain ⟨content, made⟩ := step_drawing hs accepted
    rw [known.item] at made
    exact ⟨content, appends_of_step made⟩

/-- Reverse video that a barcode has used up is not there for the box after it. -/
theorem item_by_history_box :
    ∃ content, Appends
      [⟨.fieldReverse, []⟩, ⟨.ean13, []⟩, ⟨.fieldData, ['7']⟩] ⟨.graphicBox, ['9', ',', '9']⟩
      ⟨0, 0, false, content⟩ :=
  (item_by_history [⟨.fieldReverse, []⟩, ⟨.ean13, []⟩, ⟨.fieldData, ['7']⟩]).2
    ⟨.graphicBox, ['9', ',', '9']⟩ (.inl rfl) rfl

end Builder

end LabelPreview
