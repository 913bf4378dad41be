import LabelPreview.Proofs.Builder.Steps
import Mathlib.Data.List.Induction

/-!
# Ranges

Every number that a builder holds lies in the range of a printer, whatever was given to it. Readers reject a
number out of range, bring it into range or take it as absent; here all of them come to one condition on
directives, which carrying out keeps.
-/

namespace LabelPreview

/-! ## What is in range -/

/-- A size that is not set, or lies between two limits. -/
def Between (low high : Nat) (size : Option Nat) : Prop := ∀ n ∈ size, low ≤ n ∧ n ≤ high

/-- Both coordinates lie between 0 and a limit. -/
def UpTo (limit : Int) (p : Int × Int) : Prop :=
  (0 ≤ p.1 ∧ p.1 ≤ limit) ∧ 0 ≤ p.2 ∧ p.2 ≤ limit

instance (limit : Int) (p : Int × Int) : Decidable (UpTo limit p) :=
  inferInstanceAs (Decidable (_ ∧ _))

structure Font.InRange (f : Font) : Prop where
  name : f.name ≠ []
  height : Between 10 32000 f.height
  width : Between 10 32000 f.width

structure TextBlock.InRange (t : TextBlock) : Prop where
  width : t.width ≤ 32000
  maxLines : 1 ≤ t.maxLines ∧ t.maxLines ≤ 9999
  lineSpacing : -9999 ≤ t.lineSpacing ∧ t.lineSpacing ≤ 9999
  hangingIndent : t.hangingIndent ≤ 9999

structure BarcodeDefaults.InRange (d : BarcodeDefaults) : Prop where
  moduleWidth : 1 ≤ d.moduleWidth ∧ d.moduleWidth ≤ 10
  height : 1 ≤ d.height

def Symbology.InRange : Symbology → Prop
  | .code39 bars _ | .code128 bars _ _ | .ean13 bars => Between 1 32000 bars.height
  | .qrCode _ model magnification => (model = 1 ∨ model = 2) ∧ Between 1 10 magnification
  | .dataMatrix _ moduleSize => Between 1 32000 moduleSize

structure Box.InRange (s : Box) : Prop where
  width : Between 1 32000 s.width
  height : Between 1 32000 s.height
  thickness : Between 1 32000 s.thickness
  roundedness : s.roundedness ≤ 8

def Content.InRange : Content → Prop
  | .text f => f.font.InRange ∧ ∀ t ∈ f.block, t.InRange
  | .barcode f => f.symbology.InRange ∧ ∀ d ∈ f.defaults, d.InRange
  | .box shape => shape.InRange
  | .graphic _ => True

structure Item.InRange (i : Item) : Prop where
  position : UpTo 64000 (i.x, i.y)
  content : i.content.InRange

structure Label.InRange (l : Label) : Prop where
  home : UpTo 32000 l.home
  defaultFont : l.defaultFont.InRange
  /-- Only the font of a single field can be turned. -/
  upright : l.defaultFont.orientation = .normal
  barcodeDefaults : ∀ d ∈ l.barcodeDefaults, d.InRange
  items : ∀ i ∈ l.items, i.InRange

structure Builder.InRange (b : Builder) : Prop where
  label : b.label.InRange
  cursor : ∀ p ∈ b.cursor, UpTo 64000 p
  fieldFont : ∀ f ∈ b.fieldFont, f.InRange
  block : ∀ t ∈ b.block, t.InRange
  barcode : ∀ s ∈ b.barcode, s.InRange

structure FontChange.InRange (c : FontChange) : Prop where
  name : ∀ n ∈ c.name, n ≠ []
  height : ∀ size ∈ c.height, Between 10 32000 size
  width : ∀ size ∈ c.width, Between 10 32000 size

def Directive.InRange : Directive → Prop
  | .moveTo x y => Between 0 32000 x ∧ Between 0 32000 y
  | .home x y => x ≤ 32000 ∧ y ≤ 32000
  | .defaultFont change => change.InRange ∧ change.orientation = none
  | .fieldFont change => change.InRange
  | .block format => format.InRange
  | .barcodeDefaults defaults => defaults.InRange
  | .barcode symbology => symbology.InRange
  | .box shape => shape.InRange
  | .pass | .reverse | .hexEscape _ | .fieldData _ | .graphic _ | .endField => True

theorem between_none (low high : Nat) : Between low high none := by simp [Between]

theorem between_some {low high n : Nat} (h : low ≤ n ∧ n ≤ high) : Between low high (some n) := by
  simpa [Between] using h

/-! ## Readings -/

/-- Every value that a reading gives has the property. -/
def Yields {ε α : Type} (r : Except ε α) (P : α → Prop) : Prop := ∀ a, r = .ok a → P a

theorem yields_ok {ε α : Type} {P : α → Prop} {a : α} (h : P a) : Yields (.ok a : Except ε α) P := by
  intro b hb
  cases hb
  exact h

theorem yields_error {ε α : Type} {P : α → Prop} (e : ε) : Yields (.error e : Except ε α) P := by
  intro b hb
  cases hb

theorem yields_any {ε α : Type} (r : Except ε α) : Yields r fun _ => True := fun _ _ => trivial

theorem Yields.bind {ε α β : Type} {r : Except ε α} {f : α → Except ε β} {P : α → Prop} {Q : β → Prop}
    (hr : Yields r P) (hf : ∀ a, P a → Yields (f a) Q) : Yields (r >>= f) Q := by
  cases r with
  | error e => exact yields_error e
  | ok a => exact hf a (hr a rfl)

theorem Yields.map {ε α β : Type} {r : Except ε α} {f : α → β} {P : α → Prop} {Q : β → Prop}
    (hr : Yields r P) (hf : ∀ a, P a → Q (f a)) : Yields (r.map f) Q := by
  cases r with
  | error e => exact yields_error e
  | ok a => exact yields_ok (hf a (hr a rfl))

namespace Directive

theorem yields_readFilled {α : Type} {P : α → Prop} (fields : List Text) (index : Nat) {unset : α}
    {read : Text → Except CommandError α} (hu : P unset) (hr : ∀ f, Yields (read f) P) :
    Yields (readFilled fields index unset read) P := by
  unfold readFilled
  split
  · exact hr _
  · exact yields_ok hu

/-! ## Numbers -/

theorem yields_within (low high : Nat) (e : CommandError) (field : Text) :
    Yields (within low high e field) fun n => low ≤ n ∧ n ≤ high := by
  unfold within
  split
  · split
    · exact yields_ok (by omega)
    · exact yields_error e
  · exact yields_error e

theorem yields_number (fields : List Text) (index low high unset : Nat) (e : CommandError)
    (h : low ≤ unset ∧ unset ≤ high) :
    Yields (readFilled fields index unset (within low high e)) fun n => low ≤ n ∧ n ≤ high :=
  yields_readFilled fields index h fun f => yields_within low high e f

theorem yields_size (fields : List Text) (index low high : Nat) (e : CommandError) :
    Yields (readFilled fields index none fun f => (within low high e f).map some)
      (Between low high) :=
  yields_readFilled fields index (between_none low high) fun f =>
    (yields_within low high e f).map fun _ h => between_some h

theorem clamped_range {low high unset : Int} (hl : low ≤ unset) (hh : unset ≤ high)
    (field : Option Text) :
    low ≤ (clamped? low high field).getD unset ∧ (clamped? low high field).getD unset ≤ high := by
  unfold clamped?
  cases field.bind Text.leadingInt? with
  | none => exact ⟨hl, hh⟩
  | some n =>
    simp only [Option.map_some, Option.getD_some]
    omega

theorem yields_coordinate (field : Text) : Yields (coordinate field) (Between 0 32000) := by
  unfold coordinate
  split
  · exact yields_ok (between_none _ _)
  · split
    · exact yields_ok (between_some (by omega))
    · exact yields_error _

theorem yields_fontSize (field : Option Text) : Yields (fontSize field) (Between 10 32000) := by
  unfold fontSize
  split
  · exact yields_ok (between_none _ _)
  · split_ifs
    · exact yields_ok (between_none _ _)
    · exact yields_ok (between_some (by omega))
    · exact yields_error _

theorem yields_changedSize (field : Option Text) :
    Yields (changedSize field) fun change => ∀ size ∈ change, Between 10 32000 size := by
  unfold changedSize
  split_ifs
  · exact (yields_fontSize field).map fun size h => by simpa using h
  · exact yields_ok (by simp)

theorem filled_ne_nil {fields : List Text} {index : Nat} {field : Text}
    (h : filled? fields index = some field) : field ≠ [] := by
  rw [filled?, Option.filter_eq_some_iff] at h
  rintro rfl
  simp at h

/-! ## Parameters -/

theorem yields_readOrigin (params : Text) :
    Yields (readOrigin params) fun move => (ofOrigin move).InRange := by
  unfold readOrigin
  split
  · refine (yields_coordinate _).bind fun x hx => ?_
    refine (yields_coordinate _).bind fun y hy => ?_
    exact yields_ok ⟨hx, hy⟩
  · exact yields_ok trivial

theorem yields_readHome (params : Text) :
    Yields (readHome params) fun p => p.1 ≤ 32000 ∧ p.2 ≤ 32000 := by
  unfold readHome
  split
  · refine (yields_within 0 32000 _ _).bind fun x hx => ?_
    refine (yields_within 0 32000 _ _).bind fun y hy => ?_
    exact yields_ok ⟨hx.2, hy.2⟩
  · exact yields_error _

theorem yields_readDefaultFont (params : Text) :
    Yields (readDefaultFont params) fun change => change.InRange ∧ change.orientation = none := by
  refine (yields_fontSize _).bind fun height hh => ?_
  refine (yields_fontSize _).bind fun width hw => ?_
  refine yields_ok ⟨⟨fun name hn => filled_ne_nil hn, ?_, ?_⟩, rfl⟩
  · simpa using hh
  · simpa using hw

theorem yields_readFieldFont (params : Text) : Yields (readFieldFont params) FontChange.InRange := by
  refine (yields_any _).bind fun orientation _ => ?_
  refine (yields_changedSize _).bind fun height hh => ?_
  refine (yields_changedSize _).bind fun width hw => ?_
  refine yields_ok ⟨fun name hn => ?_, hh, hw⟩
  obtain ⟨c, -, rfl⟩ := Option.map_eq_some_iff.mp hn
  exact List.cons_ne_nil _ _

theorem readBlock_inRange (params : Text) : (readBlock params).InRange := by
  have width := clamped_range (by decide : (0 : Int) ≤ 0) (by decide : (0 : Int) ≤ 32000)
    (fields params)[0]?
  have lines := clamped_range (by decide : (1 : Int) ≤ 1) (by decide : (1 : Int) ≤ 9999)
    (fields params)[1]?
  have spacing := clamped_range (by decide : (-9999 : Int) ≤ 0) (by decide : (0 : Int) ≤ 9999)
    (fields params)[2]?
  have indent := clamped_range (by decide : (0 : Int) ≤ 0) (by decide : (0 : Int) ≤ 9999)
    (fields params)[4]?
  constructor
  · simp only [readBlock]; omega
  · simp only [readBlock]; omega
  · exact spacing
  · simp only [readBlock]; omega

theorem yields_readBars (fields : List Text) (height caption above : Nat) :
    Yields (readBars fields height caption above) fun bars => Between 1 32000 bars.height := by
  refine (yields_any _).bind fun orientation _ => ?_
  refine (yields_size _ _ 1 32000 _).bind fun size hs => ?_
  refine (yields_any _).bind fun caption _ => ?_
  refine (yields_any _).bind fun captionAbove _ => ?_
  exact yields_ok hs

theorem yields_readCode39 (params : Text) : Yields (readCode39 params) Symbology.InRange := by
  refine (yields_readBars _ _ _ _).bind fun bars hb => ?_
  refine (yields_any _).bind fun checkDigit _ => ?_
  exact yields_ok hb

theorem yields_readCode128 (params : Text) : Yields (readCode128 params) Symbology.InRange := by
  refine (yields_readBars _ _ _ _).bind fun bars hb => ?_
  refine (yields_any _).bind fun checkDigit _ => ?_
  refine (yields_any _).bind fun mode _ => ?_
  exact yields_ok hb

theorem yields_readEan13 (params : Text) : Yields (readEan13 params) Symbology.InRange :=
  (yields_readBars _ _ _ _).map fun _ hb => hb

theorem yields_readQrCode (params : Text) : Yields (readQrCode params) Symbology.InRange := by
  refine (yields_any _).bind fun orientation _ => ?_
  refine (yields_number _ _ 1 2 2 _ (by decide)).bind fun model hm => ?_
  refine (yields_size _ _ 1 10 _).bind fun magnification hf => ?_
  exact yields_ok ⟨by omega, hf⟩

theorem yields_readDataMatrix (params : Text) : Yields (readDataMatrix params) Symbology.InRange := by
  refine (yields_any _).bind fun orientation _ => ?_
  refine (yields_size _ _ 1 32000 _).bind fun moduleSize hs => ?_
  exact yields_ok hs

theorem yields_defaultBarHeight (field : Text) : Yields (defaultBarHeight field) fun n => 1 ≤ n := by
  unfold defaultBarHeight
  split
  · split_ifs
    · exact yields_ok (by omega)
    · exact yields_error _
  · exact yields_error _

theorem yields_readBarcodeDefaults (params : Text) :
    Yields (readBarcodeDefaults params) BarcodeDefaults.InRange := by
  refine (yields_number _ _ 1 10 2 _ (by decide)).bind fun moduleWidth hm => ?_
  refine (yields_any _).bind fun ratio _ => ?_
  have hsize := yields_readFilled (fields params) 2 (Nat.le_add_left 1 9) yields_defaultBarHeight
  refine hsize.bind fun height hh => ?_
  exact yields_ok ⟨hm, hh⟩

theorem yields_readBox (params : Text) : Yields (readBox params) Box.InRange := by
  refine (yields_size _ _ 1 32000 _).bind fun width hw => ?_
  refine (yields_size _ _ 1 32000 _).bind fun height hh => ?_
  refine (yields_size _ _ 1 32000 _).bind fun thickness ht => ?_
  refine (yields_any _).bind fun color _ => ?_
  refine (yields_number _ _ 0 8 0 _ (by decide)).bind fun roundedness hr => ?_
  exact yields_ok ⟨hw, hh, ht, hr.2⟩

theorem yields_read (kind : CommandKind) (params : Text) : Yields (read kind params) InRange := by
  cases kind with
  | fieldOrigin | fieldTypeset => exact (yields_readOrigin params).map fun _ h => h
  | labelHome => exact (yields_readHome params).map fun _ h => h
  | changeFont => exact (yields_readDefaultFont params).map fun _ h => h
  | font => exact (yields_readFieldFont params).map fun _ h => h
  | fieldBlock => exact yields_ok (readBlock_inRange params)
  | barcodeDefaults => exact (yields_readBarcodeDefaults params).map fun _ h => h
  | code39 => exact (yields_readCode39 params).map fun _ h => h
  | code128 => exact (yields_readCode128 params).map fun _ h => h
  | ean13 => exact (yields_readEan13 params).map fun _ h => h
  | qrCode => exact (yields_readQrCode params).map fun _ h => h
  | dataMatrix => exact (yields_readDataMatrix params).map fun _ h => h
  | graphicBox => exact (yields_readBox params).map fun _ h => h
  | graphicField => exact (yields_any _).map fun _ _ => trivial
  | fieldReverse | fieldHex | fieldData | fieldSeparator | comment => exact yields_ok trivial
  | unsupported => exact yields_error _

end Directive

/-! ## Carrying out -/

theorem FontChange.applyTo_inRange {c : FontChange} {f : Font} (hc : c.InRange) (hf : f.InRange) :
    (c.applyTo f).InRange := by
  constructor
  · cases h : c.name with
    | none => simpa [applyTo, h] using hf.name
    | some name => simpa [applyTo, h] using hc.name name h
  · cases h : c.height with
    | none => simpa [applyTo, h] using hf.height
    | some size => simpa [applyTo, h] using hc.height size h
  · cases h : c.width with
    | none => simpa [applyTo, h] using hf.width
    | some size => simpa [applyTo, h] using hc.width size h

namespace Builder

theorem moved_range {home now : Int} {n : Option Nat} (hh : 0 ≤ home ∧ home ≤ 32000)
    (hp : 0 ≤ now ∧ now ≤ 64000) (hn : Between 0 32000 n) :
    0 ≤ moved home now n ∧ moved home now n ≤ 64000 := by
  cases n with
  | none => exact hp
  | some n =>
    have := hn n rfl
    simp only [moved]
    omega

theorem InRange.position {b : Builder} (hb : b.InRange) : UpTo 64000 b.position := by
  rw [Builder.position]
  cases h : b.cursor with
  | some p => exact hb.cursor p h
  | none =>
    -- Before the first move, a field sits at the home position.
    have home := hb.label.home
    simp only [UpTo, Option.getD_none] at home ⊢
    omega

theorem InRange.moveTo {b : Builder} (hb : b.InRange) {x y : Option Nat} (hx : Between 0 32000 x)
    (hy : Between 0 32000 y) : (b.perform (.moveTo x y)).InRange where
  label := hb.label
  cursor := by
    rintro p ⟨⟩
    exact ⟨moved_range hb.label.home.1 hb.position.1 hx, moved_range hb.label.home.2 hb.position.2 hy⟩
  fieldFont := hb.fieldFont
  block := hb.block
  barcode := hb.barcode

theorem InRange.withItem {b : Builder} (hb : b.InRange) {content : Content} (hc : content.InRange) :
    (b.withItem content).InRange where
  label := {
    home := hb.label.home
    defaultFont := hb.label.defaultFont
    upright := hb.label.upright
    barcodeDefaults := hb.label.barcodeDefaults
    items := by
      intro i hi
      rcases List.mem_append.mp hi with hi | hi
      · exact hb.label.items i hi
      · rw [List.mem_singleton.mp hi]
        exact ⟨hb.position, hc⟩ }
  cursor := hb.cursor
  fieldFont := hb.fieldFont
  block := hb.block
  barcode := hb.barcode

theorem InRange.fieldContent {b : Builder} (hb : b.InRange) (data : Text) :
    (b.fieldContent data).InRange := by
  unfold Builder.fieldContent
  split
  · exact ⟨hb.barcode _ ‹_›, hb.label.barcodeDefaults⟩
  · refine ⟨?_, hb.block⟩
    cases h : b.fieldFont with
    | none => exact hb.label.defaultFont
    | some font => exact hb.fieldFont font h

theorem perform_inRange {b : Builder} {d : Directive} (hb : b.InRange) (hd : d.InRange) :
    (b.perform d).InRange := by
  cases d with
  | pass | reverse | hexEscape => exact { hb with }
  | moveTo x y => exact hb.moveTo hd.1 hd.2
  | home x y =>
    obtain ⟨hx, hy⟩ := hd
    have home : UpTo 32000 ((x : Int), (y : Int)) := by simp only [UpTo]; omega
    exact { hb with label := { hb.label with home } }
  | defaultFont change =>
    obtain ⟨hc, turn⟩ := hd
    have font := change.applyTo_inRange hc hb.label.defaultFont
    have upright : (change.applyTo b.label.defaultFont).orientation = .normal := by
      simp [FontChange.applyTo, turn, hb.label.upright]
    exact { hb with label := { hb.label with defaultFont := font, upright } }
  | fieldFont change =>
    refine { hb with fieldFont := ?_ }
    rintro f ⟨⟩
    exact change.applyTo_inRange hd hb.label.defaultFont
  | block format =>
    refine { hb with block := ?_ }
    rintro t ⟨⟩
    exact hd
  | barcodeDefaults defaults =>
    refine { hb with label := { hb.label with barcodeDefaults := ?_ } }
    rintro d ⟨⟩
    exact hd
  | barcode symbology =>
    refine { hb with barcode := ?_ }
    rintro s ⟨⟩
    exact hd
  | fieldData data => exact { hb.withItem (hb.fieldContent data) with barcode := nofun }
  | box shape => exact hb.withItem hd
  | graphic bitmap => exact hb.withItem trivial
  | endField => exact { hb with fieldFont := nofun, block := nofun }

theorem step_inRange {b : Builder} (hb : b.InRange) (s : Step) : (b.step s).InRange :=
  step_induction s hb fun d hd => perform_inRange hb (Directive.yields_read s.kind s.params d hd)

theorem empty_inRange : ({} : Builder).InRange where
  label := {
    home := by decide
    defaultFont := ⟨List.cons_ne_nil _ _, between_none _ _, between_none _ _⟩
    upright := rfl
    barcodeDefaults := nofun
    items := by simp }
  cursor := nofun
  fieldFont := nofun
  block := nofun
  barcode := nofun

/-- Whatever is given to a new builder, all that it holds stays in range. A coordinate that is read next can
be counted from the home position, too, without leaving the range. -/
theorem steps_inRange (ss : List Step) :
    (({} : Builder).steps ss).InRange ∧
    ∀ (field : Text) (n : Nat), Directive.coordinate field = .ok (some n) →
      UpTo 64000 ((({} : Builder).steps ss).label.home.1 + n, (({} : Builder).steps ss).label.home.2 + n) := by
  have range : (({} : Builder).steps ss).InRange := by
    induction ss using List.reverseRecOn with
    | nil => exact empty_inRange
    | append_singleton ss s ih =>
      rw [steps_snoc]
      exact step_inRange ih s
  refine ⟨range, fun field n h => ?_⟩
  have hn := Directive.yields_coordinate field _ h n rfl
  have home := range.label.home
  simp only [UpTo] at home ⊢
  omega

/-- The last coordinate that is read, counted from the last home position that is read, is still in range. -/
theorem steps_inRange_edge :
    Directive.coordinate "32000".toList = .ok (some 32000) ∧
    (({} : Builder).steps [⟨.labelHome, "32000,32000".toList⟩]).label.home = (32000, 32000) ∧
    UpTo 64000 (32000 + 32000, 32000 + 32000) := by
  have edge : Directive.coordinate "32000".toList = .ok (some 32000) := rfl
  have home : (({} : Builder).steps [⟨.labelHome, "32000,32000".toList⟩]).label.home = (32000, 32000) := rfl
  have range := (steps_inRange [⟨.labelHome, "32000,32000".toList⟩]).2 _ _ edge
  rw [home] at range
  exact ⟨edge, home, range⟩

end Builder

end LabelPreview
