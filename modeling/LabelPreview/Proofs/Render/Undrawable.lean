import LabelPreview.Proofs.Format.Account
import LabelPreview.Proofs.Graphic.Sizes
import LabelPreview.Proofs.Render.Sound

/-!
# Items that can not be drawn

The items of a label that was read have sides and bitmaps that fit together. So of all the steps in drawing them only
two can be refused: a barcode may have no symbol, and a graphic may have no rows. Such an item is replaced by its
excuse; all texts and boxes are drawn.
-/

namespace LabelPreview

/-! ## Items of a label that was read -/

/-- Rows of whole bytes, and a pixel for every place. -/
structure Bitmap.Whole (b : Bitmap) : Prop where
  wide : 8 ≤ b.width
  filled : b.pixels.length = b.width * b.height

theorem GraphicField.whole_of_decode {params : Text} {bitmap : Bitmap} (h : decode params = .ok bitmap) :
    bitmap.Whole := by
  obtain ⟨header, bytes, taken, enough, rfl⟩ := decode_eq_ok h
  obtain ⟨total, data, sized⟩ := sized_of_readHeader taken
  have positive := sized.positive
  refine ⟨?_, Bitmap.length_pixels_ofBytes enough⟩
  show 8 ≤ 8 * header.rowBytes
  omega

theorem Directive.decode_of_read {kind : CommandKind} {params : Text} {bitmap : Bitmap}
    (h : read kind params = .ok (.graphic bitmap)) : GraphicField.decode params = .ok bitmap := by
  cases kind with
  | graphicField =>
    rw [read] at h
    cases decoded : GraphicField.decode params with
    | error cause =>
      rw [decoded] at h
      cases h
    | ok b =>
      rw [decoded] at h
      cases h
      rfl
  | fieldOrigin | fieldTypeset =>
    obtain ⟨_ | move, -, made⟩ := map_eq_ok h
    · cases made
    · cases made
  | fieldData | fieldBlock | fieldReverse | fieldHex | fieldSeparator | comment | unsupported => cases h
  | _ =>
    obtain ⟨_, -, made⟩ := map_eq_ok h
    cases made

theorem Token.read_of_directive? {t : Token} {d : Directive} (h : t.directive? = some d) :
    ∃ kind params, Directive.read kind params = .ok d := by
  unfold directive? at h
  rw [read_eq] at h
  split_ifs at h
  · cases taken : Directive.read t.step.kind t.step.params with
    | error cause =>
      rw [taken] at h
      cases h
    | ok e =>
      rw [taken] at h
      cases h
      exact ⟨_, _, taken⟩
  · cases h

namespace Format

theorem made_inRange (s : Text) : (made s).InRange := by
  refine List.foldlRecOn _ _ Builder.empty_inRange fun b range d there => ?_
  obtain ⟨t, -, directive⟩ := List.mem_filterMap.mp there
  obtain ⟨kind, params, taken⟩ := Token.read_of_directive? directive
  exact Builder.perform_inRange range (Directive.yields_read kind params d taken)

theorem whole_of_made {s : Text} {i : Item} (there : i ∈ (made s).label.items) {bitmap : Bitmap}
    (graphic : i.content = .graphic bitmap) : bitmap.Whole := by
  rw [made_items, List.mem_filterMap] at there
  obtain ⟨⟨b, t⟩, -, item⟩ := there
  obtain ⟨d, directive, item⟩ := Option.bind_eq_some_iff.mp item
  obtain ⟨kind, params, taken⟩ := Token.read_of_directive? directive
  cases d with
  | graphic other =>
    cases item
    cases graphic
    exact GraphicField.whole_of_decode (Directive.decode_of_read taken)
  | fieldData data =>
    cases item
    simp only [Builder.item, Builder.fieldContent] at graphic
    split at graphic <;> cases graphic
  | box shape =>
    cases item
    cases graphic
  | _ => cases item

theorem exists_made {f : Format} {label : Label} (h : f.read.2.label = some label) :
    ∃ s, label = (made s).label := by
  cases hb : body f.source with
  | error complaint =>
    rw [(read_of_body_error hb).2] at h
    cases h
  | ok s =>
    refine ⟨s, ?_⟩
    simp only [read] at h
    rw [readSource_eq hb] at h
    split_ifs at h
    exact (Option.some.inj h).symm

end Format

/-! ## What is refused -/

/-- A barcode without a symbol, and a graphic without rows. -/
def Content.Undrawable : Content → Prop
  | .text _ | .box _ => False
  | .barcode field => field.symbology.symbol? field.payload = none
  | .graphic bitmap => bitmap.height = 0

theorem Bitmap.Whole.isSound_iff {b : Bitmap} (h : b.Whole) : (Image.ofBitmap b).isSound = true ↔ b.height ≠ 0 := by
  have wide := h.wide
  have width : b.width ≠ 0 := by omega
  simp [Image.isSound, Image.ofBitmap, h.filled, width]

namespace Item

variable {i : Item}

theorem draw_eq_error_iff (range : i.InRange) (whole : ∀ bitmap, i.content = .graphic bitmap → bitmap.Whole)
    (label : Label) (s : Setup) (c : Canvas) :
    (∃ cause, i.draw label s c = .error cause) ↔ i.content.Undrawable := by
  obtain ⟨x, y, reversed, content⟩ := i
  unfold draw Content.Undrawable
  cases content with
  | text field => simp
  | barcode field =>
    simp only [BarcodeField.draw]
    cases found : field.symbology.symbol? field.payload with
    | none => simp
    | some symbol =>
      simp only [(Symbology.proper_of_symbol found).draw_eq]
      simp [bind, Except.bind, pure, Except.pure]
  | box shape =>
    have sides := range.content
    simp only [Box.draw]
    split
    · rename_i width height hwidth hheight
      have := sides.width width hwidth
      have := sides.height height hheight
      rw [if_neg (by omega)]
      simp
    · simp
  | graphic bitmap =>
    have sound := (whole bitmap rfl).isSound_iff
    simp only [Bitmap.draw]
    split_ifs with h
    · simpa using sound.mp h
    · simpa using mt sound.mpr h

theorem draw_box {shape : Box} (box : i.content = .box shape) (open' : shape.width = none ∨ shape.height = none)
    (label : Label) (s : Setup) (c : Canvas) : i.draw label s c = .ok c := by
  unfold draw
  simp only [box, Box.draw]
  split
  · rename_i hwidth hheight
    rcases open' with none | none
    · rw [none] at hwidth
      cases hwidth
    · rw [none] at hheight
      cases hheight
  · rfl

end Item

/-- Options that are accepted leave two reasons to replace an item of a label that was read: a barcode has no symbol, or
a graphic has no rows. No step in drawing a text or a box is refused, and a box without a width or a height is passed
over. -/
theorem undrawable_items {r : Rasterizer} (sound : r.Sound) {f : Format} {label : Label}
    (read : f.read.2.label = some label) (o : Options) :
    match Setup.ofOptions o with
    | .error cause => label.draw o = .error (.options cause)
    | .ok s =>
      (∀ i ∈ label.items, ∀ c,
        ((∃ fault, i.attempt r o label s.toStyle c = .error fault) ↔ i.content.Undrawable) ∧
        (i.content.Undrawable → i.attemptOrExcuse r o label s.toStyle c = i.drawExcuse s c) ∧
        ∀ shape, i.content = .box shape → shape.width = none ∨ shape.height = none →
          i.attempt r o label s.toStyle c = .ok c) ∧
      label.attempt r o s.toStyle = (label.draw o).mapError RenderError.fault := by
  split
  · rename_i cause refused
    rw [Label.draw, refused]
  · rename_i s accepted
    obtain ⟨limit, font, same⟩ := (Setup.reads_of_ofOptions accepted).font
    obtain ⟨source, rfl⟩ := Format.exists_made read
    have range := (Format.made_inRange source).label.items
    refine ⟨fun i there c => ?_, Label.attempt_eq sound range accepted⟩
    have steps := Item.attempt_eq sound (range i there) font same (Format.made source).label c
    have whole : ∀ bitmap, i.content = .graphic bitmap → bitmap.Whole := fun _ => Format.whole_of_made there
    have undrawable := Item.draw_eq_error_iff (range i there) whole (Format.made source).label s c
    refine ⟨?_, fun failing => ?_, fun shape box without => ?_⟩
    · rw [steps, ← undrawable]
      cases i.draw (Format.made source).label s c <;> simp [Attempt.ofDraw, Refused.on, Except.mapError]
    · obtain ⟨cause, failed⟩ := undrawable.mpr failing
      rw [Item.attemptOrExcuse_eq sound (range i there) font same, Item.drawOrExcuse, failed]
    · rw [steps, Item.draw_box box without]
      rfl

/-! ## The grid as a rasterizer -/

namespace Typeface

/-- How much of a pixel lies between two points, in 256ths. -/
def share (low high : Rat) (pixel : Int) : Nat :=
  ((lesser high (pixel + 1) - greater low pixel) * 256).floor.toNat

/-- A character in the whole pixels that it touches. -/
def image (size : Rat) (c : Char) : Image :=
  match rects c with
  | [] => ⟨0, 0, #[]⟩
  | first :: more =>
    let unit := size / em
    let left := (more.foldl (fun t q => min t q.left) first.left * unit).floor
    let right := (more.foldl (fun t q => max t q.right) first.right * unit).ceil
    let bottom := (more.foldl (fun t q => min t q.bottom) first.bottom * unit).floor
    let top := (more.foldl (fun t q => max t q.top) first.top * unit).ceil
    let width := (right - left).toNat
    { width
      height := (top - bottom).toNat
      coverage := Array.ofFn fun k : Fin (width * (top - bottom).toNat) =>
        (first :: more).foldl (fun n q =>
          let across := share (q.left * unit) (q.right * unit) (left + (k % width : Nat))
          let down := share (q.bottom * unit) (q.top * unit) (top - 1 - (k / width : Nat))
          min 255 (n + across * down * 255 / 65536)) 0 }

end Typeface

def Rasterizer.grid : Rasterizer where
  hasFace _ := true
  glyph _ size c := Typeface.image size c
  hasRect q := 0 ≤ q.width && 0 ≤ q.height
  hasPath q _ := 0 ≤ q.width && 0 ≤ q.height

theorem Rasterizer.sound_grid : grid.Sound where
  glyph _ size c := by
    show (Typeface.image size c).coverage.size = (Typeface.image size c).width * (Typeface.image size c).height
    unfold Typeface.image
    split
    · rfl
    · exact Array.size_ofFn
  rect plain := by simp [grid, plain.width.le, plain.height.le]
  path plain _ := by simp [grid, plain.width.le, plain.height.le]

/-- A text, a box without a width, and a graphic of no rows. -/
theorem undrawable_items_three :
    let f : Format := { source := "^XA^A0N,32^FDA^FS^GB,9^GFA,0,0,1,^XZ".toList }
    ∃ label text box graphic s, f.read.2.label = some label ∧ label.items = [text, box, graphic] ∧
      Setup.ofOptions {} = .ok s ∧ ∀ c,
        (¬∃ fault, text.attempt .grid {} label s.toStyle c = .error fault) ∧
        box.attempt .grid {} label s.toStyle c = .ok c ∧
        graphic.attemptOrExcuse .grid {} label s.toStyle c = graphic.drawExcuse s c := by
  intro f
  let made := (Format.made "^A0N,32^FDA^FS^GB,9^GFA,0,0,1,".toList).label
  let text : Item := ⟨0, 0, false, .text ⟨['A'], { height := some 32 }, none, none⟩⟩
  let box : Item := ⟨0, 0, false, .box { height := some 9 }⟩
  let graphic : Item := ⟨0, 0, false, .graphic ⟨8, 0, []⟩⟩
  have items : made.items = [text, box, graphic] := by
    show (Format.made _).label.items = _
    rw [Format.made, Token.scan_eq]
    rfl
  have read : f.read.2.label = some made := Format.label_read rfl (by rw [items]; exact List.cons_ne_nil _ _)
  obtain ⟨s, accepted, -⟩ := Setup.ofOptions_of_valid Options.validate_default
  have drawing := undrawable_items Rasterizer.sound_grid read {}
  rw [items, accepted] at drawing
  refine ⟨made, text, box, graphic, s, read, items, accepted, fun c => ?_⟩
  exact ⟨(drawing.1 text (.head _) c).1.mp, (drawing.1 box (.tail _ (.head _)) c).2.2 _ rfl (.inl rfl),
    (drawing.1 graphic (.tail _ (.tail _ (.head _))) c).2.1 rfl⟩

end LabelPreview
