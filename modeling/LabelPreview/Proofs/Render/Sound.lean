import LabelPreview.Proofs.Builder.Range
import LabelPreview.Proofs.Options.Valid
import LabelPreview.Proofs.Render.Attempt
import LabelPreview.Proofs.Symbol.Area

/-!
# Sound rasterizers

A sound rasterizer refuses nothing on a label whose items are in range. Then drawing such an item step by step is
`Item.draw`.
-/

namespace LabelPreview

theorem Box.radius_le (b : Box) (width height : Nat) :
    2 * b.radius width height ≤ width ∧ 2 * b.radius width height ≤ height := by
  have eighths : ((min b.roundedness 8 : Nat) : Rat) ≤ 8 := by exact_mod_cast Nat.min_le_right _ _
  have shorter : 2 * b.radius width height ≤ (min width height : Nat) := by
    have nonneg : (0 : Rat) ≤ (min width height : Nat) := Nat.cast_nonneg _
    unfold radius
    nlinarith
  have left : ((min width height : Nat) : Rat) ≤ width := by exact_mod_cast Nat.min_le_left _ _
  have right : ((min width height : Nat) : Rat) ≤ height := by exact_mod_cast Nat.min_le_right _ _
  exact ⟨shorter.trans left, shorter.trans right⟩

theorem TextField.attemptParagraph_eq (t : TextField) (limit : Rat) :
    t.attemptParagraph limit = .ok (t.paragraph limit) := by
  have encoded : t.attemptEncode limit = fun data => pure ⟨Typeface.ofName t.font.name, t.size limit,
      airHyphens (Typeface.ofName t.font.name) (CodePage.shown t.hexEscape data)⟩ := by
    funext data
    rw [attemptEncode, CodePage.encode_eq]
    rfl
  unfold attemptParagraph paragraph dataLines
  rw [encoded]
  cases t.block with
  | none => rfl
  | some block =>
    simp only [List.mapM_pure, List.map_take]
    rfl

theorem BarcodeField.attemptSymbol_eq (b : BarcodeField) :
    b.attemptSymbol = match b.symbology.symbol? b.payload with
      | none => .error (.drawing .barcode)
      | some symbol => .ok (b.payload, symbol) := by
  unfold attemptSymbol
  rw [CodePage.encode_eq]
  rfl

section

variable {r : Rasterizer} (sound : r.Sound)

include sound

theorem Rasterizer.Sound.takes (face : Typeface) (size : Rat) (c : Char) : r.takes face size c = true := by
  simp [Rasterizer.takes, sound.glyph face size c]

theorem TextLine.attempt_eq (l : TextLine) : l.attempt r = .ok () := by
  simp [attempt, sound.takes]

theorem Paragraph.attempt_eq (p : Paragraph) (frame : Frame) (ink : Ink) (c : Canvas) :
    p.attempt r frame ink c = .ok (p.draw frame ink c) := by
  have line : p.attemptLine r frame ink = fun c l => pure (p.drawLine frame ink l.2 l.1 c) := by
    funext c l
    rw [attemptLine, TextLine.attempt_eq sound]
    rfl
  rw [attempt, line, List.foldlM_pure]
  rfl

theorem Box.hasPath_path (b : Box) {sides : Rect} (plain : sides.Plain) {radius : Rat}
    (across : 2 * radius ≤ sides.width) (down : 2 * radius ≤ sides.height) (round : 0 < (b.path r sides radius).2) :
    r.hasPath (b.path r sides radius).1 (b.path r sides radius).2 = true := by
  unfold path at round ⊢
  split_ifs at round ⊢ with hollow
  · -- a border that is thicker than the radius has no corners to turn
    have thin : (b.border : Rat) / 2 < radius := sub_pos.mp round
    have inwards : (0 : Rat) ≤ b.border := Nat.cast_nonneg _
    exact sound.path (plain.inset (by linarith) (by linarith) (by linarith)) round
  · exact sound.path plain round

theorem Box.attempt_eq {b : Box} (range : b.InRange) {x y : Int} (position : UpTo 64000 (x, y)) :
    b.attempt r x y = .ok () := by
  unfold attempt
  split
  · rename_i width height hwidth hheight
    obtain ⟨wide, wide'⟩ := range.width width hwidth
    obtain ⟨high, high'⟩ := range.height height hheight
    obtain ⟨⟨left, right⟩, top, bottom⟩ := position
    have plain : Rect.Plain ⟨x, y, width, height⟩ := by
      constructor
      · show (0 : Rat) < width
        exact_mod_cast wide
      · show (0 : Rat) < height
        exact_mod_cast high
      · show (0 : Rat) ≤ x ∧ (x : Rat) + width ≤ 96000
        norm_cast
        omega
      · show (0 : Rat) ≤ y ∧ (y : Rat) + height ≤ 96000
        norm_cast
        omega
    obtain ⟨across, down⟩ := b.radius_le width height
    simp only
    rw [if_neg, if_neg]
    · rintro ⟨round, none⟩
      rw [hasPath_path sound b plain across down round] at none
      cases none
    · rintro (none | none | none)
      · omega
      · omega
      · rw [sound.rect plain] at none
        cases none
  · rfl

theorem BarcodeField.attempt_eq (b : BarcodeField) (label : Label) (pitch : Nat) (frame : Frame) (ink : Ink)
    (c : Canvas) : b.attempt r label pitch frame ink c = Attempt.ofDraw c (b.draw label pitch frame ink c) := by
  unfold attempt draw
  rw [attemptSymbol_eq]
  cases found : b.symbology.symbol? b.payload with
  | none =>
    simp only [found]
    rfl
  | some symbol =>
    have proper := Symbology.proper_of_symbol found
    simp only [found, Refused.on_ok_bind, proper.draw_eq, TextLine.attempt_eq sound]
    cases b.symbology.hasCaption <;> rfl

theorem Item.attempt_eq {i : Item} (range : i.InRange) {o : Options} {s : Setup} {limit : Float32}
    (font : o.maxFontSize = .ok limit) (same : s.fontLimit = exact limit) (label : Label) (c : Canvas) :
    i.attempt r o label s.toStyle c = Attempt.ofDraw c (i.draw label s c) := by
  obtain ⟨x, y, reversed, content⟩ := i
  unfold attempt
  cases content with
  | text field =>
    simp only [font]
    show (Refused.on c (field.attemptParagraph (exact limit)) >>= fun paragraph => _) = _
    rw [TextField.attemptParagraph_eq, ← same]
    exact Paragraph.attempt_eq sound _ _ _ _
  | barcode field => exact BarcodeField.attempt_eq sound field label _ _ _ c
  | box shape =>
    simp only [Box.attempt_eq sound range.content range.position]
    rfl
  | graphic bitmap => rfl

theorem Item.attemptOrExcuse_eq {i : Item} (range : i.InRange) {o : Options} {s : Setup} {limit : Float32}
    (font : o.maxFontSize = .ok limit) (same : s.fontLimit = exact limit) (label : Label) (c : Canvas) :
    i.attemptOrExcuse r o label s.toStyle c = i.drawOrExcuse label s c := by
  unfold attemptOrExcuse drawOrExcuse
  rw [attempt_eq sound range font same]
  cases i.draw label s c with
  | ok drawn => rfl
  | error cause =>
    show (i.attemptExcuse r s.toStyle c).canvas = _
    rw [attemptExcuse, Paragraph.attempt_eq sound]
    rfl

theorem Label.attempt_eq {label : Label} (range : ∀ i ∈ label.items, i.InRange) {o : Options} {s : Setup}
    (accepted : Setup.ofOptions o = .ok s) :
    label.attempt r o s.toStyle = (label.draw o).mapError RenderError.fault := by
  have reads := Setup.reads_of_ofOptions accepted
  obtain ⟨limit, font, same⟩ := reads.font
  have items (c : Canvas) : label.items.foldl (fun c i => i.attemptOrExcuse r o label s.toStyle c) c =
      label.items.foldl (fun c i => i.drawOrExcuse label s c) c :=
    List.foldl_ext _ _ _ fun c i there => Item.attemptOrExcuse_eq sound (range i there) font same label c
  unfold attempt draw Setup.draw
  simp only [reads.canvas, accepted, ← items]
  show (if _ then pure _ else _) = _
  split <;> rfl

end

end LabelPreview
