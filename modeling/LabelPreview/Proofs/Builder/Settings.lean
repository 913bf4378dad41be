import LabelPreview.Proofs.Builder.Numbers
import LabelPreview.Proofs.Builder.Range
import LabelPreview.Proofs.Command.Entries

/-!
# Settings that are written

The settings of a symbol, a text block and a box are written with one field for each, in the order of the command.
Whatever is in range can be written, and every way to write it is read as just that.
-/

namespace LabelPreview

open Directive

/-! ## Single settings -/

namespace Entry

def ofBool : Bool → Entry
  | true => .letter ⟨'Y', rfl⟩
  | false => .letter ⟨'N', rfl⟩

/-- A size that is not set is left out. -/
def ofSize : Option Nat → Entry
  | some n => .number n
  | none => .blank

end Entry

namespace Orientation

def letter : Orientation → Capital
  | .normal => ⟨'N', rfl⟩
  | .rotated => ⟨'R', rfl⟩
  | .inverted => ⟨'I', rfl⟩
  | .bottomUp => ⟨'B', rfl⟩

theorem read_letter {o : Orientation} {field : Text} (h : (Entry.letter o.letter).Spells field) :
    Orientation.read field = .ok o := by
  unfold Orientation.read
  rw [h.letter?]
  cases o <;> rfl

end Orientation

namespace BoxColor

def letter : BoxColor → Capital
  | .black => ⟨'B', rfl⟩
  | .white => ⟨'W', rfl⟩

theorem read_letter {c : BoxColor} {field : Text} (h : (Entry.letter c.letter).Spells field) :
    BoxColor.read field = .ok c := by
  unfold BoxColor.read
  rw [h.letter?]
  cases c <;> rfl

end BoxColor

namespace Code128Mode

def letter : Code128Mode → Capital
  | .normal => ⟨'N', rfl⟩
  | .ucc => ⟨'U', rfl⟩
  | .auto => ⟨'A', rfl⟩
  | .ean => ⟨'D', rfl⟩

theorem read_letter {m : Code128Mode} {field : Text} (h : (Entry.letter m.letter).Spells field) :
    Code128Mode.read field = .ok m := by
  unfold Code128Mode.read
  rw [h.letter?]
  cases m <;> rfl

end Code128Mode

namespace Justification

def letter : Justification → Capital
  | .left => ⟨'L', rfl⟩
  | .center => ⟨'C', rfl⟩
  | .right => ⟨'R', rfl⟩
  | .justified => ⟨'J', rfl⟩

theorem read_letter {j : Justification} {field : Text} (h : (Entry.letter j.letter).Spells field) :
    Justification.read field = j := by
  unfold Justification.read
  rw [h.letter?]
  cases j <;> rfl

end Justification

theorem isYes_ofBool {b : Bool} {field : Text} (h : (Entry.ofBool b).Spells field) : isYes field = b := by
  unfold isYes
  cases b with
  | true => rw [h.letter?]; rfl
  | false => rw [h.letter?]; rfl

/-! ## Settings in their order -/

namespace Symbology

/-- The fields of the command that announces the symbol. -/
def entries : Symbology → List Entry
  | .code39 bars checkDigit =>
    [.letter bars.orientation.letter, .ofBool checkDigit, .ofSize bars.height, .ofBool bars.caption,
      .ofBool bars.captionAbove]
  | .code128 bars checkDigit mode =>
    [.letter bars.orientation.letter, .ofSize bars.height, .ofBool bars.caption, .ofBool bars.captionAbove,
      .ofBool checkDigit, .letter mode.letter]
  | .ean13 bars =>
    [.letter bars.orientation.letter, .ofSize bars.height, .ofBool bars.caption, .ofBool bars.captionAbove]
  | .qrCode orientation model magnification =>
    [.letter orientation.letter, .number model, .ofSize magnification]
  | .dataMatrix orientation moduleSize => [.letter orientation.letter, .ofSize moduleSize]

def command : Symbology → CommandKind
  | .code39 .. => .code39
  | .code128 .. => .code128
  | .ean13 .. => .ean13
  | .qrCode .. => .qrCode
  | .dataMatrix .. => .dataMatrix

def reader : Symbology → Text → Except CommandError Symbology
  | .code39 .. => readCode39
  | .code128 .. => readCode128
  | .ean13 .. => readEan13
  | .qrCode .. => readQrCode
  | .dataMatrix .. => readDataMatrix

theorem read_command (s : Symbology) (params : Text) :
    Directive.read s.command params = (s.reader params).map .barcode := by
  cases s <;> rfl

end Symbology

def TextBlock.entries (t : TextBlock) : List Entry :=
  [.number t.width, .number t.maxLines, .number t.lineSpacing, .letter t.justification.letter,
    .number t.hangingIndent]

def Box.entries (s : Box) : List Entry :=
  [.ofSize s.width, .ofSize s.height, .ofSize s.thickness, .letter s.color.letter, .number s.roundedness]

/-! ## Single fields -/

namespace Directive

theorem within_spelled {n low high : Nat} {field : Text} (spells : (Entry.number n).Spells field)
    (range : low ≤ n ∧ n ≤ high) (word : high < 0x8000000000000000) (e : CommandError) :
    within low high e field = .ok n := by
  generalize value : (n : Int) = m at spells
  cases spells with
  | number l =>
    have fits : l.Fits := by unfold Literal.Fits; omega
    rw [l.within_text (by omega) fits, ← value, Int.toNat_natCast]

section Spelled

variable {entries : List Entry} {fs : List Text} (spelled : List.Forall₂ Entry.Spells entries fs) {i : Nat}

include spelled

theorem exists_field {e : Entry} (h : entries[i]? = some e) : ∃ field, fs[i]? = some field ∧ e.Spells field := by
  obtain ⟨hi, rfl⟩ := List.getElem?_eq_some_iff.mp h
  have hj : i < fs.length := spelled.length_eq ▸ hi
  exact ⟨fs[i], List.getElem?_eq_getElem hj, spelled.get hi hj⟩

theorem readFilled_blank {α : Type} (unset : α) (read : Text → Except CommandError α)
    (h : entries[i]? = some .blank) : readFilled fs i unset read = .ok unset := by
  obtain ⟨field, found, spells⟩ := exists_field spelled h
  cases spells with
  | blank =>
    unfold readFilled filled?
    rw [found]
    rfl

theorem readFilled_spelled {α : Type} {e : Entry} {unset a : α} {read : Text → Except CommandError α}
    (filled : e ≠ .blank) (reads : ∀ field, e.Spells field → read field = .ok a) (h : entries[i]? = some e) :
    readFilled fs i unset read = .ok a := by
  obtain ⟨field, found, spells⟩ := exists_field spelled h
  have nonempty : field ≠ [] := by
    cases spells with
    | blank => exact absurd rfl filled
    | number l => exact l.text_ne_nil
    | letter => exact List.cons_ne_nil _ _
  have present : filled? fs i = some field := by
    rw [filled?, Option.filter_eq_some_iff]
    exact ⟨found, by simp [nonempty]⟩
  unfold readFilled
  rw [present]
  exact reads field spells

theorem readFilled_letter {α : Type} {c : Capital} {a : α} {read : Text → Except LetterError α} (unset : α)
    (reads : ∀ field, (Entry.letter c).Spells field → read field = .ok a) (h : entries[i]? = some (.letter c)) :
    readFilled fs i unset (fun field => letter (read field)) = .ok a := by
  refine readFilled_spelled spelled (by simp) (fun field spells => ?_) h
  rw [reads field spells]
  rfl

theorem readFilled_orientation {o : Orientation} (unset : Orientation)
    (h : entries[i]? = some (.letter o.letter)) : readFilled fs i unset orientation = .ok o :=
  readFilled_letter spelled unset (fun _ => Orientation.read_letter) h

theorem readFilled_yes {b : Bool} (unset : Bool) (h : entries[i]? = some (.ofBool b)) :
    readFilled fs i unset yes = .ok b := by
  refine readFilled_spelled spelled (by cases b <;> simp [Entry.ofBool]) (fun field spells => ?_) h
  rw [yes, isYes_ofBool spells]

theorem readFilled_number {n low high : Nat} (unset : Nat) (e : CommandError) (range : low ≤ n ∧ n ≤ high)
    (word : high < 0x8000000000000000) (h : entries[i]? = some (.number n)) :
    readFilled fs i unset (within low high e) = .ok n :=
  readFilled_spelled spelled (by simp) (fun _ spells => within_spelled spells range word e) h

theorem readFilled_size {size : Option Nat} {low high : Nat} (e : CommandError) (range : Between low high size)
    (word : high < 0x8000000000000000) (h : entries[i]? = some (.ofSize size)) :
    readFilled fs i none (fun field => (within low high e field).map some) = .ok size := by
  cases size with
  | none => exact readFilled_blank spelled none _ h
  | some n =>
    refine readFilled_spelled spelled (by simp [Entry.ofSize]) (fun field spells => ?_) h
    rw [within_spelled spells (range n rfl) word]
    rfl

theorem clamped?_number {n low high : Int} (range : low ≤ n ∧ n ≤ high) (least : -0x8000000000000000 ≤ low)
    (word : high < 0x8000000000000000) (h : entries[i]? = some (.number n)) :
    clamped? low high fs[i]? = some n := by
  obtain ⟨field, found, spells⟩ := exists_field spelled h
  rw [found]
  cases spells with
  | number l =>
    have fits : l.Fits := by unfold Literal.Fits; omega
    simp only [clamped?, Option.bind_some, l.leadingInt?_text, if_pos fits, Option.map_some, Int.min_eq_left range.2,
      Int.max_eq_right range.1]

end Spelled

/-! ## Whole parameters -/

theorem readBars_spelled {entries : List Entry} {fs : List Text} (spelled : List.Forall₂ Entry.Spells entries fs)
    {bars : BarStyle} (range : Between 1 32000 bars.height) {height caption above : Nat}
    (hOrientation : entries[0]? = some (.letter bars.orientation.letter))
    (hHeight : entries[height]? = some (.ofSize bars.height))
    (hCaption : entries[caption]? = some (.ofBool bars.caption))
    (hAbove : entries[above]? = some (.ofBool bars.captionAbove)) :
    readBars fs height caption above = .ok bars := by
  have size : readFilled fs height none barHeight = .ok bars.height :=
    readFilled_size spelled _ range (by decide) hHeight
  unfold readBars
  rw [readFilled_orientation spelled _ hOrientation, size, readFilled_yes spelled _ hCaption,
    readFilled_yes spelled _ hAbove]
  rfl

theorem reader_written {s : Symbology} (range : s.InRange) {params : Text} (h : Written s.entries params) :
    s.reader params = .ok s := by
  cases s with
  | code39 bars checkDigit =>
    have spelled := h.spells
    simp only [Symbology.reader, readCode39]
    rw [readBars_spelled spelled range rfl rfl rfl rfl, readFilled_yes spelled _ rfl]
    rfl
  | code128 bars checkDigit mode =>
    have spelled := h.spells
    simp only [Symbology.reader, readCode128]
    rw [readBars_spelled spelled range rfl rfl rfl rfl, readFilled_yes spelled _ rfl,
      readFilled_letter spelled .auto (fun _ => Code128Mode.read_letter) rfl]
    rfl
  | ean13 bars =>
    have spelled := h.spells
    simp only [Symbology.reader, readEan13]
    rw [readBars_spelled spelled range rfl rfl rfl rfl]
    rfl
  | qrCode orientation model magnification =>
    have spelled := h.spells
    obtain ⟨known, size_range⟩ := range
    have bounds : 1 ≤ model ∧ model ≤ 2 := by omega
    have number : readFilled (fields params) 1 2 (within 1 2 .qrModel) = .ok model :=
      readFilled_number spelled _ _ bounds (by decide) rfl
    have size : readFilled (fields params) 2 none (fun f => (within 1 10 .qrMagnification f).map some) =
        .ok magnification := readFilled_size spelled _ size_range (by decide) rfl
    simp only [Symbology.reader, readQrCode]
    rw [readFilled_orientation spelled _ rfl, number, size]
    rfl
  | dataMatrix orientation moduleSize =>
    have spelled := h.spells
    have size : readFilled (fields params) 1 none barHeight = .ok moduleSize :=
      readFilled_size spelled _ range (by decide) rfl
    simp only [Symbology.reader, readDataMatrix]
    rw [readFilled_orientation spelled _ rfl, size]
    rfl

theorem readBlock_written {t : TextBlock} (range : t.InRange) {params : Text} (h : Written t.entries params) :
    readBlock params = t := by
  have spelled := h.spells
  obtain ⟨width, lines, spacing, indent⟩ := range
  have hWidth : clamped? 0 32000 (fields params)[0]? = some (t.width : Int) :=
    clamped?_number spelled (by omega) (by decide) (by decide) rfl
  have hLines : clamped? 1 9999 (fields params)[1]? = some (t.maxLines : Int) :=
    clamped?_number spelled (by omega) (by decide) (by decide) rfl
  have hSpacing : clamped? (-9999) 9999 (fields params)[2]? = some t.lineSpacing :=
    clamped?_number spelled spacing (by decide) (by decide) rfl
  have hIndent : clamped? 0 9999 (fields params)[4]? = some (t.hangingIndent : Int) :=
    clamped?_number spelled (by omega) (by decide) (by decide) rfl
  obtain ⟨field, there, spells⟩ := exists_field (i := 3) spelled rfl
  simp only [readBlock, hWidth, hLines, hSpacing, hIndent, there, Option.getD_some, Option.map_some,
    Justification.read_letter spells, Int.toNat_natCast]

theorem readBox_written {s : Box} (range : s.InRange) {params : Text} (h : Written s.entries params) :
    readBox params = .ok s := by
  have spelled := h.spells
  have width : readFilled (fields params) 0 none (boxSide .boxWidth) = .ok s.width :=
    readFilled_size spelled _ range.width (by decide) rfl
  have height : readFilled (fields params) 1 none (boxSide .boxHeight) = .ok s.height :=
    readFilled_size spelled _ range.height (by decide) rfl
  have thickness : readFilled (fields params) 2 none (boxSide .borderThickness) = .ok s.thickness :=
    readFilled_size spelled _ range.thickness (by decide) rfl
  have roundedness : readFilled (fields params) 4 0 (within 0 8 .roundedness) = .ok s.roundedness :=
    readFilled_number spelled _ _ ⟨Nat.zero_le _, range.roundedness⟩ (by decide) rfl
  simp only [readBox]
  rw [width, height, thickness, readFilled_letter spelled .black (fun _ => BoxColor.read_letter) rfl, roundedness]
  rfl

end Directive

/-! ## Commands -/

namespace Builder

/-- Every symbol, text block and box in range can be written, and whatever writes it has it read exactly: the
symbol waits for the next field, the block is set, and the box stands at the current position. -/
theorem settings_read_back :
    (∀ s : Symbology, s.InRange → (∃ params, Written s.entries params) ∧
      ∀ params, Written s.entries params → s.reader params = .ok s ∧
        ∀ b : Builder, b.answer ⟨s.command, params⟩ = (.ok (), { b with barcode := some s })) ∧
    (∀ t : TextBlock, t.InRange → (∃ params, Written t.entries params) ∧
      ∀ params, Written t.entries params →
        ∀ b : Builder, b.answer ⟨.fieldBlock, params⟩ = (.ok (), { b with block := some t })) ∧
    ∀ s : Box, s.InRange → (∃ params, Written s.entries params) ∧
      ∀ params, Written s.entries params → ∀ b : Builder, b.answer ⟨.graphicBox, params⟩ =
        (.ok (), { b with
          label := { b.label with
            items := b.label.items ++ [⟨b.position.1, b.position.2, b.reverse, .box s⟩] }
          reverse := false }) := by
  refine ⟨fun s range => ⟨exists_written _, fun params h => ?_⟩,
    fun t range => ⟨exists_written _, fun params h b => ?_⟩,
    fun s range => ⟨exists_written _, fun params h b => ?_⟩⟩
  · have read := reader_written range h
    refine ⟨read, fun b => ?_⟩
    have directive : Directive.read s.command params = .ok (.barcode s) := by
      rw [s.read_command, read]
      rfl
    rw [answer_of_read directive]
    rfl
  · have directive : Directive.read .fieldBlock params = .ok (.block t) := by
      rw [Directive.read, readBlock_written range h]
    rw [answer_of_read directive]
    rfl
  · have directive : Directive.read .graphicBox params = .ok (.box s) := by
      rw [Directive.read, readBox_written range h]
      rfl
    rw [answer_of_read directive]
    rfl

/-- Either case, a sign, zeros in front and blanks of several kinds, with the ends of the ranges and blank fields. -/
theorem settings_read_back_ends :
    let symbol : Symbology := .qrCode .bottomUp 1 (some 10)
    let block : TextBlock := ⟨32000, 9999, -9999, .justified, 0⟩
    let box : Box := ⟨none, some 1, none, .white, 8⟩
    let b : Builder := { cursor := some (3, 4), reverse := true }
    readQrCode [' ', 'b', ',', '+', '1', '\t', ',', '0', '1', '0'] = .ok symbol ∧
      b.answer ⟨.fieldBlock, ['3', '2', '0', '0', '0', ',', '9', '9', '9', '9', ',', '-', '9', '9', '9', '9', ',',
        'j', '\n', ',', '0']⟩ = (.ok (), { b with block := some block }) ∧
      b.answer ⟨.graphicBox, ['\u00a0', ',', '1', ',', ',', 'W', ',', '8']⟩ =
        (.ok (), { b with label := { items := [⟨3, 4, true, .box box⟩] }, reverse := false }) := by
  intro symbol block box b
  have number {n : Nat} {digits : Text} (some : digits ≠ []) (all : digits.all Char.isDigit = true)
      (value : Text.decimalValue digits = n) : (Entry.number n).Fills digits := by
    subst value
    exact (Entry.Spells.number ⟨none, digits, some, List.all_eq_true.mp all⟩).fills
  refine ⟨((settings_read_back.1 symbol ⟨.inl rfl, between_some (by decide)⟩).2 _ ?_).1,
    (settings_read_back.2.1 block ⟨by decide, by decide, by decide, by decide⟩).2 _ ?_ b,
    (settings_read_back.2.2 box ⟨between_none _ _, between_some (by decide), between_none _ _, by decide⟩).2 _ ?_ b⟩
  · refine ⟨[[' ', 'b'], ['+', '1', '\t'], ['0', '1', '0']], ?_, rfl⟩
    exact .cons ⟨[' '], ['b'], [], by decide, by decide, .letter rfl, rfl⟩ <|
      .cons ⟨[], ['+', '1'], ['\t'], by decide, by decide,
        .number ⟨some false, ['1'], by decide, List.all_eq_true.mp rfl⟩, rfl⟩ <|
      .cons (number (by decide) rfl rfl) .nil
  · refine ⟨[['3', '2', '0', '0', '0'], ['9', '9', '9', '9'], ['-', '9', '9', '9', '9'], ['j', '\n'], ['0']], ?_, rfl⟩
    exact .cons (number (by decide) rfl rfl) <| .cons (number (by decide) rfl rfl) <|
      .cons (Entry.Spells.number ⟨some true, ['9', '9', '9', '9'], by decide, List.all_eq_true.mp rfl⟩).fills <|
      .cons ⟨[], ['j'], ['\n'], by decide, by decide, .letter rfl, rfl⟩ <|
      .cons (number (by decide) rfl rfl) .nil
  · refine ⟨[['\u00a0'], ['1'], [], ['W'], ['8']], ?_, rfl⟩
    exact .cons ⟨['\u00a0'], [], [], by decide, by decide, .blank, rfl⟩ <|
      .cons (number (by decide) rfl rfl) <| .cons Entry.Spells.blank.fills <|
      .cons (Entry.Spells.letter rfl).fills <| .cons (number (by decide) rfl rfl) .nil

end Builder

end LabelPreview
