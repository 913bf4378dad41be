import LabelPreview.Options.Basic
import LabelPreview.Proofs.Graphic.Blanks

/-!
# Colors as they are written

A color is a number sign and two hexadecimal digits a channel. A channel is read as a number, and numbers may have a
plus sign in front. So a color is read as if zeros stood for the plus signs in front of last digits. Texts without such
signs are read if they are colors and refused if not.
-/

namespace LabelPreview

open HexRows (IsDigit hexDigit?_of_isDigit hexDigit?_range)

/-! ## Digits -/

theorem Text.hexDigit?_eq_some_iff {c : Char} {half : Nat} : hexDigit? c = some half ↔ IsDigit half c := by
  constructor
  · intro h
    have table : ∀ n < 103,
        (hexDigit? (Char.ofNat n)).all (fun half => decide (IsDigit half (Char.ofNat n))) = true := by decide
    have range := hexDigit?_range h
    have known := table c.toNat (by omega)
    rw [Char.ofNat_toNat, h] at known
    exact of_decide_eq_true known
  · exact hexDigit?_of_isDigit

namespace Color

/-! ## Channels -/

/-- The two digits of a byte, in either case. -/
def IsPair (b : UInt8) (high low : Char) : Prop := IsDigit (b.toNat / 16) high ∧ IsDigit (b.toNat % 16) low

def plusAsZero (c : Char) : Char := if c = '+' then '0' else c

theorem channel?_eq (high low : Char) :
    channel? high low =
      (Text.hexDigit? low).bind fun l => (Text.hexDigit? (plusAsZero high)).map fun h => UInt8.ofNat (16 * h + l) := by
  unfold channel? plusAsZero
  cases Text.hexDigit? low with
  | none => rfl
  | some l =>
    simp only [Option.bind_some]
    split_ifs with plus
    · have zero : Text.hexDigit? '0' = some 0 := rfl
      rw [zero, Option.map_some, Nat.mul_zero, Nat.zero_add]
    · rfl

theorem isPair_of_digits {h l : Nat} {high low : Char} (first : IsDigit h high) (second : IsDigit l low) :
    IsPair (UInt8.ofNat (16 * h + l)) high low := by
  have hh := first.1
  have hl := second.1
  have byte : (UInt8.ofNat (16 * h + l)).toNat = 16 * h + l := Nat.mod_eq_of_lt (by omega)
  have quotient : (16 * h + l) / 16 = h := by omega
  have remainder : (16 * h + l) % 16 = l := by omega
  rw [IsPair, byte, quotient, remainder]
  exact ⟨first, second⟩

theorem channel?_eq_some_iff {b : UInt8} {high low : Char} :
    channel? high low = some b ↔ IsPair b (plusAsZero high) low := by
  rw [channel?_eq]
  simp only [Option.bind_eq_some_iff, Option.map_eq_some_iff, Text.hexDigit?_eq_some_iff]
  constructor
  · rintro ⟨l, second, h, first, rfl⟩
    exact isPair_of_digits first second
  · rintro ⟨first, second⟩
    refine ⟨_, second, _, first, ?_⟩
    rw [Nat.div_add_mod, UInt8.ofNat_toNat]

/-! ## Colors -/

/-- A number sign and the digits of the three channels. -/
inductive Written : Color → Text → Prop
  | mk {red green blue : UInt8} {a b c d e f : Char} (first : IsPair red a b) (second : IsPair green c d)
      (third : IsPair blue e f) : Written ⟨red, green, blue⟩ ['#', a, b, c, d, e, f]

/-- The text with zeros for the plus signs where the high digits of the channels stand. -/
def unsigned : Text → Text
  | [mark, a, b, c, d, e, f] => [mark, plusAsZero a, b, plusAsZero c, d, plusAsZero e, f]
  | s => s

theorem plusAsZero_of_ne {c : Char} (other : c ≠ '+') : plusAsZero c = c := if_neg other

theorem unsigned_of_notMem {s : Text} (free : '+' ∉ s) : unsigned s = s := by
  unfold unsigned
  split
  · simp only [List.mem_cons, not_or] at free
    obtain ⟨-, a, -, c, -, e, -⟩ := free
    rw [plusAsZero_of_ne (Ne.symm a), plusAsZero_of_ne (Ne.symm c), plusAsZero_of_ne (Ne.symm e)]
  · rfl

theorem IsPair.plusAsZero_eq {b : UInt8} {high low : Char} (h : IsPair b high low) : plusAsZero high = high := by
  apply plusAsZero_of_ne
  rintro rfl
  have sign : Text.hexDigit? '+' = none := rfl
  have digit := hexDigit?_of_isDigit h.1
  rw [sign] at digit
  cases digit

theorem Written.unsigned_eq {color : Color} {s : Text} (h : Written color s) : unsigned s = s := by
  cases h with
  | mk first second third => simp only [unsigned, first.plusAsZero_eq, second.plusAsZero_eq, third.plusAsZero_eq]

theorem read?_eq_some_iff {color : Color} {s : Text} : read? s = some color ↔ Written color (unsigned s) := by
  constructor
  · intro h
    unfold read? at h
    split at h
    · split at h
      · rename_i red green blue
        cases h
        exact .mk (channel?_eq_some_iff.mp red) (channel?_eq_some_iff.mp green) (channel?_eq_some_iff.mp blue)
      · cases h
    · cases h
  · intro h
    obtain ⟨mark, a, b, c, d, e, f, rfl⟩ : ∃ mark a b c d e f, s = [mark, a, b, c, d, e, f] := by
      unfold unsigned at h
      split at h
      · exact ⟨_, _, _, _, _, _, _, rfl⟩
      · cases h
        exact ⟨_, _, _, _, _, _, _, rfl⟩
    cases h with
    | mk first second third =>
      simp only [read?, channel?_eq_some_iff.mpr first, channel?_eq_some_iff.mpr second,
        channel?_eq_some_iff.mpr third]

end Color

/-! ## Colors of options -/

namespace Options

theorem readColor_eq_ok_iff {color : Color} {s : Text} :
    readColor s = .ok color ↔ color.Written (Color.unsigned s) := by
  rw [← Color.read?_eq_some_iff]
  unfold readColor
  cases Color.read? s <;> simp

theorem readColor_of_unwritten {s : Text} (h : ∀ color : Color, ¬color.Written (Color.unsigned s)) :
    readColor s = .error (.color s) := by
  have none : Color.read? s = none :=
    Option.eq_none_iff_forall_ne_some.mpr fun color read => h color (Color.read?_eq_some_iff.mp read)
  rw [readColor, none]

/-- The options with other colors: black on white. -/
def blackOnWhite (o : Options) : Options :=
  { o with foreground := "#000000".toList, background := "#FFFFFF".toList }

theorem validate_eq (o : Options) :
    o.validate = (do
      o.blackOnWhite.validate
      let _ ← o.foregroundColor
      let _ ← o.backgroundColor
      return ()) := by
  have foreground : o.blackOnWhite.foregroundColor = .ok .black := rfl
  have background : o.blackOnWhite.backgroundColor = .ok .white := rfl
  have dpi : o.blackOnWhite.dpi = o.dpi := rfl
  have scale : o.blackOnWhite.scale = o.scale := rfl
  have ratio : o.blackOnWhite.devicePixelRatio = o.devicePixelRatio := rfl
  have size : o.blackOnWhite.labelSize = o.labelSize := rfl
  unfold validate
  rw [foreground, background, dpi, scale, ratio, size]
  split_ifs
  · rfl
  · rfl
  · rfl
  · cases o.labelSize <;> cases o.foregroundColor <;> cases o.backgroundColor <;> rfl

/-- A text is read as the color that it is with zeros for the plus signs in front of last digits, and refused if it is
none then. So the colors are read and nothing else is, but for texts that such signs keep from being colors. Options are
valid if they are so in black and white and both their colors are read. -/
theorem colors_read (o : Options) :
    (∀ s, (∀ color : Color, readColor s = .ok color ↔ color.Written (Color.unsigned s)) ∧
      ((∀ color : Color, ¬color.Written (Color.unsigned s)) → readColor s = .error (.color s)) ∧
      ((∀ color : Color, readColor s = .ok color ↔ color.Written s) ↔
        Color.unsigned s = s ∨ ∀ color : Color, ¬color.Written (Color.unsigned s)) ∧
      ('+' ∉ s → Color.unsigned s = s)) ∧
    o.foregroundColor = readColor o.foreground ∧ o.backgroundColor = readColor o.background ∧
    o.validate = (do
      o.blackOnWhite.validate
      let _ ← readColor o.foreground
      let _ ← readColor o.background
      return ()) := by
  refine ⟨fun s => ⟨fun color => readColor_eq_ok_iff, readColor_of_unwritten, ?_, Color.unsigned_of_notMem⟩,
    rfl, rfl, o.validate_eq⟩
  simp only [readColor_eq_ok_iff]
  constructor
  · intro exact
    by_cases plain : Color.unsigned s = s
    · exact .inl plain
    · exact .inr fun color written => plain ((exact color).mp written).unsigned_eq
  · rintro (plain | none) color
    · rw [plain]
    · have unwritten : ¬color.Written s := fun written => none color (by rwa [written.unsigned_eq])
      exact iff_of_false (none color) unwritten

/-- Three numbers with signs are read as a color, which they are not; digits of both cases are one, and a name is
none. -/
theorem colors_read_signed :
    let s := "#+1+2+3".toList
    readColor s = .ok ⟨1, 2, 3⟩ ∧ ¬(∀ color : Color, readColor s = .ok color ↔ color.Written s) ∧
      readColor "#0aF9b3".toList = .ok ⟨10, 249, 179⟩ ∧
      readColor "white".toList = .error (.color "white".toList) := by
  intro s
  obtain ⟨read, -⟩ := colors_read {}
  have written : Color.Written ⟨1, 2, 3⟩ (Color.unsigned s) :=
    .mk ⟨by decide, by decide⟩ ⟨by decide, by decide⟩ ⟨by decide, by decide⟩
  refine ⟨((read s).1 _).mpr written, ?_, ?_, (read _).2.1 ?_⟩
  · rw [(read s).2.2.1, not_or]
    exact ⟨by decide, fun none => none _ written⟩
  · rw [(read _).1, (read _).2.2.2 (by decide)]
    exact .mk ⟨by decide, by decide⟩ ⟨by decide, by decide⟩ ⟨by decide, by decide⟩
  · intro color h
    have same : Color.unsigned "white".toList = ['w', 'h', 'i', 't', 'e'] := rfl
    rw [same] at h
    cases h

end Options

end LabelPreview
