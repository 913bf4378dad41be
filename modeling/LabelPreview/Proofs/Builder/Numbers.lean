import LabelPreview.Proofs.Builder.Steps
import LabelPreview.Proofs.Command.Fields

/-!
# Numbers in positions and font sizes

Moves and font commands refuse a number out of range and take one within it. A number that does not fit in 64
bits is neither: it counts as left out, so a move keeps the coordinate, the font of a field the size of the
default font, and the default font loses its size.
-/

namespace LabelPreview

open Directive

namespace Literal

variable (l : Literal)

theorem within_text {low high : Int} (range : low ≤ l.value ∧ l.value ≤ high) (fits : l.Fits) (e : CommandError) :
    within low high e l.text = .ok l.value.toNat := by
  unfold within
  rw [leadingInt?_text, if_pos fits]
  exact if_pos range

/-! ## Offsets -/

/-- A literal that a move takes. -/
def IsOffset : Prop := l.Fits → 0 ≤ l.value ∧ l.value ≤ 32000

instance : Decidable l.IsOffset := inferInstanceAs (Decidable (_ → _))

def offset? : Option Nat := if l.Fits then some l.value.toNat else none

/-- Where a move leads from a home position. -/
def placeFrom (home now : Int) : Int := if l.Fits then home + l.value else now

theorem coordinate_text :
    coordinate l.text = if l.IsOffset then .ok l.offset? else .error .originOutOfRange := by
  unfold coordinate IsOffset offset?
  rw [leadingInt?_text]
  by_cases fits : l.Fits <;> simp only [fits, if_true, if_false, true_implies, false_implies]

variable {l} in
theorem moved_offset? (h : l.IsOffset) (home now : Int) :
    Builder.moved home now l.offset? = l.placeFrom home now := by
  unfold offset? placeFrom
  by_cases fits : l.Fits
  · rw [if_pos fits, if_pos fits, Builder.moved, Int.toNat_of_nonneg (h fits).1]
  · rw [if_neg fits, if_neg fits, Builder.moved]

/-! ## Font sizes -/

/-- A literal that a font command takes for a size; 0 stands for no size. -/
def IsFontSize : Prop := l.Fits → l.value = 0 ∨ 10 ≤ l.value ∧ l.value ≤ 32000

instance : Decidable l.IsFontSize := inferInstanceAs (Decidable (_ → _))

def sizeOr (kept : Option Nat) : Option Nat :=
  if l.Fits then if l.value = 0 then none else some l.value.toNat else kept

/-- The change of a size, if there is one. -/
def resize? : Option (Option Nat) := if l.Fits then some (l.sizeOr none) else none

theorem fontSize_text :
    fontSize (some l.text) = if l.IsFontSize then .ok (l.sizeOr none) else .error .fontSize := by
  unfold fontSize IsFontSize sizeOr
  rw [Option.bind_some, leadingInt?_text]
  by_cases fits : l.Fits
  · simp only [fits, if_true, true_implies]
    by_cases zero : l.value = 0
    · simp only [zero, if_true, true_or]
    · simp only [zero, if_false, false_or]
  · simp only [fits, if_false, false_implies, if_true]

theorem changedSize_text :
    changedSize (some l.text) = if l.IsFontSize then .ok l.resize? else .error .fontSize := by
  unfold changedSize resize?
  rw [fontSize_text, Option.bind_some, leadingInt?_text]
  by_cases fits : l.Fits
  · rw [if_pos fits, if_pos fits, Option.isSome_some, if_pos rfl]
    split_ifs <;> rfl
  · have size : l.IsFontSize := fun h => absurd h fits
    rw [if_neg fits, if_neg fits, Option.isSome_none, if_neg Bool.false_ne_true, if_pos size]

theorem resize?_getD (kept : Option Nat) : l.resize?.getD kept = l.sizeOr kept := by
  unfold resize? sizeOr
  by_cases fits : l.Fits <;> simp only [fits, if_true, if_false, Option.getD_some, Option.getD_none]

end Literal

/-! ## Commands with two numbers -/

namespace Builder

theorem answer_both {s : Step} {α : Type} {P Q : Prop} [Decidable P] [Decidable Q] {m n : α}
    {cause : CommandError} {readX readY : Except CommandError α} (make : α → α → Directive) (b : Builder)
    (hx : readX = if P then .ok m else .error cause) (hy : readY = if Q then .ok n else .error cause)
    (read : Directive.read s.kind s.params = (do
      let x ← readX
      let y ← readY
      return make x y)) :
    b.answer s = if P ∧ Q then (.ok (), b.perform (make m n)) else (.error cause, b) := by
  by_cases hP : P
  · by_cases hQ : Q
    · rw [hx, hy, if_pos hP, if_pos hQ] at read
      rw [answer_of_read read, if_pos ⟨hP, hQ⟩]
    · rw [hx, hy, if_pos hP, if_neg hQ] at read
      rw [answer_of_refused read, if_neg fun h => hQ h.2]
  · rw [hx, if_neg hP] at read
    rw [answer_of_refused read, if_neg fun h => hP h.1]

variable (b : Builder) (x y : Literal)

theorem answer_origin {kind : CommandKind} (move : kind = .fieldOrigin ∨ kind = .fieldTypeset) :
    b.answer ⟨kind, x.text ++ ',' :: y.text⟩ =
      if x.IsOffset ∧ y.IsOffset then
        (.ok (), { b with cursor := some (x.placeFrom b.label.home.1 b.position.1,
          y.placeFrom b.label.home.2 b.position.2) })
      else (.error .originOutOfRange, b) := by
  rw [answer_both .moveTo b x.coordinate_text y.coordinate_text]
  · split_ifs with offsets
    · rw [← Literal.moved_offset? offsets.1, ← Literal.moved_offset? offsets.2]
      rfl
    · rfl
  · have read : Directive.read kind (x.text ++ ',' :: y.text) =
        (readOrigin (x.text ++ ',' :: y.text)).map ofOrigin := by
      rcases move with rfl | rfl <;> rfl
    rw [read, readOrigin, Literal.fields_pair]
    simp only
    cases coordinate x.text <;> cases coordinate y.text <;> rfl

theorem answer_changeFont {name : Text} (free : ',' ∉ name) :
    b.answer ⟨.changeFont, name ++ ',' :: (x.text ++ ',' :: y.text)⟩ =
      if x.IsFontSize ∧ y.IsFontSize then
        (.ok (), { b with label := { b.label with defaultFont :=
          { b.label.defaultFont with
            name := if name.trim = [] then b.label.defaultFont.name else name.trim
            height := x.sizeOr none
            width := y.sizeOr none } } })
      else (.error .fontSize, b) := by
  have kept (font : Font) : (filled? [name.trim] 0).getD font.name =
      if name.trim = [] then font.name else name.trim := by
    cases name.trim <;> rfl
  rw [answer_both (fun height width => .defaultFont
    { name := filled? [name.trim] 0, height := some height, width := some width }) b
    x.fontSize_text y.fontSize_text]
  · rw [← kept]
    rfl
  · rw [Directive.read, readDefaultFont, Literal.fields_named free]
    simp only [List.getElem?_cons_succ, List.getElem?_cons_zero]
    cases fontSize (some x.text) <;> cases fontSize (some y.text) <;> rfl

/-- What a name with an upright orientation behind it changes. A blank is no name, so the letter of the
orientation is taken for one. -/
def upright (name : Char) : FontChange :=
  if Text.isBlank name then { name := some ['N'] } else { name := some [name], orientation := some .normal }

theorem read_upright (name : Char) :
    (Text.trim [name, 'N']).head?.map (fun c => [c]) = (upright name).name ∧
      changedTurn ((Text.trim [name, 'N']).drop 1) = .ok (upright name).orientation := by
  unfold upright
  split_ifs with blank
  · have all : Text.AllBlank [name] := fun c hc => by rw [List.mem_singleton.mp hc, blank]
    rw [show [name, 'N'] = [name] ++ ['N'] from rfl, Text.trim_blank_append all]
    exact ⟨rfl, rfl⟩
  · rw [Bool.not_eq_true] at blank
    rw [show [name, 'N'] = name :: [] ++ ['N'] from rfl, Text.trim_of_solid_ends blank (by decide) []]
    exact ⟨rfl, rfl⟩

theorem answer_font {name : Char} (other : name ≠ ',') :
    b.answer ⟨.font, [name, 'N'] ++ ',' :: (x.text ++ ',' :: y.text)⟩ =
      if x.IsFontSize ∧ y.IsFontSize then
        (.ok (), { b with fieldFont := some { (upright name).applyTo b.label.defaultFont with
          height := x.sizeOr b.label.defaultFont.height
          width := y.sizeOr b.label.defaultFont.width } })
      else (.error .fontSize, b) := by
  have free : ',' ∉ [name, 'N'] := by simp [other.symm]
  rw [answer_both (fun height width => .fieldFont { upright name with height, width }) b x.changedSize_text
    y.changedSize_text]
  · rw [← Literal.resize?_getD, ← Literal.resize?_getD]
    rfl
  · rw [Directive.read, readFieldFont, Literal.fields_named free]
    simp only [List.headD_cons, (read_upright name).1, (read_upright name).2, List.getElem?_cons_succ,
      List.getElem?_cons_zero]
    cases changedSize (some x.text) <;> cases changedSize (some y.text) <;> rfl

/-- Numbers of any length in a move or a font command. One that fits in 64 bits has to lie in the range of the
command, else the command is refused and the builder stays as it was. One that does not fit is never refused: a
coordinate stays as it is, and a size is the one that the command keeps. -/
theorem answer_literals :
    (∀ kind : CommandKind, kind = .fieldOrigin ∨ kind = .fieldTypeset →
      b.answer ⟨kind, x.text ++ ',' :: y.text⟩ =
        if x.IsOffset ∧ y.IsOffset then
          (.ok (), { b with cursor := some (x.placeFrom b.label.home.1 b.position.1,
            y.placeFrom b.label.home.2 b.position.2) })
        else (.error .originOutOfRange, b)) ∧
    (∀ name : Text, ',' ∉ name →
      b.answer ⟨.changeFont, name ++ ',' :: (x.text ++ ',' :: y.text)⟩ =
        if x.IsFontSize ∧ y.IsFontSize then
          (.ok (), { b with label := { b.label with defaultFont :=
            { b.label.defaultFont with
              name := if name.trim = [] then b.label.defaultFont.name else name.trim
              height := x.sizeOr none
              width := y.sizeOr none } } })
        else (.error .fontSize, b)) ∧
    ∀ name : Char, name ≠ ',' →
      b.answer ⟨.font, [name, 'N'] ++ ',' :: (x.text ++ ',' :: y.text)⟩ =
        if x.IsFontSize ∧ y.IsFontSize then
          (.ok (), { b with fieldFont := some { (upright name).applyTo b.label.defaultFont with
            height := x.sizeOr b.label.defaultFont.height
            width := y.sizeOr b.label.defaultFont.width } })
        else (.error .fontSize, b) :=
  ⟨fun _ => b.answer_origin x y, fun _ => b.answer_changeFont x y, fun _ => b.answer_font x y⟩

/-- 2^63 counts as left out, and 32001 and 5 are refused. -/
theorem answer_literals_too_long :
    let long : Literal := ⟨none, ['9', '2', '2', '3', '3', '7', '2', '0', '3', '6', '8', '5', '4', '7', '7', '5',
      '8', '0', '8'], by decide, List.all_eq_true.mp rfl⟩
    let wide : Literal := ⟨some false, ['3', '2', '0', '0', '1'], by decide, List.all_eq_true.mp rfl⟩
    let five : Literal := ⟨none, ['5'], by decide, List.all_eq_true.mp rfl⟩
    let ten : Literal := ⟨none, ['1', '0'], by decide, List.all_eq_true.mp rfl⟩
    let b : Builder := { cursor := some (3, 4), label := { home := (100, 200) } }
    b.answer ⟨.fieldOrigin, long.text ++ ',' :: five.text⟩ = (.ok (), { b with cursor := some (3, 205) }) ∧
      (b.answer ⟨.fieldTypeset, five.text ++ ',' :: wide.text⟩).1 = .error .originOutOfRange ∧
      (b.answer ⟨.changeFont, ['A'] ++ ',' :: (ten.text ++ ',' :: long.text)⟩).1 = .ok () ∧
      (b.answer ⟨.font, ['A', 'N'] ++ ',' :: (five.text ++ ',' :: long.text)⟩).1 = .error .fontSize := by
  intro long wide five ten b
  have beyond : ¬long.Fits := by decide
  have below : five.placeFrom b.label.home.2 b.position.2 = 205 := by decide
  refine ⟨?_, ?_, ?_, ?_⟩
  · rw [(answer_literals b long five).1 .fieldOrigin (.inl rfl), if_pos ⟨fun h => absurd h beyond, by decide⟩,
      below, Literal.placeFrom, if_neg beyond]
    rfl
  · rw [(answer_literals b five wide).1 .fieldTypeset (.inr rfl), if_neg (by decide)]
  · rw [(answer_literals b ten long).2.1 ['A'] (by decide), if_pos ⟨by decide, fun h => absurd h beyond⟩]
  · rw [(answer_literals b five long).2.2 'A' (by decide), if_neg (by decide)]

end Builder

end LabelPreview
