import LabelPreview.Proofs.Builder.Steps
import LabelPreview.Proofs.Command.Fields

/-!
# Blank and missing fields

A command with settings takes a field that is missing like one that is blank, and does not see the blanks around a
field. So its parameters can be written again from their fields, and can have a comma more at their end.
-/

namespace LabelPreview

open Text

/-! ## Fields written again -/

section Fields

variable {params : Text}

theorem fields_of_blank (h : AllBlank params) : fields params = [] := by
  rw [fields_eq, if_pos h]

theorem fields_of_not_blank (h : ¬AllBlank params) : fields params = (params.splitOn ',').map trim := by
  rw [fields_eq, if_neg h]

theorem fields_trim (params : Text) : fields (trim params) = fields params := by
  unfold fields
  rw [trim_trim]

theorem fields_intercalate_fields (params : Text) : fields ([','].intercalate (fields params)) = fields params := by
  by_cases blank : AllBlank params
  · rw [fields_of_blank blank]
    rfl
  · rw [fields_of_not_blank blank]
    have free : ∀ f ∈ (params.splitOn ',').map trim, ',' ∉ f := by
      intro f hf comma
      obtain ⟨piece, hpiece, rfl⟩ := List.mem_map.mp hf
      exact notMem_of_mem_splitOn hpiece ((infix_trim piece).mem comma)
    have trimmed : ((params.splitOn ',').map trim).map trim = (params.splitOn ',').map trim := by
      simp [trim_trim]
    match hp : params.splitOn ',' with
    | [] => exact absurd hp (List.splitOn_ne_nil ',' params)
    | [piece] =>
      -- without a comma there is one field, and that one is not blank
      have whole : [','].intercalate (params.splitOn ',') = params := List.intercalate_splitOn ','
      rw [hp, List.intercalate_singleton] at whole
      rw [List.map_singleton, List.intercalate_singleton, fields_trim, whole, fields_of_not_blank blank, hp, whole]
      rfl
    | a :: b :: rest =>
      rw [hp] at free trimmed
      exact (fields_join free).trans trimmed

theorem fields_concat_comma (params : Text) :
    fields (params ++ [',']) = (if AllBlank params then [[]] else fields params) ++ [[]] := by
  have comma : ¬AllBlank (params ++ [',']) := not_allBlank_of_comma (by simp)
  rw [fields_of_not_blank comma, List.splitOn_append_cons_self, List.map_append]
  split_ifs with blank
  · have free : ',' ∉ params := fun h => not_allBlank_of_comma h blank
    rw [List.splitOn_eq_singleton free, List.map_singleton, trim_eq_nil_iff.mpr blank]
    rfl
  · rw [fields_of_not_blank blank]
    rfl

end Fields

/-! ## Filled fields -/

/-- The same fields are filled, with the same texts. -/
def SameFilled (fs gs : List Text) : Prop := ∀ i, filled? fs i = filled? gs i

theorem filled?_append_blank (fs : List Text) (i : Nat) : filled? (fs ++ [[]]) i = filled? fs i := by
  unfold filled?
  rw [List.getElem?_append]
  split_ifs with inside
  · rfl
  · rw [List.getElem?_eq_none (Nat.le_of_not_lt inside)]
    cases i - fs.length <;> rfl

theorem sameFilled_concat_comma (params : Text) : SameFilled (fields (params ++ [','])) (fields params) := by
  intro i
  rw [fields_concat_comma, filled?_append_blank]
  split_ifs with blank
  · rw [fields_of_blank blank]
    exact filled?_append_blank [] i
  · rfl

theorem filled?_bind {α : Type} {read : Text → Option α} (blank : read [] = none) (fs : List Text) (i : Nat) :
    (filled? fs i).bind read = fs[i]?.bind read := by
  unfold filled?
  rcases fs[i]? with _ | _ | ⟨c, f⟩
  · rfl
  · exact blank.symm
  · rfl

theorem filled?_map_getD {α : Type} (read : Text → α) (fs : List Text) (i : Nat) :
    ((filled? fs i).map read).getD (read []) = (fs[i]?.map read).getD (read []) := by
  unfold filled?
  rcases fs[i]? with _ | _ | ⟨c, f⟩ <;> rfl

theorem filled?_zero (fs : List Text) : (filled? fs 0).getD [] = fs.headD [] := by
  rcases fs with _ | ⟨_ | ⟨c, f⟩, fs⟩ <;> rfl

namespace Directive

variable {fs gs : List Text} (h : SameFilled fs gs)

include h

theorem readFilled_congr {α : Type} (i : Nat) (unset : α) (read : Text → Except CommandError α) :
    readFilled fs i unset read = readFilled gs i unset read := by
  unfold readFilled
  rw [h i]

theorem number_congr (i : Nat) : fs[i]?.bind leadingInt? = gs[i]?.bind leadingInt? := by
  rw [← filled?_bind rfl fs, ← filled?_bind rfl gs, h i]

theorem fontSize_congr (i : Nat) : fontSize fs[i]? = fontSize gs[i]? := by
  unfold fontSize
  rw [number_congr h]

theorem changedSize_congr (i : Nat) : changedSize fs[i]? = changedSize gs[i]? := by
  unfold changedSize
  rw [number_congr h, fontSize_congr h]

theorem clamped?_congr (low high : Int) (i : Nat) : clamped? low high fs[i]? = clamped? low high gs[i]? := by
  unfold clamped?
  rw [number_congr h]

theorem headD_congr : fs.headD [] = gs.headD [] := by
  rw [← filled?_zero, ← filled?_zero, h 0]

theorem justification_congr (i : Nat) :
    (fs[i]?.map Justification.read).getD .left = (gs[i]?.map Justification.read).getD .left := by
  have left : Justification.read [] = .left := rfl
  rw [← left, ← filled?_map_getD, ← filled?_map_getD, h i]

theorem readBars_congr (height caption above : Nat) :
    readBars fs height caption above = readBars gs height caption above := by
  unfold readBars
  simp only [readFilled_congr h]

end Directive

/-! ## Parameters -/

/-- The commands that ask for settings and leave open what is not filled in. A move is none of them: it counts its
fields. -/
def CommandKind.lenient : List CommandKind :=
  [.changeFont, .font, .fieldBlock, .barcodeDefaults, .code39, .code128, .ean13, .qrCode, .dataMatrix, .graphicBox]

namespace Directive

theorem read_congr_of_lenient {kind : CommandKind} {p q : Text} (h : SameFilled (fields p) (fields q))
    (lenient : kind ∈ CommandKind.lenient) : Directive.read kind p = Directive.read kind q := by
  cases kind with
  | changeFont => simp only [Directive.read, readDefaultFont, fontSize_congr h, h 0]
  | font => simp only [Directive.read, readFieldFont, changedSize_congr h, headD_congr h]
  | fieldBlock => simp only [Directive.read, readBlock, clamped?_congr h, justification_congr h]
  | barcodeDefaults => simp only [Directive.read, readBarcodeDefaults, readFilled_congr h]
  | code39 => simp only [Directive.read, readCode39, readBars_congr h, readFilled_congr h]
  | code128 => simp only [Directive.read, readCode128, readBars_congr h, readFilled_congr h]
  | ean13 => simp only [Directive.read, readEan13, readBars_congr h]
  | qrCode => simp only [Directive.read, readQrCode, readFilled_congr h]
  | dataMatrix => simp only [Directive.read, readDataMatrix, readFilled_congr h]
  | graphicBox => simp only [Directive.read, readBox, readFilled_congr h]
  | fieldOrigin | fieldTypeset | labelHome | fieldReverse | fieldHex | fieldData | graphicField | fieldSeparator
  | comment | unsupported => exact absurd lenient (by decide)

end Directive

namespace Builder

theorem answer_congr_of_lenient {kind : CommandKind} {p q : Text} (h : SameFilled (fields p) (fields q))
    (lenient : kind ∈ CommandKind.lenient) (b : Builder) : b.answer ⟨kind, p⟩ = b.answer ⟨kind, q⟩ := by
  rw [answer_eq, answer_eq]
  simp only [Directive.read_congr_of_lenient h lenient]

/-- Fields written with commas between them are the same fields again, and to a command with settings it does not
matter whether its parameters are written so, or have a comma more at their end. -/
theorem answer_by_fields :
    (∀ params, fields ([','].intercalate (fields params)) = fields params) ∧
    ∀ (b : Builder) (kind : CommandKind), kind ∈ CommandKind.lenient → ∀ params,
      b.answer ⟨kind, [','].intercalate (fields params)⟩ = b.answer ⟨kind, params⟩ ∧
      b.answer ⟨kind, params ++ [',']⟩ = b.answer ⟨kind, params⟩ := by
  refine ⟨fields_intercalate_fields, fun b kind lenient params => ⟨?_, ?_⟩⟩
  · apply answer_congr_of_lenient _ lenient
    intro i
    rw [fields_intercalate_fields]
  · exact answer_congr_of_lenient (sameFilled_concat_comma params) lenient b

/-- A box with blanks of several kinds around its fields and without a height. -/
theorem answer_by_fields_box :
    let b : Builder := { cursor := some (3, 4), reverse := true }
    let params : Text := [' ', '9', '\t', ',', '\u00a0', ',', '3', '\n']
    CommandKind.graphicBox ∈ CommandKind.lenient ∧
      b.answer ⟨.graphicBox, ['9', ',', ',', '3']⟩ = b.answer ⟨.graphicBox, params⟩ ∧
      b.answer ⟨.graphicBox, params ++ [',']⟩ = b.answer ⟨.graphicBox, params⟩ ∧
      b.answer ⟨.graphicBox, params⟩ = (.ok (), { b with
        label := { items := [⟨3, 4, true, .box { width := some 9, thickness := some 3 }⟩] }
        reverse := false }) := by
  intro b params
  have lenient : CommandKind.graphicBox ∈ CommandKind.lenient := by decide
  have same := answer_by_fields.2 b .graphicBox lenient params
  exact ⟨lenient, same.1, same.2, rfl⟩

end Builder

end LabelPreview
