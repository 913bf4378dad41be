import LabelPreview.Proofs.Builder.Steps

/-!
# Modifiers in any order

A command that makes no item sets a few parts of the builder and looks at a few more. Two of them can change places
if neither sets what the other sets or looks at. The table of what they set and look at leaves four pairs for which
the order counts.
-/

namespace LabelPreview

/-! ## Kinds of modifiers -/

/-- What a command without an item is about. -/
inductive Modifier where
  | origin
  | home
  | defaultFont
  | fieldFont
  | block
  | reverse
  | hexEscape
  | barcodeDefaults
  | barcode
  | separator
  | comment
  deriving DecidableEq

def CommandKind.modifier? : CommandKind → Option Modifier
  | .fieldOrigin | .fieldTypeset => some .origin
  | .labelHome => some .home
  | .changeFont => some .defaultFont
  | .font => some .fieldFont
  | .fieldBlock => some .block
  | .fieldReverse => some .reverse
  | .fieldHex => some .hexEscape
  | .barcodeDefaults => some .barcodeDefaults
  | .code39 | .code128 | .ean13 | .qrCode | .dataMatrix => some .barcode
  | .fieldSeparator => some .separator
  | .comment => some .comment
  | .fieldData | .graphicBox | .graphicField | .unsupported => none

def Directive.modifier? : Directive → Option Modifier
  | .pass => some .comment
  | .moveTo .. => some .origin
  | .home .. => some .home
  | .defaultFont _ => some .defaultFont
  | .fieldFont _ => some .fieldFont
  | .block _ => some .block
  | .reverse => some .reverse
  | .hexEscape _ => some .hexEscape
  | .barcodeDefaults _ => some .barcodeDefaults
  | .barcode _ => some .barcode
  | .endField => some .separator
  | .fieldData _ | .box _ | .graphic _ => none

theorem Directive.modifier?_of_read {kind : CommandKind} {params : Text} {d : Directive}
    (h : Directive.read kind params = .ok d) : d = .pass ∨ d.modifier? = kind.modifier? := by
  cases kind with
  | fieldData | fieldBlock | fieldReverse | fieldHex | fieldSeparator | comment => cases h; exact .inr rfl
  | unsupported => cases h
  | fieldOrigin | fieldTypeset =>
    obtain ⟨_ | move, -, rfl⟩ := map_eq_ok h
    · exact .inl rfl
    · exact .inr rfl
  | _ =>
    obtain ⟨_, -, rfl⟩ := map_eq_ok h
    exact .inr rfl

/-! ## Parts of a builder -/

namespace Builder

inductive Part where
  | items
  | home
  | cursor
  | defaultFont
  | fieldFont
  | block
  | reverse
  | hexEscape
  | barcodeDefaults
  | barcode
  deriving DecidableEq

def Part.Value : Part → Type
  | .items => List Item
  | .home => Int × Int
  | .cursor => Option (Int × Int)
  | .defaultFont => Font
  | .fieldFont => Option Font
  | .block => Option TextBlock
  | .reverse => Bool
  | .hexEscape => Option Char
  | .barcodeDefaults => Option BarcodeDefaults
  | .barcode => Option Symbology

def part (b : Builder) : (p : Part) → p.Value
  | .items => b.label.items
  | .home => b.label.home
  | .cursor => b.cursor
  | .defaultFont => b.label.defaultFont
  | .fieldFont => b.fieldFont
  | .block => b.block
  | .reverse => b.reverse
  | .hexEscape => b.hexEscape
  | .barcodeDefaults => b.label.barcodeDefaults
  | .barcode => b.barcode

theorem eq_of_parts {b c : Builder} (same : ∀ p, b.part p = c.part p) : b = c := by
  rcases b with ⟨⟨items, home, defaultFont, barcodeDefaults⟩, cursor, fieldFont, block, reverse, hexEscape, barcode⟩
  cases same .items
  cases same .home
  cases same .cursor
  cases same .defaultFont
  cases same .fieldFont
  cases same .block
  cases same .reverse
  cases same .hexEscape
  cases same .barcodeDefaults
  cases same .barcode
  rfl

end Builder

namespace Modifier

/-- The parts that a modifier may set. -/
def writes : Modifier → List Builder.Part
  | origin => [.cursor]
  | home => [.home]
  | defaultFont => [.defaultFont]
  | fieldFont => [.fieldFont]
  | block => [.block]
  | reverse => [.reverse]
  | hexEscape => [.hexEscape]
  | barcodeDefaults => [.barcodeDefaults]
  | barcode => [.barcode]
  | separator => [.fieldFont, .block]
  | comment => []

/-- The other parts that a modifier looks at: a position is counted from the home position, and the font of a field
starts from the default font. -/
def reads : Modifier → List Builder.Part
  | origin => [.home]
  | fieldFont => [.defaultFont]
  | _ => []

/-- Neither sets what the other one sets or looks at. -/
def Independent (m n : Modifier) : Prop :=
  (∀ p ∈ m.writes, p ∉ n.writes ∧ p ∉ n.reads) ∧ ∀ p ∈ n.writes, p ∉ m.reads

instance (m n : Modifier) : Decidable (m.Independent n) := inferInstanceAs (Decidable (_ ∧ _))

/-- The pairs for which the order counts. -/
def overlapping : List (Modifier × Modifier) :=
  [(home, origin), (defaultFont, fieldFont), (separator, fieldFont), (separator, block)]

def Overlaps (m n : Modifier) : Prop := (m, n) ∈ overlapping ∨ (n, m) ∈ overlapping

instance (m n : Modifier) : Decidable (m.Overlaps n) := inferInstanceAs (Decidable (_ ∨ _))

theorem independent_of_not_overlaps {m n : Modifier} (different : m ≠ n) (apart : ¬m.Overlaps n) :
    m.Independent n := by
  revert different apart
  cases m <;> cases n <;> decide

end Modifier

/-! ## One modifier -/

namespace Builder

variable {m n : Modifier} {p : Part}

theorem part_perform_of_notMem {d : Directive} (hd : d.modifier? = some m) (free : p ∉ m.writes) (b : Builder) :
    (b.perform d).part p = b.part p := by
  cases d with
  | fieldData | box | graphic => cases hd
  | _ =>
    cases hd
    cases p <;> first | rfl | exact absurd (by decide) free

/-- What becomes of a part is told by the part and what the modifier looks at. -/
theorem part_perform_congr {d : Directive} (hd : d.modifier? = some m) {b c : Builder} (same : b.part p = c.part p)
    (seen : ∀ q ∈ m.reads, b.part q = c.part q) : (b.perform d).part p = (c.perform d).part p := by
  cases d with
  | fieldData | box | graphic => cases hd
  | moveTo x y =>
    cases hd
    have home : b.label.home = c.label.home := seen .home List.mem_cons_self
    cases p with
    | cursor =>
      have cursor : b.cursor = c.cursor := same
      change (b.perform (.moveTo x y)).cursor = (c.perform (.moveTo x y)).cursor
      simp only [perform, position, home, cursor]
    | _ => exact same
  | fieldFont change =>
    cases hd
    have font : b.label.defaultFont = c.label.defaultFont := seen .defaultFont List.mem_cons_self
    cases p with
    | fieldFont =>
      change (b.perform (.fieldFont change)).fieldFont = (c.perform (.fieldFont change)).fieldFont
      simp only [perform, font]
    | _ => exact same
  | defaultFont change =>
    cases p with
    | defaultFont => exact congrArg change.applyTo same
    | _ => exact same
  | _ => cases p <;> first | exact same | rfl

variable {s t : Step}

theorem part_step_of_notMem (hs : s.kind.modifier? = some m) (free : p ∉ m.writes) (b : Builder) :
    (b.step s).part p = b.part p := by
  apply step_induction (P := fun next => next.part p = b.part p) s rfl
  intro d hd
  obtain rfl | same := Directive.modifier?_of_read hd
  · rfl
  · exact part_perform_of_notMem (same.trans hs) free b

theorem part_step_congr (hs : s.kind.modifier? = some m) {b c : Builder} (same : b.part p = c.part p)
    (seen : ∀ q ∈ m.reads, b.part q = c.part q) : (b.step s).part p = (c.step s).part p := by
  cases h : Directive.read s.kind s.params with
  | error cause => rwa [step_of_refused h, step_of_refused h]
  | ok d =>
    rw [step_of_read h, step_of_read h]
    obtain rfl | kind := Directive.modifier?_of_read h
    · exact same
    · exact part_perform_congr (kind.trans hs) same seen

/-! ## Two modifiers -/

theorem step_comm (hs : s.kind.modifier? = some m) (ht : t.kind.modifier? = some n) (apart : m.Independent n)
    (b : Builder) : (b.step s).step t = (b.step t).step s := by
  obtain ⟨left, right⟩ := apart
  apply eq_of_parts
  intro p
  by_cases hp : p ∈ m.writes
  · -- the other step does not touch the part, nor what this one looks at
    have free : p ∉ n.writes := (left p hp).1
    rw [part_step_of_notMem ht free]
    apply Eq.symm
    apply part_step_congr hs (part_step_of_notMem ht free b)
    intro q hq
    exact part_step_of_notMem ht (fun h => right q h hq) b
  · rw [part_step_of_notMem hs hp (b.step t)]
    apply part_step_congr ht (part_step_of_notMem hs hp b)
    intro q hq
    exact part_step_of_notMem hs (fun h => (left q h).2 hq) b

theorem exists_order_counts (h : (m, n) ∈ Modifier.overlapping) :
    ∃ s t : Step, s.kind.modifier? = some m ∧ t.kind.modifier? = some n ∧
      (({} : Builder).step s).step t ≠ (({} : Builder).step t).step s := by
  simp only [Modifier.overlapping, List.mem_cons, Prod.mk.injEq, List.not_mem_nil, or_false] at h
  obtain ⟨rfl, rfl⟩ | ⟨rfl, rfl⟩ | ⟨rfl, rfl⟩ | ⟨rfl, rfl⟩ := h
  · refine ⟨⟨.labelHome, ['1', ',', '1']⟩, ⟨.fieldOrigin, ['0', ',', '0']⟩, rfl, rfl, fun same => ?_⟩
    exact absurd (congrArg cursor same) (by decide)
  · refine ⟨⟨.changeFont, ['B']⟩, ⟨.font, []⟩, rfl, rfl, fun same => ?_⟩
    exact absurd (congrArg fieldFont same) (by decide)
  · refine ⟨⟨.fieldSeparator, []⟩, ⟨.font, []⟩, rfl, rfl, fun same => ?_⟩
    exact absurd (congrArg fieldFont same) (by decide)
  · refine ⟨⟨.fieldSeparator, []⟩, ⟨.fieldBlock, []⟩, rfl, rfl, fun same => ?_⟩
    exact absurd (congrArg block same) (by decide)

/-- Two steps can change places: each gets the answer that it gets when it is the only one, and the builder after
both is the same. -/
structure AnyOrder (b : Builder) (s t : Step) : Prop where
  first : ((b.step t).answer s).1 = (b.answer s).1
  second : ((b.step s).answer t).1 = (b.answer t).1
  both : (b.step s).step t = (b.step t).step s

/-- Modifiers of two kinds can change places on every builder and with all parameters, but for the four pairs that
overlap. -/
theorem anyOrder_iff (different : m ≠ n) :
    (∀ (b : Builder) (s t : Step), s.kind.modifier? = some m → t.kind.modifier? = some n → AnyOrder b s t) ↔
      ¬m.Overlaps n := by
  constructor
  · rintro all (h | h)
    · obtain ⟨s, t, hs, ht, counts⟩ := exists_order_counts h
      exact counts (all {} s t hs ht).both
    · obtain ⟨s, t, hs, ht, counts⟩ := exists_order_counts h
      exact counts (all {} t s ht hs).both.symm
  · intro apart b s t hs ht
    exact ⟨answer_anywhere _ _ s, answer_anywhere _ _ t,
      step_comm hs ht (Modifier.independent_of_not_overlaps different apart) b⟩

/-- A refused change of the defaults and a barcode that was announced can change places. -/
theorem anyOrder_iff_barcode :
    AnyOrder {} ⟨.barcodeDefaults, ['1', '1']⟩ ⟨.ean13, ['R']⟩ ∧
      (({} : Builder).answer ⟨.barcodeDefaults, ['1', '1']⟩).1 = .error .moduleWidth :=
  ⟨(anyOrder_iff (m := .barcodeDefaults) (n := .barcode) (by decide)).mpr (by decide) {} _ _ rfl rfl, rfl⟩

end Builder

end LabelPreview
