import LabelPreview.Command.Token
import LabelPreview.Decimal.Leading
import LabelPreview.Proofs.Text.Blanks

/-!
# Numbers written out in the fields of a command

A literal is a run of digits of any length, with or without a sign. Between commas it comes back as a field of
its own, and it is read as its value if that fits in 64 bits. A literal that does not fit is read as no number,
as a field without digits is, and there are no numbers but those that a literal stands for.
-/

namespace LabelPreview

/-! ## Fields between commas -/

section Fields

open Text

theorem fields_trimStart (s : Text) : ((trimStart s).splitOn ',').map trim = (s.splitOn ',').map trim := by
  have kept (a : Text) (h : ',' ∉ a) : ',' ∉ trimStart a := fun hc => h ((List.dropWhile_suffix isBlank).mem hc)
  cases s using cuts_induction ',' with
  | whole s free =>
    rw [List.splitOn_eq_singleton free, List.splitOn_eq_singleton (kept s free), List.map_singleton, trim_trimStart,
      List.map_singleton]
  | cut a r free =>
    rw [trimStart_append_solid a r (by decide), List.splitOn_append_cons_self_of_not_mem free,
      List.splitOn_append_cons_self_of_not_mem (kept a free), List.map_cons, trim_trimStart, List.map_cons]

theorem fields_trimEnd (s : Text) : ((trimEnd s).splitOn ',').map trim = (s.splitOn ',').map trim := by
  induction s using cuts_induction ',' with
  | whole s free =>
    have kept : ',' ∉ trimEnd s := fun hc => free ((isPrefix_trimEnd s).mem hc)
    rw [List.splitOn_eq_singleton free, List.splitOn_eq_singleton kept, List.map_singleton, trim_trimEnd,
      List.map_singleton]
  | cut a r free ih =>
    rw [trimEnd_append_solid a r (by decide), List.splitOn_append_cons_self_of_not_mem free,
      List.splitOn_append_cons_self_of_not_mem free, List.map_cons, List.map_cons, ih]

/-- Parameters are cut at every comma, and a field loses the blanks on both sides of it. -/
theorem fields_eq (params : Text) :
    fields params = if AllBlank params then [] else (params.splitOn ',').map trim := by
  rw [fields, trim, fields_trimEnd, fields_trimStart, ← trim]
  by_cases blank : AllBlank params
  · rw [if_pos blank, if_pos (List.isEmpty_iff.mpr (trim_eq_nil_iff.mpr blank))]
  · rw [if_neg blank, if_neg (mt List.isEmpty_iff.mp (mt trim_eq_nil_iff.mp blank))]

theorem not_allBlank_of_comma {s : Text} (h : ',' ∈ s) : ¬AllBlank s := by
  intro blank
  have solid := blank ',' h
  cases solid

theorem fields_join {a b : Text} {rest : List Text} (free : ∀ f ∈ a :: b :: rest, ',' ∉ f) :
    fields ([','].intercalate (a :: b :: rest)) = (a :: b :: rest).map trim := by
  have comma : ¬AllBlank ([','].intercalate (a :: b :: rest)) := not_allBlank_of_comma (by simp)
  rw [fields_eq, if_neg comma, List.splitOn_intercalate ',' free (List.cons_ne_nil _ _)]

end Fields

/-! ## Spaces and digits -/

namespace Text

theorem isInlineSpace_iff {c : Char} : isInlineSpace c = true ↔ c = ' ' ∨ c = '\t' := by
  simp [isInlineSpace]

theorem digits_append {digits rest : Text} (all : ∀ c ∈ digits, c.isDigit = true)
    (stop : ∀ c, rest.head? = some c → c.isDigit = false) : Text.digits (digits ++ rest) = digits := by
  rw [Text.digits, List.takeWhile_append_of_pos all]
  cases rest with
  | nil => simp
  | cons c rest => simp [stop c rfl]

end Text

/-! ## Literals -/

/-- A whole number as it is written. -/
structure Literal where
  /-- The sign in front, if there is one; `true` stands for minus. -/
  sign : Option Bool
  digits : Text
  digits_ne_nil : digits ≠ []
  isDigit_of_mem : ∀ c ∈ digits, c.isDigit = true

namespace Literal

def signText : Option Bool → Text
  | none => []
  | some false => ['+']
  | some true => ['-']

def text (l : Literal) : Text := signText l.sign ++ l.digits

def value (l : Literal) : Int :=
  if l.sign = some true then -(Text.decimalValue l.digits : Int) else Text.decimalValue l.digits

/-- The value is one of 64 bits with a sign. -/
def Fits (l : Literal) : Prop := -0x8000000000000000 ≤ l.value ∧ l.value < 0x8000000000000000

instance (l : Literal) : Decidable l.Fits := inferInstanceAs (Decidable (_ ∧ _))

variable (l : Literal)

theorem mem_text {c : Char} (h : c ∈ l.text) : c = '+' ∨ c = '-' ∨ c.isDigit = true := by
  rcases List.mem_append.mp h with h | h
  · rcases hs : l.sign with _ | _ | _ <;> rw [hs] at h
    · cases h
    · exact .inl (List.mem_singleton.mp h)
    · exact .inr (.inl (List.mem_singleton.mp h))
  · exact .inr (.inr (l.isDigit_of_mem c h))

theorem solid_of_mem_text {c : Char} (h : c ∈ l.text) : Text.isBlank c = false := by
  rcases l.mem_text h with rfl | rfl | digit
  · rfl
  · rfl
  · exact Text.solid_of_isDigit digit

theorem comma_notMem_text : ',' ∉ l.text := by
  intro h
  rcases l.mem_text h with h | h | h <;> revert h <;> decide

theorem text_ne_nil : l.text ≠ [] := by
  intro h
  exact l.digits_ne_nil (List.append_eq_nil_iff.mp h).2

theorem trim_text : l.text.trim = l.text := Text.trim_of_solid fun _ => l.solid_of_mem_text

/-! ### As fields -/

theorem fields_pair (x y : Literal) : fields (x.text ++ ',' :: y.text) = [x.text, y.text] := by
  have joined := @fields_join x.text y.text [] (by simp [x.comma_notMem_text, y.comma_notMem_text])
  simpa [x.trim_text, y.trim_text] using joined

theorem fields_named {name : Text} (free : ',' ∉ name) (x y : Literal) :
    fields (name ++ ',' :: (x.text ++ ',' :: y.text)) = [name.trim, x.text, y.text] := by
  have joined := @fields_join name x.text [y.text] (by simp [free, x.comma_notMem_text, y.comma_notMem_text])
  simpa [x.trim_text, y.trim_text] using joined

/-! ### As numbers -/

/-- The text begins with the literal, behind spaces and tabs, and does not go on with one more digit. -/
def Leads (s : Text) : Prop :=
  ∃ space rest, (∀ c ∈ space, c = ' ' ∨ c = '\t') ∧ (∀ c, rest.head? = some c → c.isDigit = false) ∧
    s = space ++ (l.text ++ rest)

theorem leads_text : l.Leads l.text := ⟨[], [], by simp, by simp, by simp⟩

theorem takeSign_append (rest : Text) :
    Text.takeSign (l.text ++ rest) = (decide (l.sign = some true), l.digits ++ rest) := by
  rcases hs : l.sign with _ | _ | _ <;> rw [text, hs]
  · -- a digit is no sign
    obtain ⟨d, digits, h⟩ := List.exists_cons_of_ne_nil l.digits_ne_nil
    have digit := l.isDigit_of_mem d (by simp [h])
    show Text.takeSign (l.digits ++ rest) = (false, l.digits ++ rest)
    rw [h]
    unfold Text.takeSign
    split
    · rename_i minus
      rw [(List.cons.inj minus).1] at digit
      cases digit
    · rename_i plus
      rw [(List.cons.inj plus).1] at digit
      cases digit
    · rfl
  · rfl
  · rfl

/-- A number is the value of the literal that the text begins with, or there is none if it does not fit. -/
theorem leadingInt?_of_leads {l : Literal} {s : Text} (h : l.Leads s) :
    Text.leadingInt? s = if l.Fits then some l.value else none := by
  obtain ⟨space, rest, inline, stop, rfl⟩ := h
  have start : (l.text ++ rest).dropWhile Text.isInlineSpace = l.text ++ rest := by
    obtain ⟨c, more, h⟩ := List.exists_cons_of_ne_nil l.text_ne_nil
    have solid := l.solid_of_mem_text (c := c) (by simp [h])
    have other : Text.isInlineSpace c = false := by
      rw [Bool.eq_false_iff, Ne, Text.isInlineSpace_iff]
      rintro (rfl | rfl) <;> cases solid
    rw [h, List.cons_append, List.dropWhile_cons, other, if_neg Bool.false_ne_true]
  have behind : (space ++ (l.text ++ rest)).dropWhile Text.isInlineSpace = l.text ++ rest := by
    rw [List.dropWhile_append_of_pos fun c hc => Text.isInlineSpace_iff.mpr (inline c hc), start]
  have some : l.digits.isEmpty = false := List.isEmpty_eq_false_iff.mpr l.digits_ne_nil
  rw [Text.leadingInt?, behind, takeSign_append]
  simp only [Text.digits_append l.isDigit_of_mem stop, some, Bool.false_eq_true, if_false, decide_eq_true_eq]
  rfl

theorem leadingInt?_text : Text.leadingInt? l.text = if l.Fits then some l.value else none :=
  leadingInt?_of_leads l.leads_text

theorem exists_signText (s : Text) :
    ∃ sign, s = signText sign ++ (Text.takeSign s).2 := by
  unfold Text.takeSign
  split
  · exact ⟨some true, rfl⟩
  · exact ⟨some false, rfl⟩
  · exact ⟨none, rfl⟩

theorem exists_leads {s : Text} {n : Int} (h : Text.leadingInt? s = some n) : ∃ l : Literal, l.Leads s := by
  obtain ⟨sign, signed⟩ := exists_signText (s.dropWhile Text.isInlineSpace)
  have run : Text.digits (Text.takeSign (s.dropWhile Text.isInlineSpace)).2 ≠ [] := fun none => by
    simp [Text.leadingInt?, none] at h
  generalize (Text.takeSign (s.dropWhile Text.isInlineSpace)).2 = body at signed run
  refine ⟨⟨sign, Text.digits body, run, fun c hc => List.mem_takeWhile_imp hc⟩, s.takeWhile Text.isInlineSpace,
    Text.afterDigits body, fun c hc => Text.isInlineSpace_iff.mp (List.mem_takeWhile_imp hc), fun c hc => ?_, ?_⟩
  · have stop := List.head?_dropWhile_not Char.isDigit body
    rw [show body.dropWhile Char.isDigit = Text.afterDigits body from rfl, hc] at stop
    simpa using stop
  · have whole : Text.digits body ++ Text.afterDigits body = body := List.takeWhile_append_dropWhile
    show s = s.takeWhile Text.isInlineSpace ++ (signText sign ++ Text.digits body ++ Text.afterDigits body)
    rw [List.append_assoc, whole, ← signed, List.takeWhile_append_dropWhile]

/-- A number is read just from a text that begins with a literal, behind spaces and tabs and as far as its digits go, if
the value is one of 64 bits with a sign. What follows the digits is not looked at. -/
theorem leadingInt?_exact (s : Text) :
    (∀ n : Int, Text.leadingInt? s = some n ↔ ∃ l : Literal, l.Leads s ∧
      n = (if l.sign = some true then -(Nat.ofDigitChars 10 l.digits 0 : Int) else Nat.ofDigitChars 10 l.digits 0) ∧
      -0x8000000000000000 ≤ n ∧ n ≤ 0x7FFFFFFFFFFFFFFF) ∧
    (Text.leadingInt? s = none ↔ ∀ l : Literal, l.Leads s →
      l.value < -0x8000000000000000 ∨ 0x7FFFFFFFFFFFFFFF < l.value) := by
  refine ⟨fun n => ⟨fun h => ?_, ?_⟩, fun h l leads => ?_, fun out => ?_⟩
  · obtain ⟨l, leads⟩ := exists_leads h
    rw [leadingInt?_of_leads leads] at h
    split_ifs at h with fits
    cases h
    exact ⟨l, leads, rfl, fits.1, Int.le_of_lt_add_one fits.2⟩
  · rintro ⟨l, leads, rfl, low, high⟩
    exact (leadingInt?_of_leads leads).trans (if_pos ⟨low, Int.lt_add_one_of_le high⟩)
  · rw [leadingInt?_of_leads leads] at h
    split_ifs at h with fits
    unfold Fits at fits
    omega
  · rw [Option.eq_none_iff_forall_ne_some]
    intro n h
    obtain ⟨l, leads⟩ := exists_leads h
    rw [leadingInt?_of_leads leads] at h
    split_ifs at h with fits
    have := out l leads
    unfold Fits at fits
    omega

/-- The least number, with zeros in front of it, and one more than the greatest. -/
theorem leadingInt?_exact_ends :
    let least : Literal := ⟨some true, "009223372036854775808".toList, by decide, List.all_eq_true.mp rfl⟩
    let beyond : Literal := ⟨none, "9223372036854775808".toList, by decide, List.all_eq_true.mp rfl⟩
    Text.leadingInt? (" \t".toList ++ (least.text ++ "dots".toList)) = some (-0x8000000000000000) ∧
      Text.leadingInt? beyond.text = none ∧ 0x7FFFFFFFFFFFFFFF < beyond.value := by
  intro least beyond
  have none : Text.leadingInt? beyond.text = none := by decide
  have out := (leadingInt?_exact beyond.text).2.mp none beyond beyond.leads_text
  refine ⟨?_, none, out.resolve_left (by decide)⟩
  rw [(leadingInt?_exact _).1]
  exact ⟨least, ⟨_, _, by simp, by simp, rfl⟩, by decide, by decide, by decide⟩

end Literal

end LabelPreview
