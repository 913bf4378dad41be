import LabelPreview.Proofs.Command.Fields
import LabelPreview.Command.Letters
import Mathlib.Data.List.Forall2

/-!
# Fields that are written

The parameters of a command spell a list of entries, one in each field: a number with digits, a letter in either
case, nothing in a blank field. Cutting them into fields gives the spellings back, in their order and without the
blanks that stood around them.
-/

namespace LabelPreview

/-! ## Entries -/

/-- A letter as it is named, in upper case. -/
structure Capital where
  char : Char
  isUpper : char.isUpper = true

/-- What a field is to say. -/
inductive Entry where
  | blank
  | number (n : Int)
  | letter (c : Capital)

theorem Capital.toUpper_char (c : Capital) : c.char.toUpper = c.char := by
  have upper : 'A'.val ≤ c.char.val ∧ c.char.val ≤ 'Z'.val := decide_eq_true_iff.mp c.isUpper
  refine dif_neg fun lower => ?_
  simp only [UInt32.le_iff_toNat_le] at upper lower
  exact absurd (lower.1.trans upper.2) (by decide)

namespace Entry

inductive Spells : Entry → Text → Prop
  | blank : Spells .blank []
  /-- With a sign or without one, and with any zeros in front. -/
  | number (l : Literal) : Spells (.number l.value) l.text
  | letter {c : Capital} {d : Char} (same : d.toUpper = c.char) : Spells (.letter c) [d]

/-- The field spells the entry, between blanks of any kind. -/
def Fills (e : Entry) (field : Text) : Prop :=
  ∃ before core after, Text.AllBlank before ∧ Text.AllBlank after ∧ e.Spells core ∧
    field = before ++ (core ++ after)

end Entry

/-- The parameters have a field for each entry, in the same order. -/
def Written (entries : List Entry) (params : Text) : Prop :=
  ∃ texts, List.Forall₂ Entry.Fills entries texts ∧ params = [','].intercalate texts

/-! ## Spellings -/

theorem isAlphanum_of_toUpper {c : Char} (h : c.toUpper.isUpper = true) : c.isAlphanum = true := by
  show (c.isUpper || c.isLower || c.isDigit) = true
  by_cases lower : 'a'.val ≤ c.val ∧ c.val ≤ 'z'.val
  · have isLower : c.isLower = true :=
      Bool.and_eq_true_iff.mpr ⟨decide_eq_true lower.1, decide_eq_true lower.2⟩
    simp [isLower]
  · have kept : c.toUpper = c := dif_neg lower
    rw [kept] at h
    simp [h]

namespace Entry

variable {e : Entry} {field : Text}

theorem Spells.solid (h : e.Spells field) : ∀ c ∈ field, Text.isBlank c = false ∧ c ≠ ',' := by
  intro c hc
  cases h with
  | blank => cases hc
  | number l => exact ⟨l.solid_of_mem_text hc, fun comma => l.comma_notMem_text (comma ▸ hc)⟩
  | @letter capital d same =>
    have alphanum : c.isAlphanum = true := by
      rw [List.mem_singleton.mp hc]
      exact isAlphanum_of_toUpper (same ▸ capital.isUpper)
    refine ⟨Text.solid_of_isAlphanum alphanum, ?_⟩
    rintro rfl
    cases alphanum

theorem Spells.trim_eq (h : e.Spells field) : field.trim = field := Text.trim_of_solid fun c hc => (h.solid c hc).1

theorem Spells.fills (h : e.Spells field) : e.Fills field :=
  ⟨[], field, [], Text.allBlank_nil, Text.allBlank_nil, h, by simp⟩

theorem Fills.comma_notMem (h : e.Fills field) : ',' ∉ field := by
  obtain ⟨before, core, after, blankBefore, blankAfter, spells, rfl⟩ := h
  simp only [List.mem_append, not_or]
  refine ⟨fun h => ?_, fun h => (spells.solid _ h).2 rfl, fun h => ?_⟩
  · cases blankBefore _ h
  · cases blankAfter _ h

theorem Fills.spells_trim (h : e.Fills field) : e.Spells field.trim := by
  obtain ⟨before, core, after, blankBefore, blankAfter, spells, rfl⟩ := h
  rwa [Text.trim_blank_append blankBefore, Text.trim_append_blank blankAfter, spells.trim_eq]

theorem Spells.letter? {c : Capital} (h : (Entry.letter c).Spells field) : letter? field = some c.char := by
  have trimmed := h.trim_eq
  cases h with
  | letter same =>
    rw [LabelPreview.letter?, trimmed, Text.asciiUpper, List.map_singleton, same]

end Entry

/-! ## Cutting into fields -/

theorem Written.spells {a b : Entry} {entries : List Entry} {params : Text} (h : Written (a :: b :: entries) params) :
    List.Forall₂ Entry.Spells (a :: b :: entries) (fields params) := by
  obtain ⟨texts, filled, rfl⟩ := h
  have free : ∀ f ∈ texts, ',' ∉ f := fun f hf => by
    obtain ⟨i, hi, rfl⟩ := List.mem_iff_getElem.mp hf
    exact (filled.get (filled.length_eq ▸ hi) hi).comma_notMem
  have spelled : List.Forall₂ Entry.Spells (a :: b :: entries) (texts.map Text.trim) :=
    List.forall₂_map_right_iff.mpr (filled.imp fun _ _ h => h.spells_trim)
  cases filled with
  | cons _ filled =>
    cases filled with
    | cons _ _ => rwa [fields_join free]

/-! ## Writing -/

namespace Literal

def ofInt (n : Int) : Literal where
  sign := if n < 0 then some true else none
  digits := Nat.toDigits 10 n.natAbs
  digits_ne_nil := Nat.toDigits_ne_nil
  isDigit_of_mem _ h := Nat.isDigit_of_mem_toDigits (by decide) (by decide) h

theorem value_ofInt (n : Int) : (ofInt n).value = n := by
  have digits : Text.decimalValue (Nat.toDigits 10 n.natAbs) = n.natAbs := Nat.ofDigitChars_ten_toDigits
  unfold value
  show (if (if n < 0 then some true else none) = some true then
    -(Text.decimalValue (Nat.toDigits 10 n.natAbs) : Int) else Text.decimalValue (Nat.toDigits 10 n.natAbs)) = n
  rw [digits]
  by_cases negative : n < 0
  · rw [if_pos negative, if_pos rfl]
    omega
  · rw [if_neg negative, if_neg (by simp)]
    omega

end Literal

theorem Entry.exists_spells (e : Entry) : ∃ field, e.Spells field := by
  cases e with
  | blank => exact ⟨[], .blank⟩
  | number n =>
    have spells := Spells.number (Literal.ofInt n)
    rw [Literal.value_ofInt] at spells
    exact ⟨_, spells⟩
  | letter c => exact ⟨_, .letter c.toUpper_char⟩

/-- Whatever the entries are, there are parameters for them. -/
theorem exists_written (entries : List Entry) : ∃ params, Written entries params := by
  choose spelling spells using Entry.exists_spells
  exact ⟨_, _, List.forall₂_map_right_iff.mpr (List.forall₂_same.mpr fun e _ => (spells e).fills), rfl⟩

end LabelPreview
