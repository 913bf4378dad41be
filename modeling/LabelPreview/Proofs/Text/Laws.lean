import LabelPreview.Text.Basic
import Mathlib.Data.List.Induction
import Mathlib.Tactic.SplitIfs

/-!
# Trimming, cutting and counting texts

What the parameters of a command go through before they are read: blanks at the ends are dropped, fields are cut
at commas, and numbers are read from their digits.
-/

namespace LabelPreview.Text

/-! ## Trimming -/

theorem trimEnd_concat (s : Text) (c : Char) :
    trimEnd (s ++ [c]) = if isBlank c then trimEnd s else s ++ [c] := by
  unfold trimEnd
  rw [List.reverse_append, List.reverse_singleton, List.singleton_append, List.dropWhile_cons]
  split_ifs with blank
  · rfl
  · rw [List.reverse_cons, List.reverse_reverse]

theorem trimEnd_append_solid (front s : Text) {c : Char} (solid : isBlank c = false) :
    trimEnd (front ++ c :: s) = front ++ c :: trimEnd s := by
  induction s using List.reverseRecOn with
  | nil => rw [trimEnd_concat, solid]; rfl
  | append_singleton s d ih =>
    rw [← List.cons_append, ← List.append_assoc, trimEnd_concat, trimEnd_concat, ih]
    split_ifs with blank
    · rfl
    · rw [List.append_assoc, List.cons_append]

theorem trimEnd_of_solid {s : Text} (solid : ∀ c ∈ s, isBlank c = false) : trimEnd s = s := by
  cases s using List.reverseRecOn with
  | nil => rfl
  | append_singleton s c =>
    have last : isBlank c = false := solid c (by simp)
    rw [trimEnd_concat, last]
    rfl

theorem trimStart_cons_solid {c : Char} (solid : isBlank c = false) (s : Text) :
    trimStart (c :: s) = c :: s := by
  rw [trimStart, List.dropWhile_cons, solid]
  rfl

theorem trim_of_solid {s : Text} (solid : ∀ c ∈ s, isBlank c = false) : trim s = s := by
  cases s with
  | nil => rfl
  | cons c s => rw [trim, trimStart_cons_solid (solid c List.mem_cons_self), trimEnd_of_solid solid]

theorem filter_takeWhile_trimEnd (keep : Char → Bool) (s : Text) :
    ((trimEnd s).takeWhile keep).filter (fun c => !isBlank c) =
      (s.takeWhile keep).filter fun c => !isBlank c := by
  induction s using List.reverseRecOn with
  | nil => rfl
  | append_singleton s c ih =>
    rw [trimEnd_concat]
    split_ifs with blank
    · -- the blank at the end counts only if nothing stops in front of it, and then it is filtered out
      rw [ih, List.takeWhile_append]
      split_ifs with all
      · have whole : s.takeWhile keep = s := (List.takeWhile_sublist keep).eq_of_length all
        have none : [c].takeWhile keep = [] ∨ [c].takeWhile keep = [c] := by
          cases h : keep c <;> simp [h]
        rw [whole, List.filter_append]
        obtain none | one := none
        · rw [none, List.filter_nil, List.append_nil]
        · rw [one, List.filter_cons, blank]
          simp
      · rfl
    · rfl

/-! ## Cutting -/

theorem cutAt_append {mark : Char} {front : Text} (free : mark ∉ front) (rest : Text) :
    cutAt mark (front ++ mark :: rest) = some (front, rest) := by
  induction front with
  | nil => rw [List.nil_append, cutAt, if_pos rfl]
  | cons c front ih =>
    have other : c ≠ mark := fun h => free (h ▸ List.mem_cons_self)
    rw [List.cons_append, cutAt, if_neg other, ih fun h => free (List.mem_cons_of_mem c h)]
    rfl

theorem cutAt_of_notMem {mark : Char} {s : Text} (free : mark ∉ s) : cutAt mark s = none := by
  induction s with
  | nil => rfl
  | cons c s ih =>
    have other : c ≠ mark := fun h => free (h ▸ List.mem_cons_self)
    rw [cutAt, if_neg other, ih fun h => free (List.mem_cons_of_mem c h)]
    rfl

theorem cutAt_eq_some_iff {mark : Char} {s front rest : Text} :
    cutAt mark s = some (front, rest) ↔ mark ∉ front ∧ s = front ++ mark :: rest := by
  constructor
  · intro h
    by_cases there : mark ∈ s
    · obtain ⟨a, r, rfl, free⟩ := List.eq_append_cons_of_mem there
      rw [cutAt_append free] at h
      cases h
      exact ⟨free, rfl⟩
    · rw [cutAt_of_notMem there] at h
      cases h
  · rintro ⟨free, rfl⟩
    exact cutAt_append free rest

/-- A text has no mark, or is a text without one, then the mark and then a text. -/
theorem cuts_induction (mark : Char) {P : Text → Prop} (whole : ∀ s, mark ∉ s → P s)
    (cut : ∀ front rest, mark ∉ front → P rest → P (front ++ mark :: rest)) (s : Text) : P s := by
  by_cases there : mark ∈ s
  · obtain ⟨front, rest, rfl, free⟩ := List.eq_append_cons_of_mem there
    exact cut front rest free (cuts_induction mark whole cut rest)
  · exact whole s there
  termination_by s.length
  decreasing_by
    subst s
    simp only [List.length_append, List.length_cons]
    omega

theorem notMem_of_mem_splitOn {mark : Char} {s piece : Text} (h : piece ∈ s.splitOn mark) : mark ∉ piece := by
  induction s using cuts_induction mark with
  | whole s free =>
    rw [List.splitOn_eq_singleton free] at h
    rwa [List.mem_singleton.mp h]
  | cut front rest free ih =>
    rw [List.splitOn_append_cons_self_of_not_mem free] at h
    rcases List.mem_cons.mp h with rfl | h
    · exact free
    · exact ih h

/-! ## Numbers -/

theorem isDigit_of_mem_toDigits {n : Nat} {c : Char} (h : c ∈ Nat.toDigits 10 n) : c.isDigit = true :=
  Nat.isDigit_of_mem_toDigits (by decide) (by decide) h

theorem count?_of_digits {s : Text} (nonempty : s ≠ []) (digits : ∀ c ∈ s, c.isDigit = true)
    (small : decimalValue s < 0x10000000000000000) : count? s = some (decimalValue s) := by
  have empty : s.isEmpty = false := List.isEmpty_eq_false_iff.mpr nonempty
  have other : s.any (fun c => !c.isDigit) = false := by simpa using digits
  unfold count?
  split
  · -- a sign is no digit
    rename_i rest
    exact absurd (digits '+' List.mem_cons_self) (by decide)
  · simp only
    rw [empty, other, Bool.or_false, if_neg Bool.false_ne_true, if_pos small]

theorem count?_toDigits {n : Nat} (h : n < 0x10000000000000000) : count? (Nat.toDigits 10 n) = some n := by
  have value : decimalValue (Nat.toDigits 10 n) = n := Nat.ofDigitChars_ten_toDigits
  rw [count?_of_digits Nat.toDigits_ne_nil (fun c hc => isDigit_of_mem_toDigits hc) (by rwa [value]), value]

theorem solid_of_visible {c : Char} (h : 33 ≤ c.toNat ∧ c.toNat ≤ 126) : isBlank c = false := by
  simp only [isBlank, Bool.or_eq_false_iff, Bool.and_eq_false_iff, decide_eq_false_iff_not, beq_eq_false_iff_ne]
  omega

theorem solid_of_isAlphanum {c : Char} (h : c.isAlphanum = true) : isBlank c = false := by
  have range : (decide (65 ≤ c.toNat ∧ c.toNat ≤ 90) || (decide (97 ≤ c.toNat) && decide (c.toNat ≤ 122)) ||
      (decide (48 ≤ c.toNat) && decide (c.toNat ≤ 57))) = true := h
  simp only [Bool.or_eq_true, Bool.and_eq_true, decide_eq_true_eq] at range
  exact solid_of_visible (by omega)

theorem solid_of_isDigit {c : Char} (h : c.isDigit = true) : isBlank c = false :=
  solid_of_isAlphanum (by simp [Char.isAlphanum, h])

theorem solid_of_isUpper {c : Char} (h : c.isUpper = true) : isBlank c = false :=
  solid_of_isAlphanum (show (c.isUpper || c.isLower || c.isDigit) = true by simp [h])

end LabelPreview.Text
