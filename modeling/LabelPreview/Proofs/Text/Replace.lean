import LabelPreview.Text.Basic
import Mathlib.Tactic.SplitIfs

/-!
# Replacing in texts

Occurrences are replaced from the left, and what is put in for one is not looked at again.
-/

namespace LabelPreview.Text

theorem mem_replaceFrom {old new s : Text} {skip : Nat} {c : Char}
    (h : c ∈ replaceFrom old new skip s) : c ∈ new ∨ c ∈ s := by
  induction skip, s using replaceFrom.induct old with
  | case1 => simp [replaceFrom] at h
  | case2 skip d rest ih =>
    rw [replaceFrom] at h
    exact (ih h).imp_right (List.mem_cons_of_mem _)
  | case3 d rest hp ih =>
    rw [replaceFrom, if_pos hp, List.mem_append] at h
    rcases h with h | h
    · exact .inl h
    · exact (ih h).imp_right (List.mem_cons_of_mem _)
  | case4 d rest hp ih =>
    rw [replaceFrom, if_neg hp] at h
    rcases List.mem_cons.mp h with rfl | h
    · exact .inr List.mem_cons_self
    · exact (ih h).imp_right (List.mem_cons_of_mem _)

theorem replaceAll_of_notMem {a : Char} {old new s : Text} (h : a ∉ s) :
    replaceAll (a :: old) new s = s := by
  unfold replaceAll
  induction s with
  | nil => rfl
  | cons c s ih =>
    rw [List.mem_cons, not_or] at h
    rw [replaceFrom, if_neg (by simp [h.1]), ih h.2]

/-! ## Place by place -/

section

variable {old new : Text}

theorem replaceFrom_eq (old new : Text) (skip : Nat) (s : Text) :
    replaceFrom old new skip s = replaceAll old new (s.drop skip) := by
  induction skip generalizing s with
  | zero => rfl
  | succ skip ih =>
    cases s with
    | nil => rfl
    | cons c s => rw [replaceFrom, ih, List.drop_succ_cons]

theorem replaceAll_append_old (named : old ≠ []) (s : Text) :
    replaceAll old new (old ++ s) = new ++ replaceAll old new s := by
  cases old with
  | nil => exact absurd rfl named
  | cons a old =>
    have here : (a :: old).isPrefixOf (a :: (old ++ s)) = true :=
      List.isPrefixOf_iff_prefix.mpr (List.prefix_append (a :: old) s)
    rw [List.cons_append, replaceAll, replaceFrom, if_pos here, replaceFrom_eq]
    simp

theorem replaceAll_cons {c : Char} {s : Text} (other : ¬old <+: c :: s) :
    replaceAll old new (c :: s) = c :: replaceAll old new s := by
  rw [replaceAll, replaceFrom, if_neg fun h => other (List.isPrefixOf_iff_prefix.mp h), replaceAll]

theorem replaceAll_append_of_notMem {a : Char} {front : Text} (free : a ∉ front) (s : Text) :
    replaceAll (a :: old) new (front ++ s) = front ++ replaceAll (a :: old) new s := by
  induction front with
  | nil => rfl
  | cons c front ih =>
    rw [List.mem_cons, not_or] at free
    rw [List.cons_append, replaceAll_cons fun h => free.1 (List.cons_prefix_cons.mp h).1, ih free.2]
    rfl

/-- What stands at the start after replacing stood there before, or reaches a text that was put in. -/
theorem prefix_of_prefix_replaceAll (named : old ≠ []) {y s : Text} (h : y <+: replaceAll old new s) :
    y <+: s ∨ ∃ k < y.length, y.drop k <+: new ∨ new <+: y.drop k := by
  induction s generalizing y with
  | nil => exact .inl h
  | cons c s ih =>
    by_cases here : old <+: c :: s
    · obtain ⟨r, hr⟩ := here
      rw [← hr, replaceAll_append_old named] at h
      cases y with
      | nil => exact .inl (List.nil_prefix)
      | cons d y =>
        exact .inr ⟨0, Nat.succ_pos _, List.prefix_or_prefix_of_prefix h (List.prefix_append new _)⟩
    · rw [replaceAll_cons here, List.prefix_cons_iff] at h
      obtain rfl | ⟨y, rfl, hy⟩ := h
      · exact .inl (List.nil_prefix)
      · obtain before | ⟨k, hk, reach⟩ := ih hy
        · exact .inl (List.cons_prefix_cons.mpr ⟨rfl, before⟩)
        · exact .inr ⟨k + 1, Nat.succ_lt_succ hk, reach⟩

end

end LabelPreview.Text
