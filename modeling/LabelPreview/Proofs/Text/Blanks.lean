import LabelPreview.Proofs.Text.Laws
import LabelPreview.Proofs.Text.Replace
import Mathlib.Data.List.DropRight

/-!
# Runs of blanks

A template keeps a text with every run of blanks made a single space, and a format keeps it without the carriage
returns in front of line feeds. Both rewrite the runs of blanks one by one and leave the rest as it is, and
that is all that is used of them.
-/

namespace LabelPreview.Text

variable {w s : Text} {c : Char}

/-! ## Blanks and solid characters -/

def AllBlank (s : Text) : Prop := ∀ c ∈ s, isBlank c = true

instance (s : Text) : Decidable (AllBlank s) := decidable_of_iff (s.all isBlank = true) List.all_eq_true

theorem allBlank_nil : AllBlank [] := by simp [AllBlank]

theorem AllBlank.concat (h : AllBlank w) (hc : isBlank c = true) : AllBlank (w ++ [c]) := by
  intro x hx
  rcases List.mem_append.mp hx with hx | hx
  · exact h x hx
  · rw [List.mem_singleton.mp hx, hc]

/-- A text is a run of blanks, or a solid character behind a run of blanks and then a text. -/
theorem blanks_induction {P : Text → Prop} (run : ∀ w, AllBlank w → P w)
    (solid : ∀ w c s, AllBlank w → isBlank c = false → P s → P (w ++ c :: s)) (s : Text) : P s := by
  -- the run in progress stands in front of the text
  have running : ∀ w, AllBlank w → P (w ++ s) := by
    induction s with
    | nil =>
      intro w hw
      rw [List.append_nil]
      exact run w hw
    | cons c s ih =>
      intro w hw
      cases hc : isBlank c with
      | true =>
        rw [← List.singleton_append, ← List.append_assoc]
        exact ih (w ++ [c]) (hw.concat hc)
      | false => exact solid w c s hw hc (ih [] allBlank_nil)
  exact running [] allBlank_nil

/-! ## Trimming -/

theorem trimStart_append_blank (hw : AllBlank w) (s : Text) : trimStart (w ++ s) = trimStart s :=
  List.dropWhile_append_of_pos hw

theorem trimStart_of_blank (hw : AllBlank w) : trimStart w = [] := by
  have h := trimStart_append_blank hw []
  rwa [List.append_nil] at h

theorem trimStart_append_solid (front s : Text) (hc : isBlank c = false) :
    trimStart (front ++ c :: s) = trimStart front ++ c :: s := by
  cases front using blanks_induction with
  | run w hw => rw [trimStart_append_blank hw, trimStart_of_blank hw, trimStart_cons_solid hc]; rfl
  | solid w d front hw hd =>
    rw [List.append_assoc, List.cons_append, trimStart_append_blank hw, trimStart_append_blank hw,
      trimStart_cons_solid hd, trimStart_cons_solid hd, List.cons_append]

theorem trim_trimStart (s : Text) : trim (trimStart s) = trim s := by
  rw [trim, trim, trimStart, trimStart, List.dropWhile_idempotent]

theorem solid_of_trimStart (h : trimStart (c :: s) = c :: s) : isBlank c = false := by
  simpa using List.dropWhile_eq_self_iff.mp h (Nat.succ_pos s.length)

theorem trimEnd_append_blank (hw : AllBlank w) (s : Text) : trimEnd (s ++ w) = trimEnd s := by
  unfold trimEnd
  rw [List.reverse_append, List.dropWhile_append_of_pos fun c hc => hw c (List.mem_reverse.mp hc)]

theorem trimEnd_of_blank (hw : AllBlank w) : trimEnd w = [] := trimEnd_append_blank hw []

theorem trimEnd_cons_solid (hc : isBlank c = false) (s : Text) : trimEnd (c :: s) = c :: trimEnd s :=
  trimEnd_append_solid [] s hc

theorem isPrefix_trimEnd (s : Text) : trimEnd s <+: s := by
  have h := (List.dropWhile_suffix isBlank (l := s.reverse)).reverse
  rwa [List.reverse_reverse] at h

theorem infix_trim (s : Text) : trim s <:+: s :=
  (isPrefix_trimEnd _).isInfix.trans (List.dropWhile_suffix isBlank).isInfix

theorem trimEnd_trimEnd (s : Text) : trimEnd (trimEnd s) = trimEnd s := by
  induction s using blanks_induction with
  | run w hw => rw [trimEnd_of_blank hw]; rfl
  | solid w c s hw hc ih => rw [trimEnd_append_solid w s hc, trimEnd_append_solid w _ hc, ih]

theorem trimStart_trimEnd (s : Text) : trimStart (trimEnd s) = trimEnd (trimStart s) := by
  cases s using blanks_induction with
  | run w hw => rw [trimEnd_of_blank hw, trimStart_of_blank hw]; rfl
  | solid w c s hw hc =>
    rw [trimEnd_append_solid w s hc, trimStart_append_blank hw, trimStart_append_blank hw,
      trimStart_cons_solid hc, trimStart_cons_solid hc, trimEnd_cons_solid hc]

theorem trimEnd_trim (s : Text) : trimEnd (trim s) = trim s := trimEnd_trimEnd _

theorem trimStart_trim (s : Text) : trimStart (trim s) = trim s := by
  rw [trim, trimStart_trimEnd, trimStart, trimStart, List.dropWhile_idempotent]

theorem trim_trim (s : Text) : trim (trim s) = trim s := by
  rw [trim, trimStart_trim, trimEnd_trim]

theorem trim_of_solid_ends {d : Char} (hc : isBlank c = false) (hd : isBlank d = false) (s : Text) :
    trim (c :: s ++ [d]) = c :: s ++ [d] := by
  rw [trim, List.cons_append, trimStart_cons_solid hc, ← List.cons_append, trimEnd_append_solid _ [] hd]
  rfl

theorem trim_trimEnd (s : Text) : trim (trimEnd s) = trim s := by
  rw [trim, trimStart_trimEnd, trimEnd_trimEnd, trim]

theorem trim_append_blank (hw : AllBlank w) (s : Text) : trim (s ++ w) = trim s := by
  rw [← trim_trimEnd, trimEnd_append_blank hw, trim_trimEnd]

theorem trim_blank_append (hw : AllBlank w) (s : Text) : trim (w ++ s) = trim s := by
  rw [trim, trimStart_append_blank hw, trim]

theorem trim_eq_nil_iff : trim s = [] ↔ AllBlank s := by
  constructor
  · intro h
    cases s using blanks_induction with
    | run w hw => exact hw
    | solid w c s hw hc =>
      rw [trim_blank_append hw, trim, trimStart_cons_solid hc, trimEnd_cons_solid hc] at h
      cases h
  · intro h
    rw [trim, trimStart_of_blank h]
    rfl

/-! ## Rewriting the runs -/

/-- The function rewrites each run of blanks by itself. -/
structure RewritesRuns (f : Text → Text) : Prop where
  nil : f [] = []
  blank {w : Text} : AllBlank w → AllBlank (f w)
  split (a : Text) {c : Char} (s : Text) : isBlank c = false → f (a ++ c :: s) = f a ++ c :: f s

namespace RewritesRuns

variable {f : Text → Text} (hf : RewritesRuns f)

include hf

theorem cons_solid (hc : isBlank c = false) (s : Text) : f (c :: s) = c :: f s := by
  have h := hf.split [] s hc
  rwa [hf.nil] at h

theorem append_solid {a : Text} (solid : ∀ c ∈ a, isBlank c = false) (s : Text) : f (a ++ s) = a ++ f s := by
  induction a with
  | nil => rfl
  | cons c a ih =>
    rw [List.cons_append, hf.cons_solid (solid c List.mem_cons_self),
      ih fun d hd => solid d (List.mem_cons_of_mem _ hd)]
    rfl

theorem blank_of (h : AllBlank (f s)) : AllBlank s := by
  cases s using blanks_induction with
  | run w hw => exact hw
  | solid w c s hw hc =>
    rw [hf.split w s hc] at h
    rw [h c (by simp)] at hc
    cases hc

theorem exists_split {x r : Text} (hc : isBlank c = false) (h : f s = x ++ c :: r) :
    ∃ x' r', s = x' ++ c :: r' ∧ f x' = x ∧ f r' = r := by
  induction s using blanks_induction generalizing x with
  | run w hw =>
    have blank := hf.blank hw
    rw [h] at blank
    rw [blank c (by simp)] at hc
    cases hc
  | solid w d s hw hd ih =>
    rw [hf.split w s hd, List.append_eq_append_iff] at h
    rcases h with ⟨a, rfl, ha⟩ | ⟨a, ha, ht⟩
    · cases a with
      | nil =>
        obtain ⟨rfl, rfl⟩ := List.cons.inj ha
        exact ⟨w, s, rfl, by simp, rfl⟩
      | cons e a =>
        obtain ⟨rfl, hs⟩ := List.cons.inj ha
        obtain ⟨x', r', rfl, rfl, rfl⟩ := ih hs
        exact ⟨w ++ d :: x', r', by simp, hf.split w x' hd, rfl⟩
    · cases a with
      | nil =>
        obtain ⟨rfl, rfl⟩ := List.cons.inj ht
        exact ⟨w, s, rfl, by simpa using ha, rfl⟩
      | cons e a =>
        -- the character would be one of the run
        obtain ⟨rfl, -⟩ := List.cons.inj ht
        have blank := hf.blank hw
        rw [ha] at blank
        rw [blank c (by simp)] at hc
        cases hc

theorem mem_iff (hc : isBlank c = false) : c ∈ f s ↔ c ∈ s := by
  constructor
  · intro h
    obtain ⟨x, r, hs⟩ := List.append_of_mem h
    obtain ⟨x, r, rfl, -⟩ := hf.exists_split hc hs
    simp
  · intro h
    obtain ⟨x, r, rfl⟩ := List.append_of_mem h
    simp [hf.split x r hc]

theorem notMem (hc : isBlank c = false) (h : c ∉ s) : c ∉ f s := mt (hf.mem_iff hc).mp h

theorem splitOn {mark : Char} (hm : isBlank mark = false) (s : Text) :
    (f s).splitOn mark = (s.splitOn mark).map f := by
  induction s using cuts_induction mark with
  | whole s free =>
    rw [List.splitOn_eq_singleton free, List.splitOn_eq_singleton (hf.notMem hm free), List.map_singleton]
  | cut a r free ih =>
    rw [hf.split a r hm, List.splitOn_append_cons_self_of_not_mem free,
      List.splitOn_append_cons_self_of_not_mem (hf.notMem hm free), ih, List.map_cons]

theorem cutAt {mark : Char} (hm : isBlank mark = false) (s : Text) :
    Text.cutAt mark (f s) = (Text.cutAt mark s).map (Prod.map f f) := by
  cases s using cuts_induction mark with
  | whole s free => rw [cutAt_of_notMem free, cutAt_of_notMem (hf.notMem hm free), Option.map_none]
  | cut a r free =>
    rw [hf.split a r hm, cutAt_append (hf.notMem hm free), cutAt_append free]
    rfl

theorem trimStart (s : Text) : (f s).trimStart = f s.trimStart := by
  cases s using blanks_induction with
  | run w hw => rw [trimStart_of_blank (hf.blank hw), trimStart_of_blank hw, hf.nil]
  | solid w c s hw hc =>
    rw [hf.split w s hc, trimStart_append_blank (hf.blank hw), trimStart_append_blank hw,
      trimStart_cons_solid hc, trimStart_cons_solid hc, hf.cons_solid hc]

theorem trimEnd (s : Text) : (f s).trimEnd = f s.trimEnd := by
  induction s using blanks_induction with
  | run w hw => rw [trimEnd_of_blank (hf.blank hw), trimEnd_of_blank hw, hf.nil]
  | solid w c s hw hc ih =>
    rw [hf.split w s hc, trimEnd_append_solid _ _ hc, ih, trimEnd_append_solid w s hc, hf.split w _ hc]

theorem trim (s : Text) : (f s).trim = f s.trim := by
  rw [Text.trim, hf.trimStart, hf.trimEnd, Text.trim]

end RewritesRuns

/-! ## Collapsed blanks and plain line feeds -/

theorem collapseBlanks_cons_solid (hc : isBlank c = false) (s : Text) :
    collapseBlanks (c :: s) = c :: collapseBlanks s := by
  simp [collapseBlanks, hc]

theorem collapseBlanks_cons_blank (hc : isBlank c = true) (s : Text) :
    collapseBlanks (c :: s) =
      if s.head?.any isBlank then collapseBlanks s else ' ' :: collapseBlanks s := by
  rw [collapseBlanks.eq_def]
  cases s <;> exact if_pos hc

theorem collapseBlanks_of_blank (hw : AllBlank w) (some : w ≠ []) : collapseBlanks w = [' '] := by
  induction w with
  | nil => exact absurd rfl some
  | cons c w ih =>
    rw [collapseBlanks_cons_blank (hw c List.mem_cons_self)]
    cases w with
    | nil => rfl
    | cons d w =>
      have rest : AllBlank (d :: w) := fun x hx => hw x (List.mem_cons_of_mem _ hx)
      have blank : (d :: w).head?.any isBlank = true := rest d List.mem_cons_self
      rw [if_pos blank, ih rest (List.cons_ne_nil _ _)]

theorem rewritesRuns_collapseBlanks : RewritesRuns collapseBlanks where
  nil := rfl
  blank {w} hw := by
    rcases eq_or_ne w [] with rfl | some
    · exact allBlank_nil
    · rw [collapseBlanks_of_blank hw some]
      simp [AllBlank, isBlank]
  split a c s hc := by
    induction a with
    | nil => exact collapseBlanks_cons_solid hc s
    | cons d a ih =>
      cases hd : isBlank d with
      | false => rw [List.cons_append, collapseBlanks_cons_solid hd, collapseBlanks_cons_solid hd, ih]; rfl
      | true =>
        rw [List.cons_append, collapseBlanks_cons_blank hd, collapseBlanks_cons_blank hd, ih]
        -- what stands behind the blank is the same, unless it was the last one
        cases a with
        | nil => simp [hc, collapseBlanks]
        | cons e a =>
          have head : (e :: a ++ c :: s).head? = (e :: a).head? := rfl
          rw [head]
          split_ifs <;> rfl

theorem collapseBlanks_eq_nil_iff : collapseBlanks s = [] ↔ s = [] := by
  constructor
  · intro h
    have blank := rewritesRuns_collapseBlanks.blank_of (h ▸ allBlank_nil)
    by_contra some
    rw [collapseBlanks_of_blank blank some] at h
    cases h
  · rintro rfl
    rfl

theorem collapseBlanks_eq_solid_iff {x : Text} (solid : ∀ c ∈ x, isBlank c = false) :
    collapseBlanks s = x ↔ s = x := by
  constructor
  · intro h
    induction x generalizing s with
    | nil => exact collapseBlanks_eq_nil_iff.mp h
    | cons c x ih =>
      obtain ⟨a, r, rfl, ha, hr⟩ :=
        rewritesRuns_collapseBlanks.exists_split (x := []) (solid c List.mem_cons_self) h
      rw [collapseBlanks_eq_nil_iff.mp ha, ih (fun d hd => solid d (List.mem_cons_of_mem c hd)) hr]
      rfl
  · rintro rfl
    simpa [collapseBlanks] using rewritesRuns_collapseBlanks.append_solid solid []

theorem mem_collapseBlanks (h : c ∈ collapseBlanks s) : c = ' ' ∨ isBlank c = false := by
  induction s using blanks_induction with
  | run w hw =>
    rcases eq_or_ne w [] with rfl | some
    · cases h
    · rw [collapseBlanks_of_blank hw some] at h
      exact .inl (List.mem_singleton.mp h)
  | solid w d s hw hd ih =>
    rw [rewritesRuns_collapseBlanks.split w s hd, List.mem_append, List.mem_cons] at h
    rcases h with h | rfl | h
    · rcases eq_or_ne w [] with rfl | some
      · cases h
      · rw [collapseBlanks_of_blank hw some] at h
        exact .inl (List.mem_singleton.mp h)
    · exact .inr hd
    · exact ih h

theorem unixLines_cons (c : Char) (s : Text) :
    unixLines (c :: s) = if c = '\r' ∧ s.head? = some '\n' then unixLines s else c :: unixLines s := by
  unfold unixLines replaceAll
  rw [replaceFrom]
  cases s with
  | nil => simp [replaceFrom]
  | cons d s =>
    simp only [List.isPrefixOf_cons_cons, List.isPrefixOf_nil_left, Bool.and_true, Bool.and_eq_true, beq_iff_eq,
      List.head?_cons, Option.some.injEq, eq_comm (a := '\r'), eq_comm (a := '\n')]
    split_ifs with h
    · rw [h.2]
      simp [replaceFrom]
    · rfl

theorem rewritesRuns_unixLines : RewritesRuns unixLines where
  nil := rfl
  blank {w} hw := by
    intro c hc
    rcases mem_replaceFrom hc with hc | hc
    · rw [List.mem_singleton.mp hc]; rfl
    · exact hw c hc
  split a c s hc := by
    have other : c ≠ '\r' := by rintro rfl; cases hc
    have noLine : c ≠ '\n' := by rintro rfl; cases hc
    induction a with
    | nil => rw [List.nil_append, unixLines_cons, if_neg fun h => other h.1]; rfl
    | cons d a ih =>
      rw [List.cons_append, unixLines_cons, unixLines_cons, ih]
      cases a with
      | nil => simp [noLine, unixLines, replaceAll, replaceFrom]
      | cons e a =>
        have head : (e :: a ++ c :: s).head? = (e :: a).head? := rfl
        rw [head]
        split_ifs <;> rfl

theorem unixLines_collapseBlanks (s : Text) : unixLines (collapseBlanks s) = collapseBlanks s := by
  refine replaceAll_of_notMem fun h => ?_
  rcases mem_collapseBlanks h with h | h
  · cases h
  · cases h

theorem length_collapseBlanks_le (s : Text) : (collapseBlanks s).length ≤ (unixLines s).length := by
  induction s with
  | nil => exact Nat.le_refl 0
  | cons c s ih =>
    have kept : (unixLines s).length ≤ (unixLines (c :: s)).length := by
      rw [unixLines_cons]
      split_ifs
      · exact Nat.le_refl _
      · exact Nat.le_succ _
    cases hc : isBlank c with
    | false =>
      rw [collapseBlanks_cons_solid hc, rewritesRuns_unixLines.cons_solid hc]
      exact Nat.succ_le_succ ih
    | true =>
      rw [collapseBlanks_cons_blank hc]
      split_ifs with more
      · exact ih.trans kept
      · -- a line feed behind the blank would be one more
        rw [unixLines_cons, if_neg fun h => more (by rw [h.2]; rfl)]
        exact Nat.succ_le_succ ih

end LabelPreview.Text
