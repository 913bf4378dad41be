import LabelPreview.Proofs.Command.Spelling
import LabelPreview.Proofs.Text.Blanks

/-!
# Compact streams

Blanks in front of a control character, and at the end of a stream, are the last thing in the parameters of a command,
or in what is passed over. A compact stream is without them. It has the same commands, up to blanks at the end of
their parameters.
-/

namespace LabelPreview

open Text

/-! ## Compact texts -/

namespace Token

variable {w s : Text} {c : Char}

/-- The text without the blanks in front of control characters and at its end. -/
def compact (s : Text) : Text :=
  trimEnd (s.takeWhile isPlain) ++ ((pieces s).map trimEnd).flatten

theorem solid_of_isControl (h : isControl c = true) : isBlank c = false := by
  simp only [isControl, Bool.or_eq_true, beq_iff_eq] at h
  rcases h with rfl | rfl
  · rfl
  · rfl

theorem isPlain_of_isBlank (h : isBlank c = true) : isPlain c = true :=
  isPlain_of_pred (by decide) (by decide) h

theorem pieces_append_plain (plain : ∀ x ∈ w, isPlain x = true) (s : Text) : pieces (w ++ s) = pieces s := by
  rw [← pieces_dropWhile, List.dropWhile_append_of_pos plain, pieces_dropWhile]

theorem compact_of_blank (hw : AllBlank w) : compact w = [] := by
  have plain : ∀ x ∈ w, isPlain x = true := fun x hx => isPlain_of_isBlank (hw x hx)
  rw [compact, pieces_of_plain plain, List.takeWhile_eq_self_iff.mpr plain, trimEnd_of_blank hw]
  rfl

theorem compact_control (hw : AllBlank w) (hc : isControl c = true) (s : Text) :
    compact (w ++ c :: s) = c :: compact s := by
  have plain : ∀ x ∈ w, isPlain x = true := fun x hx => isPlain_of_isBlank (hw x hx)
  rw [compact, pieces_append_plain plain, List.takeWhile_append_of_pos plain, stops_cons hc, List.append_nil,
    trimEnd_of_blank hw, pieces, if_pos hc, List.map_cons, trimEnd_cons_solid (solid_of_isControl hc)]
  rfl

theorem compact_plain (hw : AllBlank w) (solid : isBlank c = false) (hc : isPlain c = true) (s : Text) :
    compact (w ++ c :: s) = w ++ c :: compact s := by
  have plain : ∀ x ∈ w, isPlain x = true := fun x hx => isPlain_of_isBlank (hw x hx)
  have same : pieces (c :: s) = pieces s := pieces_append_plain (w := [c]) (by simpa using hc) s
  rw [compact, pieces_append_plain plain, List.takeWhile_append_of_pos plain, List.takeWhile_cons_of_pos hc,
    trimEnd_append_solid w _ solid, same, compact, List.append_assoc]
  rfl

theorem compact_cons_solid (solid : isBlank c = false) (s : Text) : compact (c :: s) = c :: compact s := by
  cases hc : isPlain c with
  | true => exact compact_plain allBlank_nil solid hc s
  | false => exact compact_control allBlank_nil (by simpa [isPlain] using hc) s

theorem compact_append {a b : Text} (hb : Stops b) : compact (a ++ b) = compact a ++ compact b := by
  rw [compact, takeWhile_append_stops hb, pieces_append hb, List.map_append, List.flatten_append, compact,
    compact, hb, List.append_assoc]
  rfl

/-- The cases of a text by its first run of blanks: it is all, a control character is behind it, or another one. -/
theorem layout_induction {P : Text → Prop} (run : ∀ w, AllBlank w → P w)
    (control : ∀ w c s, AllBlank w → isControl c = true → P s → P (w ++ c :: s))
    (plain : ∀ w c s, AllBlank w → isBlank c = false → isPlain c = true → P s → P (w ++ c :: s))
    (s : Text) : P s := by
  induction s using blanks_induction with
  | run w hw => exact run w hw
  | solid w c s hw solid ih =>
    cases hc : isPlain c with
    | true => exact plain w c s hw solid hc ih
    | false => exact control w c s hw (by simpa [isPlain] using hc) ih

/-! ## Compact and trimmed -/

theorem compact_trimEnd (s : Text) : compact (trimEnd s) = compact s := by
  induction s using layout_induction with
  | run w hw => rw [trimEnd_of_blank hw, compact_of_blank hw]; rfl
  | control w c s hw hc ih =>
    rw [trimEnd_append_solid w s (solid_of_isControl hc), compact_control hw hc, compact_control hw hc, ih]
  | plain w c s hw solid hc ih =>
    rw [trimEnd_append_solid w s solid, compact_plain hw solid hc, compact_plain hw solid hc, ih]

theorem compact_trimStart (s : Text) : compact (trimStart s) = trimStart (compact s) := by
  cases s using layout_induction with
  | run w hw => rw [trimStart_of_blank hw, compact_of_blank hw]; rfl
  | control w c s hw hc =>
    have solid := solid_of_isControl hc
    rw [trimStart_append_blank hw, trimStart_cons_solid solid, compact_cons_solid solid,
      compact_control hw hc, trimStart_cons_solid solid]
  | plain w c s hw solid hc =>
    rw [trimStart_append_blank hw, trimStart_cons_solid solid, compact_cons_solid solid,
      compact_plain hw solid hc, trimStart_append_blank hw, trimStart_cons_solid solid]

theorem compact_trim (s : Text) : compact (trim s) = trimStart (compact s) := by
  rw [trim, compact_trimEnd, compact_trimStart]

theorem compact_rewrite {f : Text → Text} (hf : RewritesRuns f) (s : Text) : compact (f s) = f (compact s) := by
  induction s using layout_induction with
  | run w hw => rw [compact_of_blank hw, compact_of_blank (hf.blank hw), hf.nil]
  | control w c s hw hc ih =>
    have solid := solid_of_isControl hc
    rw [hf.split w s solid, compact_control hw hc, compact_control (hf.blank hw) hc, ih, hf.cons_solid solid]
  | plain w c s hw solid hc ih =>
    rw [hf.split w s solid, compact_plain hw solid hc, compact_plain (hf.blank hw) solid hc, ih,
      hf.split w _ solid]

/-! ## Scanning a compact text -/

theorem isPiece_trimEnd {p : Text} (hp : IsPiece p) : IsPiece (trimEnd p) := by
  obtain ⟨c, body, hc, plain⟩ := hp
  rw [trimEnd_cons_solid (solid_of_isControl hc)]
  exact .intro c _ hc fun x hx => plain x ((isPrefix_trimEnd body).subset hx)

theorem plain_trimmed_front (s : Text) : ∀ x ∈ trimEnd (s.takeWhile isPlain), isPlain x = true :=
  fun _ hx => List.mem_takeWhile_imp ((isPrefix_trimEnd _).subset hx)

theorem pieces_compact (s : Text) : pieces (compact s) = (pieces s).map trimEnd := by
  refine pieces_flatten (plain_trimmed_front s) fun p hp => ?_
  obtain ⟨q, hq, rfl⟩ := List.mem_map.mp hp
  exact isPiece_trimEnd (isPiece_of_mem hq)

def trimmed (t : Token) : Token := { t with params := t.params.trimEnd }

theorem solid_of_isNameTail (h : isNameTail c = true) : isBlank c = false := by
  simp only [isNameTail, Bool.or_eq_true, beq_iff_eq] at h
  rcases h with (h | h) | rfl
  · exact solid_of_isUpper h
  · exact solid_of_isDigit h
  · rfl

theorem readName_eq_none_of_isPrefix {p q : Text} (part : q <+: p) (h : readName p = none) : readName q = none := by
  obtain ⟨rest, rfl⟩ := part
  rcases q with _ | ⟨mark, _ | ⟨first, _ | ⟨second, q⟩⟩⟩
  · rfl
  · rfl
  · rfl
  · simp only [List.cons_append, readName] at h ⊢
    split_ifs at h ⊢
    rfl

theorem readPiece_trimEnd (p : Text) : readPiece (trimEnd p) = (readPiece p).map trimmed := by
  cases h : readName p with
  | none => rw [readPiece, readPiece, h, readName_eq_none_of_isPrefix (isPrefix_trimEnd p) h]; rfl
  | some found =>
    rcases p with _ | ⟨mark, _ | ⟨first, _ | ⟨second, p⟩⟩⟩
    · cases h
    · cases h
    · cases h
    · by_cases name : (isControl mark && first.isUpper && isNameTail second) = true
      · have solid := name
        simp only [Bool.and_eq_true] at solid
        obtain ⟨⟨hmark, hfirst⟩, hsecond⟩ := solid
        rw [trimEnd_cons_solid (solid_of_isControl hmark), trimEnd_cons_solid (solid_of_isUpper hfirst),
          trimEnd_cons_solid (solid_of_isNameTail hsecond)]
        simp only [readPiece, readName, name, if_true]
        split_ifs
        · simp [trimmed, trimEnd_cons_solid (solid_of_isNameTail hsecond)]
        · rfl
      · rw [readName, if_neg name] at h
        cases h

theorem scan_compact (s : Text) : scan (compact s) = (scan s).map trimmed := by
  rw [scan_eq, scan_eq, pieces_compact, List.filterMap_map, List.map_filterMap]
  exact congrArg (List.filterMap · (pieces s)) (funext readPiece_trimEnd)

theorem eq_cons_of_compact {u : Text} (solid : isBlank c = false) (hc : isPlain c = true)
    (h : compact s = c :: u) : ∃ rest, s = c :: rest ∧ compact rest = u := by
  cases s using layout_induction with
  | run w hw => rw [compact_of_blank hw] at h; cases h
  | control w d s hw hd =>
    rw [compact_control hw hd] at h
    obtain ⟨rfl, -⟩ := List.cons.inj h
    simp [isPlain, hd] at hc
  | plain w d s hw hsolid hd =>
    rw [compact_plain hw hsolid hd] at h
    cases w with
    | nil =>
      obtain ⟨rfl, rfl⟩ := List.cons.inj h
      exact ⟨s, rfl, rfl⟩
    | cons b w =>
      obtain ⟨rfl, -⟩ := List.cons.inj h
      rw [hw b List.mem_cons_self] at solid
      cases solid

/-! ## More blanks and single spaces -/

/-- A text with blanks put in at its ends and in front of control characters. -/
inductive Respaced (t : Text) : Text → Prop
  | refl : Respaced t t
  | insert {a w b : Text} (so : Respaced t (a ++ b)) (blank : AllBlank w)
      (place : a = [] ∨ b = [] ∨ ∃ c rest, b = c :: rest ∧ (c = '^' ∨ c = '~')) : Respaced t (a ++ w ++ b)

theorem compact_insert {w b : Text} (a : Text) (hw : AllBlank w) (hb : Stops b) :
    compact (a ++ w ++ b) = compact (a ++ b) := by
  have front : compact (a ++ w) = compact a := by
    rw [← compact_trimEnd (a ++ w), trimEnd_append_blank hw, compact_trimEnd]
  rw [compact_append hb, front, ← compact_append hb]

theorem Respaced.compact_trim {t t' : Text} (h : Respaced t t') : compact (trim t') = compact (trim t) := by
  induction h with
  | refl => rfl
  | @insert a w b _ hw place ih =>
    rw [← ih, Token.compact_trim, Token.compact_trim]
    rcases place with rfl | rfl | ⟨c, rest, rfl, hc⟩
    · rw [List.nil_append, List.nil_append, ← compact_trimStart, trimStart_append_blank hw, compact_trimStart]
    · rw [compact_insert (b := []) a hw rfl]
    · rw [compact_insert a hw (stops_cons (by simpa [isControl] using hc))]

/-- Between a solid character and another one that is no control character, blanks are a single space. -/
def OneSpace (a w b : Text) : Prop :=
  w ≠ [] → AllBlank w → (∃ c ∈ a.getLast?, isBlank c = false) →
    (∃ c ∈ b.head?, isBlank c = false ∧ c ≠ '^' ∧ c ≠ '~') → w = [' ']

/-- Every run of blanks is a single space, but for those at the ends and in front of control characters. -/
def SingleSpaced (t : Text) : Prop := ∀ a w b, t = a ++ w ++ b → OneSpace a w b

instance (a w b : Text) : Decidable (OneSpace a w b) :=
  let _ : Decidable (∃ c ∈ a.getLast?, isBlank c = false) := Option.decidableExistsMem _
  let _ : Decidable (∃ c ∈ b.head?, isBlank c = false ∧ c ≠ '^' ∧ c ≠ '~') := Option.decidableExistsMem _
  inferInstanceAs (Decidable (w ≠ [] → AllBlank w → _ → _ → _))

theorem singleSpaced_iff (t : Text) :
    SingleSpaced t ↔ ∀ i < t.length + 1, ∀ j < t.length + 1,
      OneSpace (t.take i) ((t.drop i).take j) ((t.drop i).drop j) := by
  constructor
  · intro h i _ j _
    apply h
    rw [List.append_assoc, List.take_append_drop, List.take_append_drop]
  · rintro h a w b rfl
    have cut := h a.length (by simp only [List.length_append]; omega) w.length
      (by simp only [List.length_append]; omega)
    simpa using cut

instance (t : Text) : Decidable (SingleSpaced t) := decidable_of_iff _ (singleSpaced_iff t).symm

theorem SingleSpaced.part {s t : Text} (h : SingleSpaced t) (part : s <:+: t) : SingleSpaced s := by
  obtain ⟨x, y, rfl⟩ := part
  rintro a w b rfl some hw ⟨c, hc, solid⟩ ⟨d, hd, next⟩
  refine h (x ++ a) w (b ++ y) (by simp) some hw ⟨c, ?_, solid⟩ ⟨d, ?_, next⟩
  · exact List.mem_getLast?_append_of_mem_getLast? hc
  · exact List.mem_head?_append_of_mem_head? hd

/-- With single spaces there is nothing to rewrite in a compact text. -/
theorem rewrite_compact {f : Text → Text} (hf : RewritesRuns f) (one : f [' '] = [' ']) {x : Char} {s : Text}
    (solid : isBlank x = false) (h : SingleSpaced (x :: s)) : f (compact s) = compact s := by
  induction s using layout_induction generalizing x with
  | run w hw => rw [compact_of_blank hw, hf.nil]
  | control w c s hw hc ih =>
    have hsolid := solid_of_isControl hc
    have rest : SingleSpaced (c :: s) := h.part ⟨x :: w, [], by simp⟩
    rw [compact_control hw hc, hf.cons_solid hsolid, ih hsolid rest]
  | plain w c s hw hsolid hc ih =>
    have rest : SingleSpaced (c :: s) := h.part ⟨x :: w, [], by simp⟩
    have run : f w = w := by
      rcases eq_or_ne w [] with rfl | some
      · exact hf.nil
      · rw [h [x] w (c :: s) rfl some hw ⟨x, rfl, solid⟩ ⟨c, rfl, hsolid, isPlain_iff.mp hc⟩, one]
    rw [compact_plain hw hsolid hc, hf.split w _ hsolid, run, ih hsolid rest]

theorem rewrite_compact_trim {f : Text → Text} (hf : RewritesRuns f) (one : f [' '] = [' ']) {t : Text}
    (h : SingleSpaced t) : f (compact (trim t)) = compact (trim t) := by
  cases ht : trim t with
  | nil => exact hf.nil
  | cons x s =>
    have solid : isBlank x = false := solid_of_trimStart (ht ▸ trimStart_trim t)
    have spaced : SingleSpaced (x :: s) := ht ▸ h.part (infix_trim t)
    rw [compact_cons_solid solid, hf.cons_solid solid, rewrite_compact hf one solid spaced]

end Token

end LabelPreview
