import LabelPreview.Proofs.Format.Wrapper

/-!
# Templates in normal form

What a template keeps of a text has no blanks but single spaces, and none at its ends. Such a text is kept as it is
when it is read again, unless it is a wrapper itself.
-/

namespace LabelPreview

/-! ## Lone spaces -/

namespace Text

/-- The blanks of the text are spaces, and no two of them stand together. -/
structure LoneSpaces (s : Text) : Prop where
  spaces : ∀ c ∈ s, isBlank c = true → c = ' '
  apart : ¬[' ', ' '] <:+: s

theorem LoneSpaces.part {s t : Text} (h : LoneSpaces s) (part : t <:+: s) : LoneSpaces t where
  spaces c hc := h.spaces c (part.subset hc)
  apart two := h.apart (two.trans part)

theorem loneSpaces_collapseBlanks (s : Text) : LoneSpaces (collapseBlanks s) where
  spaces c hc blank := by
    rcases mem_collapseBlanks hc with space | solid
    · exact space
    · rw [blank] at solid
      cases solid
  apart := by
    induction s with
    | nil => simp [collapseBlanks]
    | cons c s ih =>
      cases hc : isBlank c with
      | false =>
        have other : ' ' ≠ c := by
          rintro rfl
          cases hc
        rw [collapseBlanks_cons_solid hc, List.infix_cons_iff, List.cons_prefix_cons, not_or]
        exact ⟨fun two => other two.1, ih⟩
      | true =>
        rw [collapseBlanks_cons_blank hc]
        split_ifs with more
        · exact ih
        · -- what stands behind the space is no blank
          rw [List.infix_cons_iff, List.cons_prefix_cons, not_or]
          refine ⟨fun two => ?_, ih⟩
          cases s with
          | nil => simp [collapseBlanks] at two
          | cons d s =>
            have hd : isBlank d = false := by simpa using more
            rw [collapseBlanks_cons_solid hd, List.cons_prefix_cons] at two
            obtain ⟨-, rfl, -⟩ := two
            cases hd

theorem LoneSpaces.collapseBlanks_eq {s : Text} (h : LoneSpaces s) : collapseBlanks s = s := by
  induction s with
  | nil => rfl
  | cons c s ih =>
    have rest := ih (h.part (List.suffix_cons c s).isInfix)
    cases hc : isBlank c with
    | false => rw [collapseBlanks_cons_solid hc, rest]
    | true =>
      obtain rfl := h.spaces c List.mem_cons_self hc
      have alone : ¬s.head?.any isBlank = true := by
        cases s with
        | nil => simp
        | cons d s =>
          intro hd
          obtain rfl := h.spaces d (by simp) (by simpa using hd)
          exact h.apart (List.prefix_append [' ', ' '] s).isInfix
      rw [collapseBlanks_cons_blank hc, if_neg alone, rest]

/-! ## Ends -/

theorem solid_of_head?_trim {s : Text} {c : Char} (h : (trim s).head? = some c) : isBlank c = false := by
  cases ht : trim s with
  | nil => rw [ht] at h; cases h
  | cons d t =>
    rw [ht] at h
    cases h
    exact solid_of_trimStart (ht ▸ trimStart_trim s)

theorem solid_of_getLast?_trim {s : Text} {c : Char} (h : (trim s).getLast? = some c) : isBlank c = false := by
  obtain ⟨t, ht⟩ := List.getLast?_eq_some_iff.mp h
  have kept := trimEnd_trim s
  rw [ht, trimEnd_concat] at kept
  by_contra blank
  rw [if_pos (by simpa using blank)] at kept
  have shorter := (isPrefix_trimEnd t).length_le
  rw [kept, List.length_append, List.length_singleton] at shorter
  omega

end Text

open Text

namespace Template

/-! ## Texts that are wrappers -/

/-- What stands between the keyword and the body: a name with parameters, or a name or none without parameters. -/
def IsHeader (s : Text) : Prop :=
  ∃ name w, (∀ c ∈ name, isNameChar c = true) ∧ AllBlank w ∧
    (s = name ++ w ∨ ∃ params, name ≠ [] ∧ s = name ++ '(' :: (params ++ ')' :: w))

/-- The text is the keyword, blanks, a header and a body in braces. -/
def Wraps (body s : Text) : Prop :=
  ∃ gap header, gap ≠ [] ∧ AllBlank gap ∧ IsHeader header ∧
    s = "label".toList ++ (gap ++ (header ++ '\x7b' :: body)) ++ ['\x7d']

theorem afterKeyword_eq_some_iff {s rest : Text} :
    afterKeyword s = some rest ↔
      trimStart rest = rest ∧ ∃ gap, gap ≠ [] ∧ AllBlank gap ∧ s = "label".toList ++ (gap ++ rest) := by
  constructor
  · intro h
    unfold afterKeyword at h
    split at h
    · rename_i c r keyword
      split_ifs at h with blank
      cases h
      refine ⟨List.dropWhile_idempotent _ r, c :: r.takeWhile isBlank, List.cons_ne_nil _ _, ?_, ?_⟩
      · rw [AllBlank, List.forall_mem_cons]
        exact ⟨blank, fun d hd => List.mem_takeWhile_imp hd⟩
      · have whole := List.takeWhile_append_dropWhile (p := isBlank) (l := r)
        rw [after?_eq_some_iff.mp keyword]
        show _ = "label".toList ++ c :: (r.takeWhile isBlank ++ r.dropWhile isBlank)
        rw [whole]
        rfl
    · cases h
  · rintro ⟨trimmed, _ | ⟨c, gap⟩, some, hgap, rfl⟩
    · exact absurd rfl some
    · obtain ⟨blank, hgap⟩ := List.forall_mem_cons.mp hgap
      have keyword : after? ['l', 'a', 'b', 'e', 'l'] ("label".toList ++ (c :: gap ++ rest)) =
          Option.some (c :: (gap ++ rest)) := after?_eq_some_iff.mpr rfl
      have behind : (gap ++ rest).dropWhile isBlank = rest := (trimStart_append_blank hgap rest).trans trimmed
      simp only [afterKeyword, keyword, blank, if_true, behind]

theorem eq_of_cutParams {s params body : Text} (h : cutParams s = some (params, body)) :
    ∃ w, AllBlank w ∧ s = params ++ ')' :: (w ++ '\x7b' :: body) := by
  induction s generalizing params with
  | nil => cases h
  | cons c s ih =>
    rw [cutParams] at h
    cases later : cutParams s with
    | some found =>
      rw [later] at h
      cases h
      obtain ⟨w, hw, rfl⟩ := ih later
      exact ⟨w, hw, rfl⟩
    | none =>
      rw [later] at h
      simp only at h
      split_ifs at h with here
      obtain ⟨y, brace, found⟩ := Option.map_eq_some_iff.mp h
      cases found
      obtain ⟨w, hw, rfl⟩ := afterBrace_eq_some_iff.mp brace
      exact ⟨w, hw, by rw [here]; rfl⟩

theorem wraps_of_wrapper? {s : Text} {w : Wrapper} (h : wrapper? s = some w) : Wraps w.body s := by
  unfold wrapper? at h
  simp only [Option.bind_eq_bind, Option.bind_eq_some_iff] at h
  obtain ⟨inner, closed, rest, keyword, found⟩ := h
  obtain ⟨-, gap, some, hgap, rfl⟩ := afterKeyword_eq_some_iff.mp keyword
  have chars : ∀ c ∈ rest.takeWhile isNameChar, isNameChar c = true := fun c hc => List.mem_takeWhile_imp hc
  have whole := List.takeWhile_append_dropWhile (p := isNameChar) (l := rest)
  -- the header is what there is in front of the brace
  suffices hrest : ∃ header, IsHeader header ∧ rest = header ++ '\x7b' :: w.body by
    obtain ⟨header, hheader, rfl⟩ := hrest
    exact ⟨gap, header, some, hgap, hheader, before?_eq_some_iff.mp closed⟩
  generalize rest.takeWhile isNameChar = name at chars whole found
  generalize rest.dropWhile isNameChar = tail at whole found
  split at found
  · split_ifs at found with named
    obtain ⟨⟨params, body⟩, cut, last⟩ := Option.bind_eq_some_iff.mp found
    cases last
    obtain ⟨v, hv, rfl⟩ := eq_of_cutParams cut
    refine ⟨_, ⟨name, v, chars, hv, .inr ⟨params, by simpa using named, rfl⟩⟩, ?_⟩
    rw [← whole]
    simp
  · obtain ⟨body, brace, last⟩ := Option.bind_eq_some_iff.mp found
    cases last
    obtain ⟨v, hv, rfl⟩ := afterBrace_eq_some_iff.mp brace
    exact ⟨_, ⟨name, v, chars, hv, .inl rfl⟩, by rw [← whole, List.append_assoc]⟩

theorem exists_wrapper?_of_wraps {s body : Text} (h : Wraps body s) : ∃ w, wrapper? s = some w := by
  obtain ⟨gap, header, apart, hgap, ⟨name, v, chars, hv, shape⟩, rfl⟩ := h
  rcases shape with rfl | ⟨params, named, rfl⟩
  · rcases eq_or_ne name [] with rfl | named
    · -- without a name the keyword takes all blanks
      have blank : AllBlank (gap ++ v) := List.forall_mem_append.mpr ⟨hgap, hv⟩
      have keyword : afterKeyword ("label".toList ++ (gap ++ ([] ++ v ++ '\x7b' :: body))) =
          some ([] ++ ([] ++ '\x7b' :: body)) :=
        afterKeyword_eq_some_iff.mpr ⟨rfl, gap ++ v, by simp [apart], blank, by simp⟩
      exact ⟨_, wrapper?_withoutParams chars allBlank_nil keyword⟩
    · have keyword : afterKeyword ("label".toList ++ (gap ++ (name ++ v ++ '\x7b' :: body))) =
          some (name ++ (v ++ '\x7b' :: body)) :=
        afterKeyword_eq_some_iff.mpr ⟨trimStart_name named chars _, gap, apart, hgap, by simp⟩
      exact ⟨_, wrapper?_withoutParams chars hv keyword⟩
  · have keyword : afterKeyword ("label".toList ++ (gap ++ (name ++ '(' :: (params ++ ')' :: v) ++ '\x7b' :: body))) =
        some (name ++ '(' :: (params ++ ')' :: (v ++ '\x7b' :: body))) :=
      afterKeyword_eq_some_iff.mpr ⟨trimStart_name named chars _, gap, apart, hgap, by simp⟩
    obtain ⟨⟨inside, rest⟩, cut⟩ : ∃ found, cutParams (params ++ ')' :: (v ++ '\x7b' :: body)) = some found := by
      apply Option.ne_none_iff_exists'.mp
      rw [Ne, cutParams_eq_none_iff, not_not]
      exact ⟨params, v, body, rfl, hv⟩
    exact ⟨_, wrapper?_withParams chars keyword named cut⟩

theorem wrapper?_eq_none_iff {s : Text} : wrapper? s = none ↔ ∀ body, ¬Wraps body s := by
  constructor
  · intro none body h
    obtain ⟨w, found⟩ := exists_wrapper?_of_wraps h
    rw [none] at found
    cases found
  · intro h
    exact Option.eq_none_iff_forall_ne_some.mpr fun w found => h w.body (wraps_of_wrapper? found)

theorem Wraps.isInfix {s body : Text} (h : Wraps body s) : body <:+: s := by
  obtain ⟨gap, header, -, -, -, rfl⟩ := h
  exact ⟨"label".toList ++ gap ++ header ++ ['\x7b'], ['\x7d'], by simp⟩

/-! ## Reading -/

variable {limit : LengthLimit}

theorem source_ofText_spaced {t : Text} (h : LoneSpaces t) (fits : t.length ≤ limit.size) :
    (Format.ofText t limit).source = trim t := by
  have same := h.collapseBlanks_eq
  have kept : (Format.ofText (collapseBlanks t) limit).source = trim (collapseBlanks t) :=
    Format.source_ofText_collapsed (by rwa [same])
  rwa [same] at kept

/-- A text is kept as it stands after its blanks, or what is in its braces is. -/
theorem exists_source_read (s : Text) (limit : LengthLimit) :
    ∃ t, t <:+: normalize limit s ∧ (read s limit).source = trim t := by
  have spaced : LoneSpaces (normalize limit s) :=
    (loneSpaces_collapseBlanks (trim s)).part (List.take_prefix _ _).isInfix
  have fits : (normalize limit s).length ≤ limit.size := List.length_take_le _ _
  cases found : wrapper? (normalize limit s) with
  | none =>
    refine ⟨_, List.infix_rfl, ?_⟩
    simp only [read, found]
    exact source_ofText_spaced spaced fits
  | some w =>
    have inside := (wraps_of_wrapper? found).isInfix
    refine ⟨w.body, inside, ?_⟩
    simp only [read, found]
    exact source_ofText_spaced (spaced.part inside) (inside.length_le.trans fits)

theorem loneSpaces_read (s : Text) (limit : LengthLimit) : LoneSpaces (read s limit).source := by
  obtain ⟨t, part, source⟩ := exists_source_read s limit
  rw [source]
  exact (loneSpaces_collapseBlanks (trim s)).part ((infix_trim t).trans (part.trans (List.take_prefix _ _).isInfix))

theorem length_read_le (s : Text) (limit : LengthLimit) : (read s limit).source.length ≤ limit.size := by
  obtain ⟨t, part, source⟩ := exists_source_read s limit
  rw [source]
  exact (infix_trim t).length_le.trans (part.length_le.trans (List.length_take_le _ _))

/-- What a template keeps is not longer than the limit, begins and ends with no blank, and has no blanks inside but
single spaces. It is kept as it is when it is read once more, unless it is a keyword with a header and a body in
braces. -/
theorem read_normal (s : Text) (limit : LengthLimit) :
    let kept := (read s limit).source
    kept.length ≤ limit.size ∧
      (∀ c, kept.head? = some c → isBlank c = false) ∧ (∀ c, kept.getLast? = some c → isBlank c = false) ∧
      (∀ c ∈ kept, isBlank c = true → c = ' ') ∧ ¬[' ', ' '] <:+: kept ∧
      ((∀ body, ¬Wraps body kept) → (read kept limit).source = kept) := by
  intro kept
  obtain ⟨t, -, source⟩ := exists_source_read s limit
  have spaced : LoneSpaces kept := loneSpaces_read s limit
  have fits : kept.length ≤ limit.size := length_read_le s limit
  have trimmed : trim kept = kept := by
    simp only [kept, source]
    exact trim_trim t
  refine ⟨fits, fun c hc => ?_, fun c hc => ?_, spaced.spaces, spaced.apart, fun plain => ?_⟩
  · rw [← trimmed] at hc
    exact solid_of_head?_trim hc
  · rw [← trimmed] at hc
    exact solid_of_getLast?_trim hc
  · have normal : normalize limit kept = kept := by
      rw [normalize, trimmed, spaced.collapseBlanks_eq]
      exact List.take_of_length_le fits
    rw [read, normal, wrapper?_eq_none_iff.mpr plain]
    exact (source_ofText_spaced spaced fits).trans trimmed

/-- A text of two lines that is cut behind a space. -/
theorem read_normal_cut :
    let limit : LengthLimit := { size := 20 }
    let kept := "^XA ^FO5,50^FDHello".toList
    (read "^XA\n ^FO5,50^FDHello World^FS^XZ".toList limit).source = kept ∧
      (∀ c, kept.getLast? = some c → isBlank c = false) ∧ (∀ body, ¬Wraps body kept) ∧
      (read kept limit).source = kept := by
  intro limit kept
  obtain ⟨-, -, last, -, -, again⟩ := read_normal "^XA\n ^FO5,50^FDHello World^FS^XZ".toList limit
  have source : (read "^XA\n ^FO5,50^FDHello World^FS^XZ".toList limit).source = kept := by decide
  have plain : ∀ body, ¬Wraps body kept := wrapper?_eq_none_iff.mp rfl
  rw [source] at last again
  exact ⟨source, last, plain, again plain⟩

end Template

end LabelPreview
