import LabelPreview.Proofs.Format.Layout

/-!
# Wrappers of templates

A wrapper with parameters ends them at the last closing parenthesis that an opening brace follows, also when that is
one of the body. So a body comes out of such a wrapper as it went in if it has no such place. Out of a wrapper
without parameters every body does.
-/

namespace LabelPreview

open Text

/-! ## Collapsed declarations -/

theorem VariableType.read_collapseBlanks (s : Text) : read (collapseBlanks s) = read s := by
  have number : ∀ c ∈ ['n', 'u', 'm', 'b', 'e', 'r'], isBlank c = false := by simp [isBlank]
  have boolean : ∀ c ∈ ['b', 'o', 'o', 'l', 'e', 'a', 'n'], isBlank c = false := by simp [isBlank]
  unfold read
  simp only [rewritesRuns_collapseBlanks.trim, collapseBlanks_eq_solid_iff number,
    collapseBlanks_eq_solid_iff boolean]

namespace Variables

theorem readDeclaration_collapseBlanks (piece : Text) :
    readDeclaration (collapseBlanks piece) =
      { readDeclaration piece with name := collapseBlanks (readDeclaration piece).name } := by
  unfold readDeclaration
  rw [rewritesRuns_collapseBlanks.cutAt (by rfl)]
  cases piece.cutAt ':' with
  | none => simp [rewritesRuns_collapseBlanks.trim]
  | some parts => simp [rewritesRuns_collapseBlanks.trim, VariableType.read_collapseBlanks]

theorem readDeclarations_collapseBlanks {params : Text}
    (single : ∀ piece ∈ params.splitOn ',',
      collapseBlanks (readDeclaration piece).name = (readDeclaration piece).name) :
    readDeclarations (collapseBlanks params) = readDeclarations params := by
  unfold readDeclarations
  rw [rewritesRuns_collapseBlanks.splitOn (by rfl), List.foldl_map]
  apply List.foldl_ext
  intro known piece hpiece
  rw [readDeclaration_collapseBlanks, single piece hpiece]

end Variables

namespace Template

/-! ## The last parenthesis with a brace behind it -/

/-- A closing parenthesis has an opening brace behind it, with blanks between or not. -/
def OpensBody (s : Text) : Prop := ∃ x w y, s = x ++ ')' :: (w ++ '\x7b' :: y) ∧ AllBlank w

theorem afterBrace_eq_some_iff {s y : Text} :
    afterBrace s = some y ↔ ∃ w, AllBlank w ∧ s = w ++ '\x7b' :: y := by
  constructor
  · intro h
    have whole := List.takeWhile_append_dropWhile (p := isBlank) (l := s)
    unfold afterBrace at h
    split at h
    · rename_i rest hrest
      cases h
      rw [hrest] at whole
      exact ⟨_, fun c hc => List.mem_takeWhile_imp hc, whole.symm⟩
    · cases h
  · rintro ⟨w, hw, rfl⟩
    rw [afterBrace, List.dropWhile_append_of_pos hw]
    rfl

theorem cutParams_append {s params body : Text} (h : cutParams s = some (params, body)) (a : Text) :
    cutParams (a ++ s) = some (a ++ params, body) := by
  induction a with
  | nil => exact h
  | cons c a ih => rw [List.cons_append, cutParams, ih]; rfl

theorem cutParams_here {w y : Text} (hw : AllBlank w) (none : cutParams (w ++ '\x7b' :: y) = none) :
    cutParams (')' :: (w ++ '\x7b' :: y)) = some ([], y) := by
  rw [cutParams, none, afterBrace_eq_some_iff.mpr ⟨w, hw, rfl⟩]
  rfl

theorem cutParams_eq_none_iff {s : Text} : cutParams s = none ↔ ¬OpensBody s := by
  constructor
  · rintro h ⟨x, w, y, rfl, hw⟩
    cases hs : cutParams (w ++ '\x7b' :: y) with
    | some found =>
      have later := cutParams_append (s := w ++ '\x7b' :: y) (by rw [hs]) (x ++ [')'])
      rw [List.append_assoc, List.singleton_append, h] at later
      cases later
    | none =>
      rw [cutParams_append (cutParams_here hw hs)] at h
      cases h
  · intro h
    induction s with
    | nil => rfl
    | cons c s ih =>
      have rest : cutParams s = none := by
        apply ih
        rintro ⟨x, w, y, rfl, hw⟩
        exact h ⟨c :: x, w, y, rfl, hw⟩
      rw [cutParams, rest]
      simp only
      split_ifs with hc
      · cases hb : afterBrace s with
        | none => rfl
        | some y =>
          obtain ⟨w, hw, rfl⟩ := afterBrace_eq_some_iff.mp hb
          exact absurd ⟨[], w, y, by rw [hc]; rfl, hw⟩ h
      · rfl

instance (s : Text) : Decidable (OpensBody s) :=
  decidable_of_iff (cutParams s ≠ none) (by rw [ne_eq, cutParams_eq_none_iff, not_not])

theorem OpensBody.of_append {a s : Text} (free : ')' ∉ a) (h : OpensBody (a ++ s)) : OpensBody s := by
  induction a with
  | nil => exact h
  | cons c a ih =>
    rw [List.mem_cons, not_or] at free
    obtain ⟨_ | ⟨d, x⟩, w, y, hs, hw⟩ := h
    · exact absurd (List.cons.inj hs).1.symm free.1
    · exact ih free.2 ⟨x, w, y, (List.cons.inj hs).2, hw⟩

theorem OpensBody.of_append_space {s : Text} (h : OpensBody (s ++ [' '])) : OpensBody s := by
  obtain ⟨x, w, y, hs, hw⟩ := h
  cases y using List.reverseRecOn with
  | nil =>
    rw [← List.cons_append, ← List.append_assoc] at hs
    simpa using (List.append_inj' hs rfl).2
  | append_singleton y c =>
    refine ⟨x, w, y, ?_, hw⟩
    have same : s ++ [' '] = (x ++ ')' :: (w ++ '\x7b' :: y)) ++ [c] := by simpa using hs
    exact (List.append_inj' same rfl).1

theorem OpensBody.of_collapseBlanks {s : Text} (h : OpensBody (collapseBlanks s)) : OpensBody s := by
  obtain ⟨x, w, y, hs, hw⟩ := h
  obtain ⟨x, r, rfl, -, hr⟩ := rewritesRuns_collapseBlanks.exists_split (by rfl) hs
  obtain ⟨w', y, rfl, rfl, -⟩ := rewritesRuns_collapseBlanks.exists_split (by rfl) hr
  exact ⟨x, w', y, rfl, rewritesRuns_collapseBlanks.blank_of hw⟩

theorem cutParams_last {w y : Text} (x : Text) (hw : AllBlank w) (last : ¬OpensBody y) :
    cutParams (x ++ ')' :: (w ++ '\x7b' :: y)) = some (x, y) := by
  have free : ')' ∉ w ++ ['\x7b'] := by
    intro h
    rcases List.mem_append.mp h with h | h
    · exact absurd (hw _ h) (by decide)
    · exact absurd h (by decide)
  have none : cutParams (w ++ '\x7b' :: y) = none := by
    rw [cutParams_eq_none_iff]
    intro h
    rw [← List.singleton_append, ← List.append_assoc] at h
    exact last (h.of_append free)
  simpa using cutParams_append (cutParams_here hw none) x

/-! ## The shapes of a wrapper -/

/-- The word that a template begins with. -/
def opening : Text := ['l', 'a', 'b', 'e', 'l', ' ']

/-- The template `label NAME(PARAMS) { BODY }`. -/
def withParams (name params body : Text) : Text :=
  opening ++ name ++ ['('] ++ params ++ [')', ' ', '\x7b', ' '] ++ body ++ [' ', '\x7d']

/-- The template `label NAME { BODY }`. -/
def withName (name body : Text) : Text := opening ++ name ++ [' ', '\x7b', ' '] ++ body ++ [' ', '\x7d']

/-- The template `label { BODY }`. -/
def withoutName (body : Text) : Text := opening ++ ['\x7b', ' '] ++ body ++ [' ', '\x7d']

theorem solid_of_isNameChar {c : Char} (h : isNameChar c = true) : isBlank c = false := by
  simp only [isNameChar, Bool.or_eq_true, beq_iff_eq] at h
  rcases h with (h | rfl) | rfl
  · exact solid_of_isAlphanum h
  · rfl
  · rfl

theorem trimStart_name {name : Text} (named : name ≠ []) (chars : ∀ c ∈ name, isNameChar c = true) (s : Text) :
    trimStart (name ++ s) = name ++ s := by
  cases name with
  | nil => exact absurd rfl named
  | cons c name => exact trimStart_cons_solid (solid_of_isNameChar (chars c List.mem_cons_self)) _

theorem afterKeyword_opening (s : Text) : afterKeyword (opening ++ s) = some (trimStart s) := rfl

section

variable {inner name s params body : Text} (chars : ∀ c ∈ name, isNameChar c = true)

include chars

theorem afterKeyword_name (named : name ≠ []) (s : Text) :
    afterKeyword (opening ++ (name ++ s)) = some (name ++ s) := by
  rw [afterKeyword_opening, trimStart_name named chars]

theorem wrapper?_withParams (keyword : afterKeyword inner = some (name ++ '(' :: s)) (named : name ≠ [])
    (cut : cutParams s = some (params, body)) :
    wrapper? (inner ++ ['\x7d']) = some ⟨some name, Variables.readDeclarations params, body⟩ := by
  have closed : before? ['\x7d'] (inner ++ ['\x7d']) = some inner := before?_eq_some_iff.mpr rfl
  have stop : isNameChar '(' = false := rfl
  unfold wrapper?
  simp only [Option.bind_eq_bind, closed, Option.bind_some, keyword, List.takeWhile_append_of_pos chars,
    List.dropWhile_append_of_pos chars]
  simp [stop, named, cut]

theorem wrapper?_withoutParams {gap : Text} (hgap : AllBlank gap)
    (keyword : afterKeyword inner = some (name ++ (gap ++ '\x7b' :: body))) :
    wrapper? (inner ++ ['\x7d']) = some ⟨if name.isEmpty then none else some name, [], body⟩ := by
  have closed : before? ['\x7d'] (inner ++ ['\x7d']) = some inner := before?_eq_some_iff.mpr rfl
  have brace : afterBrace (gap ++ '\x7b' :: body) = some body := afterBrace_eq_some_iff.mpr ⟨gap, hgap, rfl⟩
  -- neither a blank nor the brace goes on with the name or begins parameters
  obtain ⟨c, rest, hs, stop, noParen⟩ : ∃ c rest, gap ++ '\x7b' :: body = c :: rest ∧
      isNameChar c = false ∧ c ≠ '(' := by
    cases gap with
    | nil => exact ⟨'\x7b', body, rfl, rfl, by decide⟩
    | cons c gap =>
      have blank := hgap c List.mem_cons_self
      refine ⟨c, gap ++ '\x7b' :: body, rfl, ?_, ?_⟩
      · by_contra h
        rw [solid_of_isNameChar (by simpa using h)] at blank
        cases blank
      · rintro rfl
        cases blank
  rw [hs] at brace keyword
  unfold wrapper?
  simp only [Option.bind_eq_bind, closed, Option.bind_some, keyword, List.takeWhile_append_of_pos chars,
    List.dropWhile_append_of_pos chars]
  simp [stop, noParen, brace]

end

/-! ## Reading a wrapper -/

theorem collapseBlanks_opening {name : Text} (named : name ≠ []) (chars : ∀ c ∈ name, isNameChar c = true)
    (s : Text) : collapseBlanks (opening ++ (name ++ s)) = opening ++ (name ++ collapseBlanks s) := by
  have solid : ∀ c ∈ name, isBlank c = false := fun c hc => solid_of_isNameChar (chars c hc)
  have rest := rewritesRuns_collapseBlanks.append_solid solid s
  cases name with
  | nil => exact absurd rfl named
  | cons c name =>
    have first := solid c List.mem_cons_self
    rw [List.cons_append, rewritesRuns_collapseBlanks.cons_solid first] at rest
    rw [List.cons_append, rewritesRuns_collapseBlanks.split _ _ first, rest]
    rfl

/-- A template with its front and a body that ends in a space. -/
def braced (front body : Text) : Text := opening ++ front ++ '\x7b' :: (body ++ [' ']) ++ ['\x7d']

theorem trim_braced (front body : Text) : trim (braced front body) = braced front body :=
  trim_of_solid_ends (c := 'l') (by rfl) (by rfl) _

theorem collapseBlanks_braced (front body : Text) :
    collapseBlanks (braced front body) =
      collapseBlanks (opening ++ front) ++ '\x7b' :: collapseBlanks (body ++ [' ']) ++ ['\x7d'] := by
  have hf := rewritesRuns_collapseBlanks
  rw [braced, hf.split _ [] (c := '\x7d') (by rfl), hf.split _ _ (c := '\x7b') (by rfl), hf.nil]

section

variable {limit : LengthLimit} {front body : Text}
  (fits : (collapseBlanks (braced front body)).length ≤ limit.size)

include fits

theorem read_of_wrapper {name : Option Text} {vars : Variables}
    (found : wrapper? (collapseBlanks (braced front body)) = some ⟨name, vars, collapseBlanks (body ++ [' '])⟩) :
    read (braced front body) limit =
      { source := trim (collapseBlanks body), name := name.getD "Label".toList, vars } := by
  have hf := rewritesRuns_collapseBlanks
  have kept : normalize limit (braced front body) = collapseBlanks (braced front body) := by
    rw [normalize, trim_braced]
    exact List.take_of_length_le fits
  have short : (collapseBlanks (body ++ [' '])).length ≤ limit.size := by
    refine le_trans ?_ fits
    simp only [collapseBlanks_braced, List.length_append, List.length_cons]
    omega
  have ends : trim (collapseBlanks (body ++ [' '])) = trim (collapseBlanks body) := by
    rw [hf.trim, trim_append_blank (by decide), hf.trim]
  rw [read, kept, found]
  simp only [Format.source_ofText_collapsed short, ends]
  rfl

variable {name : Text} (chars : ∀ c ∈ name, isNameChar c = true)

include chars

/-- The parameters end at the last place where a body can begin. -/
theorem read_last {x w : Text} (named : name ≠ []) (hw : AllBlank w) (last : ¬OpensBody body)
    (shape : front = name ++ '(' :: (x ++ ')' :: w)) :
    read (braced front body) limit =
      { source := trim (collapseBlanks body), name, vars := Variables.readDeclarations (collapseBlanks x) } := by
  have hf := rewritesRuns_collapseBlanks
  have once : ¬OpensBody (collapseBlanks (body ++ [' '])) := fun h => last h.of_collapseBlanks.of_append_space
  have found := wrapper?_withParams chars (afterKeyword_name chars named _) named
    (cutParams_last (collapseBlanks x) (hf.blank hw) once)
  have text : collapseBlanks (braced front body) = opening ++ (name ++ '(' :: (collapseBlanks x ++
      ')' :: (collapseBlanks w ++ '\x7b' :: collapseBlanks (body ++ [' '])))) ++ ['\x7d'] := by
    rw [collapseBlanks_braced, shape, collapseBlanks_opening named chars, hf.cons_solid (by rfl),
      hf.split _ _ (c := ')') (by rfl)]
    simp only [List.append_assoc, List.cons_append]
  rw [read_of_wrapper fits (by rw [text, found])]
  rfl

theorem read_first {gap : Text} (hgap : AllBlank gap) (shape : front = name ++ gap)
    (kept : collapseBlanks (opening ++ (name ++ gap)) = opening ++ (name ++ gap))
    (start : ∀ s, trimStart (name ++ (gap ++ '\x7b' :: s)) = name ++ (gap ++ '\x7b' :: s)) :
    read (braced front body) limit =
      { source := trim (collapseBlanks body),
        name := (if name.isEmpty then none else some name).getD "Label".toList, vars := [] } := by
  have keyword : afterKeyword (opening ++ (name ++ (gap ++ '\x7b' :: collapseBlanks (body ++ [' '])))) = _ :=
    (afterKeyword_opening _).trans (congrArg some (start _))
  have found := wrapper?_withoutParams chars hgap keyword
  have text : collapseBlanks (braced front body) =
      opening ++ (name ++ (gap ++ '\x7b' :: collapseBlanks (body ++ [' ']))) ++ ['\x7d'] := by
    rw [collapseBlanks_braced, shape, kept]
    simp only [List.append_assoc, List.cons_append]
  exact read_of_wrapper fits (by rw [text, found])

end

theorem trim_collapseBlanks_space (s : Text) : trim (collapseBlanks (' ' :: s)) = trim (collapseBlanks s) := by
  rw [rewritesRuns_collapseBlanks.trim, ← List.singleton_append, trim_blank_append (by decide),
    rewritesRuns_collapseBlanks.trim]

/-- A body comes out of a wrapper as it went in, with its blanks collapsed, unless there are parameters and the
body has a closing parenthesis with an opening brace behind it: then the parameters go on to the last such place. -/
theorem read_wrapped (limit : LengthLimit) (name params body : Text) (named : name ≠ [])
    (chars : ∀ c ∈ name, isNameChar c = true) :
    ((collapseBlanks (withParams name params body)).length ≤ limit.size →
      (¬OpensBody body → read (withParams name params body) limit =
        { source := trim (collapseBlanks body), name,
          vars := Variables.readDeclarations (collapseBlanks params) }) ∧
      (∀ x w y, body = x ++ ')' :: (w ++ '\x7b' :: y) → AllBlank w → ¬OpensBody y →
        read (withParams name params body) limit =
          { source := trim (collapseBlanks y), name,
            vars := Variables.readDeclarations (collapseBlanks (params ++ [')', ' ', '\x7b', ' '] ++ x)) })) ∧
    ((collapseBlanks (withName name body)).length ≤ limit.size →
      read (withName name body) limit = { source := trim (collapseBlanks body), name }) ∧
    ((collapseBlanks (withoutName body)).length ≤ limit.size →
      read (withoutName body) limit = { source := trim (collapseBlanks body) }) ∧
    ((∀ piece ∈ params.splitOn ',', collapseBlanks (Variables.readDeclaration piece).name =
        (Variables.readDeclaration piece).name) →
      Variables.readDeclarations (collapseBlanks params) = Variables.readDeclarations params) := by
  refine ⟨fun fits => ⟨fun once => ?_, ?_⟩, fun fits => ?_, fun fits => ?_,
    Variables.readDeclarations_collapseBlanks⟩
  · have shape : withParams name params body = braced (name ++ '(' :: (params ++ ')' :: [' '])) (' ' :: body) := by
      simp [withParams, braced]
    have last : ¬OpensBody (' ' :: body) := fun h => once (h.of_append (a := [' ']) (by decide))
    rw [shape] at fits ⊢
    rw [read_last fits chars named (by decide) last rfl, trim_collapseBlanks_space]
  · rintro x w y rfl hw last
    have shape : withParams name params (x ++ ')' :: (w ++ '\x7b' :: y)) =
        braced (name ++ '(' :: (params ++ [')', ' ', '\x7b', ' '] ++ x ++ ')' :: w)) y := by
      simp [withParams, braced]
    rw [shape] at fits ⊢
    exact read_last fits chars named hw last rfl
  · have shape : withName name body = braced (name ++ [' ']) (' ' :: body) := by
      simp [withName, braced]
    have kept := collapseBlanks_opening named chars [' ']
    rw [shape] at fits ⊢
    rw [read_first fits chars (by decide) rfl kept fun s => trimStart_name named chars _,
      trim_collapseBlanks_space]
    simp [named]
  · have shape : withoutName body = braced ([] ++ []) (' ' :: body) := by
      simp [withoutName, braced]
    rw [shape] at fits ⊢
    rw [read_first fits (by simp) allBlank_nil rfl rfl fun s => rfl, trim_collapseBlanks_space]
    rfl

/-- The parentheses of data in braces and out of them. -/
theorem read_wrapped_data :
    let plain := "^XA^FDf(x)^FS^XZ".toList
    let braces := "^XA^FDf(x)\x7by\x7d^FS^XZ".toList
    read (withParams ['N'] "a: number,\n b".toList plain) =
      { source := plain, name := ['N'], vars := Variables.readDeclarations "a: number,\n b".toList } ∧
    read (withParams ['N'] ['a'] braces) =
      { source := "y\x7d^FS^XZ".toList, name := ['N'],
        vars := Variables.readDeclarations "a) \x7b ^XA^FDf(x".toList } ∧
    read (withName ['N'] braces) = { source := braces, name := ['N'] } ∧
    read (withoutName braces) = { source := braces } := by
  intro plain braces
  have first := read_wrapped {} ['N'] "a: number,\n b".toList plain (by decide) (by simp [isNameChar])
  have second := read_wrapped {} ['N'] ['a'] braces (by decide) (by simp [isNameChar])
  refine ⟨?_, ?_, ?_, ?_⟩
  · rw [(first.1 (by decide)).1 (by decide), first.2.2.2 (by decide)]
    rfl
  · exact (second.1 (by decide)).2 "^XA^FDf(x".toList [] "y\x7d^FS^XZ".toList rfl (by decide) (by decide)
  · exact second.2.1 (by decide)
  · exact second.2.2.1 (by decide)

end Template

end LabelPreview
