import LabelPreview.Proofs.Graphic.Rows

/-!
# Blanks in hexadecimal rows

Lines of graphic data can be broken anywhere but in one place: a blank between a count and its digit takes the
count away. So data comes to the same as its settled form, without blanks and without such counts.
-/

namespace LabelPreview.HexRows

open Text

/-! ## Kinds of characters -/

def isCount (c : Char) : Bool := (countLetter? c).isSome

theorem hexDigit?_range {c : Char} {half : Nat} (h : hexDigit? c = some half) :
    48 ≤ c.toNat ∧ c.toNat ≤ 57 ∨ 65 ≤ c.toNat ∧ c.toNat ≤ 70 ∨ 97 ≤ c.toNat ∧ c.toNat ≤ 102 := by
  unfold hexDigit? at h
  split_ifs at h with digit lower upper
  · exact .inl digit
  · exact .inr (.inr lower)
  · exact .inr (.inl upper)

theorem countLetter?_range {c : Char} {n : Nat} (h : countLetter? c = some n) :
    71 ≤ c.toNat ∧ c.toNat ≤ 89 ∨ 103 ≤ c.toNat ∧ c.toNat ≤ 122 := by
  unfold countLetter? at h
  split_ifs at h with upper lower
  · exact .inl upper
  · exact .inr lower

theorem isBlank_range {c : Char} (h : isBlank c = true) : c.toNat ≤ 32 ∨ 133 ≤ c.toNat := by
  simp only [isBlank, Bool.or_eq_true, Bool.and_eq_true, decide_eq_true_eq, beq_iff_eq] at h
  omega

theorem hexDigit?_of_count {c : Char} {n : Nat} (h : countLetter? c = some n) : hexDigit? c = none := by
  apply Option.eq_none_iff_forall_ne_some.mpr
  intro half digit
  have := hexDigit?_range digit
  have := countLetter?_range h
  omega

theorem hexDigit?_of_blank {c : Char} (h : isBlank c = true) : hexDigit? c = none := by
  apply Option.eq_none_iff_forall_ne_some.mpr
  intro half digit
  have := hexDigit?_range digit
  have := isBlank_range h
  omega

theorem countLetter?_of_blank {c : Char} (h : isBlank c = true) : countLetter? c = none := by
  apply Option.eq_none_iff_forall_ne_some.mpr
  intro n count
  have := countLetter?_range count
  have := isBlank_range h
  omega

theorem isCount_of_blank {c : Char} (h : isBlank c = true) : isCount c = false := by
  rw [isCount, countLetter?_of_blank h]
  rfl

theorem meaning_of_blank {c : Char} (h : isBlank c = true) : meaning c = .blank := by
  -- the marks are visible characters
  have other (d : Char) (visible : 33 ≤ d.toNat ∧ d.toNat ≤ 126) : c ≠ d := by
    rintro rfl
    have := isBlank_range h
    omega
  simp only [meaning, hexDigit?_of_blank h, countLetter?_of_blank h, if_neg (other ',' (by decide)),
    if_neg (other '!' (by decide)), if_neg (other ':' (by decide)), if_pos h]

theorem meaning_eq_count_iff {c : Char} {n : Nat} : meaning c = .count n ↔ countLetter? c = some n := by
  constructor
  · intro h
    unfold meaning at h
    split at h
    · cases h
    · split at h
      · cases h
        assumption
      · split_ifs at h
  · intro h
    simp only [meaning, hexDigit?_of_count h, h]

/-! ## The settled form -/

/-- The count that the text begins with, if any, is followed by a blank. -/
def losesCount (s : Text) : Bool := (s.dropWhile isCount).head?.any isBlank

/-- The text without blanks and without the counts in front of them. -/
def settle : Text → Text
  | [] => []
  | c :: rest =>
    if isBlank c || isCount c && losesCount rest then settle rest else c :: settle rest

theorem losesCount_cons_count {c : Char} (h : isCount c = true) (rest : Text) :
    losesCount (c :: rest) = losesCount rest := by
  rw [losesCount, List.dropWhile_cons, if_pos h, losesCount]

theorem losesCount_cons_other {c : Char} (h : isCount c = false) (rest : Text) :
    losesCount (c :: rest) = isBlank c := by
  rw [losesCount, List.dropWhile_cons, if_neg (by simp [h])]
  rfl

theorem read_of_full {width wanted : Nat} {d : Drawn} (full : wanted ≤ d.size) (times : Nat) (s : Text) :
    read width wanted d times s = .ok d := by
  cases s with
  | nil => rfl
  | cons c rest => rw [read_cons, if_pos full]

/-- With the count that the text begins with, what was counted before it is lost too. -/
theorem read_settle (width wanted : Nat) (d : Drawn) (times : Nat) (s : Text) :
    read width wanted d times s =
      read width wanted d (if losesCount s then 0 else times) (settle s) := by
  induction s generalizing d times with
  | nil => rfl
  | cons c rest ih =>
    by_cases full : wanted ≤ d.size
    · rw [read_of_full full, read_of_full full]
    · cases blank : isBlank c with
      | true =>
        rw [losesCount_cons_other (isCount_of_blank blank), settle, blank, Bool.true_or, if_pos rfl, if_pos rfl,
          read_cons, if_neg full, meaning_of_blank blank]
        simp only
        rw [ih, ite_self]
      | false =>
        cases count : countLetter? c with
        | some n =>
          have counts : isCount c = true := by rw [isCount, count]; rfl
          rw [losesCount_cons_count counts, settle, blank, counts, Bool.false_or, Bool.true_and, read_cons,
            if_neg full, meaning_eq_count_iff.mpr count]
          simp only
          rw [ih]
          split_ifs
          · rfl
          · rw [read_cons, if_neg full, meaning_eq_count_iff.mpr count]
        | none =>
          have counts : isCount c = false := by rw [isCount, count]; rfl
          rw [losesCount_cons_other counts, settle, blank, counts, Bool.false_or, Bool.false_and,
            if_neg Bool.false_ne_true, if_neg Bool.false_ne_true, read_cons, read_cons]
          cases hc : meaning c with
          | digit | fill | copy | blank => simp only [ih _ 0, ite_self]
          | count n =>
            rw [meaning_eq_count_iff.mp hc] at count
            cases count
          | none => rfl

/-! ## Blanks that follow no count -/

theorem losesCount_of_chain {c : Char} {rest : Text} (counts : isCount c = true)
    (h : (c :: rest).IsChain fun c d => isCount c = true → isBlank d = false) : losesCount rest = false := by
  induction rest generalizing c with
  | nil => rfl
  | cons d rest ih =>
    rw [List.isChain_cons_cons] at h
    cases next : isCount d with
    | true => rw [losesCount_cons_count next, ih next h.2]
    | false => rw [losesCount_cons_other next, h.1 counts]

theorem settle_of_chain {s : Text} (h : s.IsChain fun c d => isCount c = true → isBlank d = false) :
    settle s = s.filter fun c => !isBlank c := by
  induction s with
  | nil => rfl
  | cons c rest ih =>
    have kept : (isCount c && losesCount rest) = false := by
      cases counts : isCount c with
      | true => rw [losesCount_of_chain counts h, Bool.and_false]
      | false => rw [Bool.false_and]
    rw [settle, kept, Bool.or_false, ih h.of_cons, List.filter_cons]
    cases isBlank c <;> rfl

/-- Blanks in the data do not count, and neither do count letters if a blank comes before their digit. So data
in which no count letter is followed by a blank can be read without its blanks: the bytes are the same, or the
refused character is. -/
theorem decode_without_blanks (rowBytes height : Nat) (data : Text) :
    decode rowBytes height data = decode rowBytes height (settle data) ∧
      (data.IsChain (fun c d => isCount c = true → isBlank d = false) →
        decode rowBytes height data = decode rowBytes height (data.filter fun c => !isBlank c)) := by
  have settled : decode rowBytes height data = decode rowBytes height (settle data) := by
    unfold decode
    simp only
    rw [read_settle, ite_self]
  refine ⟨settled, fun chain => ?_⟩
  rw [settled, settle_of_chain chain]

theorem decode_without_blanks_lines :
    ['5', ' ', 'I', 'F', '\n', ':'].IsChain (fun c d => isCount c = true → isBlank d = false) ∧
      decode 2 2 ['5', ' ', 'I', 'F', '\n', ':'] = .ok [0x5F, 0xFF, 0x5F, 0xFF] := by
  have chain : ['5', ' ', 'I', 'F', '\n', ':'].IsChain (fun c d => isCount c = true → isBlank d = false) := by
    decide
  refine ⟨chain, ?_⟩
  rw [(decode_without_blanks 2 2 _).2 chain]
  rfl

/-- A blank behind the count letter leaves the digit as a single one. -/
example : decode 2 1 ['I', ' ', 'F', '0'] = decode 2 1 ['F', '0'] := rfl

end LabelPreview.HexRows
