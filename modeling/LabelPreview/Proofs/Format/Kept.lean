import LabelPreview.Proofs.Format.Normal
import LabelPreview.Proofs.Format.Session

/-!
# Reading a kept text again

What a format keeps of a text is trimmed, then freed of carriage returns in front of line feeds, and then cut, each once
and in this order. So a carriage return can come to stand in front of a line feed, and a blank at the end, and then the
kept text is not kept as it is when it is read again. Nothing else can keep it from being the same.
-/

namespace LabelPreview

/-! ## Carriage returns -/

namespace Text

variable {s : Text}

theorem crlf_prefix_cons_iff {c : Char} : ['\r', '\n'] <+: c :: s ↔ c = '\r' ∧ s.head? = some '\n' := by
  cases s <;> simp [eq_comm]

theorem length_unixLines_le (s : Text) : (unixLines s).length ≤ s.length := by
  induction s with
  | nil => exact Nat.le_refl 0
  | cons c s ih =>
    rw [unixLines_cons]
    split_ifs
    · exact Nat.le_succ_of_le ih
    · exact Nat.succ_le_succ ih

theorem unixLines_eq_self_iff : unixLines s = s ↔ ¬['\r', '\n'] <:+: s := by
  induction s with
  | nil => simp [unixLines, replaceAll, replaceFrom]
  | cons c s ih =>
    rw [List.infix_cons_iff, crlf_prefix_cons_iff, unixLines_cons]
    split_ifs with here
    · -- a text does not get longer
      have shorter := length_unixLines_le s
      refine iff_of_false (fun same => ?_) (not_not_intro (.inl here))
      rw [same, List.length_cons] at shorter
      omega
    · rw [List.cons_inj_right, ih]
      exact ⟨fun rest => not_or.mpr ⟨here, rest⟩, fun none => (not_or.mp none).2⟩

theorem head?_unixLines (s : Text) :
    (unixLines s).head? = if ['\r', '\n'] <+: s then some '\n' else s.head? := by
  cases s with
  | nil => rfl
  | cons c s =>
    simp only [crlf_prefix_cons_iff, unixLines_cons]
    split_ifs with here
    · cases s with
      | nil => cases here.2
      | cons d s =>
        obtain rfl : d = '\n' := by simpa using here.2
        rw [unixLines_cons, if_neg (by simp)]
        rfl
    · rfl

theorem crlf_infix_unixLines_iff : ['\r', '\n'] <:+: unixLines s ↔ ['\r', '\r', '\n'] <:+: s := by
  induction s with
  | nil => simp [unixLines, replaceAll, replaceFrom]
  | cons c s ih =>
    rw [List.infix_cons_iff, List.cons_prefix_cons, unixLines_cons, ← ih]
    split_ifs with here
    · have other : ¬['\r', '\n'] <+: s := fun two => by
        obtain ⟨t, rfl⟩ := two
        cases here.2
      simp [other]
    · rw [List.infix_cons_iff, crlf_prefix_cons_iff, head?_unixLines]
      refine or_congr_left (Iff.trans ?_ (and_congr_left' eq_comm))
      refine and_congr_right fun hc => ?_
      split_ifs with two
      · simp [two]
      · simpa [two] using fun line => here ⟨hc, line⟩

theorem trimStart_take (trimmed : trimStart s = s) (n : Nat) : trimStart (s.take n) = s.take n := by
  cases s with
  | nil => rw [List.take_nil]; rfl
  | cons c s =>
    cases n with
    | zero => rfl
    | succ n => rw [List.take_succ_cons, trimStart_cons_solid (solid_of_trimStart trimmed)]

theorem trimEnd_eq_self_iff : trimEnd s = s ↔ ∀ c, s.getLast? = some c → isBlank c = false := by
  cases s using List.reverseRecOn with
  | nil => simp [trimEnd]
  | append_singleton s c =>
    rw [trimEnd_concat]
    cases hc : isBlank c with
    | false => simp [hc]
    | true =>
      have shorter := (isPrefix_trimEnd s).length_le
      refine iff_of_false (fun same => ?_) (by simp [hc])
      rw [if_pos rfl] at same
      rw [same, List.length_append, List.length_singleton] at shorter
      omega

end Text

open Text

namespace Format

/-! ## The text that is kept -/

variable (s : Text) (limit : LengthLimit)

theorem source_again :
    (ofText (ofText s limit).source limit).source = unixLines (trimEnd (ofText s limit).source) := by
  have front : trimStart (ofText s limit).source = (ofText s limit).source := by
    refine trimStart_take ?_ limit.size
    rw [rewritesRuns_unixLines.trimStart, trimStart_trim]
  have short : (ofText s limit).source.length ≤ limit.size := List.length_take_le _ _
  generalize (ofText s limit).source = kept at front short
  have trimmed : trim kept = trimEnd kept := by rw [trim, front]
  rw [source_ofText, trimmed]
  exact (length_unixLines_le _).trans ((infix_trim kept).length_le.trans short)

theorem source_again_eq_iff :
    (ofText (ofText s limit).source limit).source = (ofText s limit).source ↔
      ¬['\r', '\n'] <:+: (ofText s limit).source ∧
        ∀ c, (ofText s limit).source.getLast? = some c → isBlank c = false := by
  rw [source_again]
  generalize (ofText s limit).source = kept
  rw [← unixLines_eq_self_iff, ← trimEnd_eq_self_iff]
  constructor
  · intro same
    -- both steps make a text shorter unless they keep it
    have whole : trimEnd kept = kept := by
      refine (isPrefix_trimEnd kept).eq_of_length_le ?_
      calc kept.length = (unixLines (trimEnd kept)).length := by rw [same]
        _ ≤ (trimEnd kept).length := length_unixLines_le _
    rw [whole] at same
    exact ⟨same, whole⟩
  · rintro ⟨lines, whole⟩
    rw [whole, lines]

variable {s limit}

theorem crlf_notInfix_source (none : ¬['\r', '\r', '\n'] <:+: s.trim) : ¬['\r', '\n'] <:+: (ofText s limit).source :=
  fun two => none (crlf_infix_unixLines_iff.mp (two.trans (List.take_prefix _ _).isInfix))

theorem solid_of_getLast?_source (fits : s.trim.unixLines.length ≤ limit.size) {c : Char}
    (last : (ofText s limit).source.getLast? = some c) : isBlank c = false := by
  rw [source_ofText fits, ← rewritesRuns_unixLines.trim] at last
  exact solid_of_getLast?_trim last

theorem produce_ofText {out : Text} (h : (ofText s limit).read.1.produce = .ok out) :
    out = (ofText s limit).source ∧ out.getLast? = some 'Z' := by
  have accepted : (ofText s limit).read.1.accepted = true := by
    by_contra refused
    rw [produce, if_neg refused] at h
    cases h
  rw [produce_of_accepted accepted] at h
  cases h
  obtain ⟨body, hbody, -⟩ := isValid_read_iff.mp accepted
  have whole : (ofText s limit).source = ['^', 'X', 'A'] ++ body ++ ['^', 'X'] ++ ['Z'] := by
    rw [List.append_assoc _ ['^', 'X'] ['Z']]
    exact body_eq_ok_iff.mp hbody
  exact ⟨rfl, (congrArg List.getLast? whole).trans List.getLast?_concat⟩

/-- A kept text is kept as it is when it is read again, unless a carriage return stands in front of a line feed in it or
a blank at its end. The first comes from a line feed behind two carriage returns, the second from cutting. A text that
is produced ends with no blank, so only the first can make a difference to it. -/
theorem kept_again (s : Text) (limit : LengthLimit) :
    let kept := (ofText s limit).source
    let again := (ofText kept limit).source
    again = unixLines (trimEnd kept) ∧
      (again = kept ↔ ¬['\r', '\n'] <:+: kept ∧ ∀ c, kept.getLast? = some c → isBlank c = false) ∧
      (¬['\r', '\r', '\n'] <:+: s.trim →
        (again = kept ↔ ∀ c, kept.getLast? = some c → isBlank c = false)) ∧
      (s.trim.unixLines.length ≤ limit.size → (again = kept ↔ ¬['\r', '\r', '\n'] <:+: s.trim)) ∧
      ∀ out, (ofText s limit).read.1.produce = .ok out →
        out = kept ∧ ((ofText out limit).source = out ↔ ¬['\r', '\n'] <:+: out) := by
  intro kept again
  have same := source_again_eq_iff s limit
  refine ⟨source_again s limit, same, fun none => ?_, fun fits => ?_, fun out produced => ?_⟩
  · rw [same, and_iff_right (crlf_notInfix_source none)]
  · rw [same, and_iff_left fun _ => solid_of_getLast?_source fits, source_ofText fits, crlf_infix_unixLines_iff]
  · obtain ⟨rfl, last⟩ := produce_ofText produced
    refine ⟨rfl, same.trans (and_iff_left fun c hc => ?_)⟩
    rw [last] at hc
    cases hc
    rfl

/-- A line feed behind two carriage returns in a field, and a text that is cut behind a space. -/
theorem kept_again_shorter :
    let f := ofText "^XA^FDa\r\r\nb^FS^XZ".toList
    let short : LengthLimit := { size := 3 }
    f.read.1.produce = .ok "^XA^FDa\r\nb^FS^XZ".toList ∧ (ofText f.source).source = "^XA^FDa\nb^FS^XZ".toList ∧
      (ofText f.source).source ≠ f.source ∧
      (ofText "^X A".toList short).source = "^X ".toList ∧
      (ofText (ofText "^X A".toList short).source short).source = "^X".toList := by
  intro f short
  have source : f.source = "^XA^FDa\r\nb^FS^XZ".toList := by decide
  have valid : f.read.2.isValid = true :=
    isValid_read_iff.mpr ⟨"^FDa\r\nb^FS".toList, body_eq_ok_iff.mpr source,
      by rw [complaints, Token.scan_eq]; rfl, by rw [made, Token.scan_eq]; exact List.cons_ne_nil _ _⟩
  have produced : f.read.1.produce = .ok "^XA^FDa\r\nb^FS^XZ".toList := by
    rw [← source]
    exact produce_of_accepted valid
  obtain ⟨lines, -, -, -, out⟩ := kept_again "^XA^FDa\r\r\nb^FS^XZ".toList {}
  obtain ⟨blank, -⟩ := kept_again "^X A".toList short
  refine ⟨produced, lines.trans (by decide), fun same => ?_, by decide, blank.trans (by decide)⟩
  rw [source] at same
  exact (out _ produced).2.mp same ⟨"^XA^FDa".toList, "b^FS^XZ".toList, rfl⟩

end Format

end LabelPreview
