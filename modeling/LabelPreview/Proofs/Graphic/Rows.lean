import LabelPreview.Proofs.Graphic.HexRows
import Mathlib.Data.List.TakeDrop
import Mathlib.Tactic.SplitIfs

/-!
# Hexadecimal rows, one by one

Rows can also be kept apart while they are read: those that are finished, and the one that is open. Every finished row
is as wide as the picture, the open one is not, and reading this way gives the same bytes as reading half bytes.
-/

namespace LabelPreview.HexRows

/-! ## What a character means -/

inductive Meaning where
  | digit (half : Nat)
  | count (n : Nat)
  /-- The rest of a row. -/
  | fill (half : Nat)
  | copy
  | blank
  | none

def meaning (c : Char) : Meaning :=
  match Text.hexDigit? c with
  | some half => .digit half
  | .none =>
    match countLetter? c with
    | some n => .count n
    | .none =>
      if c = ',' then .fill 0
      else if c = '!' then .fill 15
      else if c = ':' then .copy
      else if Text.isBlank c then .blank
      else .none

theorem read_cons (width wanted : Nat) (d : Drawn) (times : Nat) (c : Char) (rest : Text) :
    read width wanted d times (c :: rest) =
      if wanted ≤ d.size then .ok d
      else
        match meaning c with
        | .digit half => read width wanted (d.push (max times 1) half) 0 rest
        | .count n => read width wanted d (times + n) rest
        | .fill half => read width wanted (d.fillRow width half) 0 rest
        | .copy => read width wanted ((d.endRow width).copyRow width) 0 rest
        | .blank => read width wanted d 0 rest
        | .none => .error c := by
  rw [read]
  unfold meaning
  split
  · rfl
  · cases Text.hexDigit? c with
    | some half => rfl
    | none =>
      cases countLetter? c with
      | some n => rfl
      | none =>
        simp only
        split_ifs
        · rfl
        · rfl
        · rfl
        · rfl
        · rfl

theorem count_le_of_meaning {c : Char} {n : Nat} (h : meaning c = .count n) : n ≤ 400 := by
  unfold meaning at h
  split at h
  · cases h
  · split at h
    · rename_i known
      cases h
      unfold countLetter? at known
      split_ifs at known with upper lower
      · cases known
        have : c.toNat ≤ 'Y'.toNat := upper.2
        have : 'Y'.toNat = 89 := rfl
        omega
      · cases known
        have : c.toNat ≤ 'z'.toNat := lower.2
        have : 'z'.toNat = 122 := rfl
        omega
    · split_ifs at h

/-! ## Sheets -/

/-- Finished rows from the top, the row that is open, and the repetition for the next digit. -/
structure Sheet where
  finished : List (List Nat) := []
  opened : List Nat := []
  times : Nat := 0

namespace Sheet

def put (width half : Nat) (s : Sheet) : Sheet :=
  let row := s.opened ++ [half]
  if row.length = width then { s with finished := s.finished ++ [row], opened := [] } else { s with opened := row }

/-- The same half byte again and again, until there are rows enough. -/
def putMany (width height half : Nat) : Nat → Sheet → Sheet
  | 0, s => s
  | n + 1, s => if height ≤ s.finished.length then s else putMany width height half n (s.put width half)

def fill (width half : Nat) (s : Sheet) : Sheet :=
  { s with finished := s.finished ++ [s.opened ++ List.replicate (width - s.opened.length) half], opened := [] }

def close (width : Nat) (s : Sheet) : Sheet := if s.opened = [] then s else s.fill width 0

/-- Once more the last row. A row that is open ends before it, so this may be one row too many. -/
def copy (width : Nat) (s : Sheet) : Sheet :=
  let closed := s.close width
  { closed with finished := closed.finished ++ [closed.finished.getLastD (List.replicate width 0)] }

def step (width height : Nat) (s : Sheet) (c : Char) : Except Char Sheet :=
  if height ≤ s.finished.length then .ok s
  else
    match meaning c with
    | .digit half => .ok { s.putMany width height half (max s.times 1) with times := 0 }
    | .count n => .ok { s with times := s.times + n }
    | .fill half => .ok { s.fill width half with times := 0 }
    | .copy => .ok { s.copy width with times := 0 }
    | .blank => .ok { s with times := 0 }
    | .none => .error c

def run (width height : Nat) : Sheet → Text → Except Char Sheet
  | s, [] => .ok s
  | s, c :: rest =>
    match s.step width height c with
    | .ok next => run width height next rest
    | .error c => .error c

/-- The rows of a picture: rows that are too many do not count, and rows that are not there are zero. -/
def rows (width height : Nat) (s : Sheet) : List (List Nat) :=
  (s.close width).finished.takeD height (List.replicate width 0)

/-! ## The shape of a sheet -/

structure Shaped (width : Nat) (s : Sheet) : Prop where
  whole : ∀ row ∈ s.finished, row.length = width
  short : s.opened.length < width

variable {width height : Nat} {s : Sheet}

theorem shaped_finish (whole : ∀ row ∈ s.finished, row.length = width) (positive : 0 < width) {row : List Nat}
    (full : row.length = width) : Shaped width { s with finished := s.finished ++ [row], opened := [] } := by
  refine ⟨?_, positive⟩
  intro r hr
  obtain hr | hr := List.mem_append.mp hr
  · exact whole r hr
  · rw [List.mem_singleton.mp hr]
    exact full

theorem Shaped.positive (h : Shaped width s) : 0 < width := Nat.zero_lt_of_lt h.short

theorem Shaped.times (h : Shaped width s) (n : Nat) : Shaped width { s with times := n } := ⟨h.whole, h.short⟩

theorem Shaped.put (h : Shaped width s) (half : Nat) : Shaped width (s.put width half) := by
  unfold Sheet.put
  simp only
  split_ifs with full
  · exact shaped_finish h.whole h.positive full
  · refine ⟨h.whole, ?_⟩
    have := h.short
    simp only [List.length_append, List.length_singleton] at full ⊢
    omega

theorem Shaped.fill (h : Shaped width s) (half : Nat) : Shaped width (s.fill width half) := by
  apply shaped_finish h.whole h.positive
  have := h.short
  rw [List.length_append, List.length_replicate]
  omega

theorem Shaped.close (h : Shaped width s) : Shaped width (s.close width) := by
  unfold Sheet.close
  split_ifs
  · exact h
  · exact h.fill 0

theorem Shaped.length_last (h : Shaped width s) :
    (s.finished.getLastD (List.replicate width 0)).length = width := by
  rcases List.eq_nil_or_concat' s.finished with none | ⟨front, last, some⟩
  · rw [none]
    exact List.length_replicate
  · rw [some, List.getLastD_concat]
    exact h.whole last (by simp [some])

theorem opened_close (width : Nat) (s : Sheet) : (s.close width).opened = [] := by
  unfold close
  split_ifs with empty
  · exact empty
  · rfl

theorem copy_eq (s : Sheet) :
    s.copy width =
      { s.close width with
        finished := (s.close width).finished ++ [(s.close width).finished.getLastD (List.replicate width 0)],
        opened := [] } := by
  unfold copy
  simp only [← s.opened_close width]

theorem Shaped.copy (h : Shaped width s) : Shaped width (s.copy width) := by
  rw [copy_eq]
  exact shaped_finish h.close.whole h.positive h.close.length_last

theorem Shaped.putMany (h : Shaped width s) (half n : Nat) : Shaped width (s.putMany width height half n) := by
  induction n generalizing s with
  | zero => exact h
  | succ n ih =>
    unfold Sheet.putMany
    split_ifs
    · exact h
    · exact ih (h.put half)

/-! ## The number of rows -/

theorem length_put_le (width half : Nat) (s : Sheet) : (s.put width half).finished.length ≤ s.finished.length + 1 := by
  unfold put
  simp only
  split_ifs
  · simp
  · simp

theorem length_putMany_le (few : s.finished.length ≤ height) (width half n : Nat) :
    (s.putMany width height half n).finished.length ≤ height := by
  induction n generalizing s with
  | zero => exact few
  | succ n ih =>
    unfold putMany
    split_ifs with full
    · exact few
    · apply ih
      have := s.length_put_le width half
      omega

theorem length_close_le (width : Nat) (s : Sheet) : (s.close width).finished.length ≤ s.finished.length + 1 := by
  unfold close
  split_ifs
  · omega
  · simp [fill]

theorem length_copy_le (width : Nat) (s : Sheet) : (s.copy width).finished.length ≤ s.finished.length + 2 := by
  have := s.length_close_le width
  simp only [copy, List.length_append, List.length_singleton]
  omega

/-! ## What reading keeps -/

/-- A sheet after `n` characters: its rows have their widths, there is at most one too many, and the repetition is
bounded by the characters. -/
structure Sound (width height n : Nat) (s : Sheet) : Prop extends Shaped width s where
  few : s.finished.length ≤ height + 1
  counted : s.times ≤ 400 * n

theorem sound_empty (positive : 0 < width) : Sound width height 0 {} :=
  ⟨⟨by simp, positive⟩, Nat.zero_le _, Nat.le_refl _⟩

theorem Sound.step {n : Nat} {c : Char} {next : Sheet} (h : Sound width height n s)
    (taken : s.step width height c = .ok next) : Sound width height (n + 1) next := by
  have counted := h.counted
  unfold Sheet.step at taken
  split_ifs at taken with full
  · cases taken
    exact ⟨h.toShaped, h.few, by omega⟩
  · cases hc : meaning c with
    | digit half =>
      rw [hc] at taken
      cases taken
      have few := length_putMany_le (Nat.le_of_not_le full) width half (max s.times 1)
      exact ⟨(h.toShaped.putMany half _).times 0, Nat.le_succ_of_le few, Nat.zero_le _⟩
    | count m =>
      rw [hc] at taken
      cases taken
      have := count_le_of_meaning hc
      exact ⟨h.toShaped.times _, h.few, by show s.times + m ≤ _; omega⟩
    | fill half =>
      rw [hc] at taken
      cases taken
      refine ⟨(h.toShaped.fill half).times 0, ?_, Nat.zero_le _⟩
      simp only [Sheet.fill, List.length_append, List.length_singleton]
      omega
    | copy =>
      rw [hc] at taken
      cases taken
      refine ⟨h.toShaped.copy.times 0, ?_, Nat.zero_le _⟩
      have := s.length_copy_le width
      show (s.copy width).finished.length ≤ _
      omega
    | blank =>
      rw [hc] at taken
      cases taken
      exact ⟨h.toShaped.times 0, h.few, Nat.zero_le _⟩
    | none =>
      rw [hc] at taken
      cases taken

theorem Sound.run {n : Nat} {text : Text} {last : Sheet} (h : Sound width height n s)
    (taken : s.run width height text = .ok last) : Sound width height (n + text.length) last := by
  induction text generalizing s n with
  | nil =>
    cases taken
    exact h
  | cons c rest ih =>
    unfold Sheet.run at taken
    split at taken
    · rename_i next hnext
      have sound := ih (h.step hnext) taken
      rwa [Nat.add_assoc, Nat.add_comm 1] at sound
    · cases taken

/-! ## The half bytes of a sheet -/

def halves (s : Sheet) : List Nat := s.finished.flatten ++ s.opened

/-- The sheet as half bytes that are not cut into rows. -/
def drawn (s : Sheet) : Drawn := .ofHalves s.halves

theorem halves_put (half : Nat) : (s.put width half).halves = s.halves ++ [half] := by
  unfold put
  simp only
  split_ifs
  · simp [halves]
  · simp [halves]

theorem drawn_fill (h : Shaped width s) (half : Nat) : (s.fill width half).drawn = s.drawn.fillRow width half := by
  rw [drawn, drawn, halves, halves, Drawn.fillRow_ofRows h.whole h.short]
  simp [fill, Drawn.ofRows]

theorem size_drawn (h : Shaped width s) : s.drawn.size = s.finished.length * width + s.opened.length := by
  have rows := Drawn.size_ofRows h.whole
  rw [Drawn.ofRows, Drawn.size_ofHalves] at rows
  rw [drawn, Drawn.size_ofHalves, halves, List.length_append, rows]

theorem drawn_close (h : Shaped width s) : (s.close width).drawn = s.drawn.endRow width := by
  have started : s.drawn.size % width = s.opened.length := by
    rw [size_drawn h, Nat.mul_add_mod_of_lt h.short]
  unfold close Drawn.endRow
  rw [started]
  split_ifs with empty zero zero
  · rfl
  · exact absurd (by rw [empty]; rfl) zero
  · exact absurd (List.eq_nil_of_length_eq_zero zero) empty
  · exact drawn_fill h 0

theorem drawn_copy (h : Shaped width s) : (s.copy width).drawn = (s.drawn.endRow width).copyRow width := by
  have closed : (s.close width).drawn = .ofRows (s.close width).finished := by
    rw [drawn, halves, opened_close, List.append_nil, Drawn.ofRows]
  rw [← drawn_close h, closed, Drawn.copyRow_ofRows h.close.whole h.positive, copy_eq]
  simp [drawn, halves, Drawn.ofRows]

/-! ## Both ways of reading -/

/-- Half bytes that are not cut into rows may go on behind the last row of the sheet. -/
def Follows (height : Nat) (s : Sheet) (d : Drawn) : Prop :=
  ∃ more, d = .ofHalves (s.halves ++ more) ∧ (more = [] ∨ height ≤ s.finished.length)

theorem follows_drawn (height : Nat) (s : Sheet) : Follows height s s.drawn :=
  ⟨[], by rw [List.append_nil]; rfl, .inl rfl⟩

theorem Follows.full_iff {d : Drawn} (h : Follows height s d) (shaped : Shaped width s) :
    width * height ≤ d.size ↔ height ≤ s.finished.length := by
  obtain ⟨more, rfl, rest⟩ := h
  have size := size_drawn shaped
  have short := shaped.short
  rw [drawn, Drawn.size_ofHalves] at size
  rw [Drawn.size_ofHalves, List.length_append, size, Nat.mul_comm width]
  constructor
  · intro enough
    obtain rfl | full := rest
    · by_contra low
      have below : (s.finished.length + 1) * width ≤ height * width :=
        Nat.mul_le_mul_right _ (Nat.lt_of_not_le low)
      rw [Nat.succ_mul] at below
      rw [List.length_nil] at enough
      omega
    · exact full
  · intro full
    have : height * width ≤ s.finished.length * width := Nat.mul_le_mul_right _ full
    omega

theorem follows_putMany (s : Sheet) (half n : Nat) :
    Follows height (s.putMany width height half n) (s.drawn.push n half) := by
  unfold drawn
  rw [Drawn.push_ofHalves]
  induction n generalizing s with
  | zero => exact ⟨[], rfl, .inl rfl⟩
  | succ n ih =>
    unfold putMany
    split_ifs with full
    · exact ⟨_, rfl, .inr full⟩
    · have again := ih (s.put width half)
      rwa [halves_put, List.append_assoc, List.singleton_append] at again

theorem run_of_full (full : height ≤ s.finished.length) (text : Text) : s.run width height text = .ok s := by
  induction text with
  | nil => rfl
  | cons c rest ih =>
    unfold run step
    rw [if_pos full]
    exact ih

/-- Both ways of reading end at the same sheet, or both refuse the same character. -/
theorem run_follows {d : Drawn} (shaped : Shaped width s) (h : Follows height s d) (text : Text) :
    (∃ last all, s.run width height text = .ok last ∧ read width (width * height) d s.times text = .ok all ∧
      Shaped width last ∧ Follows height last all) ∨
    ∃ c, s.run width height text = .error c ∧ read width (width * height) d s.times text = .error c := by
  induction text generalizing s d with
  | nil => exact .inl ⟨s, d, rfl, rfl, shaped, h⟩
  | cons c rest ih =>
    rw [read_cons]
    by_cases full : height ≤ s.finished.length
    · rw [if_pos ((h.full_iff shaped).mpr full), run_of_full full]
      exact .inl ⟨s, d, rfl, rfl, shaped, h⟩
    · rw [if_neg fun enough => full ((h.full_iff shaped).mp enough)]
      -- as long as rows are missing there is nothing behind them
      obtain ⟨more, rfl, none⟩ := h
      obtain rfl := none.resolve_right full
      rw [List.append_nil]
      unfold run step
      rw [if_neg full]
      cases meaning c with
      | digit half => exact ih ((shaped.putMany half _).times 0) (follows_putMany s half _)
      | count n => exact ih (shaped.times _) (follows_drawn height s)
      | fill half => exact ih ((shaped.fill half).times 0) (drawn_fill shaped half ▸ follows_drawn height _)
      | copy => exact ih (shaped.copy.times 0) (drawn_copy shaped ▸ follows_drawn height _)
      | blank => exact ih (shaped.times 0) (follows_drawn height s)
      | none => exact .inr ⟨c, rfl, rfl⟩

end Sheet

/-! ## Lists that go on with zeros -/

theorem takeD_append_zeros (l : List Nat) (n k : Nat) : (l ++ List.replicate k 0).takeD n 0 = l.takeD n 0 := by
  induction n generalizing l k with
  | zero => rfl
  | succ n ih =>
    cases l with
    | nil =>
      cases k with
      | zero => rfl
      | succ k => simpa [List.replicate_succ] using ih [] k
    | cons a l => simpa using ih l k

theorem take_append_zeros (l : List Nat) (n : Nat) :
    (l ++ List.replicate (n - l.length) 0).take n = l.takeD n 0 := by
  rw [← takeD_append_zeros l n (n - l.length), List.takeD_eq_take]
  rw [List.length_append, List.length_replicate]
  omega

theorem takeD_append_of_le {l : List Nat} {n : Nat} (h : n ≤ l.length) (more : List Nat) :
    (l ++ more).takeD n 0 = l.takeD n 0 := by
  rw [List.takeD_eq_take _ h, List.takeD_eq_take _ (by rw [List.length_append]; omega),
    List.take_append_of_le_length h]

theorem takeD_length_add (l more : List Nat) (n : Nat) :
    (l ++ more).takeD (l.length + n) 0 = l ++ more.takeD n 0 := by
  induction l with
  | nil => rw [List.nil_append, List.nil_append, List.length_nil, Nat.zero_add]
  | cons a l ih => simpa [Nat.succ_add] using ih

theorem flatten_takeD {width : Nat} {rows : List (List Nat)} (widths : ∀ row ∈ rows, row.length = width) (n : Nat) :
    (rows.takeD n (List.replicate width 0)).flatten = rows.flatten.takeD (width * n) 0 := by
  induction n generalizing rows with
  | zero => rfl
  | succ n ih =>
    rw [Nat.mul_succ, Nat.add_comm (width * n), List.takeD, List.flatten_cons]
    cases rows with
    | nil =>
      have below := @ih [] (by simp)
      rw [List.flatten_nil, List.takeD_nil (width * n)] at below
      rw [List.flatten_nil, List.takeD_nil (width + width * n), List.replicate_add, ← below]
      rfl
    | cons row rows =>
      have first : row.length = width := widths row List.mem_cons_self
      rw [List.flatten_cons, ← first, takeD_length_add, first]
      exact congrArg (row ++ ·) (ih fun r hr => widths r (List.mem_cons_of_mem _ hr))

theorem length_of_mem_takeD {width n : Nat} {rows : List (List Nat)} (widths : ∀ row ∈ rows, row.length = width) :
    ∀ row ∈ rows.takeD n (List.replicate width 0), row.length = width := by
  induction n generalizing rows with
  | zero => simp
  | succ n ih =>
    rw [List.takeD, List.forall_mem_cons]
    cases rows with
    | nil => exact ⟨List.length_replicate, ih (by simp)⟩
    | cons row rows =>
      exact ⟨widths row List.mem_cons_self, ih fun r hr => widths r (List.mem_cons_of_mem _ hr)⟩

/-! ## Decoding row by row -/

namespace Sheet

variable {width height : Nat} {s : Sheet}

theorem Shaped.length_of_mem_rows (h : Shaped width s) (height : Nat) :
    ∀ row ∈ s.rows width height, row.length = width :=
  length_of_mem_takeD h.close.whole

theorem length_rows : (s.rows width height).length = height := List.takeD_length _ _ _

theorem halves_close (width : Nat) (s : Sheet) :
    ∃ k, (s.close width).finished.flatten = s.halves ++ List.replicate k 0 := by
  unfold close
  split_ifs with empty
  · exact ⟨0, by simp [halves, empty]⟩
  · exact ⟨width - s.opened.length, by simp [halves, fill]⟩

theorem flatten_rows {d : Drawn} (shaped : Shaped width s) (h : Follows height s d) :
    (s.rows width height).flatten =
      (d.halves.reverse ++ List.replicate (width * height - d.size) 0).take (width * height) := by
  have full := h.full_iff shaped
  obtain ⟨more, rfl, rest⟩ := h
  obtain ⟨k, closed⟩ := s.halves_close width
  rw [rows, flatten_takeD shaped.close.whole, closed, takeD_append_zeros]
  rw [Drawn.ofHalves, List.reverse_reverse, take_append_zeros]
  obtain rfl | enough := rest
  · rw [List.append_nil]
  · have there := ((follows_drawn height s).full_iff shaped).mpr enough
    rw [drawn, Drawn.size_ofHalves] at there
    rw [takeD_append_of_le there]

end Sheet

/-- Half bytes that are read on and on give the bytes of the rows. -/
theorem decode_eq_rows {rowBytes : Nat} (positive : 0 < rowBytes) (height : Nat) (data : Text) :
    decode rowBytes height data =
      (Sheet.run (2 * rowBytes) height {} data).map fun s =>
        (s.rows (2 * rowBytes) height).flatMap (packRow rowBytes) := by
  have start : Sheet.Follows height {} Drawn.empty := Sheet.follows_drawn height {}
  have shaped : Sheet.Shaped (2 * rowBytes) {} := ⟨by simp, by show 0 < _; omega⟩
  unfold decode
  simp only
  obtain ⟨s, d, rows, flat, shaped, follows⟩ | ⟨c, rows, flat⟩ := Sheet.run_follows shaped start data
  · rw [rows, flat]
    have packed := pack_flatten (shaped.length_of_mem_rows height) []
    rw [List.append_nil, Sheet.flatten_rows shaped follows] at packed
    exact congrArg Except.ok (packed.trans (List.append_nil _))
  · rw [rows, flat]
    rfl

theorem length_packRow (n : Nat) (row : List Nat) : (packRow n row).length = n := by
  rw [packRow, List.length_map, List.length_range]

theorem length_of_decode {rowBytes height : Nat} (positive : 0 < rowBytes) {data : Text} {bytes : List UInt8}
    (h : decode rowBytes height data = .ok bytes) : bytes.length = rowBytes * height := by
  rw [decode_eq_rows positive] at h
  cases taken : Sheet.run (2 * rowBytes) height {} data with
  | error c =>
    rw [taken] at h
    cases h
  | ok s =>
    rw [taken] at h
    cases h
    rw [List.length_flatMap, List.map_congr_left fun row _ => length_packRow rowBytes row, List.map_const',
      List.sum_replicate_nat, Sheet.length_rows, Nat.mul_comm]

end LabelPreview.HexRows
