import LabelPreview.Proofs.Graphic.Rows

/-!
# The first rows of a picture

Reading for few rows goes through the same half bytes as reading for many, and stops earlier. So the first rows do
not depend on how many are wanted, and once they are complete nothing behind them is read.
-/

namespace LabelPreview.HexRows

/-! ## Half bytes are only added -/

namespace Drawn

variable {width : Nat}

theorem endRow_ofHalves (l : List Nat) :
    ∃ more, (ofHalves l).endRow width = ofHalves (l ++ more) ∧ (l ++ more = [] ∨ width ≤ (l ++ more).length) := by
  unfold endRow fillRow
  rw [size_ofHalves]
  split_ifs with whole
  · refine ⟨[], by rw [List.append_nil], ?_⟩
    rw [List.append_nil]
    cases l with
    | nil => exact .inl rfl
    | cons half l => exact .inr (Nat.le_of_dvd (Nat.succ_pos _) (Nat.dvd_of_mod_eq_zero whole))
  · refine ⟨_, push_ofHalves l _ 0, .inr ?_⟩
    have := Nat.mod_le l.length width
    rw [List.length_append, List.length_replicate]
    omega

theorem copyRow_ofHalves {l : List Nat} (whole : l = [] ∨ width ≤ l.length) :
    ∃ more, (ofHalves l).copyRow width = ofHalves (l ++ more) := by
  unfold copyRow
  rw [size_ofHalves]
  split_ifs with empty
  · exact ⟨_, push_ofHalves l width 0⟩
  · obtain rfl | enough := whole
    · exact absurd rfl empty
    · refine ⟨(l.reverse.take width).reverse, ?_⟩
      simp only [ofHalves, List.reverse_append, List.reverse_reverse, List.length_append, List.length_reverse,
        List.length_take, Nat.min_eq_left enough]

end Drawn

open Drawn

/-- What a character does to the half bytes and to the repetition; nothing if it is no data. -/
def advance (width : Nat) (d : Drawn) (times : Nat) : Meaning → Option (Drawn × Nat)
  | .digit half => some (d.push (max times 1) half, 0)
  | .count n => some (d, times + n)
  | .fill half => some (d.fillRow width half, 0)
  | .copy => some ((d.endRow width).copyRow width, 0)
  | .blank => some (d, 0)
  | .none => none

theorem read_advance (width wanted : Nat) (d : Drawn) (times : Nat) (c : Char) (rest : Text) :
    read width wanted d times (c :: rest) =
      if wanted ≤ d.size then .ok d
      else
        match advance width d times (meaning c) with
        | some (next, times) => read width wanted next times rest
        | none => .error c := by
  rw [read_cons]
  cases meaning c <;> rfl

theorem advance_ofHalves {width times again : Nat} {l : List Nat} {m : Meaning} {d : Drawn}
    (h : advance width (ofHalves l) times m = some (d, again)) : ∃ more, d = ofHalves (l ++ more) := by
  cases m with
  | digit half =>
    cases h
    exact ⟨_, push_ofHalves l _ half⟩
  | fill half =>
    cases h
    exact ⟨_, push_ofHalves l _ half⟩
  | count n =>
    cases h
    exact ⟨[], by rw [List.append_nil]⟩
  | blank =>
    cases h
    exact ⟨[], by rw [List.append_nil]⟩
  | copy =>
    cases h
    obtain ⟨ended, hended, whole⟩ := @endRow_ofHalves width l
    obtain ⟨copied, hcopied⟩ := copyRow_ofHalves whole
    exact ⟨ended ++ copied, by rw [hended, hcopied, List.append_assoc]⟩
  | none => cases h

variable {width wanted few many times : Nat} {l : List Nat} {s : Text} {e : Drawn}

theorem read_cons_eq_ok {c : Char} (go : ¬wanted ≤ (ofHalves l).size)
    (h : read width wanted (ofHalves l) times (c :: s) = .ok e) :
    ∃ more again, advance width (ofHalves l) times (meaning c) = some (ofHalves (l ++ more), again) ∧
      read width wanted (ofHalves (l ++ more)) again s = .ok e := by
  rw [read_advance, if_neg go] at h
  cases step : advance width (ofHalves l) times (meaning c) with
  | none =>
    rw [step] at h
    cases h
  | some next =>
    obtain ⟨d, again⟩ := next
    obtain ⟨more, rfl⟩ := advance_ofHalves step
    rw [step] at h
    exact ⟨more, again, rfl, h⟩

theorem read_ofHalves (h : read width wanted (ofHalves l) times s = .ok e) : ∃ more, e = ofHalves (l ++ more) := by
  induction s generalizing l times with
  | nil =>
    cases h
    exact ⟨[], by rw [List.append_nil]⟩
  | cons c rest ih =>
    by_cases enough : wanted ≤ (ofHalves l).size
    · rw [read_advance, if_pos enough] at h
      cases h
      exact ⟨[], by rw [List.append_nil]⟩
    · obtain ⟨more, again, -, h⟩ := read_cons_eq_ok enough h
      obtain ⟨behind, rfl⟩ := ih h
      exact ⟨more ++ behind, by rw [List.append_assoc]⟩

/-- Reading for fewer half bytes ends at the same place, or it ends before with enough of them. -/
theorem read_fewer (fewer : few ≤ many) (h : read width many (ofHalves l) times s = .ok e) :
    ∃ front more, read width few (ofHalves l) times s = .ok (ofHalves front) ∧ e = ofHalves (front ++ more) ∧
      (more = [] ∨ few ≤ front.length) := by
  induction s generalizing l times with
  | nil =>
    cases h
    exact ⟨l, [], rfl, by rw [List.append_nil], .inl rfl⟩
  | cons c rest ih =>
    by_cases enough : few ≤ (ofHalves l).size
    · obtain ⟨more, rfl⟩ := read_ofHalves h
      refine ⟨l, more, ?_, rfl, .inr enough⟩
      rw [read_advance, if_pos enough]
    · -- the next character is read for either number
      obtain ⟨more, again, step, h⟩ := read_cons_eq_ok (fun full => enough (Nat.le_trans fewer full)) h
      rw [read_advance, if_neg enough, step]
      exact ih h

/-! ## The bytes of the first rows -/

theorem take_takeD {n m : Nat} (h : n ≤ m) (l : List Nat) : (l.takeD m 0).take n = l.takeD n 0 := by
  induction n generalizing l m with
  | zero => rfl
  | succ n ih =>
    obtain ⟨m, rfl⟩ := Nat.exists_eq_succ_of_ne_zero (Nat.ne_zero_of_lt h)
    rw [List.takeD, List.takeD, List.take_succ_cons, ih (Nat.le_of_succ_le_succ h)]

theorem pack_take (l : List Nat) (n : Nat) : pack (l.take (2 * n)) = (pack l).take n := by
  induction n generalizing l with
  | zero => rfl
  | succ n ih =>
    match l with
    | [] => rfl
    | [_] => rfl
    | high :: low :: l => exact congrArg (UInt8.ofNat (16 * high + low) :: ·) (ih l)

theorem decode_of_read {rowBytes height : Nat} {data : Text}
    (h : read (2 * rowBytes) (2 * rowBytes * height) .empty 0 data = .ok (ofHalves l)) :
    decode rowBytes height data = .ok (pack (l.takeD (2 * rowBytes * height) 0)) := by
  unfold decode
  simp only [h, Except.map, ofHalves, List.reverse_reverse, take_append_zeros]

theorem decode_fewer {rowBytes height more : Nat} {data : Text} {bytes : List UInt8} (fewer : height ≤ more)
    (h : decode rowBytes more data = .ok bytes) :
    decode rowBytes height data = .ok (bytes.take (rowBytes * height)) := by
  cases taken : read (2 * rowBytes) (2 * rowBytes * more) .empty 0 data with
  | error c =>
    simp only [decode, taken] at h
    cases h
  | ok e =>
    obtain ⟨front, behind, first, rfl, last⟩ :=
      read_fewer (l := []) (Nat.mul_le_mul_left (2 * rowBytes) fewer) taken
    rw [decode_of_read taken] at h
    cases h
    have halves : (front ++ behind).takeD (2 * rowBytes * height) 0 = front.takeD (2 * rowBytes * height) 0 := by
      obtain rfl | enough := last
      · rw [List.append_nil]
      · exact takeD_append_of_le enough behind
    rw [decode_of_read first, ← pack_take, ← Nat.mul_assoc, take_takeD (Nat.mul_le_mul_left _ fewer), halves]

/-! ## Text behind the last row -/

theorem Sheet.run_append (width height : Nat) (s : Sheet) (front more : Text) :
    s.run width height (front ++ more) = (s.run width height front).bind fun s => s.run width height more := by
  induction front generalizing s with
  | nil => rfl
  | cons c front ih =>
    rw [List.cons_append, Sheet.run, Sheet.run]
    cases s.step width height c with
    | ok next => exact ih next
    | error c => rfl

/-- The text has as many rows as are wanted, all of them finished. -/
def Completes (rowBytes height : Nat) (s : Text) : Prop :=
  ∃ sheet, Sheet.run (2 * rowBytes) height {} s = .ok sheet ∧ height ≤ sheet.finished.length

theorem decode_completed {rowBytes height : Nat} (positive : 0 < rowBytes) {front : Text}
    (h : Completes rowBytes height front) :
    ∃ bytes, ∀ more, decode rowBytes height (front ++ more) = .ok bytes := by
  obtain ⟨sheet, taken, full⟩ := h
  refine ⟨(sheet.rows (2 * rowBytes) height).flatMap (packRow rowBytes), fun more => ?_⟩
  rw [decode_eq_rows positive, Sheet.run_append, taken, Except.bind, Sheet.run_of_full full]
  rfl

/-- The first rows are the same whatever number of rows is wanted, as long as the data can be read for the larger
number. Text behind the last row is not read, so it does not matter what it is. -/
theorem decode_first_rows {rowBytes : Nat} (positive : 0 < rowBytes) :
    (∀ (data : Text) (height more : Nat) (bytes : List UInt8), height ≤ more →
      decode rowBytes more data = .ok bytes →
        decode rowBytes height data = .ok (bytes.take (rowBytes * height))) ∧
    ∀ (height : Nat) (front : Text), Completes rowBytes height front →
      (∃ bytes, decode rowBytes height front = .ok bytes) ∧
        ∀ more, decode rowBytes height (front ++ more) = decode rowBytes height front := by
  refine ⟨fun data height more bytes fewer h => decode_fewer fewer h, fun height front h => ?_⟩
  obtain ⟨bytes, decoded⟩ := decode_completed positive h
  have alone := decoded []
  rw [List.append_nil] at alone
  exact ⟨⟨bytes, alone⟩, fun more => by rw [decoded more, alone]⟩

/-- A copy mark ends a row that is open and adds another one, here one more than two. -/
theorem decode_first_rows_copied :
    decode 1 4 ['5', '5', 'A', ':', '!'] = .ok [0x55, 0xA0, 0xA0, 0xFF] ∧
      decode 1 2 ['5', '5', 'A', ':', '!'] = .ok [0x55, 0xA0] ∧
      decode 1 2 ['5', '5', 'A', ':', '?'] = .ok [0x55, 0xA0] := by
  have four : decode 1 4 ['5', '5', 'A', ':', '!'] = .ok [0x55, 0xA0, 0xA0, 0xFF] := rfl
  have complete : Completes 1 2 ['5', '5', 'A', ':'] := ⟨_, rfl, by decide⟩
  refine ⟨four, ?_, ?_⟩
  · exact (decode_first_rows (by decide)).1 ['5', '5', 'A', ':', '!'] 2 4 _ (by decide) four
  · exact ((decode_first_rows (by decide)).2 2 ['5', '5', 'A', ':'] complete).2 ['?']

end LabelPreview.HexRows
