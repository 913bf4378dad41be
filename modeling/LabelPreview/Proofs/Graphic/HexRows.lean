import LabelPreview.Graphic.HexRows
import Mathlib.Algebra.GroupWithZero.Nat
import Mathlib.Data.List.Basic

/-!
# Spellings of hexadecimal rows

The same rows can be written in many ways: half bytes one by one or as counted runs, the rest of a row as a mark,
a row like the one above as another mark. Whichever way is taken, reading gives the rows.
-/

namespace LabelPreview.HexRows

/-! ## Spellings -/

/-- The count letters with what each of them counts. -/
def countLetters : List (Char × Nat) :=
  "GHIJKLMNOPQRSTUVWXY".toList.zip (List.range' 1 19) ++
    "ghijklmnopqrstuvwxyz".toList.zip ((List.range' 1 20).map (20 * ·))

/-- A hexadecimal digit of either case. -/
def IsDigit (half : Nat) (c : Char) : Prop :=
  half < 16 ∧ (c = half.digitChar ∨ c = half.digitChar.toUpper)

instance (half : Nat) (c : Char) : Decidable (IsDigit half c) := inferInstanceAs (Decidable (_ ∧ _))

/-- A spelling of `n` equal half bytes: count letters that add up to `n` and the digit, or the digit alone. -/
inductive Run (half : Nat) : (n : Nat) → Text → Prop
  | bare {c : Char} (digit : IsDigit half c) : Run half 1 [c]
  | counted {letters : List (Char × Nat)} {c : Char} (nonempty : letters ≠ [])
      (known : ∀ l ∈ letters, l ∈ countLetters) (digit : IsDigit half c) :
      Run half (letters.map Prod.snd).sum (letters.map Prod.fst ++ [c])

/-- A spelling of half bytes as runs. -/
inductive Runs : List Nat → Text → Prop
  | nil : Runs [] []
  | cons {half n : Nat} {halves : List Nat} {text more : Text} (run : Run half n text)
      (rest : Runs halves more) : Runs (List.replicate n half ++ halves) (text ++ more)

/-- The marks that fill a row, with the half byte that they stand for. -/
def fillMarks : List (Char × Nat) := [(',', 0), ('!', 15)]

/-- A spelling of rows below the row `above`. -/
inductive Spells (width : Nat) : (above : List Nat) → (rows : List (List Nat)) → Text → Prop
  | done {above : List Nat} : Spells width above [] []
  /-- Whole rows as runs, which may go on from one row to the next. -/
  | whole {above last : List Nat} {rows rest : List (List Nat)} {text more : Text}
      (widths : ∀ row ∈ rows ++ [last], row.length = width) (runs : Runs (rows ++ [last]).flatten text)
      (below : Spells width last rest more) : Spells width above (rows ++ [last] ++ rest) (text ++ more)
  /-- A row of which only the front is written, if anything, and a mark for the rest. -/
  | filled {above front : List Nat} {rest : List (List Nat)} {mark : Char} {half : Nat} {text more : Text}
      (known : (mark, half) ∈ fillMarks) (short : front.length < width) (runs : Runs front text)
      (below : Spells width (front ++ List.replicate (width - front.length) half) rest more) :
      Spells width above ((front ++ List.replicate (width - front.length) half) :: rest)
        (text ++ mark :: more)
  /-- A row like the row above. -/
  | copied {above : List Nat} {rest : List (List Nat)} {more : Text} (below : Spells width above rest more) :
      Spells width above (above :: rest) (':' :: more)

/-! ## Characters -/

theorem hexDigit?_of_isDigit {half : Nat} {c : Char} (h : IsDigit half c) : Text.hexDigit? c = some half := by
  have table : ∀ half < 16, Text.hexDigit? half.digitChar = some half ∧
      Text.hexDigit? half.digitChar.toUpper = some half := by decide
  obtain ⟨lt, rfl | rfl⟩ := h
  · exact (table half lt).1
  · exact (table half lt).2

theorem mem_countLetters {l : Char × Nat} (h : l ∈ countLetters) :
    Text.hexDigit? l.1 = none ∧ countLetter? l.1 = some l.2 ∧ 0 < l.2 := by
  have table : ∀ l ∈ countLetters, Text.hexDigit? l.1 = none ∧ countLetter? l.1 = some l.2 ∧ 0 < l.2 := by
    decide
  exact table l h

/-! ## What is drawn -/

namespace Drawn

/-- Half bytes in the order of the rows. -/
def ofHalves (halves : List Nat) : Drawn := ⟨halves.reverse, halves.length⟩

def ofRows (rows : List (List Nat)) : Drawn := ofHalves rows.flatten

@[simp]
theorem size_ofHalves (halves : List Nat) : (ofHalves halves).size = halves.length := rfl

theorem push_ofHalves (halves : List Nat) (n half : Nat) :
    (ofHalves halves).push n half = ofHalves (halves ++ List.replicate n half) := by
  simp [push, ofHalves]

variable {width : Nat} {rows : List (List Nat)} (widths : ∀ row ∈ rows, row.length = width)

include widths

theorem size_ofRows : (ofRows rows).size = rows.length * width := by
  rw [ofRows, size_ofHalves, List.length_flatten, List.map_congr_left widths, List.map_const',
    List.sum_replicate_nat]

theorem fillRow_ofRows {front : List Nat} (short : front.length < width) (half : Nat) :
    (ofHalves (rows.flatten ++ front)).fillRow width half =
      ofRows (rows ++ [front ++ List.replicate (width - front.length) half]) := by
  have started : (rows.flatten ++ front).length % width = front.length := by
    have size : rows.flatten.length = rows.length * width := size_ofRows widths
    rw [List.length_append, size, Nat.mul_add_mod_of_lt short]
  rw [fillRow, size_ofHalves, started, push_ofHalves, ofRows]
  simp

theorem endRow_ofRows : (ofRows rows).endRow width = ofRows rows := by
  rw [endRow, size_ofRows widths, Nat.mul_mod_left, if_pos rfl]

theorem copyRow_ofRows (positive : 0 < width) :
    (ofRows rows).copyRow width = ofRows (rows ++ [rows.getLastD (List.replicate width 0)]) := by
  rcases List.eq_nil_or_concat' rows with rfl | ⟨front, last, rfl⟩
  · simp [copyRow, ofRows, push_ofHalves]
  · have width' : last.length = width := widths last (by simp)
    have above : (last.reverse ++ front.flatten.reverse).take width = last.reverse :=
      List.take_left' (by rw [List.length_reverse, width'])
    have started : (ofRows (front ++ [last])).size ≠ 0 := by
      rw [size_ofRows widths, List.length_append]
      exact Nat.ne_of_gt (Nat.mul_pos (by simp) positive)
    rw [copyRow, if_neg started]
    simp only [ofRows, ofHalves, List.getLastD_concat, List.flatten_append, List.flatten_singleton,
      List.reverse_append, List.length_append, width', above]

end Drawn

/-! ## Reading -/

variable {width wanted : Nat}

open Drawn

theorem read_digit {halves : List Nat} {half : Nat} {c : Char} (digit : IsDigit half c)
    (room : halves.length < wanted) (times : Nat) (more : Text) :
    read width wanted (ofHalves halves) times (c :: more) =
      read width wanted (ofHalves (halves ++ List.replicate (max times 1) half)) 0 more := by
  have go : ¬wanted ≤ (ofHalves halves).size := Nat.not_le_of_lt room
  simp only [read, if_neg go, hexDigit?_of_isDigit digit, push_ofHalves]

theorem read_letters {halves : List Nat} {letters : List (Char × Nat)}
    (known : ∀ l ∈ letters, l ∈ countLetters) (room : halves.length < wanted) (times : Nat) (more : Text) :
    read width wanted (ofHalves halves) times (letters.map Prod.fst ++ more) =
      read width wanted (ofHalves halves) (times + (letters.map Prod.snd).sum) more := by
  induction letters generalizing times with
  | nil => rfl
  | cons l letters ih =>
    have go : ¬wanted ≤ (ofHalves halves).size := Nat.not_le_of_lt room
    obtain ⟨noDigit, counts, -⟩ := mem_countLetters (known l List.mem_cons_self)
    simp only [List.map_cons, List.cons_append, read, if_neg go, noDigit, counts]
    rw [ih fun m hm => known m (List.mem_cons_of_mem _ hm), List.sum_cons, Nat.add_assoc]

theorem sum_letters_pos {letters : List (Char × Nat)} (nonempty : letters ≠ [])
    (known : ∀ l ∈ letters, l ∈ countLetters) : 0 < (letters.map Prod.snd).sum := by
  cases letters with
  | nil => exact absurd rfl nonempty
  | cons l letters =>
    have positive := (mem_countLetters (known l List.mem_cons_self)).2.2
    rw [List.map_cons, List.sum_cons]
    omega

theorem Run.positive {half n : Nat} {text : Text} (h : Run half n text) : 0 < n := by
  cases h with
  | bare => exact Nat.one_pos
  | counted nonempty known => exact sum_letters_pos nonempty known

theorem read_run {halves : List Nat} {half n : Nat} {text : Text} (h : Run half n text)
    (room : halves.length < wanted) (more : Text) :
    read width wanted (ofHalves halves) 0 (text ++ more) =
      read width wanted (ofHalves (halves ++ List.replicate n half)) 0 more := by
  have positive := h.positive
  cases h with
  | bare digit => exact read_digit digit room 0 more
  | counted nonempty known digit =>
    rw [List.append_assoc, read_letters known room, List.singleton_append, read_digit digit room, Nat.zero_add,
      Nat.max_eq_left positive]

theorem read_runs {halves front : List Nat} {text : Text} (h : Runs halves text)
    (fits : front.length + halves.length ≤ wanted) (more : Text) :
    read width wanted (ofHalves front) 0 (text ++ more) =
      read width wanted (ofHalves (front ++ halves)) 0 more := by
  induction h generalizing front with
  | nil => rw [List.nil_append, List.append_nil]
  | @cons half n halves text more' run _ ih =>
    have positive := run.positive
    rw [List.length_append, List.length_replicate] at fits
    have rest : (front ++ List.replicate n half).length + halves.length ≤ wanted := by
      rw [List.length_append, List.length_replicate]
      omega
    rw [List.append_assoc, read_run run (by omega), ih rest, List.append_assoc]

theorem read_mark {rows : List (List Nat)} {front : List Nat} {mark : Char} {half : Nat}
    (known : (mark, half) ∈ fillMarks) (widths : ∀ row ∈ rows, row.length = width)
    (short : front.length < width) (room : (rows.flatten ++ front).length < wanted) (more : Text) :
    read width wanted (ofHalves (rows.flatten ++ front)) 0 (mark :: more) =
      read width wanted (ofRows (rows ++ [front ++ List.replicate (width - front.length) half])) 0 more := by
  have go : ¬wanted ≤ (ofHalves (rows.flatten ++ front)).size := Nat.not_le_of_lt room
  have table : ∀ m ∈ fillMarks, Text.hexDigit? m.1 = none ∧ countLetter? m.1 = none := by decide
  obtain ⟨noDigit, noLetter⟩ := table _ known
  rw [← fillRow_ofRows widths short]
  simp only [fillMarks, List.mem_cons, Prod.mk.injEq, List.not_mem_nil, or_false] at known
  rcases known with ⟨rfl, rfl⟩ | ⟨rfl, rfl⟩
  · simp only [read, if_neg go, noDigit, noLetter, if_true]
  · simp only [read, if_neg go, noDigit, noLetter, if_true]
    rfl

theorem read_copy {rows : List (List Nat)} (widths : ∀ row ∈ rows, row.length = width)
    (room : (ofRows rows).size < wanted) (positive : 0 < width) (more : Text) :
    read width wanted (ofRows rows) 0 (':' :: more) =
      read width wanted (ofRows (rows ++ [rows.getLastD (List.replicate width 0)])) 0 more := by
  have go : ¬wanted ≤ (ofRows rows).size := Nat.not_le_of_lt room
  rw [← copyRow_ofRows widths positive, read, if_neg go, endRow_ofRows widths]
  rfl

theorem Spells.widths {above : List Nat} {rows : List (List Nat)} {text : Text}
    (h : Spells width above rows text) (first : above.length = width) : ∀ row ∈ rows, row.length = width := by
  induction h with
  | done => simp
  | whole widths _ _ ih =>
    intro row hrow
    rcases List.mem_append.mp hrow with hrow | hrow
    · exact widths row hrow
    · exact ih (widths _ (by simp)) row hrow
  | @filled _ front _ _ half _ _ _ short _ _ ih =>
    have full : (front ++ List.replicate (width - front.length) half).length = width := by
      rw [List.length_append, List.length_replicate, Nat.add_sub_cancel' (Nat.le_of_lt short)]
    exact List.forall_mem_cons.mpr ⟨full, ih full⟩
  | copied _ ih => exact List.forall_mem_cons.mpr ⟨first, ih first⟩

/-- A spelling read below the rows that are there adds its own rows. -/
theorem read_spells {above : List Nat} {rows done : List (List Nat)} {text : Text}
    (h : Spells width above rows text) (positive : 0 < width)
    (widths : ∀ row ∈ done ++ rows, row.length = width)
    (last : done.getLastD (List.replicate width 0) = above) (fits : (done ++ rows).flatten.length ≤ wanted) :
    read width wanted (ofRows done) 0 text = .ok (ofRows (done ++ rows)) := by
  -- on the spelling: `done` grows by its rows, and the last of `done` is the row above what is left
  induction h generalizing done with
  | done => rw [read, List.append_nil]
  | @whole above last' rows rest text more widths' runs _ ih =>
    rw [← List.append_assoc] at widths fits ⊢
    have front : done.flatten.length + (rows ++ [last']).flatten.length ≤ wanted := by
      rw [List.flatten_append, List.flatten_append, List.length_append, List.length_append] at fits
      omega
    rw [ofRows, read_runs runs front, ← List.flatten_append]
    exact ih widths (by simp) fits
  | @filled above front rest mark half text more known short runs _ ih =>
    rw [List.append_cons done] at widths fits ⊢
    have whole : ∀ row ∈ done, row.length = width := fun row hrow =>
      widths row (List.mem_append_left _ (List.mem_append_left _ hrow))
    have room : done.flatten.length + front.length < wanted := by
      simp only [List.flatten_append, List.flatten_singleton, List.length_append, List.length_replicate] at fits
      omega
    rw [ofRows, read_runs runs (Nat.le_of_lt room),
      read_mark known whole short (by rwa [List.length_append])]
    exact ih widths (by simp) fits
  | @copied above rest more _ ih =>
    rw [List.append_cons done] at widths fits ⊢
    have whole : ∀ row ∈ done, row.length = width := fun row hrow =>
      widths row (List.mem_append_left _ (List.mem_append_left _ hrow))
    have room : (ofRows done).size < wanted := by
      have width' : above.length = width := widths above (by simp)
      simp only [List.flatten_append, List.flatten_singleton, List.length_append] at fits
      rw [ofRows, size_ofHalves]
      omega
    rw [read_copy whole room positive, last]
    exact ih widths (by simp) fits

/-! ## Packing -/

/-- The bytes of a row, each with its high half first. -/
def packRow (rowBytes : Nat) (row : List Nat) : List UInt8 :=
  (List.range rowBytes).map fun i => UInt8.ofNat (16 * row.getD (2 * i) 0 + row.getD (2 * i + 1) 0)

theorem pack_append {n : Nat} {row more : List Nat} (h : row.length = 2 * n) :
    pack (row ++ more) = packRow n row ++ pack more := by
  induction n generalizing row with
  | zero =>
    rw [List.eq_nil_of_length_eq_zero h]
    rfl
  | succ n ih =>
    obtain ⟨high, rest, rfl⟩ := List.exists_cons_of_length_eq_add_one h
    obtain ⟨low, rest, rfl⟩ := List.exists_cons_of_length_eq_add_one (Nat.succ.inj h)
    have rest' : rest.length = 2 * n := by simpa [Nat.mul_succ] using h
    rw [List.cons_append, List.cons_append, pack, ih rest']
    simp [packRow, List.range_succ_eq_map, Function.comp_def, Nat.mul_add]

theorem pack_flatten {n : Nat} {rows : List (List Nat)} (widths : ∀ row ∈ rows, row.length = 2 * n)
    (more : List Nat) : pack (rows.flatten ++ more) = rows.flatMap (packRow n) ++ pack more := by
  induction rows with
  | nil => rfl
  | cons row rows ih =>
    rw [List.flatten_cons, List.append_assoc, pack_append (widths row List.mem_cons_self),
      ih fun r hr => widths r (List.mem_cons_of_mem _ hr), List.flatMap_cons, List.append_assoc]

theorem pack_zeros (n : Nat) : pack (List.replicate (2 * n) 0) = List.replicate n 0 := by
  induction n with
  | zero => rfl
  | succ n ih =>
    rw [Nat.mul_succ, List.replicate_succ, List.replicate_succ, pack, ih, List.replicate_succ]
    rfl

/-! ## Digits -/

/-- The half bytes of a byte, the high one first. -/
def halves (b : UInt8) : List Nat := [b.toNat / 16, b.toNat % 16]

theorem length_flatMap_halves (bytes : List UInt8) : (bytes.flatMap halves).length = 2 * bytes.length := by
  simp [List.length_flatMap, halves, Nat.mul_comm]

theorem lt_of_mem_halves {b : UInt8} {half : Nat} (h : half ∈ halves b) : half < 16 := by
  have := b.toNat_lt
  simp only [halves, List.mem_cons, List.not_mem_nil, or_false] at h
  omega

theorem pack_halves (bytes : List UInt8) : pack (bytes.flatMap halves) = bytes := by
  induction bytes with
  | nil => rfl
  | cons b bytes ih =>
    have whole : UInt8.ofNat (16 * (b.toNat / 16) + b.toNat % 16) = b := by
      rw [Nat.div_add_mod, UInt8.ofNat_toNat]
    rw [List.flatMap_cons, halves, List.cons_append, List.cons_append, List.nil_append, pack, ih, whole]

theorem runs_of_digits {halves : List Nat} {text : Text} (h : List.Forall₂ IsDigit halves text) :
    Runs halves text := by
  induction h with
  | nil => exact .nil
  | cons digit _ ih => exact .cons (.bare digit) ih

/-! ## Decoding -/

theorem decode_runs {rowBytes height : Nat} {halves : List Nat} {text : Text} (runs : Runs halves text)
    (full : halves.length = 2 * rowBytes * height) : decode rowBytes height text = .ok (pack halves) := by
  have drawn : read (2 * rowBytes) (2 * rowBytes * height) Drawn.empty 0 text = .ok (ofHalves halves) := by
    have run := @read_runs (2 * rowBytes) (2 * rowBytes * height) halves [] text runs
      (by simp [full]) []
    rw [List.append_nil, List.nil_append, read] at run
    exact run
  rw [decode]
  simp only [drawn, Except.map, size_ofHalves, full, Nat.sub_self]
  rw [ofHalves, List.reverse_reverse, List.replicate_zero, List.append_nil,
    List.take_of_length_le (Nat.le_of_eq full)]

/-- However rows are spelled, decoding gives their bytes and zeros for the rows that are not there. -/
theorem decode_spelling {rowBytes height : Nat} {rows : List (List Nat)} {text : Text}
    (positive : 1 ≤ rowBytes)
    (spelled : Spells (2 * rowBytes) (List.replicate (2 * rowBytes) 0) rows text)
    (fits : rows.length ≤ height) :
    decode rowBytes height text =
      .ok (rows.flatMap (packRow rowBytes) ++ List.replicate (rowBytes * (height - rows.length)) 0) := by
  have widths : ∀ row ∈ rows, row.length = 2 * rowBytes := spelled.widths List.length_replicate
  have size : (ofRows rows).size = rows.length * (2 * rowBytes) := size_ofRows widths
  have room : rows.flatten.length ≤ 2 * rowBytes * height := by
    calc rows.flatten.length = rows.length * (2 * rowBytes) := size
      _ ≤ height * (2 * rowBytes) := Nat.mul_le_mul_right _ fits
      _ = 2 * rowBytes * height := Nat.mul_comm _ _
  have drawn : read (2 * rowBytes) (2 * rowBytes * height) Drawn.empty 0 text = .ok (ofRows rows) :=
    @read_spells _ _ _ _ [] _ spelled (by omega) widths rfl room
  have left : 2 * rowBytes * height - rows.length * (2 * rowBytes) = 2 * (rowBytes * (height - rows.length)) := by
    rw [Nat.mul_comm rows.length, ← Nat.mul_sub, Nat.mul_assoc]
  have whole : (rows.flatten ++ List.replicate (2 * (rowBytes * (height - rows.length))) 0).length =
      2 * rowBytes * height := by
    rw [List.length_append, List.length_replicate, ← left]
    exact (congrArg (· + _) size).trans (Nat.add_sub_cancel' (size ▸ room))
  rw [decode]
  simp only [drawn, Except.map, size, left]
  rw [ofRows, ofHalves, List.reverse_reverse, List.take_of_length_le (Nat.le_of_eq whole), pack_flatten widths,
    pack_zeros]

/-- Three counted digits over the end of a row, a digit for the rest, a copy of the row, and a row of ones. -/
theorem decode_spelling_mixed :
    decode 1 5 "IF0:!".toList = .ok [0xFF, 0xF0, 0xF0, 0xFF, 0] := by
  have three : Run 15 3 "IF".toList := @Run.counted 15 [('I', 3)] 'F' (by simp) (by decide) ⟨by decide, .inr rfl⟩
  have zero : Run 0 1 "0".toList := .bare ⟨by decide, .inl rfl⟩
  have runs : Runs [15, 15, 15, 0] "IF0".toList := .cons three (.cons zero .nil)
  have ones : Spells 2 [15, 0] [[15, 15]] "!".toList :=
    @Spells.filled 2 [15, 0] [] [] '!' 15 [] [] (by decide) (by decide) .nil .done
  have spelled : Spells 2 [0, 0] [[15, 15], [15, 0], [15, 0], [15, 15]] "IF0:!".toList :=
    @Spells.whole 2 [0, 0] [15, 0] [[15, 15]] _ _ _ (by decide) runs (.copied ones)
  exact @decode_spelling 1 5 _ _ (by decide) spelled (by decide)

end LabelPreview.HexRows
