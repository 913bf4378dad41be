import LabelPreview.Proofs.Render.Size
import LabelPreview.Symbol.Payload
import Mathlib.Tactic.SplitIfs

/-!
# Symbols have an area

Whatever a symbology has a symbol for, the symbol has rows and columns, and a module for every place. So the bitmap of
a symbol is never refused.
-/

namespace LabelPreview

/-! ## Bars -/

namespace Bars

theorem modules_ne_nil {widths : List Nat} {w : Nat} (there : w ∈ widths) (wide : w ≠ 0) (bar : Bool) :
    modules bar widths ≠ [] := by
  induction widths generalizing bar with
  | nil => cases there
  | cons first rest ih =>
    rw [modules]
    rcases List.mem_cons.mp there with rfl | there
    · simp [wide]
    · simp [ih there]

theorem proper_symbol {widths : List Nat} {w : Nat} (there : w ∈ widths) (wide : w ≠ 0) :
    (symbol widths).Proper where
  width := mt List.length_eq_zero_iff.mp (modules_ne_nil there wide true)
  height := Nat.one_ne_zero
  filled := (Nat.mul_one _).symm

end Bars

theorem Code39.proper_of_encode {s : Text} {b : Bitmap} (h : encode s = some b) : b.Proper := by
  obtain ⟨characters, -, rfl⟩ := Option.map_eq_some_iff.mp h
  exact Bars.proper_symbol (w := 1) (by simp) (by decide)

theorem Code128.proper_of_encode {s : Text} {b : Bitmap} (h : encode s = some b) : b.Proper := by
  unfold encode at h
  split at h
  · cases h
    have stop : 3 ∈ Bars.widthsOf stopPattern := by decide +kernel
    exact Bars.proper_symbol (List.mem_append_right _ stop) (by decide)
  · cases h

theorem Ean13.proper_of_encode {s : Text} {b : Bitmap} (h : encode s = some b) : b.Proper := by
  unfold encode at h
  split at h
  · cases h
    exact Bars.proper_symbol (w := 1) (by simp) (by decide)
  · cases h

/-! ## QR codes -/

namespace Qr

/-- As many rows as columns. -/
structure Square (side : Nat) (rows : List (List Bool)) : Prop where
  height : rows.length = side
  width : ∀ row ∈ rows, row.length = side

theorem Square.length_flatten {side : Nat} {rows : List (List Bool)} (h : Square side rows) :
    rows.flatten.length = rows.length * rows.length := by
  have columns : rows.map List.length = List.replicate rows.length side :=
    List.eq_replicate_iff.mpr ⟨List.length_map .., by simpa using h.width⟩
  rw [List.length_flatten, columns, List.sum_replicate_nat, h.height]

theorem Square.proper {side : Nat} {rows : List (List Bool)} (h : Square side rows) (sides : side ≠ 0) :
    Bitmap.Proper ⟨rows.length, rows.length, rows.flatten⟩ where
  width := h.height ▸ sides
  height := h.height ▸ sides
  filled := h.length_flatten

theorem best_mem (first : List (List Bool)) (others : List (List (List Bool))) :
    best first others ∈ first :: others := by
  refine List.foldlRecOn (motive := fun found : List (List Bool) × Nat => found.1 ∈ first :: others) others _
    (.head _) ?_
  rintro ⟨found, least⟩ there rows among
  simp only
  split
  · exact .tail _ among
  · exact there

theorem Draft.square_rows (d : Draft) (mask : Nat) : Square (side d.version) (d.rows mask) where
  height := by simp [rows]
  width := by simp [rows]

theorem Draft.square_best (d : Draft) (masks : List Nat) :
    Square (side d.version) (best (d.rows 0) (masks.map d.rows)) := by
  rcases List.mem_cons.mp (best_mem (d.rows 0) (masks.map d.rows)) with same | among
  · rw [same]
    exact d.square_rows 0
  · obtain ⟨mask, -, same⟩ := List.mem_map.mp among
    rw [← same]
    exact d.square_rows mask

theorem proper_of_encode {level : Level} {s : Text} {b : Bitmap} (h : encode level s = some b) : b.Proper := by
  unfold encode at h
  split at h
  · cases h
  · obtain ⟨version, -, rfl⟩ := Option.map_eq_some_iff.mp h
    refine (Draft.square_best _ _).proper ?_
    unfold side
    omega

end Qr

/-! ## Data Matrix symbols -/

namespace DataMatrix

/-- The size that is kept ready, if there is one, is one of those that there are. -/
def Draft.Known (d : Draft) : Prop := ∀ s, d.size = some s → s ∈ Size.all

theorem Draft.known_of_none {d : Draft} (h : d.size = none) : d.Known := by
  intro s ready
  rw [h] at ready
  cases ready

theorem Draft.reserve_known {d e : Draft} {words : Nat} {s : Size} (known : d.Known)
    (h : d.reserve words = some (e, s)) : e.Known ∧ s ∈ Size.all := by
  unfold reserve at h
  split at h
  · rename_i ready
    cases h
    exact ⟨known, known s (Option.filter_eq_some_iff.mp ready).1⟩
  · obtain ⟨t, found, made⟩ := Option.map_eq_some_iff.mp h
    cases made
    have there : s ∈ Size.all := List.mem_of_find?_eq_some found
    refine ⟨fun t ready => ?_, there⟩
    cases ready
    exact there

theorem writeAscii_known {d : Draft} (known : d.Known) : (writeAscii d).1.Known := by
  unfold writeAscii
  simp only
  split
  · exact known
  · repeat' split
    all_goals exact known

namespace Pending

variable {mode : Mode}

theorem giveBack_known {p : Pending} (known : p.draft.Known) (count : Nat) : (p.giveBack mode count).1.draft.Known := by
  unfold giveBack
  split
  · exact known
  · exact Draft.known_of_none rfl

theorem giveBackSingles_known {p : Pending} (known : p.draft.Known) (room fuel count : Nat) :
    (giveBackSingles mode room fuel p count).draft.Known := by
  induction fuel generalizing p count with
  | zero => exact known
  | succ fuel ih =>
    unfold giveBackSingles
    split
    · exact ih (giveBack_known known count) _
    · exact known

theorem settle_known {p : Pending} (known : p.draft.Known) (room count : Nat) :
    (settle mode room p count).draft.Known := by
  unfold settle
  simp only
  apply giveBackSingles_known
  split
  · exact giveBack_known known count
  · exact known

theorem gather_known {p q : Pending} (known : p.draft.Known) {s : List Nat} (h : gather mode p s = some q) :
    q.draft.Known := by
  induction s generalizing p with
  | nil =>
    cases h
    exact known
  | cons c rest ih =>
    unfold gather at h
    simp only at h
    split at h
    · cases h
    · rename_i reserved
      have kept := (Draft.reserve_known (by exact known) reserved).1
      split_ifs at h
      · cases h
        exact settle_known kept _ _
      · cases h
        exact kept
      · exact ih kept h

theorem finish_known {p : Pending} {d : Draft} (known : p.draft.Known) (h : p.finish = some d) : d.Known := by
  unfold finish at h
  split at h
  · cases h
  · rename_i reserved
    have kept := (Draft.reserve_known known reserved).1
    simp only at h
    repeat' split at h
    all_goals
      cases h
      try exact kept

end Pending

section

variable {d e : Draft} (known : d.Known)

include known

theorem writeTriplets_known {mode : Mode} (h : writeTriplets mode d = some e) : e.Known := by
  obtain ⟨p, gathered, finished⟩ := Option.bind_eq_some_iff.mp h
  exact Pending.finish_known (Pending.gather_known known gathered) finished

theorem gatherX12_known {s : List Nat} (h : gatherX12 d s = some e) : e.Known := by
  fun_induction gatherX12 d s with
  | case1 | case4 =>
    obtain rfl := Option.some.inj h
    exact known
  | case2 =>
    rename_i ih
    exact ih known h
  | case3 | case5 => cases h

theorem writeX12_known (h : writeX12 d = some e) : e.Known := by
  obtain ⟨f, gathered, ended⟩ := Option.bind_eq_some_iff.mp h
  obtain ⟨⟨g, size⟩, reserved, rfl⟩ := Option.map_eq_some_iff.mp ended
  have kept := (Draft.reserve_known (gatherX12_known known gathered) reserved).1
  simp only
  split
  · exact kept
  · exact kept

theorem gatherEdifact_known {s last : List Nat} (h : gatherEdifact d s = some (e, last)) : e.Known := by
  fun_induction gatherEdifact d s with
  | case1 | case4 =>
    obtain ⟨rfl, -⟩ := Prod.mk.inj (Option.some.inj h)
    exact known
  | case2 =>
    rename_i ih
    exact ih known h
  | case3 => cases h

theorem edifactEndsItself_known {done : Bool} (h : edifactEndsItself d = some (e, done)) : e.Known := by
  unfold edifactEndsItself at h
  split at h
  · cases h
  · rename_i reserved
    have kept := (Draft.reserve_known known reserved).1
    simp only at h
    split at h
    · obtain ⟨⟨f, size⟩, again, made⟩ := Option.map_eq_some_iff.mp h
      cases made
      exact (Draft.reserve_known kept again).1
    · cases h
      exact kept

theorem endEdifact_known {values : List Nat} (h : endEdifact d values = some e) : e.Known := by
  unfold endEdifact at h
  simp only at h
  split at h
  · cases h
    exact known
  · split at h
    · cases h
    · rename_i reserved
      have kept := (Draft.reserve_known known reserved).1
      split_ifs at h
      · obtain ⟨⟨f, size⟩, again, rfl⟩ := Option.map_eq_some_iff.mp h
        exact (Draft.reserve_known (by exact kept) again).1
      · cases h
        exact Draft.known_of_none rfl
      · cases h
        exact kept

theorem writeEdifact_known (h : writeEdifact d = some e) : e.Known := by
  unfold writeEdifact at h
  split at h
  · cases h
  · rename_i gathered
    obtain ⟨⟨f, done⟩, ended, made⟩ := Option.bind_eq_some_iff.mp h
    have kept := edifactEndsItself_known (gatherEdifact_known known gathered) ended
    simp only at made
    split at made
    · cases made
      exact kept
    · exact endEdifact_known kept made
  · rename_i gathered
    obtain ⟨values, -, ended⟩ := Option.bind_eq_some_iff.mp h
    exact endEdifact_known (gatherEdifact_known known gathered) ended

theorem writeBytes_known {mode : Mode} (h : writeBytes d = some (e, mode)) : e.Known := by
  unfold writeBytes at h
  simp only at h
  split at h
  · cases h
  · rename_i reserved
    obtain ⟨field, -, made⟩ := Option.map_eq_some_iff.mp h
    cases made
    exact (Draft.reserve_known known reserved).1

theorem write_known {mode next : Mode} (h : write mode d = some (e, next)) : e.Known := by
  have returned {o : Option Draft} (h : (o.map fun f => (f, Mode.ascii)) = some (e, next)) : o = some e := by
    obtain ⟨f, written, made⟩ := Option.map_eq_some_iff.mp h
    cases made
    exact written
  cases mode with
  | ascii =>
    have made : (writeAscii d).1 = e := congrArg Prod.fst (Option.some.inj h)
    exact made ▸ writeAscii_known known
  | c40 | text => exact writeTriplets_known known (returned h)
  | x12 => exact writeX12_known known (returned h)
  | edifact => exact writeEdifact_known known (returned h)
  | base256 => exact writeBytes_known known h

theorem writeAll_known {fuel : Nat} {mode : Mode} (h : writeAll fuel mode d = some e) : e.Known := by
  induction fuel generalizing mode d with
  | zero => cases h
  | succ fuel ih =>
    unfold writeAll at h
    split at h
    · cases h
      exact known
    · split at h
      · cases h
      · rename_i written
        exact ih (write_known known written) h

end

theorem size_mem_of_wordsOf {s words : List Nat} {size : Size} (h : wordsOf s = some (size, words)) :
    size ∈ Size.all := by
  obtain ⟨d, written, ended⟩ := Option.bind_eq_some_iff.mp h
  obtain ⟨⟨e, found⟩, reserved, made⟩ := Option.map_eq_some_iff.mp ended
  cases made
  exact (Draft.reserve_known (writeAll_known (Draft.known_of_none rfl) written) reserved).2

theorem proper_symbol {size : Size} (there : size ∈ Size.all) (words : List Nat) : (symbol size words).Proper := by
  have regions : ∀ s ∈ Size.all, s.across ≠ 0 ∧ s.down ≠ 0 := by decide
  obtain ⟨across, down⟩ := regions size there
  constructor
  · show size.columns + 2 * size.across ≠ 0
    omega
  · show size.rows + 2 * size.down ≠ 0
    omega
  · show (List.flatMap _ (List.range (size.rows + 2 * size.down))).length =
      (size.columns + 2 * size.across) * (size.rows + 2 * size.down)
    simp only [List.length_flatMap, List.length_map, List.length_range, List.map_const', List.sum_replicate_nat]
    rw [Nat.mul_comm]

theorem proper_of_encode {s : Text} {b : Bitmap} (h : encode s = some b) : b.Proper := by
  unfold encode at h
  split at h
  · cases h
  · obtain ⟨⟨size, words⟩, written, rfl⟩ := Option.map_eq_some_iff.mp h
    exact proper_symbol (size_mem_of_wordsOf written) words

end DataMatrix

/-- A symbol has an area, and a module for every place of it. -/
theorem Symbology.proper_of_symbol {s : Symbology} {p : Payload} {b : Bitmap} (h : s.symbol? p = some b) :
    b.Proper := by
  cases s with
  | code39 => exact Code39.proper_of_encode h
  | code128 => exact Code128.proper_of_encode h
  | ean13 => exact Ean13.proper_of_encode h
  | qrCode => exact Qr.proper_of_encode h
  | dataMatrix => exact DataMatrix.proper_of_encode h

end LabelPreview
