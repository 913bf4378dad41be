import LabelPreview.Proofs.Format.Stream
import LabelPreview.Proofs.Graphic.Field
import LabelPreview.Proofs.Graphic.Rows

/-!
# Sizes of a graphic

The numbers in front of the data of a graphic may be any numbers. Those that are taken give sizes that fit in words of
64 bits all along, and a bitmap with a pixel for every place. Data in digits always gives all bytes of the picture.
-/

namespace LabelPreview

namespace GraphicField

/-! ## Parameters -/

/-- Four fields without commas stand in front of the data, and the third and the fourth are numbers. -/
def Numbers (params : Text) (total row : Nat) (data : Text) : Prop :=
  ∃ letter count third fourth : Text, (∀ field ∈ [letter, count, third, fourth], ',' ∉ field) ∧
    params = letter ++ ',' :: (count ++ ',' :: (third ++ ',' :: (fourth ++ ',' :: data))) ∧
    Text.count? third.trim = some total ∧ Text.count? fourth.trim = some row

theorem cutFields_eq_some_iff {params letter third fourth data : Text} :
    cutFields params = some (letter, third, fourth, data) ↔
      ∃ count, (∀ field ∈ [letter, count, third, fourth], ',' ∉ field) ∧
        params = letter ++ ',' :: (count ++ ',' :: (third ++ ',' :: (fourth ++ ',' :: data))) := by
  constructor
  · intro h
    simp only [cutFields, Option.bind_eq_bind, Option.bind_eq_some_iff, Prod.exists, Text.cutAt_eq_some_iff] at h
    obtain ⟨letter, _, ⟨hletter, rfl⟩, count, _, ⟨hcount, rfl⟩, third, _, ⟨hthird, rfl⟩, fourth, _, ⟨hfourth, rfl⟩,
      last⟩ := h
    cases last
    exact ⟨count, by simp [hletter, hcount, hthird, hfourth], rfl⟩
  · rintro ⟨count, free, rfl⟩
    simp only [List.forall_mem_cons] at free
    obtain ⟨hletter, hcount, hthird, hfourth, -⟩ := free
    simp only [cutFields, Text.cutAt_append hletter, Text.cutAt_append hcount, Text.cutAt_append hthird,
      Text.cutAt_append hfourth, Option.bind_eq_bind, Option.bind_some]
    rfl

/-- A header that is taken has sizes within the limits. -/
structure Sized (params : Text) (h : Header) (total : Nat) (data : Text) : Prop where
  numbers : Numbers params total h.rowBytes data
  positive : 0 < h.rowBytes
  narrow : 8 * h.rowBytes ≤ 32000
  rows : h.height = total / h.rowBytes
  short : h.height ≤ 32000
  trimmed : h.data = data.trim

theorem sized_of_readHeader {params : Text} {h : Header} (taken : readHeader params = .ok h) :
    ∃ total data, Sized params h total data := by
  unfold readHeader at taken
  split at taken
  · cases taken
  · rename_i letter third fourth data cut
    split at taken
    · rename_i total row htotal hrow
      split_ifs at taken with zero wide tall
      cases taken
      obtain ⟨count, free, written⟩ := cutFields_eq_some_iff.mp cut
      unfold maxSide at wide tall
      exact ⟨total, data, ⟨letter, count, third, fourth, free, written, htotal, hrow⟩, Nat.pos_of_ne_zero zero,
        Nat.le_of_not_lt wide, rfl, Nat.le_of_not_lt tall, rfl⟩
    · cases taken

theorem readHeader_ne_tooSmall (params : Text) (expected actual : Nat) :
    readHeader params ≠ .error (.tooSmall expected actual) := by
  unfold readHeader
  split
  · simp
  · split
    · split_ifs
      · simp
      · simp
      · simp
      · simp
    · simp

/-! ## Words -/

def InWord (n : Nat) : Prop := n < 0x10000000000000000

instance (n : Nat) : Decidable (InWord n) := inferInstanceAs (Decidable (_ < _))

def wordMul? (m n : Nat) : Option Nat := if InWord (m * n) then some (m * n) else none

/-- What is counted of a picture: dots across, half bytes of a row, bytes, and pixels. -/
structure Sizes where
  width : Nat
  rowHalves : Nat
  bytes : Nat
  pixels : Nat

/-- The sizes computed in words, if each of them fits. -/
def sizes? (rowBytes height : Nat) : Option Sizes := do
  let width ← wordMul? rowBytes 8
  let rowHalves ← wordMul? rowBytes 2
  let bytes ← wordMul? rowBytes height
  let pixels ← wordMul? width height
  return { width, rowHalves, bytes, pixels }

theorem sizes?_of_le {rowBytes height : Nat} (narrow : 8 * rowBytes ≤ 32000) (short : height ≤ 32000) :
    sizes? rowBytes height =
      some { width := 8 * rowBytes, rowHalves := 2 * rowBytes, bytes := rowBytes * height,
             pixels := 8 * rowBytes * height } := by
  have bytes : rowBytes * height ≤ 4000 * 32000 := Nat.mul_le_mul (by omega) short
  have pixels : 8 * rowBytes * height ≤ 32000 * 32000 := Nat.mul_le_mul narrow short
  have hwidth : InWord (8 * rowBytes) := by unfold InWord; omega
  have hhalves : InWord (2 * rowBytes) := by unfold InWord; omega
  have hbytes : InWord (rowBytes * height) := by unfold InWord; omega
  have hpixels : InWord (8 * rowBytes * height) := by unfold InWord; omega
  unfold sizes? wordMul?
  simp only [Nat.mul_comm rowBytes 8, Nat.mul_comm rowBytes 2, if_pos hwidth, if_pos hhalves, if_pos hbytes,
    if_pos hpixels, Option.bind_eq_bind, Option.bind_some]
  rfl

theorem inWord_of_count? {s : Text} {n : Nat} (h : Text.count? s = some n) : InWord n := by
  unfold Text.count? at h
  simp only at h
  split_ifs at h with bad small
  cases h
  exact small

theorem Numbers.inWord {params : Text} {total row : Nat} {data : Text} (h : Numbers params total row data) :
    InWord total ∧ InWord row := by
  obtain ⟨_, _, _, _, -, -, htotal, hrow⟩ := h
  exact ⟨inWord_of_count? htotal, inWord_of_count? hrow⟩

theorem Numbers.tooWide {params : Text} {total row : Nat} {data : Text} (h : Numbers params total row data)
    (wide : wordMul? row 8 = none) : readHeader params = .error (.tooWide row) := by
  obtain ⟨letter, count, third, fourth, free, written, htotal, hrow⟩ := h
  have large : maxSide < 8 * row := by
    unfold wordMul? at wide
    split_ifs at wide with fits
    unfold InWord at fits
    unfold maxSide
    omega
  have positive : ¬row = 0 := by
    rintro rfl
    exact absurd large (by decide)
  unfold readHeader
  rw [cutFields_eq_some_iff.mpr ⟨count, free, written⟩]
  simp only [htotal, hrow]
  rw [if_neg positive, if_pos large]

/-! ## Bytes -/

/-- Data that says how it is packed. -/
def Marked (data : Text) : Prop :=
  ∃ name payload, (name = ['B', '6', '4'] ∨ name = ['Z', '6', '4']) ∧ data = marked name payload

theorem decodeData_of_unmarked {h : Header} (plain : ¬Marked h.data) :
    decodeData h =
      if h.compression.trim.asciiUpper = ['A'] then
        (HexRows.decode h.rowBytes h.height h.data).mapError .invalidHex
      else .error (.unsupportedCompression h.compression.trim.asciiUpper) := by
  unfold decodeData
  split
  · rename_i payload zlib
    exact absurd ⟨_, payload, .inr rfl, Text.after?_eq_some_iff.mp zlib⟩ plain
  · split
    · rename_i payload base64
      exact absurd ⟨_, payload, .inl rfl, Text.after?_eq_some_iff.mp base64⟩ plain
    · rfl

theorem length_of_unmarked {h : Header} (positive : 0 < h.rowBytes) (plain : ¬Marked h.data) {bytes : List UInt8}
    (taken : decodeData h = .ok bytes) : bytes.length = h.rowBytes * h.height := by
  rw [decodeData_of_unmarked plain] at taken
  split_ifs at taken
  cases hex : HexRows.decode h.rowBytes h.height h.data with
  | error c =>
    rw [hex] at taken
    cases taken
  | ok packed =>
    rw [hex] at taken
    cases taken
    exact HexRows.length_of_decode positive hex

theorem ne_tooSmall_of_unmarked {h : Header} (plain : ¬Marked h.data) (expected actual : Nat) :
    decodeData h ≠ .error (.tooSmall expected actual) := by
  rw [decodeData_of_unmarked plain]
  split_ifs
  · cases HexRows.decode h.rowBytes h.height h.data with
    | error c => simp [Except.mapError]
    | ok packed => simp [Except.mapError]
  · simp

/-! ## Pixels -/

/-- The number of a pixel. -/
def shade (black : Bool) : UInt8 := if black then 1 else 0

/-- The pixels of bytes as numbers, each shifted to the end of its byte and cut off there. -/
def shades (bytes : List UInt8) : List UInt8 :=
  bytes.flatMap fun b => [7, 6, 5, 4, 3, 2, 1, 0].map fun k => (b >>> UInt8.ofNat k) &&& 1

theorem shade_testBit (b : UInt8) {k : Nat} (small : k < 8) :
    shade (b.toNat.testBit k) = (b >>> UInt8.ofNat k) &&& 1 := by
  have offset : (UInt8.ofNat k).toNat = k := UInt8.toNat_ofNat_of_lt' (Nat.lt_trans small (by decide))
  have shifted : ((b >>> UInt8.ofNat k) &&& 1).toNat = b.toNat / 2 ^ k % 2 := by
    rw [UInt8.toNat_and, UInt8.toNat_shiftRight, offset, Nat.mod_eq_of_lt small, UInt8.toNat_one,
      Nat.and_one_is_mod, Nat.shiftRight_eq_div_pow]
  apply UInt8.toNat_inj.mp
  rw [shifted, Nat.testBit_eq_decide_div_mod_eq]
  unfold shade
  obtain even | odd := Nat.mod_two_eq_zero_or_one (b.toNat / 2 ^ k)
  · rw [even]
    rfl
  · rw [odd]
    rfl

theorem map_shade (bytes : List UInt8) : (bytes.flatMap byteBits).map shade = shades bytes := by
  unfold shades
  rw [List.map_flatMap]
  apply List.flatMap_congr
  intro b _
  unfold byteBits
  rw [List.map_map]
  apply List.map_congr_left
  intro k hk
  apply shade_testBit
  simp only [List.mem_cons, List.not_mem_nil, or_false] at hk
  omega

theorem mem_shades {bytes : List UInt8} {n : UInt8} (h : n ∈ shades bytes) : n = 0 ∨ n = 1 := by
  rw [← map_shade] at h
  obtain ⟨black, -, rfl⟩ := List.mem_map.mp h
  cases black with
  | false => exact .inl rfl
  | true => exact .inr rfl

/-! ## Decoding -/

theorem decode_eq (params : Text) :
    decode params =
      match readHeader params with
      | .error cause => .error cause
      | .ok h =>
        match decodeData h with
        | .error cause => .error cause
        | .ok bytes =>
          if bytes.length < h.rowBytes * h.height then .error (.tooSmall (h.rowBytes * h.height) bytes.length)
          else .ok (Bitmap.ofBytes h.rowBytes h.height bytes) := by
  unfold decode
  cases readHeader params with
  | error cause => rfl
  | ok h =>
    simp only [bind, Except.bind]
    cases decodeData h with
    | error cause => rfl
    | ok bytes => rfl

theorem decode_eq_ok {params : Text} {bitmap : Bitmap} (h : decode params = .ok bitmap) :
    ∃ header bytes, readHeader params = .ok header ∧ header.rowBytes * header.height ≤ bytes.length ∧
      bitmap = Bitmap.ofBytes header.rowBytes header.height bytes := by
  rw [decode_eq] at h
  split at h
  · cases h
  · rename_i header taken
    split at h
    · cases h
    · rename_i bytes _
      split_ifs at h with small
      cases h
      exact ⟨header, bytes, taken, Nat.le_of_not_lt small, rfl⟩

theorem marked_of_tooSmall {params : Text} {expected actual : Nat}
    (h : decode params = .error (.tooSmall expected actual)) :
    ∃ header, readHeader params = .ok header ∧ Marked header.data := by
  rw [decode_eq] at h
  split at h
  · rename_i cause refused
    cases h
    exact absurd refused (readHeader_ne_tooSmall params expected actual)
  · rename_i header taken
    refine ⟨header, taken, ?_⟩
    obtain ⟨total, data, sized⟩ := sized_of_readHeader taken
    by_contra plain
    split at h
    · rename_i cause refused
      cases h
      exact ne_tooSmall_of_unmarked plain expected actual refused
    · rename_i bytes hbytes
      -- digits bring all bytes, so none are missing
      rw [if_neg (Nat.not_lt_of_le (Nat.le_of_eq (length_of_unmarked sized.positive plain hbytes).symm))] at h
      cases h

/-! ## Sizes -/

/-- How many bytes a graphic has is told by the numbers in front of it. A bitmap has those bytes and a pixel of 0 or 1
for each of their bits. No number on the way leaves its word, whatever the header says. Data in digits is read row by
row, with at most one row too many, and never falls short, so only packed data can be too small. -/
theorem decode_sizes (params : Text) :
    (∀ bitmap, decode params = .ok bitmap → ∃ total row data packed, Numbers params total row data ∧
      bitmap.width = 8 * row ∧ 8 ≤ bitmap.width ∧ bitmap.width ≤ 32000 ∧
      bitmap.height = total / row ∧ bitmap.height ≤ 32000 ∧
      bitmap.pixels.length = bitmap.width * bitmap.height ∧
      packed.length = row * bitmap.height ∧ bitmap.pixels.map shade = shades packed ∧
      ∀ n ∈ shades packed, n = 0 ∨ n = 1) ∧
    (∀ total row data, Numbers params total row data → InWord total ∧ InWord row ∧
      (wordMul? row 8 = none → decode params = .error (.tooWide row))) ∧
    (∀ h, readHeader params = .ok h →
      sizes? h.rowBytes h.height =
        some { width := 8 * h.rowBytes, rowHalves := 2 * h.rowBytes, bytes := h.rowBytes * h.height,
               pixels := 8 * h.rowBytes * h.height } ∧
      (∀ front rest s, h.data = front ++ rest → HexRows.Sheet.run (2 * h.rowBytes) h.height {} front = .ok s →
        s.Sound (2 * h.rowBytes) h.height front.length ∧
        InWord s.finished.length ∧ InWord s.opened.length ∧ (InWord (400 * h.data.length) → InWord s.times)) ∧
      HexRows.decode h.rowBytes h.height h.data =
        ((HexRows.Sheet.run (2 * h.rowBytes) h.height {} h.data).map fun s =>
          (s.rows (2 * h.rowBytes) h.height).flatMap (HexRows.packRow h.rowBytes)) ∧
      (¬Marked h.data → ∀ bytes, decodeData h = .ok bytes → bytes.length = h.rowBytes * h.height)) ∧
    ∀ expected actual, decode params = .error (.tooSmall expected actual) →
      ∃ h, readHeader params = .ok h ∧ Marked h.data := by
  refine ⟨?_, ?_, ?_, fun expected actual h => marked_of_tooSmall h⟩
  · intro bitmap decoded
    obtain ⟨h, bytes, taken, enough, rfl⟩ := decode_eq_ok decoded
    obtain ⟨total, data, sized⟩ := sized_of_readHeader taken
    have positive := sized.positive
    refine ⟨total, h.rowBytes, data, bytes.take (h.rowBytes * h.height), sized.numbers, rfl, ?_, sized.narrow,
      sized.rows, sized.short, Bitmap.length_pixels_ofBytes enough, ?_, map_shade _, fun n hn => mem_shades hn⟩
    · show 8 ≤ 8 * h.rowBytes
      omega
    · rw [List.length_take, Nat.min_eq_left enough]
      rfl
  · intro total row data numbers
    refine ⟨numbers.inWord.1, numbers.inWord.2, fun wide => ?_⟩
    rw [decode_eq, numbers.tooWide wide]
  · intro h taken
    obtain ⟨total, data, sized⟩ := sized_of_readHeader taken
    have positive : 0 < 2 * h.rowBytes := Nat.mul_pos Nat.two_pos sized.positive
    refine ⟨sizes?_of_le sized.narrow sized.short, ?_, HexRows.decode_eq_rows sized.positive _ _,
      fun plain bytes hbytes => length_of_unmarked sized.positive plain hbytes⟩
    · intro front rest s written read
      have sound := (HexRows.Sheet.sound_empty positive).run read
      rw [Nat.zero_add] at sound
      have few := sound.few
      have opened := sound.short
      have counted := sound.counted
      have narrow := sized.narrow
      have short := sized.short
      refine ⟨sound, ?_, ?_, ?_⟩
      · unfold InWord
        omega
      · unfold InWord
        omega
      · unfold InWord
        rw [written, List.length_append]
        omega

/-- A row that ends in a zero byte and the same row once more, and a payload without its two bytes. -/
theorem decode_sizes_short :
    (∃ bitmap, decode "A,3,5,2,FFG0:,".toList = .ok bitmap ∧ bitmap.width = 16 ∧ bitmap.height = 2 ∧
      bitmap.pixels.length = 16 * 2) ∧
    decode "A,1,2,2,:B64:".toList = .error (.tooSmall 2 0) ∧
    ∃ h, readHeader "A,1,2,2,:B64:".toList = .ok h ∧ Marked h.data := by
  have rows : readHeader "A,3,5,2,FFG0:,".toList = .ok ⟨['A'], 2, 2, "FFG0:,".toList⟩ :=
    @readHeader_write ['A'] ['3'] 5 2 2 (by decide) (by decide) ⟨by decide, by decide, by decide, by decide⟩
      "FFG0:,".toList
  have payload : readHeader "A,1,2,2,:B64:".toList = .ok ⟨['A'], 2, 1, ":B64:".toList⟩ :=
    @readHeader_write ['A'] ['1'] 2 2 1 (by decide) (by decide) ⟨by decide, by decide, by decide, by decide⟩
      ":B64:".toList
  have drawn : decode "A,3,5,2,FFG0:,".toList = .ok (Bitmap.ofBytes 2 2 [0xFF, 0, 0xFF, 0]) := by
    rw [decode_eq, rows]
    rfl
  have short : decode "A,1,2,2,:B64:".toList = .error (.tooSmall 2 0) := by
    rw [decode_eq, payload]
    rfl
  obtain ⟨sizes, -⟩ := decode_sizes "A,3,5,2,FFG0:,".toList
  obtain ⟨_, _, _, _, -, -, -, -, -, -, pixels, -⟩ := sizes _ drawn
  obtain ⟨-, -, -, packed⟩ := decode_sizes "A,1,2,2,:B64:".toList
  exact ⟨⟨_, drawn, rfl, rfl, pixels⟩, short, packed 2 0 short⟩

end GraphicField

end LabelPreview
