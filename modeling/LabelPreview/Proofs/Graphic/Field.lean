import LabelPreview.Graphic.Field
import LabelPreview.Proofs.Graphic.Base64
import LabelPreview.Proofs.Graphic.HexRows
import LabelPreview.Proofs.Graphic.Stored
import LabelPreview.Proofs.Text.Laws
import Mathlib.Data.List.Forall2
import Mathlib.Tactic.IntervalCases

/-!
# One picture in three payloads

The bytes of a picture can be sent as hexadecimal digits, in base64, or compressed and then in base64. All three
give the same bitmap, and its pixels are the bits of the bytes.
-/

namespace LabelPreview

/-! ## Pixels -/

namespace Bitmap

theorem length_flatMap_byteBits (bytes : List UInt8) : (bytes.flatMap byteBits).length = 8 * bytes.length := by
  simp [List.length_flatMap, byteBits, Nat.mul_comm]

theorem getElem?_flatMap_byteBits (bytes : List UInt8) (i : Nat) {k : Nat} (bit : k < 8) :
    (bytes.flatMap byteBits)[8 * i + k]? = bytes[i]?.map fun b => b.toNat.testBit (7 - k) := by
  induction bytes generalizing i with
  | nil => rfl
  | cons b bytes ih =>
    have eight : (byteBits b).length = 8 := rfl
    rw [List.flatMap_cons]
    cases i with
    | zero =>
      rw [Nat.mul_zero, Nat.zero_add, List.getElem?_append_left (by omega)]
      interval_cases k <;> rfl
    | succ i =>
      have past : 8 * (i + 1) + k - (byteBits b).length = 8 * i + k := by omega
      rw [List.getElem?_append_right (by omega), past, ih, List.getElem?_cons_succ]

variable {rowBytes height : Nat} {bytes : List UInt8}

theorem length_pixels_ofBytes (enough : rowBytes * height ≤ bytes.length) :
    (ofBytes rowBytes height bytes).pixels.length = 8 * rowBytes * height := by
  rw [ofBytes, length_flatMap_byteBits, List.length_take, Nat.min_eq_left enough, Nat.mul_assoc]

theorem pixel_ofBytes (enough : rowBytes * height ≤ bytes.length) {row column bit : Nat} (hrow : row < height)
    (hcolumn : column < rowBytes) (hbit : bit < 8) :
    (ofBytes rowBytes height bytes).pixels[row * (8 * rowBytes) + 8 * column + bit]? =
      some ((bytes.getD (row * rowBytes + column) 0).toNat.testBit (7 - bit)) := by
  have place : row * (8 * rowBytes) + 8 * column + bit = 8 * (row * rowBytes + column) + bit := by
    rw [Nat.mul_left_comm, Nat.mul_add]
  have within : row * rowBytes + column < rowBytes * height :=
    calc row * rowBytes + column < row * rowBytes + rowBytes := Nat.add_lt_add_left hcolumn _
      _ = rowBytes * (row + 1) := by rw [Nat.mul_succ, Nat.mul_comm]
      _ ≤ rowBytes * height := Nat.mul_le_mul_left _ hrow
  have there : row * rowBytes + column < bytes.length := Nat.lt_of_lt_of_le within enough
  rw [ofBytes, place, getElem?_flatMap_byteBits _ _ hbit, List.getElem?_take_of_lt within,
    List.getD_eq_getElem?_getD, List.getElem?_eq_getElem there]
  rfl

end Bitmap

namespace GraphicField

/-! ## Parameters -/

/-- The parameters of a graphic field with the numbers written out. -/
def write (letter count : Text) (total rowBytes : Nat) (data : Text) : Text :=
  letter ++ ',' :: (count ++ ',' :: (Nat.toDigits 10 total ++ ',' :: (Nat.toDigits 10 rowBytes ++ ',' :: data)))

/-- The sizes of a picture that is not too large. -/
structure Fits (rowBytes height total : Nat) : Prop where
  positive : 1 ≤ rowBytes
  narrow : rowBytes ≤ 4000
  short : height ≤ 32000
  rows : total / rowBytes = height

theorem notMem_toDigits (n : Nat) : ',' ∉ Nat.toDigits 10 n := fun h =>
  absurd (Text.isDigit_of_mem_toDigits h) (by decide)

theorem trim_toDigits (n : Nat) : Text.trim (Nat.toDigits 10 n) = Nat.toDigits 10 n :=
  Text.trim_of_solid fun _ h => Text.solid_of_isDigit (Text.isDigit_of_mem_toDigits h)

variable {letter count : Text} {total rowBytes height : Nat}

theorem cutFields_write (hletter : ',' ∉ letter) (hcount : ',' ∉ count) (data : Text) :
    cutFields (write letter count total rowBytes data) =
      some (letter, Nat.toDigits 10 total, Nat.toDigits 10 rowBytes, data) := by
  simp only [cutFields, write, Text.cutAt_append hletter, Text.cutAt_append hcount,
    Text.cutAt_append (notMem_toDigits _), Option.bind_eq_bind, Option.bind_some]
  rfl

theorem readHeader_write (hletter : ',' ∉ letter) (hcount : ',' ∉ count) (sizes : Fits rowBytes height total)
    (data : Text) :
    readHeader (write letter count total rowBytes data) = .ok ⟨letter, rowBytes, height, data.trim⟩ := by
  obtain ⟨positive, narrow, short, rows⟩ := sizes
  have few : total < 0x10000000000000000 := by
    have := Nat.lt_mul_div_succ total positive
    have : rowBytes * (total / rowBytes + 1) ≤ 4000 * 32001 := Nat.mul_le_mul narrow (by omega)
    omega
  have small : rowBytes < 0x10000000000000000 := by omega
  have narrow' : ¬maxSide < 8 * rowBytes := by unfold maxSide; omega
  have short' : ¬maxSide < height := by unfold maxSide; omega
  unfold readHeader
  rw [cutFields_write hletter hcount]
  simp only [trim_toDigits, Text.count?_toDigits few, Text.count?_toDigits small, rows]
  rw [if_neg (Nat.ne_of_gt positive), if_neg narrow', if_neg short']

/-! ## Payloads -/

/-- A spelling of bytes in base64: blanks may stand anywhere, and what follows a colon does not count. -/
def Payload (bytes : List UInt8) (text : Text) : Prop :=
  ∃ symbols suffix, text = symbols ++ suffix ∧ (suffix = [] ∨ ∃ more, suffix = ':' :: more) ∧
    symbols.filter (fun c => !Text.isBlank c) = Base64.encode bytes

theorem decodePayload_of_payload {bytes : List UInt8} {text : Text} (h : Payload bytes text) :
    decodePayload text.trimEnd = .ok bytes := by
  obtain ⟨symbols, suffix, rfl, ends, spelled⟩ := h
  have plain : ∀ c ∈ symbols, (c != ':') = true := by
    rintro c hc
    rw [bne_iff_ne]
    rintro rfl
    -- a colon is no blank, so it would be a symbol
    have symbol : ':' ∈ Base64.encode bytes := spelled ▸ List.mem_filter.mpr ⟨hc, by decide⟩
    exact (Base64.plain_of_mem_encode symbol).2 rfl
  have front : (symbols ++ suffix).takeWhile (· != ':') = symbols := by
    rw [List.takeWhile_append_of_pos plain]
    obtain rfl | ⟨more, rfl⟩ := ends
    · exact List.append_nil _
    · exact List.append_nil _
  unfold decodePayload
  simp only [Text.filter_takeWhile_trimEnd, front, spelled, Base64.decode_encode]
  rfl

/-- A payload behind the name of its format. -/
def marked (name payload : Text) : Text := ':' :: (name ++ ':' :: payload)

theorem trim_marked (name payload : Text) : (marked name payload).trim = marked name payload.trimEnd := by
  have solid : Text.isBlank ':' = false := by decide
  rw [marked, Text.trim, Text.trimStart_cons_solid solid]
  exact Text.trimEnd_append_solid (':' :: name) payload solid

theorem plain_of_isDigit {half : Nat} {c : Char} (h : HexRows.IsDigit half c) :
    Text.isBlank c = false ∧ ':' ≠ c := by
  have table : ∀ half < 16, (Text.isBlank half.digitChar = false ∧ ':' ≠ half.digitChar) ∧
      Text.isBlank half.digitChar.toUpper = false ∧ ':' ≠ half.digitChar.toUpper := by decide
  obtain ⟨lt, rfl | rfl⟩ := h
  · exact (table half lt).1
  · exact (table half lt).2

theorem plain_of_digits {halves : List Nat} {digits : Text} (h : List.Forall₂ HexRows.IsDigit halves digits) :
    ∀ c ∈ digits, Text.isBlank c = false ∧ ':' ≠ c := by
  induction h with
  | nil => simp
  | cons digit _ ih => exact List.forall_mem_cons.mpr ⟨plain_of_isDigit digit, ih⟩

/-! ## Pictures -/

/-- The ways to send a picture, as the letter and the data of a field. Only digits need a letter of their own,
and a payload may hold more than the picture. -/
inductive Sends (picture : List UInt8) : (letter data : Text) → Prop
  | digits {digits : Text} (spelled : List.Forall₂ HexRows.IsDigit (picture.flatMap HexRows.halves) digits) :
      Sends picture ['A'] digits
  | base64 {letter payload : Text} {more : List UInt8} (hletter : ',' ∉ letter)
      (holds : Payload (picture ++ more) payload) : Sends picture letter (marked ['B', '6', '4'] payload)
  | zlib {letter payload : Text} {stream more : List UInt8} (hletter : ',' ∉ letter)
      (inflates : Inflate.Inflates stream (picture ++ more)) (holds : Payload stream payload) :
      Sends picture letter (marked ['Z', '6', '4'] payload)

theorem Sends.notMem_letter {picture : List UInt8} {letter data : Text} (h : Sends picture letter data) :
    ',' ∉ letter := by
  cases h with
  | digits => decide
  | base64 hletter => exact hletter
  | zlib hletter => exact hletter

theorem payload_encode (bytes : List UInt8) : Payload bytes (Base64.encode bytes) := by
  refine ⟨Base64.encode bytes, [], (List.append_nil _).symm, .inl rfl, List.filter_eq_self.mpr fun c hc => ?_⟩
  rw [(Base64.plain_of_mem_encode hc).1]
  rfl

theorem exists_sends (picture : List UInt8) {letter : Text} (hletter : ',' ∉ letter) :
    (∃ digits, Sends picture ['A'] digits) ∧ (∃ payload, Sends picture letter (marked ['B', '6', '4'] payload)) ∧
      ∃ payload, Sends picture letter (marked ['Z', '6', '4'] payload) := by
  refine ⟨⟨(picture.flatMap HexRows.halves).map Nat.digitChar, .digits ?_⟩, ?_, ?_⟩
  · rw [List.forall₂_map_right_iff, List.forall₂_same]
    intro half h
    obtain ⟨b, -, hb⟩ := List.mem_flatMap.mp h
    exact ⟨HexRows.lt_of_mem_halves hb, .inl rfl⟩
  · exact ⟨_, @Sends.base64 _ _ _ [] hletter (payload_encode _)⟩
  · obtain ⟨stream, inflates⟩ := Inflate.exists_inflates (picture ++ [])
    exact ⟨_, .zlib hletter inflates (payload_encode stream)⟩

/-- The data brings the bytes of the picture and perhaps more. -/
theorem Sends.decodeData {picture : List UInt8} {letter data : Text} (h : Sends picture letter data)
    (size : picture.length = rowBytes * height) :
    ∃ more, decodeData ⟨letter, rowBytes, height, data.trim⟩ = .ok (picture ++ more) := by
  cases h with
  | digits spelled =>
    have plain := plain_of_digits spelled
    have unmarked (name : Text) : Text.after? (':' :: name) data = none := by
      cases data with
      | nil => rfl
      | cons c rest => rw [Text.after?, if_neg (plain c List.mem_cons_self).2]
    have full : (picture.flatMap HexRows.halves).length = 2 * rowBytes * height := by
      rw [HexRows.length_flatMap_halves, size, Nat.mul_assoc]
    have letterA : Text.asciiUpper (Text.trim ['A']) = ['A'] := by decide
    refine ⟨[], ?_⟩
    rw [GraphicField.decodeData, Text.trim_of_solid fun c hc => (plain c hc).1]
    simp only [unmarked, letterA, if_true, HexRows.decode_runs (HexRows.runs_of_digits spelled) full,
      HexRows.pack_halves, List.append_nil]
    rfl
  | @base64 _ payload more _ holds =>
    refine ⟨more, ?_⟩
    rw [GraphicField.decodeData, trim_marked]
    exact decodePayload_of_payload holds
  | @zlib _ payload stream more _ inflates holds =>
    refine ⟨[], ?_⟩
    have within : rowBytes * height ≤ (picture ++ more).length := by
      rw [List.length_append]
      omega
    have front : Inflate.inflate (rowBytes * height) stream = .ok picture := by
      rw [Inflate.inflate_take inflates within, ← size, List.take_left]
    rw [GraphicField.decodeData, trim_marked, List.append_nil]
    show (decodePayload payload.trimEnd >>= fun bytes =>
      (Inflate.inflate (rowBytes * height) bytes).mapError .inflate) = .ok picture
    rw [decodePayload_of_payload holds]
    exact congrArg (Except.mapError GraphicError.inflate) front

theorem decode_write {picture more : List UInt8} {data : Text} (hletter : ',' ∉ letter) (hcount : ',' ∉ count)
    (sizes : Fits rowBytes height total) (size : picture.length = rowBytes * height)
    (bytes : decodeData ⟨letter, rowBytes, height, data.trim⟩ = .ok (picture ++ more)) :
    decode (write letter count total rowBytes data) = .ok (Bitmap.ofBytes rowBytes height picture) := by
  have enough : ¬(picture ++ more).length < rowBytes * height := by
    rw [List.length_append]
    omega
  have same : Bitmap.ofBytes rowBytes height (picture ++ more) = Bitmap.ofBytes rowBytes height picture := by
    simp [Bitmap.ofBytes, ← size]
  rw [decode, readHeader_write hletter hcount sizes, ← same]
  show (decodeData ⟨letter, rowBytes, height, data.trim⟩ >>= fun bytes =>
    if bytes.length < rowBytes * height then .error (.tooSmall (rowBytes * height) bytes.length)
    else .ok (Bitmap.ofBytes rowBytes height bytes)) = _
  rw [bytes]
  exact if_neg enough

/-- However a picture is sent, its field gives one bitmap, whose pixels are the bits of its bytes. -/
theorem decode_sends {picture : List UInt8} (sizes : Fits rowBytes height total)
    (size : picture.length = rowBytes * height) :
    ∃ bitmap : Bitmap, bitmap.width = 8 * rowBytes ∧ bitmap.height = height ∧
      bitmap.pixels.length = 8 * rowBytes * height ∧
      (∀ row < height, ∀ column < rowBytes, ∀ bit < 8,
        bitmap.pixels[row * (8 * rowBytes) + 8 * column + bit]? =
          some ((picture.getD (row * rowBytes + column) 0).toNat.testBit (7 - bit))) ∧
      ∀ letter data, Sends picture letter data → ∀ count, ',' ∉ count →
        decode (write letter count total rowBytes data) = .ok bitmap := by
  have enough : rowBytes * height ≤ picture.length := Nat.le_of_eq size.symm
  refine ⟨Bitmap.ofBytes rowBytes height picture, rfl, rfl, Bitmap.length_pixels_ofBytes enough, ?_, ?_⟩
  · intro row hrow column hcolumn bit hbit
    exact Bitmap.pixel_ofBytes enough hrow hcolumn hbit
  · intro letter data sends count hcount
    obtain ⟨more, bytes⟩ := sends.decodeData size
    exact decode_write sends.notMem_letter hcount sizes size bytes

/-- Two rows of one byte in digits, in base64 with a blank in it, and stored in a stream. -/
theorem decode_sends_rows :
    ∃ bitmap, decode "A,2,2,1,aA55".toList = .ok bitmap ∧ decode "B,2,2,1,:B64:ql U=:0000".toList = .ok bitmap ∧
      decode "C,13,2,1,:Z64:eAEBAgD9/6pVAasBAA==".toList = .ok bitmap := by
  have sizes : Fits 1 2 2 := ⟨by decide, by decide, by decide, by decide⟩
  obtain ⟨bitmap, -, -, -, -, sent⟩ := @decode_sends 2 1 2 [0xAA, 0x55] sizes rfl
  have upper : HexRows.IsDigit 10 'A' := ⟨by decide, .inr rfl⟩
  have lower : HexRows.IsDigit 10 'a' := ⟨by decide, .inl rfl⟩
  have five : HexRows.IsDigit 5 '5' := ⟨by decide, .inl rfl⟩
  have digits : Sends [0xAA, 0x55] ['A'] ['a', 'A', '5', '5'] :=
    .digits (.cons lower (.cons upper (.cons five (.cons five .nil))))
  have base64 : Sends [0xAA, 0x55] ['B'] (marked ['B', '6', '4'] "ql U=:0000".toList) :=
    @Sends.base64 _ _ _ [] (by decide) ⟨"ql U=".toList, ":0000".toList, rfl, .inr ⟨_, rfl⟩, by decide +kernel⟩
  have inflates : Inflate.Inflates (Inflate.stored [] [0xAA, 0x55]) [0xAA, 0x55] :=
    Inflate.inflates_stored (by simp)
  have zlib : Sends [0xAA, 0x55] ['C'] (marked ['Z', '6', '4'] "eAEBAgD9/6pVAasBAA==".toList) :=
    @Sends.zlib _ _ _ _ [] (by decide) inflates ⟨_, [], (List.append_nil _).symm, .inl rfl, by decide +kernel⟩
  exact ⟨bitmap, sent _ _ digits ['2'] (by decide), sent _ _ base64 ['2'] (by decide),
    sent _ _ zlib ['1', '3'] (by decide)⟩

end GraphicField

end LabelPreview
