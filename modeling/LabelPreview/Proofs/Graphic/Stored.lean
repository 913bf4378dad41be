import LabelPreview.Proofs.Graphic.Inflate
import Mathlib.Algebra.GroupWithZero.Nat

/-!
# Stored streams

The plainest stream stores its bytes as they are, in blocks that give their length twice. Inflating it gives the
bytes, so there is a stream for any bytes whatever.
-/

namespace LabelPreview.Inflate

/-! ## Writing -/

/-- The low byte first. -/
def twoBytes (n : Nat) : List UInt8 := [UInt8.ofNat n, UInt8.ofNat (n / 256)]

/-- The high byte first. -/
def fourBytes (n : Nat) : List UInt8 :=
  [UInt8.ofNat (n / 16777216), UInt8.ofNat (n / 65536), UInt8.ofNat (n / 256), UInt8.ofNat n]

/-- A block of stored bytes, with 1 for `last` in the last one. -/
def storedBlock (last : UInt8) (chunk : List UInt8) : List UInt8 :=
  last :: twoBytes chunk.length ++ twoBytes (65535 - chunk.length) ++ chunk

/-- Blocks of stored bytes up to the last one. -/
def storedBlocks (chunks : List (List UInt8)) (last : List UInt8) : List UInt8 :=
  chunks.flatMap (storedBlock 0) ++ storedBlock 1 last

/-- A stream that stores bytes in blocks. -/
def stored (chunks : List (List UInt8)) (last : List UInt8) : List UInt8 :=
  [0x78, 1] ++ storedBlocks chunks last ++ fourBytes (adler32 (chunks.flatten ++ last).toArray)

/-! ## Numbers in bits -/

/-- The number that bits spell, the lowest first. -/
def value : Bits → Nat
  | [] => 0
  | b :: bits => b.toNat + 2 * value bits

theorem takeNumber_append (bits rest : Bits) : takeNumber bits.length (bits ++ rest) = .ok (value bits, rest) := by
  induction bits with
  | nil => rfl
  | cons b bits ih =>
    rw [List.length_cons, List.cons_append, takeNumber, ih]
    rfl

theorem value_append (a b : Bits) : value (a ++ b) = value a + 2 ^ a.length * value b := by
  induction a with
  | nil => simp [value]
  | cons x a ih =>
    rw [List.cons_append, value, ih, value, List.length_cons, Nat.pow_succ, Nat.mul_add, Nat.mul_left_comm,
      ← Nat.mul_assoc, Nat.add_assoc]

theorem value_byteBits (b : UInt8) : value (byteBits b) = b.toNat := by
  have lt := b.toNat_lt
  simp only [byteBits, List.map_cons, List.map_nil, value, Nat.toNat_testBit]
  omega

theorem takeNumber_byteBits (b : UInt8) (rest : Bits) : takeNumber 8 (byteBits b ++ rest) = .ok (b.toNat, rest) := by
  rw [← value_byteBits b]
  exact takeNumber_append (byteBits b) rest

theorem takeNumber_twoBytes {n : Nat} (h : n ≤ 65535) (rest : Bits) :
    takeNumber 16 ((twoBytes n).flatMap byteBits ++ rest) = .ok (n, rest) := by
  have number : value ((twoBytes n).flatMap byteBits) = n := by
    have eight : (byteBits (UInt8.ofNat n)).length = 8 := rfl
    simp only [twoBytes, List.flatMap_cons, List.flatMap_nil, List.append_nil, value_append, value_byteBits, eight,
      UInt8.toNat_ofNat']
    omega
  exact (takeNumber_append _ rest).trans (by rw [number])

theorem takeChecksum_fourBytes {n : Nat} (h : n < 4294967296) :
    takeChecksum ((fourBytes n).flatMap byteBits) = .ok n := by
  have number : (((UInt8.ofNat (n / 16777216)).toNat * 256 + (UInt8.ofNat (n / 65536)).toNat) * 256 +
      (UInt8.ofNat (n / 256)).toNat) * 256 + (UInt8.ofNat n).toNat = n := by
    simp only [UInt8.toNat_ofNat']
    omega
  simp only [takeChecksum, fourBytes, List.flatMap_cons, takeNumber_byteBits, bind, Except.bind, number]
  rfl

theorem length_flatMap_byteBits (bytes : List UInt8) : (bytes.flatMap byteBits).length = 8 * bytes.length := by
  simp [List.length_flatMap, byteBits, Nat.mul_comm]

theorem toByte_append {rest : Bits} (short : rest.length < 8) (bytes : List UInt8) :
    toByte (rest ++ bytes.flatMap byteBits) = bytes.flatMap byteBits := by
  have odd : (rest ++ bytes.flatMap byteBits).length % 8 = rest.length := by
    rw [List.length_append, length_flatMap_byteBits]
    omega
  rw [toByte, odd, List.drop_left]

/-! ## Blocks -/

variable {window : Nat} {out : List UInt8}

theorem readStored_bytes {chunk : List UInt8} (room : out.length + chunk.length < window) (rest : Bits) :
    readStored window chunk.length ⟨out.toArray, chunk.flatMap byteBits ++ rest⟩ =
      .ok ⟨(out ++ chunk).toArray, rest⟩ := by
  induction chunk generalizing out with
  | nil => simp [readStored]
  | cons b chunk ih =>
    rw [List.length_cons] at room
    have go : ¬window ≤ out.toArray.size := by
      rw [List.size_toArray]
      omega
    have room' : (out ++ [b]).length + chunk.length < window := by
      rw [List.length_append, List.length_singleton]
      omega
    rw [List.length_cons, readStored, if_neg go, List.flatMap_cons, List.append_assoc, takeNumber_byteBits]
    simp only [List.push_toArray, UInt8.ofNat_toNat]
    rw [ih room', List.append_assoc, List.singleton_append]

theorem readBlock_stored {front : Bits} (short : front.length < 8) {chunk : List UInt8}
    (small : chunk.length ≤ 65535) (room : out.length + chunk.length < window) (more : List UInt8) :
    readBlock window 0 ⟨out.toArray, front ++
        (twoBytes chunk.length ++ twoBytes (65535 - chunk.length) ++ chunk ++ more).flatMap byteBits⟩ =
      .ok ⟨(out ++ chunk).toArray, more.flatMap byteBits⟩ := by
  have twice : ¬(chunk.length + (65535 - chunk.length) ≠ 65535) := by omega
  rw [readBlock, if_pos rfl, toByte_append short]
  simp only [List.flatMap_append, List.append_assoc, takeNumber_twoBytes small, bind, Except.bind,
    Except.mapError, takeNumber_twoBytes (Nat.sub_le 65535 chunk.length), if_neg twice]
  exact readStored_bytes room _

theorem readBlocks_stored {last : UInt8} (flag : last = 0 ∨ last = 1) {chunk : List UInt8}
    (small : chunk.length ≤ 65535) (room : out.length + chunk.length < window) (more : List UInt8) (fuel : Nat) :
    readBlocks window (fuel + 1) ⟨out.toArray, (storedBlock last chunk ++ more).flatMap byteBits⟩ =
      if last = 1 then .ok ⟨(out ++ chunk).toArray, more.flatMap byteBits⟩
      else readBlocks window fuel ⟨(out ++ chunk).toArray, more.flatMap byteBits⟩ := by
  have block := @readBlock_stored window out [false, false, false, false, false] (by decide) _ small room more
  simp only [List.cons_append, List.nil_append] at block
  -- one bit for the last block, two for the kind, and the rest of the byte is passed over
  have bits : byteBits last = [decide (last = 1), false, false, false, false, false, false, false] := by
    obtain rfl | rfl := flag <;> decide
  rw [readBlocks, storedBlock, List.cons_append, List.cons_append, List.cons_append, List.flatMap_cons, bits]
  simp only [List.cons_append, List.nil_append, takeNumber, Except.map, Except.mapError, bind, Except.bind,
    Bool.toNat_false, Nat.mul_zero, Nat.add_zero, block]
  obtain rfl | rfl := flag <;> rfl

/-- Blocks are read one after the other, whatever was there before them. -/
theorem readBlocks_storedBlocks {chunks : List (List UInt8)} {last : List UInt8} {fuel : Nat}
    (small : ∀ chunk ∈ chunks ++ [last], chunk.length ≤ 65535)
    (room : out.length + (chunks.flatten ++ last).length < window) (enough : chunks.length < fuel)
    (more : List UInt8) :
    readBlocks window fuel ⟨out.toArray, (storedBlocks chunks last ++ more).flatMap byteBits⟩ =
      .ok ⟨(out ++ (chunks.flatten ++ last)).toArray, more.flatMap byteBits⟩ := by
  obtain ⟨fuel, rfl⟩ : ∃ n, fuel = n + 1 := ⟨fuel - 1, by omega⟩
  -- what is there before the blocks grows with each of them, and each takes one of the fuel
  induction chunks generalizing out fuel with
  | nil => exact (readBlocks_stored (.inr rfl) (small last (by simp)) room more fuel).trans (if_pos rfl)
  | cons chunk chunks ih =>
    rw [List.flatten_cons, List.append_assoc, List.length_append] at room
    rw [List.length_cons] at enough
    obtain ⟨fuel, rfl⟩ : ∃ n, fuel = n + 1 := ⟨fuel - 1, by omega⟩
    have next := @ih (out ++ chunk) (fun c hc => small c (List.mem_cons_of_mem _ hc))
      (by rw [List.length_append]; omega) fuel (by omega)
    rw [storedBlocks, List.flatMap_cons, List.append_assoc, List.append_assoc,
      readBlocks_stored (.inl rfl) (small chunk (by simp)) (by omega), if_neg (by decide), ← List.append_assoc,
      ← storedBlocks, next, List.flatten_cons, List.append_assoc, List.append_assoc]

theorem length_le_storedBlocks (chunks : List (List UInt8)) (last : List UInt8) :
    chunks.length ≤ (storedBlocks chunks last).length := by
  induction chunks with
  | nil => exact Nat.zero_le _
  | cons chunk chunks ih =>
    simp only [storedBlocks, storedBlock, List.flatMap_cons, List.length_append, List.length_cons] at ih ⊢
    omega

/-! ## Streams -/

/-- One more byte in the two sums of the checksum. -/
def addByte : Nat × Nat → UInt8 → Nat × Nat
  | (a, b), x => ((a + x.toNat) % 65521, (b + (a + x.toNat) % 65521) % 65521)

theorem addByte_lt (sums : Nat × Nat) (x : UInt8) : (addByte sums x).1 < 65521 ∧ (addByte sums x).2 < 65521 :=
  ⟨Nat.mod_lt _ (by decide), Nat.mod_lt _ (by decide)⟩

theorem foldl_addByte_lt (bytes : List UInt8) {sums : Nat × Nat} (h : sums.1 < 65521 ∧ sums.2 < 65521) :
    (bytes.foldl addByte sums).1 < 65521 ∧ (bytes.foldl addByte sums).2 < 65521 := by
  induction bytes generalizing sums with
  | nil => exact h
  | cons x bytes ih => exact ih (addByte_lt sums x)

theorem adler32_lt (bytes : Array UInt8) : adler32 bytes < 4294967296 := by
  have sums := foldl_addByte_lt bytes.toList (by decide : (1, 0).1 < 65521 ∧ (1, 0).2 < 65521)
  have folded : adler32 bytes =
      65536 * (bytes.toList.foldl addByte (1, 0)).2 + (bytes.toList.foldl addByte (1, 0)).1 := by
    rw [Array.foldl_toList]
    rfl
  rw [folded]
  omega

theorem readStream_stored {chunks : List (List UInt8)} {last bytes : List UInt8}
    (small : ∀ chunk ∈ chunks ++ [last], chunk.length ≤ 65535) (whole : chunks.flatten ++ last = bytes)
    (room : bytes.length < window) :
    ∃ bits, readStream window ((stored chunks last).flatMap byteBits) = .ok ⟨bytes.toArray, bits⟩ := by
  have blocks (more : List UInt8) :
      readBlocks window (((storedBlocks chunks last ++ more).flatMap byteBits).length + 1)
        ⟨#[], (storedBlocks chunks last ++ more).flatMap byteBits⟩ = .ok ⟨bytes.toArray, more.flatMap byteBits⟩ := by
    have enough : chunks.length < ((storedBlocks chunks last ++ more).flatMap byteBits).length + 1 := by
      have := length_le_storedBlocks chunks last
      rw [length_flatMap_byteBits, List.length_append]
      omega
    have read := @readBlocks_storedBlocks window [] chunks last _ small (by simpa [whole] using room) enough more
    rwa [List.nil_append, whole] at read
  have good : goodHeader (0x78 : UInt8).toNat (1 : UInt8).toNat = true := by decide
  have checksum : takeChecksum (toByte ((fourBytes (adler32 bytes.toArray)).flatMap byteBits)) =
      .ok (adler32 bytes.toArray) := by
    rw [← List.nil_append ((fourBytes _).flatMap byteBits), toByte_append (by decide),
      takeChecksum_fourBytes (adler32_lt _)]
  have unfilled : ¬window ≤ bytes.toArray.size := by
    rw [List.size_toArray]
    exact Nat.not_le_of_lt room
  refine ⟨(fourBytes (adler32 bytes.toArray)).flatMap byteBits, ?_⟩
  rw [stored, whole, List.append_assoc, List.flatMap_append, List.flatMap_cons, List.flatMap_singleton,
    List.append_assoc, readStream]
  simp only [takeNumber_byteBits, good, Except.mapError, bind, Except.bind, Bool.not_true, Bool.false_eq_true,
    if_false, blocks, if_neg unfilled, checksum, if_true]
  rfl

theorem inflates_stored {chunks : List (List UInt8)} {last : List UInt8}
    (small : ∀ chunk ∈ chunks ++ [last], chunk.length ≤ 65535) :
    Inflates (stored chunks last) (chunks.flatten ++ last) := by
  have room := le_window ((chunks.flatten ++ last).length + 1)
  obtain ⟨bits, read⟩ := readStream_stored small rfl room
  refine ⟨(chunks.flatten ++ last).length + 1, Nat.lt_succ_self _, ?_⟩
  rw [inflate, if_neg (Nat.succ_ne_zero _)]
  simp only [read]
  rw [List.take_of_length_le (Nat.le_succ _)]

theorem exists_inflates (bytes : List UInt8) : ∃ stream, Inflates stream bytes := by
  have small : ∀ chunk ∈ bytes.map (fun b => [b]) ++ [[]], chunk.length ≤ 65535 := by
    intro chunk h
    rcases List.mem_append.mp h with h | h
    · obtain ⟨b, -, rfl⟩ := List.mem_map.mp h
      exact (by decide : 1 ≤ 65535)
    · rw [List.mem_singleton.mp h]
      exact Nat.zero_le _
  have single : (bytes.map fun b => [b]).flatten ++ [] = bytes := by
    rw [List.append_nil]
    exact List.flatMap_singleton' bytes
  exact ⟨_, single ▸ inflates_stored small⟩

end LabelPreview.Inflate
