import LabelPreview.Graphic.Base64
import LabelPreview.Text.Basic
import Mathlib.Tactic.SplitIfs

/-!
# Base64 there and back

Three bytes are written as four symbols of six bits each; a last group of one or two bytes is padded. Decoding
what is written gives the bytes.
-/

namespace LabelPreview.Base64

/-! ## Encoding -/

/-- The symbols in the order of their values. -/
def alphabet : Text := "ABCDEFGHIJKLMNOPQRSTUVWXYZabcdefghijklmnopqrstuvwxyz0123456789+/".toList

def symbol (v : Nat) : Char := alphabet.getD v '='

/-- The text of bytes. -/
def encode : List UInt8 → Text
  | a :: b :: c :: rest =>
    symbol (a.toNat / 4) :: symbol (a.toNat % 4 * 16 + b.toNat / 16) ::
      symbol (b.toNat % 16 * 4 + c.toNat / 64) :: symbol (c.toNat % 64) :: encode rest
  | [a, b] => [symbol (a.toNat / 4), symbol (a.toNat % 4 * 16 + b.toNat / 16), symbol (b.toNat % 16 * 4), '=']
  | [a] => [symbol (a.toNat / 4), symbol (a.toNat % 4 * 16), '=', '=']
  | [] => []

/-! ## Symbols -/

/-- The byte of a symbol in a text. -/
def symbolByte (v : Nat) : UInt8 := UInt8.ofNat (symbol v).toNat

theorem symbolByte_spec {v : Nat} (h : v < 64) :
    String.utf8EncodeChar (symbol v) = [symbolByte v] ∧ value? (symbolByte v) = some v ∧ symbolByte v ≠ pad := by
  have table : ∀ v < 64, String.utf8EncodeChar (symbol v) = [symbolByte v] ∧
      value? (symbolByte v) = some v ∧ symbolByte v ≠ pad := by decide +kernel
  exact table v h

theorem value_symbolByte (offset : Nat) {v : Nat} (h : v < 64) : value offset (symbolByte v) = .ok v := by
  rw [value, (symbolByte_spec h).2.1]

theorem utf8_symbol {v : Nat} (h : v < 64) (s : Text) :
    Text.utf8 (symbol v :: s) = symbolByte v :: Text.utf8 s := by
  rw [Text.utf8, List.flatMap_cons, (symbolByte_spec h).1]
  rfl

/-! ## The last group -/

theorem takeTail_symbolByte (offset seen : Nat) {v : Nat} (h : v < 64) (rest : List UInt8) :
    takeTail offset seen (symbolByte v :: rest) =
      (takeTail (offset + 1) (seen + 1) rest).map fun (values, padding) => (v :: values, padding) := by
  rw [takeTail, if_neg (symbolByte_spec h).2.2, value_symbolByte offset h]
  rfl

/-- The last group is decoded from the values of its symbols and the number of padding signs. -/
theorem decodeTail_eq {offset : Nat} {group : List UInt8} {values : List Nat} {padding : Nat}
    (read : takeTail offset 0 group = .ok (values, padding)) (some : 2 ≤ values.length)
    (four : values.length + padding = 4) : decodeTail offset group = tailBytes offset group values := by
  have nonempty : group.isEmpty = false := by
    cases group with
    | nil =>
      cases read
      exact absurd some (by decide)
    | cons => rfl
  rw [decodeTail, nonempty, if_neg Bool.false_ne_true, read]
  simp only
  rw [if_neg (by omega), if_neg (by omega)]

section

variable (offset : Nat) (a b c : UInt8)

theorem sixBits_lt :
    a.toNat / 4 < 64 ∧ a.toNat % 4 * 16 + b.toNat / 16 < 64 ∧ b.toNat % 16 * 4 + c.toNat / 64 < 64 ∧
      c.toNat % 64 < 64 := by
  have := a.toNat_lt
  have := b.toNat_lt
  have := c.toNat_lt
  omega

theorem quadBytes_sixBits :
    quadBytes (a.toNat / 4) (a.toNat % 4 * 16 + b.toNat / 16) (b.toNat % 16 * 4 + c.toNat / 64)
      (c.toNat % 64) = [a, b, c] := by
  have ha := a.toNat_lt
  have hb := b.toNat_lt
  have hc := c.toNat_lt
  have low : ((a.toNat / 4 * 64 + (a.toNat % 4 * 16 + b.toNat / 16)) * 64 + (b.toNat % 16 * 4 + c.toNat / 64)) *
      64 + c.toNat % 64 = (a.toNat * 256 + b.toNat) * 256 + c.toNat := by omega
  have first : UInt8.ofNat (((a.toNat * 256 + b.toNat) * 256 + c.toNat) / 65536) = a := by
    apply UInt8.toNat_inj.mp
    rw [UInt8.toNat_ofNat']
    omega
  have second : UInt8.ofNat (((a.toNat * 256 + b.toNat) * 256 + c.toNat) / 256) = b := by
    apply UInt8.toNat_inj.mp
    rw [UInt8.toNat_ofNat']
    omega
  have third : UInt8.ofNat ((a.toNat * 256 + b.toNat) * 256 + c.toNat) = c := by
    apply UInt8.toNat_inj.mp
    rw [UInt8.toNat_ofNat']
    omega
  rw [quadBytes, low]
  simp only [first, second, third]

theorem decodeTail_three : decodeTail offset (Text.utf8 (encode [a, b, c])) = .ok [a, b, c] := by
  obtain ⟨h1, h2, h3, h4⟩ := sixBits_lt a b c
  have read : takeTail offset 0 (Text.utf8 (encode [a, b, c])) =
      .ok ([a.toNat / 4, a.toNat % 4 * 16 + b.toNat / 16, b.toNat % 16 * 4 + c.toNat / 64, c.toNat % 64], 0) := by
    rw [encode, encode, utf8_symbol h1, utf8_symbol h2, utf8_symbol h3, utf8_symbol h4, takeTail_symbolByte _ _ h1,
      takeTail_symbolByte _ _ h2, takeTail_symbolByte _ _ h3, takeTail_symbolByte _ _ h4]
    rfl
  rw [decodeTail_eq read (by simp) rfl, tailBytes, quadBytes_sixBits]

theorem decodeTail_two : decodeTail offset (Text.utf8 (encode [a, b])) = .ok [a, b] := by
  obtain ⟨h1, h2, -, -⟩ := sixBits_lt a b 0
  have h3 : b.toNat % 16 * 4 < 64 := by omega
  have read : takeTail offset 0 (Text.utf8 (encode [a, b])) =
      .ok ([a.toNat / 4, a.toNat % 4 * 16 + b.toNat / 16, b.toNat % 16 * 4], 1) := by
    rw [encode, utf8_symbol h1, utf8_symbol h2, utf8_symbol h3, takeTail_symbolByte _ _ h1,
      takeTail_symbolByte _ _ h2, takeTail_symbolByte _ _ h3]
    rfl
  have zero : b.toNat % 16 * 4 % 4 = 0 := by omega
  have bytes : quadBytes (a.toNat / 4) (a.toNat % 4 * 16 + b.toNat / 16) (b.toNat % 16 * 4) 0 = [a, b, 0] :=
    quadBytes_sixBits a b 0
  rw [decodeTail_eq read (by simp) rfl, tailBytes, if_pos zero, bytes]
  rfl

theorem decodeTail_one : decodeTail offset (Text.utf8 (encode [a])) = .ok [a] := by
  obtain ⟨h1, -, -, -⟩ := sixBits_lt a 0 0
  have h2 : a.toNat % 4 * 16 < 64 := by omega
  have read : takeTail offset 0 (Text.utf8 (encode [a])) = .ok ([a.toNat / 4, a.toNat % 4 * 16], 2) := by
    rw [encode, utf8_symbol h1, utf8_symbol h2, takeTail_symbolByte _ _ h1, takeTail_symbolByte _ _ h2]
    rfl
  have zero : a.toNat % 4 * 16 % 16 = 0 := by omega
  have bytes : quadBytes (a.toNat / 4) (a.toNat % 4 * 16) 0 0 = [a, 0, 0] := quadBytes_sixBits a 0 0
  rw [decodeTail_eq read (by simp) rfl, tailBytes, if_pos zero, bytes]
  rfl

end

/-! ## Decoding -/

theorem utf8_encode_cons (a b c : UInt8) (rest : List UInt8) :
    Text.utf8 (encode (a :: b :: c :: rest)) =
      symbolByte (a.toNat / 4) :: symbolByte (a.toNat % 4 * 16 + b.toNat / 16) ::
        symbolByte (b.toNat % 16 * 4 + c.toNat / 64) :: symbolByte (c.toNat % 64) :: Text.utf8 (encode rest) := by
  obtain ⟨h1, h2, h3, h4⟩ := sixBits_lt a b c
  rw [encode, utf8_symbol h1, utf8_symbol h2, utf8_symbol h3, utf8_symbol h4]

theorem utf8_encode_two (a b : UInt8) :
    Text.utf8 (encode [a, b]) = [symbolByte (a.toNat / 4), symbolByte (a.toNat % 4 * 16 + b.toNat / 16),
      symbolByte (b.toNat % 16 * 4), pad] := by
  obtain ⟨h1, h2, -, -⟩ := sixBits_lt a b 0
  have h3 : b.toNat % 16 * 4 < 64 := by omega
  have mark : Text.utf8 ['='] = [pad] := by decide
  rw [encode, utf8_symbol h1, utf8_symbol h2, utf8_symbol h3, mark]

theorem utf8_encode_one (a : UInt8) :
    Text.utf8 (encode [a]) = [symbolByte (a.toNat / 4), symbolByte (a.toNat % 4 * 16), pad, pad] := by
  obtain ⟨h1, -, -, -⟩ := sixBits_lt a 0 0
  have h2 : a.toNat % 4 * 16 < 64 := by omega
  have marks : Text.utf8 ['=', '='] = [pad, pad] := by decide
  rw [encode, utf8_symbol h1, utf8_symbol h2, marks]

theorem length_utf8_encode (bytes : List UInt8) : (Text.utf8 (encode bytes)).length % 4 = 0 := by
  induction bytes using encode.induct with
  | case1 a b c rest ih =>
    rw [utf8_encode_cons]
    simp only [List.length_cons]
    omega
  | case2 a b =>
    simp [utf8_encode_two]
  | case3 a =>
    simp [utf8_encode_one]
  | case4 => rfl

theorem utf8_encode_ne_nil {bytes : List UInt8} (h : bytes ≠ []) :
    ∃ e more, Text.utf8 (encode bytes) = e :: more := by
  match bytes with
  | a :: b :: c :: rest => exact ⟨_, _, utf8_encode_cons a b c rest⟩
  | [a, b] => exact ⟨_, _, utf8_encode_two a b⟩
  | [a] => exact ⟨_, _, utf8_encode_one a⟩
  | [] => exact absurd rfl h

theorem decodeGroups_encode (offset : Nat) (bytes : List UInt8) :
    decodeGroups offset (Text.utf8 (encode bytes)) = .ok bytes := by
  induction bytes using encode.induct generalizing offset with
  | case1 a b c rest ih =>
    cases rest with
    | nil =>
      -- nothing follows, so this is the last group
      rw [← decodeTail_three offset a b c, utf8_encode_cons]
      rfl
    | cons d rest =>
      obtain ⟨h1, h2, h3, h4⟩ := sixBits_lt a b c
      obtain ⟨e, more, next⟩ := utf8_encode_ne_nil (List.cons_ne_nil d rest)
      have ih := ih (offset + 4)
      rw [next] at ih
      rw [utf8_encode_cons, next, decodeGroups, value_symbolByte _ h1, value_symbolByte _ h2,
        value_symbolByte _ h3, value_symbolByte _ h4, ih]
      exact congrArg (fun group => Except.ok (group ++ d :: rest)) (quadBytes_sixBits a b c)
  | case2 a b =>
    rw [← decodeTail_two offset a b, utf8_encode_two]
    rfl
  | case3 a =>
    rw [← decodeTail_one offset a, utf8_encode_one]
    rfl
  | case4 => rfl

theorem decode_encode (bytes : List UInt8) : decode (Text.utf8 (encode bytes)) = .ok bytes := by
  have four := length_utf8_encode bytes
  rw [decode]
  cases last : (Text.utf8 (encode bytes)).getLast? with
  | none =>
    have nothing := List.getLast?_eq_none_iff.mp last
    have whole := decodeGroups_encode 0 bytes
    rw [nothing] at whole
    exact whole
  | some symbol =>
    simp only
    rw [if_neg (by omega), decodeGroups_encode]

/-! ## The characters of a text -/

theorem plain_symbol {v : Nat} (h : v < 64) : Text.isBlank (symbol v) = false ∧ symbol v ≠ ':' := by
  have table : ∀ v < 64, Text.isBlank (symbol v) = false ∧ symbol v ≠ ':' := by decide +kernel
  exact table v h

theorem plain_of_mem_encode {bytes : List UInt8} {c : Char} (h : c ∈ encode bytes) :
    Text.isBlank c = false ∧ c ≠ ':' := by
  have sign : Text.isBlank '=' = false ∧ '=' ≠ ':' := by decide
  induction bytes using encode.induct with
  | case1 x y z rest ih =>
    obtain ⟨h1, h2, h3, h4⟩ := sixBits_lt x y z
    simp only [encode, List.mem_cons] at h
    obtain rfl | rfl | rfl | rfl | h := h
    · exact plain_symbol h1
    · exact plain_symbol h2
    · exact plain_symbol h3
    · exact plain_symbol h4
    · exact ih h
  | case2 x y =>
    obtain ⟨h1, h2, -, -⟩ := sixBits_lt x y 0
    simp only [encode, List.mem_cons, List.not_mem_nil, or_false] at h
    obtain rfl | rfl | rfl | rfl := h
    · exact plain_symbol h1
    · exact plain_symbol h2
    · exact plain_symbol (by omega)
    · exact sign
  | case3 x =>
    obtain ⟨h1, -, -, -⟩ := sixBits_lt x 0 0
    simp only [encode, List.mem_cons, List.not_mem_nil, or_false] at h
    obtain rfl | rfl | rfl | rfl := h
    · exact plain_symbol h1
    · exact plain_symbol (by omega)
    · exact sign
    · exact sign
  | case4 => exact absurd h List.not_mem_nil

end LabelPreview.Base64
