import LabelPreview.Proofs.Render.Escapes
import LabelPreview.Symbol.Payload

/-!
# Function characters in data

In EAN mode a Code 128 symbol begins with a function character. The writer takes the letter `ñ` for it, which is also
what the code page shows for the byte 164. So every such byte of the data becomes a function character of the symbol,
in any mode, and no other byte does.
-/

namespace LabelPreview

open Code128

/-! ## In the data -/

namespace CodePage

/-- The bytes of field data, escapes resolved. -/
def dataBytes (escape : Option Char) (data : Text) : List UInt8 :=
  match escape with
  | some c => escapedBytes c data
  | none => data.utf8

theorem glyph?_eq_fnc1_iff (b : UInt8) : glyph? b = some fnc1 ↔ b = 164 := by
  have table : ∀ n < 256, glyph? (UInt8.ofNat n) = some fnc1 ↔ UInt8.ofNat n = 164 := by decide +kernel
  have known := table b.toNat b.toNat_lt
  rwa [UInt8.ofNat_toNat] at known

theorem count_fnc1_decode (bytes : List UInt8) : (decode bytes).count fnc1 = bytes.count 164 := by
  induction bytes with
  | nil => rfl
  | cons b bytes ih =>
    have here := glyph?_eq_fnc1_iff b
    unfold decode at ih ⊢
    rw [List.filterMap_cons, List.count_cons]
    cases h : glyph? b with
    | none =>
      have other : b ≠ 164 := fun hb => by simp [here.mpr hb] at h
      simp [ih, other]
    | some c =>
      rw [h, Option.some.injEq] at here
      simp [List.count_cons, ih, here]

theorem count_fnc1_shown (escape : Option Char) (data : Text) :
    (shown escape data).count fnc1 = (dataBytes escape data).count 164 := count_fnc1_decode _

theorem ascii_dataBytes {data : Text} (ascii : ∀ c ∈ data, c.toNat < 128) : 164 ∉ dataBytes none data := by
  intro h
  obtain ⟨c, hc, hb⟩ := List.mem_flatMap.mp h
  have low := ascii c hc
  rw [utf8EncodeChar_of_lt low, List.mem_singleton] at hb
  have byte : (UInt8.ofNat c.toNat).toNat = c.toNat := Nat.mod_eq_of_lt (by omega)
  rw [← hb] at byte
  change 164 = c.toNat at byte
  omega

end CodePage

/-! ## In the symbol -/

namespace Code128

/-- The code of the function character in every code set. -/
def fnc1Code : Nat := 102

theorem count_enter (used : Option CodeSet) (set : CodeSet) : (enter used set).count fnc1Code = 0 := by
  cases used with
  | none => cases set <;> rfl
  | some old => cases old <;> cases set <;> rfl

def IsEncodable (c : Char) : Prop := c.toNat < 128 ∨ isFunction c = true

theorem code_eq_iff {c : Char} (known : IsEncodable c) (set : CodeSet) : code set c = fnc1Code ↔ c = fnc1 := by
  unfold code fnc1Code
  split_ifs with one two three four a control
  · simp [one]
  · simp [one]
  · simp [one]
  · simp [one]
  · simp [one]
  · simp only [one, iff_false]
    omega
  · have ascii : c.toNat < 128 := by simpa [IsEncodable, isFunction, one, two, three, four] using known
    simp only [one, iff_false]
    omega

theorem ahead_ne_fnc1 {c : Char} (other : c ≠ fnc1) (s : Text) : ahead (c :: s) ≠ .fnc1 := by
  match s with
  | [] => simp only [ahead, if_neg other]; split_ifs <;> simp
  | _ :: _ => simp only [ahead, if_neg other]; split_ifs <;> simp

theorem digits_of_ahead {c d : Char} {s : Text} (h : ahead (c :: d :: s) = .twoDigits) :
    c.isDigit = true ∧ d.isDigit = true := by
  simp only [ahead] at h
  split_ifs at h with mark plain second
  exact ⟨by simpa using plain, second⟩

theorem ahead_of_choose {used : Option CodeSet} {c : Char} {s : Text} (h : choose used (c :: s) = .c)
    (other : c ≠ fnc1) : ahead (c :: s) = .twoDigits := by
  cases two : ahead (c :: s) with
  | twoDigits => rfl
  | fnc1 => exact absurd two (ahead_ne_fnc1 other s)
  | other =>
    simp only [choose, two] at h
    split_ifs at h
  | oneDigit =>
    rcases used with _ | _ | _ | _ <;> simp [choose, two] at h

theorem digitPair_lt {c d : Char} (hc : c.isDigit = true) (hd : d.isDigit = true) : digitPair c d < fnc1Code := by
  have first : c.toNat ≤ 57 := (Char.isDigit_iff_toNat.mp hc).2
  have second : d.toNat ≤ 57 := (Char.isDigit_iff_toNat.mp hd).2
  unfold digitPair fnc1Code
  omega

theorem count_code {c : Char} (known : IsEncodable c) (set : CodeSet) :
    [code set c].count fnc1Code = [c].count fnc1 := by
  simp only [List.count_singleton, beq_iff_eq, code_eq_iff known]

/-- The symbol has as many function codes as the text has function characters. -/
theorem count_codes (used : Option CodeSet) {s : Text} (known : ∀ c ∈ s, IsEncodable c) :
    (codes used s).count fnc1Code = s.count fnc1 := by
  fun_induction codes used s with
  | case1 => rfl
  | case2 used c set =>
    rw [List.count_append, count_enter, Nat.zero_add, count_code (known c List.mem_cons_self)]
  | case3 used c d rest set pairs singles =>
    rw [List.count_append, count_enter, Nat.zero_add]
    split_ifs with pair
    · -- a pair of digits becomes one code, and neither digit is a function character
      obtain ⟨first, second⟩ := digits_of_ahead (ahead_of_choose pair.1 pair.2)
      have other : d ≠ fnc1 := by rintro rfl; exact absurd second (by decide)
      have code : digitPair c d ≠ fnc1Code := Nat.ne_of_lt (digitPair_lt first second)
      have rest := pairs fun e he => known e (List.mem_cons_of_mem c (List.mem_cons_of_mem d he))
      rw [List.count_cons_of_ne code, List.count_cons_of_ne pair.2, List.count_cons_of_ne other, rest]
    · have rest := singles fun e he => known e (List.mem_cons_of_mem c he)
      rw [← List.singleton_append, List.count_append, count_code (known c List.mem_cons_self), rest,
        ← List.count_append, List.singleton_append]

theorem isEncodable_of_mem {s : Text} (h : isEncodable s = true) {c : Char} (hc : c ∈ s) : IsEncodable c := by
  simp only [isEncodable, Bool.and_eq_true, List.all_eq_true] at h
  simpa [IsEncodable] using h.2 c hc

end Code128

/-! ## Both -/

namespace Payload

/-- A function character stands at the beginning in EAN mode, and nowhere else. -/
def MarksEan (mode : Code128Mode) (content : Text) : Prop :=
  content.count fnc1 = (if mode = .ean then 1 else 0) ∧ (mode = .ean → content.head? = some fnc1)

theorem count_code128 (mode : Code128Mode) (data : Text) :
    (code128 mode data).content.count fnc1 = data.count fnc1 + if mode = .ean then 1 else 0 := by
  unfold code128
  split_ifs <;> simp

end Payload

/-- The content of a Code 128 symbol has a function character for every byte 164 of the data, and one in front in EAN
mode. The symbol has as many function codes. So the function character marks EAN mode just for data without that byte;
ASCII data without escapes is of that kind. -/
theorem fnc1_of_data {field : BarcodeField} {bars : BarStyle} {ucc : Bool} {mode : Code128Mode}
    (kind : field.symbology = .code128 bars ucc mode) :
    let bytes := CodePage.dataBytes field.hexEscape field.data
    let content := field.payload.content
    content.count fnc1 = bytes.count 164 + (if mode = .ean then 1 else 0) ∧
      (mode = .ean → content.head? = some fnc1) ∧
      (Payload.MarksEan mode content ↔ 164 ∉ bytes) ∧
      (isEncodable content = true → (codes none content).count fnc1Code = content.count fnc1) ∧
      (field.hexEscape = none → (∀ c ∈ field.data, c.toNat < 128) → 164 ∉ bytes) := by
  intro bytes content
  have whole : content = (Payload.code128 mode (CodePage.shown field.hexEscape field.data)).content := by
    simp only [content, BarcodeField.payload, kind]
    rfl
  have count : content.count fnc1 = bytes.count 164 + if mode = .ean then 1 else 0 := by
    rw [whole, Payload.count_code128, CodePage.count_fnc1_shown]
  have front : mode = .ean → content.head? = some fnc1 := by
    rintro rfl
    rw [whole]
    rfl
  refine ⟨count, front, ?_, fun h => count_codes none fun c => isEncodable_of_mem h, ?_⟩
  · unfold Payload.MarksEan
    rw [count, ← List.count_eq_zero]
    constructor
    · rintro ⟨alone, -⟩
      omega
    · intro none
      exact ⟨by omega, front⟩
  · intro plain ascii
    have same : bytes = CodePage.dataBytes none field.data := by simp only [bytes, plain]
    rw [same]
    exact CodePage.ascii_dataBytes ascii

/-- Without EAN mode, an escape puts a function code into the symbol. -/
theorem fnc1_of_data_escape :
    let field : BarcodeField := ⟨['_', 'A', '4', 'A'], .code128 {} false .normal, none, some '_'⟩
    ¬Payload.MarksEan .normal field.payload.content ∧ (codes none field.payload.content).count fnc1Code = 1 := by
  intro field
  obtain ⟨count, -, marks, symbol, -⟩ := @fnc1_of_data field {} false .normal rfl
  exact ⟨fun h => marks.mp h (by decide), (symbol (by decide)).trans count⟩

end LabelPreview
