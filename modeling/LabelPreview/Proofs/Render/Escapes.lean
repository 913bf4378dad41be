import LabelPreview.Proofs.Graphic.HexRows
import LabelPreview.Proofs.Render.CodePage

/-!
# Escapes in field data

Any character of a text can be written byte by byte, each byte as the escape character and two hexadecimal digits.
However a text is spelled, the printer shows what it shows for the text.
-/

namespace LabelPreview.CodePage

open HexRows (IsDigit hexDigit?_of_isDigit)

/-! ## Spellings -/

/-- Bytes, each written as the escape character and two digits. -/
inductive Escapes (escape : Char) : List UInt8 → Text → Prop
  | nil : Escapes escape [] []
  | cons {b : UInt8} {bytes : List UInt8} {high low : Char} {text : Text} (first : IsDigit (b.toNat / 16) high)
      (second : IsDigit (b.toNat % 16) low) (rest : Escapes escape bytes text) :
      Escapes escape (b :: bytes) (escape :: high :: low :: text)

/-- A spelling of a text: every character stands for itself, unless it is the escape character, or is written byte by
byte. -/
inductive Spells (escape : Char) : (text written : Text) → Prop
  | nil : Spells escape [] []
  | literal {c : Char} {text written : Text} (other : c ≠ escape) (rest : Spells escape text written) :
      Spells escape (c :: text) (c :: written)
  | escaped {c : Char} {text escapes written : Text} (bytes : Escapes escape (String.utf8EncodeChar c) escapes)
      (rest : Spells escape text written) : Spells escape (c :: text) (escapes ++ written)

/-! ## Reading -/

variable {escape : Char}

theorem escapedBytes_cons {c : Char} (other : c ≠ escape) (s : Text) :
    escapedBytes escape (c :: s) = String.utf8EncodeChar c ++ escapedBytes escape s := by
  match s with
  | [] => simp [escapedBytes]
  | [_] => simp [escapedBytes]
  | _ :: _ :: _ => simp only [escapedBytes, if_neg other]

theorem escapedBytes_digits {b : UInt8} {high low : Char} (first : IsDigit (b.toNat / 16) high)
    (second : IsDigit (b.toNat % 16) low) (s : Text) :
    escapedBytes escape (escape :: high :: low :: s) = b :: escapedBytes escape s := by
  have whole : UInt8.ofNat (16 * (b.toNat / 16) + b.toNat % 16) = b := by
    rw [Nat.div_add_mod, UInt8.ofNat_toNat]
  simp only [escapedBytes, if_true, hexDigit?_of_isDigit first, hexDigit?_of_isDigit second, whole]

theorem Escapes.read {bytes : List UInt8} {text : Text} (h : Escapes escape bytes text) (s : Text) :
    escapedBytes escape (text ++ s) = bytes ++ escapedBytes escape s := by
  induction h with
  | nil => rfl
  | cons first second _ ih =>
    simp only [List.cons_append]
    rw [escapedBytes_digits first second, ih]

theorem Spells.read {text written : Text} (h : Spells escape text written) :
    escapedBytes escape written = text.utf8 := by
  induction h with
  | nil => rfl
  | literal other _ ih => rw [escapedBytes_cons other, ih, Text.utf8, Text.utf8, List.flatMap_cons]
  | escaped bytes _ ih => rw [bytes.read, ih, Text.utf8, Text.utf8, List.flatMap_cons]

/-! ## Cutting -/

/-- No escape can begin in the text and end behind it: the last two characters are not the escape character. -/
def Closed (escape : Char) (s : Text) : Prop := escape ∉ s.drop (s.length - 2)

instance (s : Text) : Decidable (Closed escape s) := inferInstanceAs (Decidable (_ ∉ _))

theorem Closed.tail {c : Char} {s : Text} (h : Closed escape (c :: s)) : Closed escape s := by
  intro last
  apply h
  match s with
  | [] => cases last
  | [d] => exact List.mem_cons_of_mem c last
  | d :: e :: s => simpa using last

theorem escapedBytes_append {a : Text} (closed : Closed escape a) (b : Text) :
    escapedBytes escape (a ++ b) = escapedBytes escape a ++ escapedBytes escape b := by
  fun_induction escapedBytes escape a with
  | case1 => rfl
  | case2 c =>
    have other : c ≠ escape := fun h => closed (by simp [h])
    exact escapedBytes_cons other b
  | case3 c d =>
    have first : c ≠ escape := fun h => closed (by simp [h])
    have second : d ≠ escape := fun h => closed (by simp [h])
    simp only [List.cons_append, List.nil_append, escapedBytes_cons first, escapedBytes_cons second,
      List.append_assoc]
  | case4 c x y rest high low first second ih =>
    simp only [List.cons_append, escapedBytes, first, second]
    rw [ih closed.tail.tail.tail]
  | case5 c x y rest plain ih =>
    simp only [List.cons_append, escapedBytes]
    rw [List.append_assoc, ← ih closed.tail]
    rfl

/-! ## Printable characters -/

theorem utf8EncodeChar_of_lt {c : Char} (ascii : c.toNat < 128) :
    String.utf8EncodeChar c = [UInt8.ofNat c.toNat] := by
  have low : c.toNat ≤ 127 := by omega
  simp [String.utf8EncodeChar, low]

theorem glyph?_of_printable {c : Char} (from32 : 32 ≤ c.toNat) (below127 : c.toNat < 127) :
    glyph? (UInt8.ofNat c.toNat) = some c := by
  have byte : (UInt8.ofNat c.toNat).toNat = c.toNat := Nat.mod_eq_of_lt (by omega)
  unfold glyph?
  simp only [byte]
  rw [if_neg (by omega), if_neg (by omega), if_pos (by omega), Char.ofNat_toNat]

theorem shown_printable {s : Text} (printable : ∀ c ∈ s, 32 ≤ c.toNat ∧ c.toNat < 127) : shown none s = s := by
  induction s with
  | nil => rfl
  | cons c s ih =>
    obtain ⟨from32, below127⟩ := printable c List.mem_cons_self
    have rest : shown none s = s := ih fun d hd => printable d (List.mem_cons_of_mem c hd)
    simp only [shown, decode, Text.utf8] at rest ⊢
    rw [List.flatMap_cons, utf8EncodeChar_of_lt (by omega), List.singleton_append, List.filterMap_cons,
      glyph?_of_printable from32 below127]
    simp only [rest]

theorem shown_append (escape : Option Char) {a : Text} (closed : ∀ c, escape = some c → Closed c a) (b : Text) :
    shown escape (a ++ b) = shown escape a ++ shown escape b := by
  cases escape with
  | none => simp [shown, decode, Text.utf8]
  | some c => simp only [shown, decode, escapedBytes_append (closed c rfl), List.filterMap_append]

/-- Field data with any escape character can be shown. Escapes stand for the characters that they spell, data is shown
part by part if it is cut where no escape is open, and printable ASCII is shown as it is. -/
theorem encode_spelling (escape : Char) :
    (∀ data, ∃ out, encode (some escape) data = .ok out) ∧
    (∀ text written, Spells escape text written → encode (some escape) written = encode none text) ∧
    (∀ a b, Closed escape a → encode (some escape) (a ++ b) = do
      return (← encode (some escape) a) ++ (← encode (some escape) b)) ∧
    ∀ s : Text, (∀ c ∈ s, 32 ≤ c.toNat ∧ c.toNat ≤ 126) → encode none s = .ok s := by
  refine ⟨fun data => ⟨_, encode_eq (some escape) data⟩, fun text written h => ?_, fun a b closed => ?_,
    fun s printable => ?_⟩
  · simp only [encode_eq, shown, h.read]
  · have parts : shown (some escape) (a ++ b) = shown (some escape) a ++ shown (some escape) b := by
      apply shown_append
      rintro c ⟨⟩
      exact closed
    simp only [encode_eq, parts]
    rfl
  · rw [encode_eq, shown_printable]
    intro c hc
    have := printable c hc
    omega

/-- The escape character is a digit of the escapes: an accented letter in two bytes, cut before the plain `9`. -/
theorem encode_spelling_digit :
    encode (some 'A') ['A', 'C', '3', 'A', 'a', '9', '9'] = encode none ['é', '9'] ∧
      encode (some 'A') (['A', 'C', '3', 'A', 'a', '9'] ++ ['9']) = .ok ['├', '®', '9'] ∧
      encode none ['9'] = .ok ['9'] := by
  obtain ⟨-, spelled, parts, printable⟩ := encode_spelling 'A'
  refine ⟨spelled _ _ ?_, ?_, printable ['9'] (by simp)⟩
  · apply @Spells.escaped 'A' 'é' ['9'] ['A', 'C', '3', 'A', 'a', '9'] ['9'] _ (.literal (by decide) .nil)
    exact .cons ⟨by decide, .inr rfl⟩ ⟨by decide, .inl rfl⟩ (.cons ⟨by decide, .inl rfl⟩ ⟨by decide, .inl rfl⟩ .nil)
  · rw [parts _ _ (by decide)]
    rfl

end LabelPreview.CodePage
