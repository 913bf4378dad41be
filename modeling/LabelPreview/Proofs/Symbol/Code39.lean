import LabelPreview.Proofs.Render.Escapes
import LabelPreview.Symbol.Payload

/-!
# Check characters

The alphabet of Code 39 has 43 characters, and the place of a character is its value. A check character has the sum of
all values modulo 43 as its value, so data that is wrong in one place has another check character.
-/

namespace LabelPreview

namespace Code39

/-! ## Values -/

theorem value?_eq_some_iff {c : Char} {n : Nat} : value? c = some n ↔ alphabet[n]? = some c := by
  have distinct : alphabet.Nodup := by decide
  constructor
  · intro h
    obtain ⟨there, here, -⟩ := List.idxOf?_eq_some_iff.mp h
    exact List.getElem?_eq_some_iff.mpr ⟨there, here⟩
  · intro h
    obtain ⟨there, rfl⟩ := List.getElem?_eq_some_iff.mp h
    refine List.idxOf?_eq_some_iff.mpr ⟨there, rfl, fun j hj same => ?_⟩
    have := (List.getElem_inj distinct).mp same
    omega

theorem value?_of_mem {c : Char} (known : c ∈ alphabet) : value? c = some (alphabet.idxOf c) :=
  value?_eq_some_iff.mpr (List.getElem?_idxOf known)

theorem value?_eq_some_iff_eq {n : Nat} (small : n < 43) :
    ∃ c, alphabet[n]? = some c ∧ ∀ d, value? d = some n ↔ d = c := by
  have there : n < alphabet.length := small
  refine ⟨alphabet[n], List.getElem?_eq_getElem there, fun d => ?_⟩
  rw [value?_eq_some_iff, List.getElem?_eq_getElem there, Option.some.injEq, eq_comm]

/-- The alphabet has all characters of the text. -/
def InAlphabet (s : Text) : Prop := ∀ c ∈ s, c ∈ alphabet

instance (s : Text) : Decidable (InAlphabet s) :=
  decidable_of_iff (s.all (fun c => decide (c ∈ alphabet)) = true) (by simp [InAlphabet])

theorem InAlphabet.tail {c : Char} {s : Text} (h : InAlphabet (c :: s)) : InAlphabet s :=
  fun d hd => h d (List.mem_cons_of_mem c hd)

/-! ## Sums -/

/-- The sum of the values of all characters. -/
def total : Text → Nat
  | [] => 0
  | c :: rest => alphabet.idxOf c + total rest

theorem sum?_of_known {data : Text} (known : InAlphabet data) : sum? data = some (total data) := by
  induction data with
  | nil => rfl
  | cons c data ih =>
    rw [sum?, value?_of_mem (known c List.mem_cons_self), ih known.tail]
    rfl

theorem sum?_of_unknown {data : Text} (unknown : ¬InAlphabet data) : sum? data = none := by
  induction data with
  | nil => exact absurd (fun c hc => nomatch hc) unknown
  | cons c data ih =>
    rw [sum?]
    by_cases first : c ∈ alphabet
    · have rest : ¬InAlphabet data := fun known => unknown (List.forall_mem_cons.mpr ⟨first, known⟩)
      rw [ih rest]
      cases value? c <;> rfl
    · have none : value? c = none := List.idxOf?_eq_none_iff.mpr first
      rw [none]

theorem total_set {data : Text} {i : Nat} {c : Char} (there : data[i]? = some c) (d : Char) :
    total (data.set i d) + alphabet.idxOf c = total data + alphabet.idxOf d := by
  induction data generalizing i with
  | nil => cases there
  | cons e data ih =>
    cases i with
    | zero =>
      cases there
      simp only [List.set_cons_zero, total]
      omega
    | succ i =>
      have rest := ih there
      simp only [List.set_cons_succ, total]
      omega

/-! ## Check characters -/

theorem exists_checkCharacter {data : Text} (known : InAlphabet data) :
    ∃ c, checkCharacter? data = some c ∧ ∀ d, value? d = some (total data % 43) ↔ d = c := by
  obtain ⟨c, there, only⟩ := value?_eq_some_iff_eq (Nat.mod_lt (total data) (by decide))
  refine ⟨c, ?_, only⟩
  rw [checkCharacter?, sum?_of_known known]
  exact there

theorem withCheckCharacter_of_unknown {data : Text} (unknown : ¬InAlphabet data) :
    withCheckCharacter data = data := by
  rw [withCheckCharacter, checkCharacter?, sum?_of_unknown unknown]
  exact List.append_nil data

/-- The texts have the same length and differ in one place. -/
def OneWrong (s t : Text) : Prop := s.length = t.length ∧ ∃! i : Nat, s[i]? ≠ t[i]?

theorem oneWrong_iff {s t : Text} : OneWrong s t ↔ ∃ i c d, s[i]? = some c ∧ d ≠ c ∧ t = s.set i d := by
  constructor
  · rintro ⟨length, i, differ, only⟩
    have inside : i < s.length := by
      by_contra outside
      rw [List.getElem?_eq_none (by omega), List.getElem?_eq_none (by omega)] at differ
      exact differ rfl
    have inside' : i < t.length := by omega
    have old : s[i]? = some s[i] := List.getElem?_eq_getElem inside
    have new : t[i]? = some t[i] := List.getElem?_eq_getElem inside'
    refine ⟨i, s[i], t[i], old, fun same => differ (by rw [old, new, same]), ?_⟩
    apply List.ext_getElem?
    intro j
    rw [List.getElem?_set]
    split_ifs with here
    · rw [← here, new]
    · by_contra other
      exact here (only j fun same => other same.symm).symm
  · rintro ⟨i, c, d, there, other, rfl⟩
    obtain ⟨inside, -⟩ := List.getElem?_eq_some_iff.mp there
    refine ⟨by rw [List.length_set], i, ?_, fun j differ => ?_⟩
    · show s[i]? ≠ (s.set i d)[i]?
      rw [there, List.getElem?_set_self inside]
      exact fun same => other (Option.some.inj same).symm
    · by_contra elsewhere
      exact differ (List.getElem?_set_ne (Ne.symm elsewhere)).symm

theorem checkCharacter_ne {s t : Text} (hs : InAlphabet s) (ht : InAlphabet t) (wrong : OneWrong s t) :
    checkCharacter? s ≠ checkCharacter? t := by
  intro same
  obtain ⟨c, made, value⟩ := exists_checkCharacter hs
  obtain ⟨d, made', value'⟩ := exists_checkCharacter ht
  have sum : total s % 43 = total t % 43 := by
    rw [made, made', Option.some.injEq] at same
    have first := (value c).mpr rfl
    rw [(value' c).mpr same] at first
    exact (Option.some.inj first).symm
  obtain ⟨i, x, y, old, other, rfl⟩ := oneWrong_iff.mp wrong
  have inside : i < s.length := (List.getElem?_eq_some_iff.mp old).choose
  have hx : x ∈ alphabet := hs x (List.mem_of_getElem? old)
  have hy : y ∈ alphabet := ht y (List.mem_set inside y)
  have change := total_set old y
  have small : alphabet.idxOf x < 43 := List.idxOf_lt_length_iff.mpr hx
  have small' : alphabet.idxOf y < 43 := List.idxOf_lt_length_iff.mpr hy
  exact other ((List.idxOf_inj hy).mp (by omega))

end Code39

/-! ## Payloads -/

namespace CodePage

theorem Spells.of_free {escape : Char} {s : Text} (free : escape ∉ s) : Spells escape s s := by
  induction s with
  | nil => exact .nil
  | cons c s ih =>
    rw [List.mem_cons, not_or] at free
    exact .literal (Ne.symm free.1) (ih free.2)

theorem shown_of_free {escape : Option Char} {data : Text} (free : ∀ c, escape = some c → c ∉ data) :
    shown escape data = shown none data := by
  cases escape with
  | none => rfl
  | some c => rw [shown, shown, (Spells.of_free (free c rfl)).read]

end CodePage

open Code39

theorem Code39.shown_of_inAlphabet {s : Text} (known : InAlphabet s) : CodePage.shown none s = s := by
  have printable : alphabet.all (fun c => 32 ≤ c.toNat && c.toNat < 127) = true := by decide
  apply CodePage.shown_printable
  intro c hc
  simpa using List.all_eq_true.mp printable c (known c hc)

/-- The check character of Code 39 stands behind data of the alphabet. It is the one whose value is the sum of all
values modulo 43, and it is another one for data that differs in one place. Other data has none. The content is printed
between two asterisks in any case. -/
theorem code39_payload {field : BarcodeField} {bars : BarStyle} {check : Bool}
    (kind : field.symbology = .code39 bars check) :
    let data := CodePage.shown field.hexEscape field.data
    let content := field.payload.content
    (check = true → InAlphabet data → ∃ c, content = data ++ [c] ∧
      (∀ d, value? d = some (total data % 43) ↔ d = c) ∧
      ∀ other d, InAlphabet other → OneWrong data other →
        (Payload.code39 true other).content = other ++ [d] → d ≠ c) ∧
    (check = true → ¬InAlphabet data → content = data) ∧
    (check = false → content = data) ∧
    field.payload.caption = '*' :: content ++ ['*'] ∧
    (InAlphabet field.data → (∀ c, field.hexEscape = some c → c ∉ field.data) → data = field.data) := by
  intro data content
  have whole : field.payload = Payload.code39 check data := by
    simp only [data, BarcodeField.payload, kind]
    rfl
  have inside : content = if check then withCheckCharacter data else data := by
    simp only [content, whole]
    rfl
  refine ⟨?_, ?_, ?_, ?_, ?_⟩
  · rintro rfl known
    obtain ⟨c, made, value⟩ := exists_checkCharacter known
    refine ⟨c, ?_, value, ?_⟩
    · rw [inside, if_pos rfl, withCheckCharacter, made]
      rfl
    · rintro other d known' wrong printed rfl
      obtain ⟨e, made', -⟩ := exists_checkCharacter known'
      have ends : other ++ [e] = other ++ [d] := by
        rw [← printed]
        simp only [Payload.code39, withCheckCharacter, made', if_true]
        rfl
      have last : e = d := by simpa using ends
      exact checkCharacter_ne known known' wrong (by rw [made, made', last])
  · rintro rfl unknown
    rw [inside, if_pos rfl, withCheckCharacter_of_unknown unknown]
  · rintro rfl
    rw [inside]
    rfl
  · simp only [content, whole]
    rfl
  · intro known free
    simp only [data]
    rw [CodePage.shown_of_free free, shown_of_inAlphabet known]

/-- The check character of a word is `W`, and with the last digit replaced it is another one. -/
theorem code39_payload_word :
    let field : BarcodeField := ⟨"CODE39".toList, .code39 {} true, none, none⟩
    OneWrong "CODE39".toList "CODE38".toList ∧ field.payload.content = "CODE39W".toList ∧
      field.payload.caption = "*CODE39W*".toList ∧
      (Payload.code39 true "CODE38".toList).content = "CODE38V".toList ∧ 'V' ≠ 'W' := by
  intro field
  obtain ⟨letters, -, -, printed, plain⟩ := @code39_payload field {} true rfl
  have same : CodePage.shown field.hexEscape field.data = "CODE39".toList := plain (by decide) (by simp [field])
  rw [same] at letters
  obtain ⟨c, content, value, another⟩ := letters rfl (by decide)
  obtain rfl : 'W' = c := (value 'W').mp (by decide)
  have wrong : OneWrong "CODE39".toList "CODE38".toList :=
    oneWrong_iff.mpr ⟨5, '9', '8', by decide, by decide, by decide⟩
  refine ⟨wrong, content, ?_, by decide, another "CODE38".toList 'V' (by decide) wrong (by decide)⟩
  rw [printed, content]
  rfl

end LabelPreview
