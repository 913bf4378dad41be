import LabelPreview.Symbol.Ean13
import Mathlib.Data.List.Basic
import Mathlib.Tactic.SplitIfs

/-!
# Numbers with a check digit

Every text is completed to thirteen digits. Unless it has thirteen characters already, the weighted sum of the digits is
a multiple of ten. Each weight is prime to ten, so the sum of such a number gives away any one digit that is wrong.
-/

namespace LabelPreview.Ean13

/-! ## Digits -/

theorem isDigit_asDigit (c : Char) : (asDigit c).isDigit = true := by
  unfold asDigit
  split_ifs with digit
  · exact digit
  · rfl

theorem map_asDigit_of_digits {s : Text} (digits : ∀ c ∈ s, c.isDigit = true) : s.map asDigit = s :=
  (List.map_congr_left fun c hc => if_pos (digits c hc)).trans (List.map_id s)

theorem isDigit_range {c : Char} (digit : c.isDigit = true) : 48 ≤ c.toNat ∧ c.toNat ≤ 57 :=
  Char.isDigit_iff_toNat.mp digit

theorem digitValue_lt {c : Char} (digit : c.isDigit = true) : digitValue c < 10 := by
  have range := isDigit_range digit
  unfold digitValue
  omega

theorem eq_of_digitValue_eq {c d : Char} (hc : c.isDigit = true) (hd : d.isDigit = true)
    (same : digitValue c = digitValue d) : c = d := by
  have first := isDigit_range hc
  have second := isDigit_range hd
  unfold digitValue at same
  apply Char.toNat_inj.mp
  omega

theorem digit_of_value {n : Nat} (small : n < 10) :
    (Char.ofNat (48 + n)).isDigit = true ∧ digitValue (Char.ofNat (48 + n)) = n := by
  have table : ∀ n < 10, (Char.ofNat (48 + n)).isDigit = true ∧ digitValue (Char.ofNat (48 + n)) = n := by decide
  exact table n small

/-! ## Weighted sums -/

theorem weightedSum_append (triple : Bool) (a b : Text) :
    weightedSum triple (a ++ b) =
      weightedSum triple a + weightedSum (if a.length % 2 = 0 then triple else !triple) b := by
  induction a generalizing triple with
  | nil => simp [weightedSum]
  | cons c a ih =>
    have turn : (if a.length % 2 = 0 then !triple else !(!triple)) =
        if (c :: a).length % 2 = 0 then triple else !triple := by
      rw [List.length_cons, Bool.not_not]
      split_ifs
      · omega
      · rfl
      · rfl
      · omega
    rw [List.cons_append, weightedSum, weightedSum, ih, turn, Nat.add_assoc]

theorem weightedSum_reverse {s : Text} (even : s.length % 2 = 0) (triple : Bool) :
    weightedSum (!triple) s.reverse = weightedSum triple s := by
  match s with
  | [] => rfl
  | [_] => simp at even
  | c :: d :: s =>
    have rest : s.length % 2 = 0 := by
      simp only [List.length_cons] at even
      omega
    have ends : (c :: d :: s).reverse = s.reverse ++ [d, c] := by simp
    rw [ends, weightedSum_append, List.length_reverse, if_pos rest, weightedSum_reverse rest]
    simp only [weightedSum, Bool.not_not]
    omega

theorem weightedSum_set {s : Text} {i : Nat} {c : Char} (there : s[i]? = some c) (d : Char) (triple : Bool) :
    ∃ weight, (weight = 1 ∨ weight = 3) ∧
      weightedSum triple (s.set i d) + weight * digitValue c = weightedSum triple s + weight * digitValue d := by
  induction s generalizing i triple with
  | nil => cases there
  | cons e s ih =>
    cases i with
    | zero =>
      cases there
      refine ⟨if triple then 3 else 1, ?_, ?_⟩
      · cases triple
        · exact .inl rfl
        · exact .inr rfl
      · simp only [List.set_cons_zero, weightedSum]
        omega
    | succ i =>
      obtain ⟨weight, prime, rest⟩ := ih there (!triple)
      refine ⟨weight, prime, ?_⟩
      simp only [List.set_cons_succ, weightedSum]
      omega

/-- A wrong digit changes the last digit of the sum. -/
theorem weightedSum_set_ne {s : Text} {i : Nat} {c d : Char} (there : s[i]? = some c) (hc : c.isDigit = true)
    (hd : d.isDigit = true) (wrong : d ≠ c) (triple : Bool) :
    weightedSum triple (s.set i d) % 10 ≠ weightedSum triple s % 10 := by
  intro same
  obtain ⟨weight, prime, change⟩ := weightedSum_set there d triple
  have old := digitValue_lt hc
  have new := digitValue_lt hd
  apply wrong
  apply eq_of_digitValue_eq hd hc
  rcases prime with rfl | rfl
  · omega
  · omega

/-! ## Completing -/

theorem length_twelve (s : Text) : (twelve s).length = 12 := by
  simp only [twelve, List.length_take, List.length_append, List.length_replicate]
  omega

theorem twelve_eq (s : Text) :
    twelve s = if s.length < 12 then List.replicate (12 - s.length) '0' ++ s else s.take 12 := by
  unfold twelve
  split_ifs with short
  · apply List.take_of_length_le
    simp only [List.length_append, List.length_replicate]
    omega
  · have none : 12 - s.length = 0 := by omega
    rw [none, List.replicate_zero, List.nil_append]

theorem isDigit_of_mem_twelve {s : Text} (digits : ∀ c ∈ s, c.isDigit = true) {c : Char} (hc : c ∈ twelve s) :
    c.isDigit = true := by
  rcases List.mem_append.mp (List.mem_of_mem_take hc) with zero | there
  · rw [List.eq_of_mem_replicate zero]
    rfl
  · exact digits c there

theorem checkDigit?_of_digits {s : Text} (length : s.length = 12) (digits : ∀ c ∈ s, c.isDigit = true) :
    ∃ c, checkDigit? s = some c ∧ c.isDigit = true ∧ weightedSum false (s ++ [c]) % 10 = 0 := by
  have plain : s.all Char.isDigit = true := List.all_eq_true.mpr digits
  have sum : weightedSum true s.reverse = weightedSum false s := weightedSum_reverse (by rw [length]) false
  obtain ⟨digit, value⟩ := digit_of_value (n := (10 - weightedSum false s % 10) % 10) (by omega)
  refine ⟨Char.ofNat (48 + (10 - weightedSum false s % 10) % 10), ?_, digit, ?_⟩
  · rw [checkDigit?, if_pos ⟨length, plain⟩, sum]
  · rw [weightedSum_append, length, if_pos rfl]
    simp only [weightedSum, value, Bool.false_eq_true, if_false]
    omega

theorem complete?_of_thirteen {data : Text} (length : data.length = 13) :
    complete? data = some (data.map asDigit) := by
  unfold complete?
  rw [if_pos (by rw [List.length_map, length])]

theorem complete?_of_other {data : Text} (length : data.length ≠ 13) :
    ∃ c, complete? data = some (twelve (data.map asDigit) ++ [c]) ∧ c.isDigit = true ∧
      weightedSum false (twelve (data.map asDigit) ++ [c]) % 10 = 0 := by
  obtain ⟨c, made, digit, sum⟩ := checkDigit?_of_digits (length_twelve (data.map asDigit)) fun c hc =>
    isDigit_of_mem_twelve (by simp [isDigit_asDigit]) hc
  refine ⟨c, ?_, digit, sum⟩
  unfold complete?
  simp only
  rw [if_neg (by rwa [List.length_map]), made]
  rfl

theorem exists_complete? (data : Text) :
    ∃ digits, complete? data = some digits ∧ digits.length = 13 ∧ (∀ c ∈ digits, c.isDigit = true) ∧
      (data.length = 13 → digits = data.map asDigit) ∧
      (data.length ≠ 13 → weightedSum false digits % 10 = 0 ∧ digits.take 12 = twelve (data.map asDigit)) := by
  have plain : ∀ c ∈ data.map asDigit, c.isDigit = true := by simp [isDigit_asDigit]
  by_cases length : data.length = 13
  · exact ⟨_, complete?_of_thirteen length, by rw [List.length_map, length], plain, fun _ => rfl,
      fun other => absurd length other⟩
  · obtain ⟨c, made, digit, sum⟩ := complete?_of_other length
    have number := length_twelve (data.map asDigit)
    refine ⟨_, made, by rw [List.length_append, number]; rfl, ?_, fun other => absurd other length, fun _ => ⟨sum, ?_⟩⟩
    · rw [List.forall_mem_append, List.forall_mem_singleton]
      exact ⟨fun d hd => isDigit_of_mem_twelve plain hd, digit⟩
    · exact List.take_left' number

/-- Every text is completed to thirteen digits, which are complete themselves. Thirteen characters stay as they are, up
to those that are no digits; of any other text the first twelve digits are what is made of it, and the sum of all digits
with the weights 1 and 3 in turn is a multiple of ten. Where it is one, it is none with a digit replaced by another. -/
theorem completed_number (data : Text) :
    ∃ digits, complete? data = some digits ∧ digits.length = 13 ∧ (∀ c ∈ digits, c.isDigit = true) ∧
      (data.length = 13 → digits = data.map asDigit) ∧
      (data.length ≠ 13 → weightedSum false digits % 10 = 0 ∧
        digits.take 12 =
          if data.length < 12 then List.replicate (12 - data.length) '0' ++ data.map asDigit
          else (data.map asDigit).take 12) ∧
      complete? digits = some digits ∧
      (weightedSum false digits % 10 = 0 → ∀ i c d, digits[i]? = some c → d.isDigit = true → d ≠ c →
        weightedSum false (digits.set i d) % 10 ≠ 0) := by
  obtain ⟨digits, made, long, plain, same, other⟩ := exists_complete? data
  refine ⟨digits, made, long, plain, same, fun length => ?_, ?_, fun sum i c d there hd wrong => ?_⟩
  · obtain ⟨sum, number⟩ := other length
    rw [number, twelve_eq, List.length_map]
    exact ⟨sum, rfl⟩
  · rw [complete?_of_thirteen long, map_asDigit_of_digits plain]
  · rw [← sum]
    exact weightedSum_set_ne there (plain c (List.mem_of_getElem? there)) hd wrong false

/-- Five digits are filled up with zeros, and with one of them replaced the sum is no multiple of ten. -/
theorem completed_number_short :
    let digits := "0000000123457".toList
    complete? "12345".toList = some digits ∧ complete? digits = some digits ∧
      weightedSum false digits % 10 = 0 ∧ weightedSum false (digits.set 8 '7') % 10 ≠ 0 := by
  intro digits
  obtain ⟨made, complete, -, -, -, short, again, detects⟩ := completed_number "12345".toList
  have same : made = digits := Option.some.inj (complete.symm.trans (by decide))
  subst same
  obtain ⟨sum, -⟩ := short (by decide)
  exact ⟨complete, again, sum, detects sum 8 '2' '7' (by decide) (by decide) (by decide)⟩

end LabelPreview.Ean13
