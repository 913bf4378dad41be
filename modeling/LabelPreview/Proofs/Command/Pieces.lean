import LabelPreview.Command.Token
import Mathlib.Data.List.TakeWhile

/-!
# Pieces of a command stream

A stream falls into pieces, each a control character with the plain text behind it. Scanning is reading piece
by piece, so what is known of single pieces carries over to streams.
-/

namespace LabelPreview

namespace Token

/-! ## Plain characters -/

theorem isPlain_of_pred {p : Char → Bool} (caret : p '^' = false) (tilde : p '~' = false) {c : Char}
    (h : p c = true) : isPlain c = true := by
  by_contra hc
  simp only [isPlain, isControl, Bool.not_eq_true, Bool.not_eq_false', Bool.or_eq_true, beq_iff_eq] at hc
  rcases hc with rfl | rfl
  · rw [caret] at h
    cases h
  · rw [tilde] at h
    cases h

theorem isPlain_of_isUpper {c : Char} (h : c.isUpper = true) : isPlain c = true :=
  isPlain_of_pred (p := Char.isUpper) (by decide) (by decide) h

theorem isPlain_of_isNameTail {c : Char} (h : isNameTail c = true) : isPlain c = true :=
  isPlain_of_pred (by decide) (by decide) h

/-- A text that is empty or goes on with a control character. -/
def Stops (s : Text) : Prop := s.takeWhile isPlain = []

theorem stops_cons {c : Char} {s : Text} (h : isControl c = true) : Stops (c :: s) := by
  simp [Stops, isPlain, h]

theorem stops_dropWhile (s : Text) : Stops (s.dropWhile isPlain) := by
  induction s with
  | nil => rfl
  | cons c s ih =>
    cases h : isPlain c with
    | true => simpa [h] using ih
    | false => simp [Stops, h]

theorem takeWhile_append_stops {a b : Text} (hb : Stops b) :
    (a ++ b).takeWhile isPlain = a.takeWhile isPlain := by
  rw [List.takeWhile_append, hb]
  split_ifs with h
  · rw [List.append_nil, List.Sublist.eq_of_length (List.takeWhile_sublist _) h]
  · rfl

/-! ## Pieces -/

/-- The pieces of a stream. What stands in front of the first control character is in none. -/
def pieces : Text → List Text
  | [] => []
  | c :: rest => if isControl c then (c :: rest.takeWhile isPlain) :: pieces rest else pieces rest

inductive IsPiece : Text → Prop
  | intro (c : Char) (body : Text) (control : isControl c = true)
      (plain : ∀ x ∈ body, isPlain x = true) : IsPiece (c :: body)

theorem isPiece_of_mem {s p : Text} (h : p ∈ pieces s) : IsPiece p := by
  induction s with
  | nil => cases h
  | cons c s ih =>
    rw [pieces] at h
    split_ifs at h with hc
    · rcases List.mem_cons.mp h with rfl | h
      · exact .intro c _ hc fun x hx => List.mem_takeWhile_imp hx
      · exact ih h
    · exact ih h

theorem pieces_of_plain {s : Text} (h : ∀ c ∈ s, isPlain c = true) : pieces s = [] := by
  induction s with
  | nil => rfl
  | cons c s ih =>
    have hc := h c List.mem_cons_self
    rw [pieces, if_neg (by simpa [isPlain] using hc), ih fun x hx => h x (List.mem_cons_of_mem _ hx)]

/-- Pieces of a text that stops do not reach into the text in front. -/
theorem pieces_append {a b : Text} (hb : Stops b) : pieces (a ++ b) = pieces a ++ pieces b := by
  induction a with
  | nil => rfl
  | cons c a ih =>
    rw [List.cons_append, pieces, pieces, ih, takeWhile_append_stops hb]
    split_ifs <;> rfl

theorem pieces_dropWhile (s : Text) : pieces (s.dropWhile isPlain) = pieces s := by
  have front : pieces (s.takeWhile isPlain) = [] := pieces_of_plain fun c hc => List.mem_takeWhile_imp hc
  have h := pieces_append (a := s.takeWhile isPlain) (stops_dropWhile s)
  rw [List.takeWhile_append_dropWhile, front, List.nil_append] at h
  exact h.symm

theorem stops_flatten {ps : List Text} (h : ∀ p ∈ ps, IsPiece p) : Stops ps.flatten := by
  cases ps with
  | nil => rfl
  | cons p ps =>
    obtain ⟨c, body, hc, -⟩ := h p List.mem_cons_self
    exact stops_cons hc

theorem pieces_of_isPiece {p : Text} (h : IsPiece p) : pieces p = [p] := by
  obtain ⟨c, body, hc, hbody⟩ := h
  rw [pieces, if_pos hc, pieces_of_plain hbody, List.takeWhile_eq_self_iff.mpr hbody]

theorem pieces_flatten {front : Text} {ps : List Text} (hfront : ∀ c ∈ front, isPlain c = true)
    (h : ∀ p ∈ ps, IsPiece p) : pieces (front ++ ps.flatten) = ps := by
  rw [pieces_append (stops_flatten h), pieces_of_plain hfront, List.nil_append]
  induction ps with
  | nil => rfl
  | cons p ps ih =>
    have hps : ∀ q ∈ ps, IsPiece q := fun q hq => h q (List.mem_cons_of_mem _ hq)
    rw [List.flatten_cons, pieces_append (stops_flatten hps), ih hps,
      pieces_of_isPiece (h p List.mem_cons_self), List.singleton_append]

theorem flatten_pieces (s : Text) : s.takeWhile isPlain ++ (pieces s).flatten = s := by
  induction s with
  | nil => rfl
  | cons c s ih =>
    cases hc : isControl c with
    | true => simp [pieces, isPlain, hc, ih]
    | false => simp [pieces, isPlain, hc, ih]

/-! ## Names -/

theorem readName_eq_some {c : Char} {rest command body : Text}
    (h : readName (c :: rest) = some (command, body)) :
    isControl c = true ∧ ∃ tail, command = c :: tail ∧ rest = tail ++ body ∧
      ∀ x ∈ tail, isPlain x = true := by
  unfold readName at h
  split at h
  · rename_i mark first second rest' heq
    obtain ⟨rfl, rfl⟩ := List.cons.inj heq
    split at h
    · rename_i hname
      simp only [Bool.and_eq_true] at hname
      obtain ⟨⟨hmark, hfirst⟩, hsecond⟩ := hname
      have plain1 := isPlain_of_isUpper hfirst
      have plain2 := isPlain_of_isNameTail hsecond
      split at h
      · cases h
        exact ⟨hmark, [first], rfl, rfl, by simp [plain1]⟩
      · cases h
        exact ⟨hmark, [first, second], rfl, rfl, by simp [plain1, plain2]⟩
    · cases h
  · cases h

theorem readName_takeWhile (c : Char) (rest : Text) :
    readName (c :: rest.takeWhile isPlain) =
      (readName (c :: rest)).map fun (command, body) => (command, body.takeWhile isPlain) := by
  rcases rest with _ | ⟨first, _ | ⟨second, rest⟩⟩
  · rfl
  · rw [List.takeWhile_cons]
    split <;> rfl
  · by_cases h : (isControl c && first.isUpper && isNameTail second) = true
    · simp only [Bool.and_eq_true] at h
      have plain1 := isPlain_of_isUpper h.1.2
      have plain2 := isPlain_of_isNameTail h.2
      rw [List.takeWhile_cons_of_pos plain1, List.takeWhile_cons_of_pos plain2]
      simp only [readName, h, Bool.and_self, if_true]
      split
      · simp [plain2]
      · rfl
    · have none : ∀ more, readName (c :: first :: second :: more) = none := fun more => by
        simp only [readName, if_neg h]
      rw [none, Option.map_none, List.takeWhile_cons]
      split
      · rw [List.takeWhile_cons]
        split
        · exact none _
        · rfl
      · rfl

/-! ## Scanning -/

/-- The command that a piece holds, if it is well formed. -/
def readPiece (p : Text) : Option Token := (readName p).map fun (command, params) => ⟨command, params⟩

theorem scan_of_name {c : Char} {rest command body : Text}
    (h : readName (c :: rest) = some (command, body)) :
    scan (c :: rest) = ⟨command, body.takeWhile isPlain⟩ :: scan (body.dropWhile isPlain) := by
  rw [scan]
  split
  · rename_i h'
    rw [h] at h'
    cases h'
    rfl
  · rename_i h'
    rw [h] at h'
    cases h'

theorem scan_of_no_name {c : Char} {rest : Text} (h : readName (c :: rest) = none) :
    scan (c :: rest) = scan (rest.dropWhile isPlain) := by
  rw [scan]
  split
  · rename_i h'
    rw [h] at h'
    cases h'
  · rfl

theorem scan_eq (s : Text) : scan s = (pieces s).filterMap readPiece := by
  induction s using scan.induct with
  | case1 => rw [scan]; rfl
  | case2 c rest command body h ih =>
    obtain ⟨hc, tail, -, rfl, plain⟩ := readName_eq_some h
    have piece : readPiece (c :: (tail ++ body).takeWhile isPlain) =
        some ⟨command, body.takeWhile isPlain⟩ := by
      rw [readPiece, readName_takeWhile, h]
      rfl
    rw [scan_of_name h, ih, pieces, if_pos hc, List.filterMap_cons_some piece,
      ← pieces_dropWhile (tail ++ body), List.dropWhile_append_of_pos plain]
  | case3 c rest h ih =>
    rw [scan_of_no_name h, ih, pieces_dropWhile, pieces]
    split_ifs
    · have piece : readPiece (c :: rest.takeWhile isPlain) = none := by
        rw [readPiece, readName_takeWhile, h]
        rfl
      rw [List.filterMap_cons_none piece]
    · rfl

end Token

end LabelPreview
