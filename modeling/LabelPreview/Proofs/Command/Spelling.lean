import LabelPreview.Proofs.Command.Pieces
import Mathlib.Data.List.SplitBy

/-!
# Commands as they are written

A stream is cut in front of every control character. A piece that begins as a command holds that command, and
every other piece is passed over. Written out again, the commands of a stream are the pieces that hold them.
-/

namespace LabelPreview

namespace Token

/-! ## Cutting -/

theorem isPlain_iff {c : Char} : isPlain c = true ↔ c ≠ '^' ∧ c ≠ '~' := by
  simp [isPlain, isControl]

/-- A text cut in front of every `^` and every `~`. -/
def cut (s : Text) : List Text := s.splitBy fun _ next => next ≠ '^' ∧ next ≠ '~'

theorem flatten_cut (s : Text) : (cut s).flatten = s := List.flatten_splitBy _ s

theorem cut_of_plain {c : Char} {body : Text} (plain : ∀ x ∈ body, isPlain x = true) :
    cut (c :: body) = [c :: body] := by
  refine List.splitBy_of_isChain (List.cons_ne_nil _ _) ?_
  induction body generalizing c with
  | nil => exact .singleton c
  | cons x body ih =>
    rw [List.isChain_cons_cons]
    have hx := isPlain_iff.mp (plain x List.mem_cons_self)
    exact ⟨decide_eq_true hx, ih fun y hy => plain y (List.mem_cons_of_mem _ hy)⟩

theorem cut_append {a b : Text} (hb : Stops b) : cut (a ++ b) = cut a ++ cut b := by
  cases b with
  | nil => simp [cut]
  | cons c b =>
    refine List.splitBy_append_cons b fun _ _ => ?_
    rw [decide_eq_false_iff_not, ← isPlain_iff]
    intro hc
    simp [Stops, hc] at hb

theorem cut_flatten {ps : List Text} (h : ∀ p ∈ ps, IsPiece p) : cut ps.flatten = ps := by
  induction ps with
  | nil => rfl
  | cons p ps ih =>
    have hps : ∀ q ∈ ps, IsPiece q := fun q hq => h q (List.mem_cons_of_mem _ hq)
    obtain ⟨c, body, -, plain⟩ := h p List.mem_cons_self
    rw [List.flatten_cons, cut_append (stops_flatten hps), ih hps, cut_of_plain plain, List.singleton_append]

/-- The pieces of a stream are the parts it is cut into, but for what stands in front of the first control
character. -/
theorem cut_eq (s : Text) : cut s = cut (s.takeWhile isPlain) ++ pieces s := by
  have h : ∀ p ∈ pieces s, IsPiece p := fun _ hp => isPiece_of_mem hp
  conv_lhs => rw [← flatten_pieces s, cut_append (stops_flatten h), cut_flatten h]

/-! ## Commands in pieces -/

/-- A piece that holds a command: a control character, a capital letter, and a capital letter, a digit or `@`. -/
def holdsCommand : Text → Bool
  | mark :: first :: second :: _ =>
    (mark = '^' ∨ mark = '~') ∧ ('A' ≤ first ∧ first ≤ 'Z') ∧
      ('A' ≤ second ∧ second ≤ 'Z' ∨ '0' ≤ second ∧ second ≤ '9' ∨ second = '@')
  | _ => false

/-- The command in a piece: three characters and the parameters. Only the font command has two, unless the third
is `@`. -/
def ofPiece (p : Text) : Token :=
  if ['^', 'A'] <+: p ∧ p[2]? ≠ some '@' then ⟨p.take 2, p.drop 2⟩ else ⟨p.take 3, p.drop 3⟩

/-- A command as it stands in a stream. -/
def text (t : Token) : Text := t.command ++ t.params

theorem text_ofPiece (p : Text) : (ofPiece p).text = p := by
  unfold ofPiece text
  split_ifs
  · exact List.take_append_drop 2 p
  · exact List.take_append_drop 3 p

theorem isUpper_iff {c : Char} : c.isUpper = true ↔ 'A' ≤ c ∧ c ≤ 'Z' := decide_eq_true_iff

theorem isNameTail_iff {c : Char} :
    isNameTail c = true ↔ 'A' ≤ c ∧ c ≤ 'Z' ∨ '0' ≤ c ∧ c ≤ '9' ∨ c = '@' := by
  simp only [isNameTail, Bool.or_eq_true, isUpper_iff, Char.isDigit, Bool.and_eq_true, decide_eq_true_eq,
    beq_iff_eq, or_assoc]
  exact Iff.rfl

theorem holdsCommand_cons (mark first second : Char) (rest : Text) :
    holdsCommand (mark :: first :: second :: rest) =
      (isControl mark && first.isUpper && isNameTail second) := by
  rw [holdsCommand, Bool.eq_iff_iff]
  simp only [decide_eq_true_eq, Bool.and_eq_true, isUpper_iff, isNameTail_iff, isControl, Bool.or_eq_true,
    beq_iff_eq, and_assoc]

theorem readPiece_eq (p : Text) : readPiece p = if holdsCommand p then some (ofPiece p) else none := by
  rcases p with _ | ⟨mark, _ | ⟨first, _ | ⟨second, rest⟩⟩⟩
  · rfl
  · rfl
  · rfl
  · rw [holdsCommand_cons, readPiece, readName]
    split_ifs with name font
    · simp [ofPiece, font]
    · rw [ofPiece, if_neg]
      · rfl
      · rintro ⟨front, other⟩
        simp only [List.cons_prefix_cons, List.nil_prefix, and_true] at front
        exact font ⟨front.1.symm, front.2.symm, by simpa using other⟩
    · rfl

theorem holdsCommand_of_plain {p : Text} (plain : ∀ c ∈ p, isPlain c = true) : holdsCommand p = false := by
  rcases p with _ | ⟨mark, _ | ⟨first, _ | ⟨second, rest⟩⟩⟩
  · rfl
  · rfl
  · rfl
  · have hmark := plain mark List.mem_cons_self
    rw [isPlain, Bool.not_eq_true'] at hmark
    rw [holdsCommand_cons, hmark, Bool.false_and, Bool.false_and]

theorem filter_cut (s : Text) : (cut s).filter holdsCommand = (pieces s).filter holdsCommand := by
  have front : (cut (s.takeWhile isPlain)).filter holdsCommand = [] := by
    rw [List.filter_eq_nil_iff]
    intro p hp
    have plain : ∀ c ∈ p, isPlain c = true := fun c hc => by
      have inFront : c ∈ (cut (s.takeWhile isPlain)).flatten := List.mem_flatten_of_mem hp hc
      rw [flatten_cut] at inFront
      exact List.mem_takeWhile_imp inFront
    rw [holdsCommand_of_plain plain]
    exact Bool.false_ne_true
  rw [cut_eq, List.filter_append, front, List.nil_append]

theorem scan_eq_cut (s : Text) : scan s = ((cut s).filter holdsCommand).map ofPiece := by
  rw [scan_eq, filter_cut, funext readPiece_eq, ← List.filterMap_eq_filter, List.map_filterMap]
  refine List.filterMap_congr fun p _ => ?_
  cases h : holdsCommand p <;> simp [Option.guard, h]

/-! ## Writing commands -/

/-- A command as reading gives it: one of three characters, or the font command with the name of a font for
its first parameter. -/
inductive InForm : Token → Prop
  | long {mark first second : Char} {params : Text} (control : mark = '^' ∨ mark = '~')
      (capital : 'A' ≤ first ∧ first ≤ 'Z')
      (tail : 'A' ≤ second ∧ second ≤ 'Z' ∨ '0' ≤ second ∧ second ≤ '9' ∨ second = '@')
      (noFont : ¬(mark = '^' ∧ first = 'A' ∧ second ≠ '@')) (plain : ∀ c ∈ params, c ≠ '^' ∧ c ≠ '~') :
      InForm ⟨[mark, first, second], params⟩
  | font {name : Char} {rest : Text} (named : 'A' ≤ name ∧ name ≤ 'Z' ∨ '0' ≤ name ∧ name ≤ '9')
      (plain : ∀ c ∈ rest, c ≠ '^' ∧ c ≠ '~') : InForm ⟨['^', 'A'], name :: rest⟩

theorem InForm.isPiece {t : Token} (h : t.InForm) : IsPiece t.text := by
  cases h with
  | @long mark first second params control capital tail _ plain =>
    refine .intro mark (first :: second :: params) ?_ fun x hx => ?_
    · rcases control with rfl | rfl <;> rfl
    · rcases List.mem_cons.mp hx with rfl | hx
      · exact isPlain_of_isUpper (isUpper_iff.mpr capital)
      · rcases List.mem_cons.mp hx with rfl | hx
        · exact isPlain_of_isNameTail (isNameTail_iff.mpr tail)
        · exact isPlain_iff.mpr (plain x hx)
  | @font name rest named plain =>
    refine .intro '^' ('A' :: name :: rest) rfl fun x hx => ?_
    rcases List.mem_cons.mp hx with rfl | hx
    · rfl
    · rcases List.mem_cons.mp hx with rfl | hx
      · exact isPlain_of_isNameTail (isNameTail_iff.mpr (named.imp_right .inl))
      · exact isPlain_iff.mpr (plain x hx)

theorem InForm.readPiece_text {t : Token} (h : t.InForm) : readPiece t.text = some t := by
  cases h with
  | @long mark first second params control capital tail noFont _ =>
    have name : (isControl mark && first.isUpper && isNameTail second) = true := by
      rw [isUpper_iff.mpr capital, isNameTail_iff.mpr tail]
      rcases control with rfl | rfl <;> rfl
    simp only [readPiece, text, List.cons_append, List.nil_append, readName, name, if_true, if_neg noFont,
      Option.map_some]
  | @font name rest named _ =>
    have tail : isNameTail name = true := isNameTail_iff.mpr (named.imp_right .inl)
    have noAt : name ≠ '@' := by
      rintro rfl
      revert named
      decide
    simp [readPiece, text, readName, isControl, tail, noAt]

theorem scan_flatMap_text {ts : List Token} (h : ∀ t ∈ ts, t.InForm) : scan (ts.flatMap text) = ts := by
  have written : ∀ p ∈ ts.map text, IsPiece p := by
    intro p hp
    obtain ⟨t, ht, rfl⟩ := List.mem_map.mp hp
    exact (h t ht).isPiece
  have found : pieces (ts.map text).flatten = ts.map text := @pieces_flatten [] _ (by simp) written
  have read : ∀ t ∈ ts, (readPiece ∘ text) t = some t := fun t ht => (h t ht).readPiece_text
  rw [scan_eq, List.flatMap, found, List.filterMap_map, List.filterMap_congr read, List.filterMap_some]

/-! ## Reading what is written -/

/-- The commands of a stream are those of the parts it is cut into, in order, and they spell just the parts that
hold a command. Commands in form are read back from their spelling. -/
theorem scan_reads_pieces :
    (∀ s, (cut s).flatten = s ∧ scan s = ((cut s).filter holdsCommand).map ofPiece ∧
      (scan s).flatMap text = ((cut s).filter holdsCommand).flatten) ∧
    ∀ ts : List Token, (∀ t ∈ ts, t.InForm) → scan (ts.flatMap text) = ts := by
  refine ⟨fun s => ⟨flatten_cut s, scan_eq_cut s, ?_⟩, fun ts h => scan_flatMap_text h⟩
  rw [scan_eq_cut, List.flatMap_map, funext text_ofPiece, List.flatMap_id']

/-- A font command with its name and one with `@` come back from a stream in which nothing parts them. -/
theorem scan_reads_pieces_fonts :
    scan "^A0N^A@,9~DG".toList =
      [⟨['^', 'A'], ['0', 'N']⟩, ⟨['^', 'A', '@'], [',', '9']⟩, ⟨['~', 'D', 'G'], []⟩] := by
  refine scan_reads_pieces.2 [⟨['^', 'A'], ['0', 'N']⟩, ⟨['^', 'A', '@'], [',', '9']⟩,
    ⟨['~', 'D', 'G'], []⟩] fun t ht => ?_
  simp only [List.mem_cons, List.not_mem_nil, or_false] at ht
  rcases ht with rfl | rfl | rfl
  · exact .font (by decide) (by simp)
  · exact .long (by decide) (by decide) (by decide) (by decide) (by simp)
  · exact .long (by decide) (by decide) (by decide) (by decide) (by simp)

end Token

end LabelPreview
