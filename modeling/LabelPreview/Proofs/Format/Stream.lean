import LabelPreview.Format.Basic
import LabelPreview.Proofs.Builder.Directive
import Mathlib.Tactic.SplitIfs

/-!
# Reading a stream of commands

Each command of a stream is a directive or a complaint by itself, wherever it stands. A run carries out the
directives in order and collects the complaints in order.
-/

namespace LabelPreview

theorem CommandKind.mem_handled_of_lookup {command : Text} {kind : CommandKind}
    (h : handled.lookup command = some kind) : (command, kind) ∈ handled := by
  obtain ⟨front, rest, heq, -⟩ := List.lookup_eq_some_iff.mp h
  simp [heq]

namespace Token

/-- What a command of a stream asks for, or the complaint about it. -/
def read (t : Token) : Except Complaint Directive :=
  match CommandKind.ofCommand? t.command with
  | none => .error (.unknownCommand t.command)
  | some kind => (Directive.read kind t.params.trim).mapError (.rejected t.command)

def directive? (t : Token) : Option Directive := t.read.toOption

def complaint? (t : Token) : Option Complaint :=
  match t.read with
  | .ok _ => none
  | .error complaint => some complaint

end Token

namespace Builder

theorem run_take (t : Token) (b : Builder) :
    (take t).run b =
      match t.read with
      | .ok d => .ok () (b.perform d)
      | .error complaint => .error complaint b := by
  unfold take Token.read
  cases CommandKind.ofCommand? t.command with
  | none => rfl
  | some kind =>
    simp only [EStateM.run_adaptExcept, run_handle]
    cases Directive.read kind t.params.trim <;> rfl

theorem run_eq (ts : List Token) (b : Builder) :
    run b ts = ((ts.filterMap Token.directive?).foldl perform b, ts.filterMap Token.complaint?) := by
  induction ts generalizing b with
  | nil => rfl
  | cons t ts ih =>
    rw [run, run_take]
    cases h : t.read <;> simp [Token.directive?, Token.complaint?, h, ih, Except.toOption]

end Builder

/-! ## The text of a format -/

namespace Text

theorem after?_eq_some_iff {start s rest : Text} : after? start s = some rest ↔ s = start ++ rest := by
  induction start generalizing s with
  | nil => simp [after?]
  | cons a start ih =>
    cases s with
    | nil => simp [after?]
    | cons c s =>
      rw [after?]
      split_ifs with h
      · rw [ih, h, List.cons_append, List.cons.injEq]
        simp
      · simp [Ne.symm h]

theorem before?_eq_some_iff {finish s front : Text} :
    before? finish s = some front ↔ s = front ++ finish := by
  rw [before?, Option.map_eq_some_iff]
  constructor
  · rintro ⟨rest, h, rfl⟩
    rw [after?_eq_some_iff, List.reverse_eq_iff] at h
    simpa using h
  · rintro rfl
    exact ⟨front.reverse, after?_eq_some_iff.mpr (by simp), by simp⟩

end Text

namespace Format

theorem body_eq_ok_iff {source s : Text} :
    body source = .ok s ↔ source = ['^', 'X', 'A'] ++ s ++ ['^', 'X', 'Z'] := by
  unfold body
  constructor
  · intro h
    split at h
    · cases h
    · rename_i rest hstart
      split at h
      · cases h
      · rename_i inner hend
        cases h
        rw [Text.after?_eq_some_iff] at hstart
        rw [Text.before?_eq_some_iff] at hend
        rw [hstart, hend, List.append_assoc]
  · rintro rfl
    have hstart : Text.after? ['^', 'X', 'A'] (['^', 'X', 'A'] ++ s ++ ['^', 'X', 'Z']) =
        some (s ++ ['^', 'X', 'Z']) := Text.after?_eq_some_iff.mpr (List.append_assoc _ _ _)
    have hend : Text.before? ['^', 'X', 'Z'] (s ++ ['^', 'X', 'Z']) = some s :=
      Text.before?_eq_some_iff.mpr rfl
    rw [hstart]
    simp only [hend]

/-- The builder after all commands of a body that are in order. -/
def made (s : Text) : Builder := ((Token.scan s).filterMap Token.directive?).foldl Builder.perform {}

def complaints (s : Text) : List Complaint := (Token.scan s).filterMap Token.complaint?

theorem readSource_eq {source s : Text} (h : body source = .ok s) :
    readSource source =
      if (made s).label.items.isEmpty then (none, complaints s ++ [.nothingPrintable])
      else (some (made s).label, complaints s) := by
  rw [readSource, h]
  simp only [Builder.run_eq]
  rfl

theorem isValid_read_iff {f : Format} :
    f.read.2.isValid = true ↔
      ∃ s, body f.source = .ok s ∧ complaints s = [] ∧ (made s).label.items ≠ [] := by
  simp only [read, Reading.isValid, List.isEmpty_iff]
  constructor
  · intro h
    cases hb : body f.source with
    | error complaint => simp [readSource, hb] at h
    | ok s =>
      rw [readSource_eq hb] at h
      split_ifs at h with hempty
      · simp at h
      · exact ⟨s, rfl, h, by simpa using hempty⟩
  · rintro ⟨s, hb, hc, hitems⟩
    rw [readSource_eq hb, if_neg (by simpa using hitems)]
    exact hc

theorem label_read {f : Format} {s : Text} (hb : body f.source = .ok s)
    (hitems : (made s).label.items ≠ []) : f.read.2.label = some (made s).label := by
  simp only [read]
  rw [readSource_eq hb, if_neg (by simpa using hitems)]

end Format

end LabelPreview
