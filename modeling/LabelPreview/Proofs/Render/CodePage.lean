import LabelPreview.CodePage
import Mathlib.Data.List.Basic

/-!
# Every byte has an entry

A code page could lack entries, and data with such a byte could not be shown. This one has an entry for every byte,
an empty one for most control bytes, so all data is encoded, with escapes or without.
-/

namespace LabelPreview.CodePage

structure Unmapped where
  byte : UInt8
  deriving DecidableEq, Repr

/-- What the bytes show, from 0 on. -/
def table : List Text :=
  List.replicate 26 [] ++ low.map ([·]) ++ (List.range' 32 95).map (fun n => [Char.ofNat n]) ++ high.map ([·])

def entry (b : UInt8) : Except Unmapped Text :=
  match table[b.toNat]? with
  | some s => .ok s
  | none => .error ⟨b⟩

def extend (out : Text) (b : UInt8) : Except Unmapped Text := do
  return out ++ (← entry b)

/-- Field data as a printer shows it, or the first byte that it can not show. -/
def encode (escape : Option Char) (data : Text) : Except Unmapped Text :=
  let bytes := match escape with
    | some c => escapedBytes c data
    | none => data.utf8
  bytes.foldlM extend []

theorem getElem?_table {n : Nat} (byte : n < 256) :
    table[n]? = some (glyph? (UInt8.ofNat n)).toList := by
  have toNat : (UInt8.ofNat n).toNat = n := Nat.mod_eq_of_lt byte
  have shown {l : List Char} {k : Nat} (there : k < l.length) : (l.map ([·]))[k]? = some (l[k]?).toList := by
    rw [List.getElem?_map, List.getElem?_eq_getElem there]
    rfl
  have six : low.length = 6 := rfl
  have rest : high.length = 129 := rfl
  unfold table glyph?
  simp only [toNat]
  split_ifs with empty control ascii
  · rw [List.append_assoc, List.append_assoc, List.getElem?_append_left (by simpa), List.getElem?_replicate,
      if_pos empty]
    rfl
  · rw [List.append_assoc, List.append_assoc, List.getElem?_append_right (by simpa using empty),
      List.getElem?_append_left (by simp; omega), List.length_replicate, shown (by omega)]
  · rw [List.getElem?_append_left (by simp; omega), List.getElem?_append_right (by simp; omega)]
    simp only [List.length_append, List.length_replicate, List.length_map, six, List.getElem?_map]
    rw [List.getElem?_range' (by omega), Option.map_some]
    congr 3
    omega
  · rw [List.getElem?_append_right (by simp; omega)]
    simp only [List.length_append, List.length_replicate, List.length_map, List.length_range', six]
    rw [shown (by omega)]

theorem entry_eq (b : UInt8) : entry b = .ok (glyph? b).toList := by
  have known := getElem?_table b.toNat_lt
  rw [UInt8.ofNat_toNat] at known
  rw [entry, known]

theorem extend_eq (out : Text) (b : UInt8) : extend out b = .ok (out ++ (glyph? b).toList) := by
  rw [extend, entry_eq]
  rfl

theorem foldlM_extend (bytes : List UInt8) (out : Text) : bytes.foldlM extend out = .ok (out ++ decode bytes) := by
  induction bytes generalizing out with
  | nil => simp [decode, pure, Except.pure]
  | cons b bytes ih =>
    rw [List.foldlM_cons, extend_eq]
    refine (ih _).trans ?_
    rw [List.append_assoc, decode, decode, List.filterMap_cons]
    cases glyph? b <;> rfl

theorem encode_eq (escape : Option Char) (data : Text) : encode escape data = .ok (shown escape data) :=
  foldlM_extend _ []

end LabelPreview.CodePage
