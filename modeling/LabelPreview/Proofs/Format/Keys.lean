import LabelPreview.Format.Variables
import Mathlib.Data.List.Induction
import Mathlib.Data.List.Nodup
import Mathlib.Tactic.SplitIfs

/-!
# Keys of variables

Variables are a list with each key once. A new key goes to the end, and nothing that is done to a variable that is
there moves its key.
-/

namespace LabelPreview.Variables

def keys (vars : Variables) : List Text := vars.map Prod.fst

variable {vars : Variables}

theorem isSome_get?_iff (key : Text) : (vars.get? key).isSome = true ↔ key ∈ vars.keys := by
  induction vars with
  | nil => simp [get?, keys]
  | cons entry rest ih =>
    obtain ⟨k, v⟩ := entry
    unfold get? keys
    split_ifs with same
    · simp [same]
    · rw [ih, List.map_cons, List.mem_cons]
      simp [Ne.symm same, keys]

theorem keys_insert (key : Text) (entry : Variable) :
    (vars.insert key entry).keys = if key ∈ vars.keys then vars.keys else vars.keys ++ [key] := by
  induction vars with
  | nil => rfl
  | cons first rest ih =>
    obtain ⟨k, v⟩ := first
    unfold insert
    split_ifs with same there there
    · rfl
    · exact absurd (by simp [keys, same]) there
    · have below : key ∈ keys rest := by simpa [keys, Ne.symm same] using there
      rw [if_pos below] at ih
      simpa [keys] using ih
    · have below : key ∉ keys rest := fun h => there (List.mem_cons_of_mem _ h)
      rw [if_neg below] at ih
      simpa [keys] using ih

theorem nodup_insert (h : vars.keys.Nodup) (key : Text) (entry : Variable) : (vars.insert key entry).keys.Nodup := by
  rw [keys_insert]
  split_ifs with there
  · exact h
  · rw [← List.concat_eq_append]
    exact h.concat there

theorem insert_of_notMem {key : Text} (h : key ∉ vars.keys) (entry : Variable) :
    vars.insert key entry = vars ++ [(key, entry)] := by
  induction vars with
  | nil => rfl
  | cons first rest ih =>
    simp only [keys, List.map_cons, List.mem_cons, not_or] at h
    unfold insert
    rw [if_neg (Ne.symm h.1), ih h.2]
    rfl

theorem map_of_notMem {key : Text} (h : key ∉ vars.keys) (change : Text × Variable → Text × Variable) :
    (vars.map fun e => if e.1 = key then change e else e) = vars := by
  have others : ∀ e ∈ vars, (if e.1 = key then change e else e) = e := by
    intro e he
    apply if_neg
    rintro rfl
    exact h (List.mem_map_of_mem he)
  rw [List.map_congr_left others, List.map_id']

theorem insert_of_mem (once : vars.keys.Nodup) {key : Text} (h : key ∈ vars.keys) (entry : Variable) :
    vars.insert key entry = vars.map fun e => if e.1 = key then (key, entry) else e := by
  induction vars with
  | nil => cases h
  | cons first rest ih =>
    obtain ⟨below, onceBelow⟩ := List.nodup_cons.mp once
    unfold insert
    rw [List.map_cons]
    split_ifs with same
    · rw [same] at below
      rw [map_of_notMem below, same]
    · have there : key ∈ keys rest := (List.mem_cons.mp h).resolve_left (Ne.symm same)
      rw [ih onceBelow there]

theorem assign_eq_map (h : vars.keys.Nodup) (key value : Text) :
    vars.assign key value = vars.map fun e => if e.1 = key then (e.1, { e.2 with value }) else e := by
  induction vars with
  | nil => rfl
  | cons first rest ih =>
    obtain ⟨k, v⟩ := first
    obtain ⟨once, below⟩ := List.nodup_cons.mp h
    unfold assign
    rw [List.map_cons]
    split_ifs with same
    · rw [same] at once
      rw [map_of_notMem once]
    · rw [ih below]

theorem keys_assign (key value : Text) : (vars.assign key value).keys = vars.keys := by
  induction vars with
  | nil => rfl
  | cons first rest ih =>
    obtain ⟨k, v⟩ := first
    unfold assign
    split_ifs
    · rfl
    · simpa [keys] using ih

/-! ## Declared variables -/

/-- The variables known after one more piece of a parameter list. -/
def declare (known : Variables) (piece : Text) : Variables :=
  let v := readDeclaration piece
  if v.name.isEmpty then known else known.insert v.name v

def ofPieces (pieces : List Text) : Variables := pieces.foldl declare []

theorem readDeclarations_eq (params : Text) : readDeclarations params = ofPieces (params.splitOn ',') := rfl

theorem ofPieces_snoc (pieces : List Text) (piece : Text) :
    ofPieces (pieces ++ [piece]) = (ofPieces pieces).declare piece := List.foldl_append

theorem nodup_declare (h : vars.keys.Nodup) (piece : Text) : (vars.declare piece).keys.Nodup := by
  simp only [declare]
  split_ifs
  · exact h
  · exact nodup_insert h _ _

theorem nodup_ofPieces (pieces : List Text) : (ofPieces pieces).keys.Nodup := by
  induction pieces using List.reverseRecOn with
  | nil => exact List.nodup_nil
  | append_singleton pieces piece ih =>
    rw [ofPieces_snoc]
    exact nodup_declare ih piece

theorem nodup_readDeclarations (params : Text) : (readDeclarations params).keys.Nodup :=
  nodup_ofPieces (params.splitOn ',')

end LabelPreview.Variables
