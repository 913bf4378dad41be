import LabelPreview.Proofs.Builder.Data
import LabelPreview.Proofs.Command.Pieces
import LabelPreview.Proofs.Format.Stream
import LabelPreview.Proofs.Text.Replace

/-!
# Substitution in templates

Values are written into the data of fields and nowhere else. A value without control characters can not start
a command, so the format made from a template has the commands of the template, and its label differs from the
label of the template in the data of the fields only.
-/

namespace LabelPreview

/-! ## Changing the data of fields -/

namespace Token

/-- The command of a data field with its data changed; every other command as it is. -/
def changeData (change : Text → Text) (t : Token) : Token :=
  if t.command = ['^', 'F', 'D'] then { t with params := change t.params } else t

end Token

namespace Format

open Token

def KeepsPlain (change : Text → Text) : Prop :=
  ∀ s, (∀ c ∈ s, isPlain c = true) → ∀ c ∈ change s, isPlain c = true

def changePiece (change : Text → Text) : Text → Text
  | '^' :: 'F' :: 'D' :: data => '^' :: 'F' :: 'D' :: change data
  | p => p

theorem changePiece_of_ne {change : Text → Text} {p : Text} (h : ∀ data, p ≠ '^' :: 'F' :: 'D' :: data) :
    changePiece change p = p := by
  unfold changePiece
  split
  · exact absurd rfl (h _)
  · rfl

theorem changePiece_id (p : Text) : changePiece id p = p := by
  unfold changePiece
  split <;> rfl

theorem mapFieldData_eq (change : Text → Text) (s : Text) :
    mapFieldData change s = s.takeWhile isPlain ++ ((pieces s).map (changePiece change)).flatten := by
  induction s using mapFieldData.induct with
  | case1 rest ih =>
    rw [mapFieldData, ih, pieces_dropWhile, stops_dropWhile]
    simp [pieces, isPlain, isControl, changePiece]
  | case2 c rest h ih =>
    rw [mapFieldData.eq_2 change c rest h, ih]
    cases hc : isControl c with
    | false => simp [pieces, isPlain, hc]
    | true =>
      -- The plain text behind the control character begins as the whole text does.
      have other : changePiece change (c :: rest.takeWhile isPlain) = c :: rest.takeWhile isPlain := by
        refine changePiece_of_ne fun data heq => ?_
        obtain ⟨hmark, hfront⟩ := List.cons.inj heq
        have whole := List.takeWhile_append_dropWhile (p := isPlain) (l := rest)
        rw [hfront] at whole
        exact h _ hmark whole.symm
      simp [pieces, isPlain, hc, other]
  | case3 => rw [mapFieldData]; rfl

theorem mapFieldData_id (s : Text) : mapFieldData (fun data => data) s = s := by
  have same : (pieces s).map (changePiece fun data => data) = pieces s :=
    (List.map_congr_left fun p _ => changePiece_id p).trans (List.map_id _)
  rw [mapFieldData_eq, same, flatten_pieces]

theorem mapFieldData_append (change : Text → Text) (a : Text) {b : Text} (hb : Stops b) :
    mapFieldData change (a ++ b) = mapFieldData change a ++ mapFieldData change b := by
  rw [mapFieldData_eq, mapFieldData_eq change a, mapFieldData_eq change b, takeWhile_append_stops hb,
    pieces_append hb, hb]
  simp

theorem isPiece_changePiece {change : Text → Text} (h : KeepsPlain change) {p : Text} (hp : IsPiece p) :
    IsPiece (changePiece change p) := by
  obtain ⟨c, body, hc, hbody⟩ := hp
  unfold changePiece
  split
  · rename_i data heq
    obtain ⟨rfl, rfl⟩ := List.cons.inj heq
    have plain : ∀ x ∈ change data, isPlain x = true :=
      h data fun x hx => hbody x (List.mem_cons_of_mem _ (List.mem_cons_of_mem _ hx))
    refine .intro '^' _ rfl fun x hx => ?_
    rcases List.mem_cons.mp hx with rfl | hx
    · rfl
    · rcases List.mem_cons.mp hx with rfl | hx
      · rfl
      · exact plain x hx
  · exact .intro c body hc hbody

theorem isPiece_of_mem_changed {change : Text → Text} (h : KeepsPlain change) {s p : Text}
    (hp : p ∈ (pieces s).map (changePiece change)) : IsPiece p := by
  obtain ⟨q, hq, rfl⟩ := List.mem_map.mp hp
  exact isPiece_changePiece h (isPiece_of_mem hq)

/-- After a plain change the same pieces are found again, each with its data changed. -/
theorem pieces_mapFieldData {change : Text → Text} (h : KeepsPlain change) (s : Text) :
    pieces (mapFieldData change s) = (pieces s).map (changePiece change) := by
  rw [mapFieldData_eq]
  exact pieces_flatten (fun c hc => List.mem_takeWhile_imp hc) fun p hp => isPiece_of_mem_changed h hp

theorem takeWhile_mapFieldData {change : Text → Text} (h : KeepsPlain change) (s : Text) :
    (mapFieldData change s).takeWhile isPlain = s.takeWhile isPlain := by
  rw [mapFieldData_eq, takeWhile_append_stops (stops_flatten fun p hp => isPiece_of_mem_changed h hp),
    List.takeWhile_eq_self_iff.mpr fun c hc => List.mem_takeWhile_imp hc]

theorem changePiece_changePiece (f g : Text → Text) (p : Text) :
    changePiece f (changePiece g p) = changePiece (fun data => f (g data)) p := by
  by_cases h : ∃ data, p = '^' :: 'F' :: 'D' :: data
  · obtain ⟨data, rfl⟩ := h
    rfl
  · have ne : ∀ data, p ≠ '^' :: 'F' :: 'D' :: data := fun data hp => h ⟨data, hp⟩
    rw [changePiece_of_ne ne, changePiece_of_ne ne, changePiece_of_ne ne]

theorem mapFieldData_mapFieldData {f g : Text → Text} (h : KeepsPlain g) (s : Text) :
    mapFieldData f (mapFieldData g s) = mapFieldData (fun data => f (g data)) s := by
  have each : changePiece f ∘ changePiece g = changePiece fun data => f (g data) :=
    funext (changePiece_changePiece f g)
  rw [mapFieldData_eq, takeWhile_mapFieldData h, pieces_mapFieldData h, List.map_map, each, ← mapFieldData_eq]

theorem readPiece_changePiece (change : Text → Text) (p : Text) :
    readPiece (changePiece change p) = (readPiece p).map (changeData change) := by
  unfold changePiece
  split
  · rfl
  · rename_i other
    cases hp : readPiece p with
    | none => rfl
    | some t =>
      -- A command read as a data field was written as one.
      have ne : t.command ≠ ['^', 'F', 'D'] := by
        intro heq
        rcases p with _ | ⟨c, rest⟩
        · cases hp
        obtain ⟨⟨command, body⟩, hname, rfl⟩ := Option.map_eq_some_iff.mp hp
        obtain ⟨-, tail, hcommand, hrest, -⟩ := readName_eq_some hname
        simp only [hcommand, List.cons.injEq] at heq
        obtain ⟨rfl, rfl⟩ := heq
        exact other body (by rw [hrest]; rfl)
      rw [Option.map_some, changeData, if_neg ne]

theorem scan_mapFieldData {change : Text → Text} (h : KeepsPlain change) (s : Text) :
    scan (mapFieldData change s) = (scan s).map (changeData change) := by
  rw [scan_eq, scan_eq, pieces_mapFieldData h, List.filterMap_map, List.map_filterMap]
  exact congrArg (List.filterMap · (pieces s)) (funext fun p => readPiece_changePiece change p)

end Format

end LabelPreview
