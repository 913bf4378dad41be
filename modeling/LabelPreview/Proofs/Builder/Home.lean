import LabelPreview.Proofs.Builder.Modifiers
import LabelPreview.Proofs.Builder.Numbers

/-!
# Moving the home position

A run that starts by setting the home position, and does not set it again, is the run without that step with every
item moved: after every step the builder of the one is the builder of the other, moved.
-/

namespace LabelPreview

variable (dx dy : Int)

/-! ## Moving -/

def Item.shift (i : Item) : Item := { i with x := i.x + dx, y := i.y + dy }

/-- The default font and the barcode defaults stay as they are. -/
def Label.shift (l : Label) : Label :=
  { l with items := l.items.map (Item.shift dx dy), home := (l.home.1 + dx, l.home.2 + dy) }

namespace Builder

def shift (b : Builder) : Builder :=
  { b with label := b.label.shift dx dy, cursor := b.cursor.map fun (x, y) => (x + dx, y + dy) }

/-! ## One step -/

theorem position_shift (b : Builder) :
    (b.shift dx dy).position = (b.position.1 + dx, b.position.2 + dy) := by
  rcases b with ⟨label, _ | cursor, _⟩ <;> rfl

theorem moved_add (home now d : Int) (n : Option Nat) : moved (home + d) (now + d) n = moved home now n + d := by
  cases n with
  | none => rfl
  | some n => simp only [moved]; omega

theorem shift_moveTo (b : Builder) (x y : Option Nat) :
    (b.shift dx dy).perform (.moveTo x y) = (b.perform (.moveTo x y)).shift dx dy := by
  unfold perform
  rw [position_shift]
  simp [shift, Label.shift, moved_add]

theorem item_shift (b : Builder) (content : Content) :
    (b.shift dx dy).item content = (b.item content).shift dx dy := by
  unfold item
  rw [position_shift]
  rfl

theorem shift_withItem (b : Builder) (content : Content) :
    (b.shift dx dy).withItem content = (b.withItem content).shift dx dy := by
  unfold withItem
  rw [item_shift]
  simp [shift, Label.shift]

theorem shift_perform {d : Directive} (stays : ∀ x y, d ≠ .home x y) (b : Builder) :
    (b.shift dx dy).perform d = (b.perform d).shift dx dy := by
  cases d with
  | moveTo x y => exact shift_moveTo dx dy b x y
  | home x y => exact absurd rfl (stays x y)
  | fieldData data =>
    -- what a field becomes does not depend on where it is
    have made := shift_withItem dx dy b (b.fieldContent data)
    exact congrArg (fun b : Builder => { b with hexEscape := none, barcode := none }) made
  | box shape => exact shift_withItem dx dy b (.box shape)
  | graphic bitmap => exact shift_withItem dx dy b (.graphic bitmap)
  | _ => rfl

theorem ne_home_of_read {s : Step} {d : Directive} (stays : s.kind ≠ .labelHome)
    (h : Directive.read s.kind s.params = .ok d) (x y : Nat) : d ≠ .home x y := by
  rintro rfl
  obtain nothing | same := Directive.modifier?_of_read h
  · cases nothing
  · obtain ⟨kind, params⟩ := s
    cases kind with
    | labelHome => exact stays rfl
    | _ => cases same

theorem shift_step {s : Step} (stays : s.kind ≠ .labelHome) (b : Builder) :
    (b.shift dx dy).step s = (b.step s).shift dx dy := by
  cases h : Directive.read s.kind s.params with
  | ok d => rw [step_of_read h, step_of_read h, shift_perform dx dy (ne_home_of_read stays h)]
  | error cause => rw [step_of_refused h, step_of_refused h]

theorem shift_steps {ss : List Step} (stay : ∀ s ∈ ss, s.kind ≠ .labelHome) (b : Builder) :
    (b.shift dx dy).steps ss = (b.steps ss).shift dx dy := by
  induction ss generalizing b with
  | nil => rfl
  | cons s ss ih =>
    rw [steps_cons, steps_cons, shift_step dx dy (stay s List.mem_cons_self)]
    apply ih
    intro t ht
    exact stay t (List.mem_cons_of_mem s ht)

/-! ## The first step -/

theorem answer_home {x y : Literal} (hx : 0 ≤ x.value ∧ x.value ≤ 32000) (hy : 0 ≤ y.value ∧ y.value ≤ 32000)
    (b : Builder) :
    b.answer ⟨.labelHome, x.text ++ ',' :: y.text⟩ =
      (.ok (), { b with label := { b.label with home := (x.value, y.value) } }) := by
  have fitsX : x.Fits := by unfold Literal.Fits; omega
  have fitsY : y.Fits := by unfold Literal.Fits; omega
  have read : Directive.read .labelHome (x.text ++ ',' :: y.text) = .ok (.home x.value.toNat y.value.toNat) := by
    simp only [Directive.read, Directive.readHome, Literal.fields_pair, x.within_text hx fitsX,
      y.within_text hy fitsY]
    rfl
  rw [answer_of_read read]
  simp only [perform, Int.toNat_of_nonneg hx.1, Int.toNat_of_nonneg hy.1]

/-- The home position moves everything and does nothing else: after it a run gets the answers that it gets without
it, and makes the same label with every item moved. -/
theorem home_moves_items {x y : Literal} (hx : 0 ≤ x.value ∧ x.value ≤ 32000)
    (hy : 0 ≤ y.value ∧ y.value ≤ 32000) {ss : List Step} (stay : ∀ s ∈ ss, s.kind ≠ .labelHome) :
    let home : Step := ⟨.labelHome, x.text ++ ',' :: y.text⟩
    ({} : Builder).answers (home :: ss) = .ok () :: ({} : Builder).answers ss ∧
      (({} : Builder).steps (home :: ss)).label = (({} : Builder).steps ss).label.shift x.value y.value := by
  intro home
  have first : ({} : Builder).answer home = (.ok (), ({} : Builder).shift x.value y.value) := by
    rw [answer_home hx hy]
    simp [shift, Label.shift]
  have moved : ({} : Builder).step home = ({} : Builder).shift x.value y.value := congrArg Prod.snd first
  constructor
  · rw [Builder.answers, first, moved, answers_anywhere _ {}]
  · rw [steps_cons, moved, shift_steps x.value y.value stay]
    rfl

/-- A text before any move, and a box after one that gives only the second coordinate. -/
theorem home_moves_items_both :
    let x : Literal := ⟨none, ['5', '0'], by decide, List.all_eq_true.mp rfl⟩
    let y : Literal := ⟨none, ['7'], by decide, List.all_eq_true.mp rfl⟩
    let ss : List Step := [⟨.fieldData, ['a']⟩, ⟨.fieldOrigin, [',', '9']⟩, ⟨.graphicBox, ['3']⟩]
    (({} : Builder).steps (⟨.labelHome, x.text ++ ',' :: y.text⟩ :: ss)).label.items.map
      (fun i => (i.x, i.y)) = [(50, 7), (50, 16)] := by
  intro x y ss
  rw [(@home_moves_items x y (by decide) (by decide) ss (by decide)).2]
  rfl

end Builder

end LabelPreview
