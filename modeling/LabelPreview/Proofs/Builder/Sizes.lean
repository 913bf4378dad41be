import LabelPreview.Proofs.Builder.Data
import LabelPreview.Proofs.Builder.History

/-!
# Sizes of barcodes

A barcode keeps the defaults that it finds when it is made. If there were none yet, it is drawn with the last
defaults of the whole run.
-/

namespace LabelPreview

namespace History

theorem barcodeDefaults_of_fieldContent {past : List Step} {data : Text} {field : BarcodeField}
    (h : fieldContent past data = .barcode field) : field.defaults = barcodeDefaults past := by
  unfold fieldContent at h
  split at h
  · cases h
    rfl
  · cases h

theorem barcodeDefaults_append_of_none {more : List Step} (none : ∀ t ∈ more, t.barcodeDefaults? = .none)
    (past : List Step) : barcodeDefaults (past ++ more) = barcodeDefaults past := by
  induction more using List.reverseRecOn with
  | nil => rw [List.append_nil]
  | append_singleton more t ih =>
    have last : t.barcodeDefaults? = .none := none t (by simp)
    rw [← List.append_assoc, barcodeDefaults_snoc, last, Option.none_or]
    exact ih fun u hu => none u (List.mem_append_left _ hu)

end History

namespace Builder

/-! ## Where a barcode comes from -/

theorem accepted_subset (b : Builder) (ss : List Step) : b.accepted ss ⊆ ss := by
  induction ss generalizing b with
  | nil => exact List.Subset.refl []
  | cons s ss ih =>
    cases h : Directive.read s.kind s.params with
    | ok d =>
      rw [accepted_cons_of_read h]
      exact List.cons_subset_cons s (ih _)
    | error cause =>
      rw [accepted_cons_of_refused h]
      exact List.subset_cons_of_subset s (ih b)

theorem item_perform (b : Builder) (d : Directive) :
    (b.perform d).label.items = b.label.items ∨
    ∃ content, (b.perform d).label.items = b.label.items ++ [b.item content] ∧
      ∀ field, content = .barcode field → ∃ data, d = .fieldData data ∧ content = b.fieldContent data := by
  cases d with
  | fieldData data => exact .inr ⟨_, rfl, fun field _ => ⟨data, rfl, rfl⟩⟩
  | box shape => exact .inr ⟨_, rfl, fun field h => nomatch h⟩
  | graphic bitmap => exact .inr ⟨_, rfl, fun field h => nomatch h⟩
  | _ => exact .inl rfl

theorem eq_fieldData_of_read {s : Step} {data : Text} (h : Directive.read s.kind s.params = .ok (.fieldData data)) :
    s = ⟨.fieldData, data⟩ := by
  obtain ⟨kind, params⟩ := s
  have same := Directive.data?_of_read h
  simp only [Directive.data?] at same
  split at same
  · rename_i hk
    cases same
    rw [hk]
  · cases same

/-- The barcode was made by a data field when `k` items were there, with the defaults of the steps before. -/
def MadeAt (ss : List Step) (k : Nat) (field : BarcodeField) : Prop :=
  ∃ before data after, ss = before ++ ⟨.fieldData, data⟩ :: after ∧
    (({} : Builder).steps before).label.items.length = k ∧
    field.defaults = History.barcodeDefaults (({} : Builder).accepted before)

theorem MadeAt.snoc {ss : List Step} {k : Nat} {field : BarcodeField} (h : MadeAt ss k field) (s : Step) :
    MadeAt (ss ++ [s]) k field := by
  obtain ⟨before, data, after, rfl, made⟩ := h
  exact ⟨before, data, after ++ [s], by simp, made⟩

theorem madeAt_last {ss : List Step} {data : Text} {field : BarcodeField}
    (h : (({} : Builder).steps ss).fieldContent data = .barcode field) :
    MadeAt (ss ++ [⟨.fieldData, data⟩]) (({} : Builder).steps ss).label.items.length field := by
  rw [(steps_follows ss).fieldContent] at h
  exact ⟨ss, data, [], rfl, rfl, History.barcodeDefaults_of_fieldContent h⟩

theorem barcode_madeAt {ss : List Step} {k : Nat} {i : Item} {field : BarcodeField}
    (here : (({} : Builder).steps ss).label.items[k]? = some i) (barcode : i.content = .barcode field) :
    MadeAt ss k field := by
  induction ss using List.reverseRecOn with
  | nil => cases here
  | append_singleton ss s ih =>
    rw [steps_snoc] at here
    cases hr : Directive.read s.kind s.params with
    | error cause =>
      rw [step_of_refused hr] at here
      exact (ih here).snoc s
    | ok d =>
      rw [step_of_read hr] at here
      obtain same | ⟨content, added, ofData⟩ := item_perform (({} : Builder).steps ss) d
      · rw [same] at here
        exact (ih here).snoc s
      · rw [added, List.getElem?_append] at here
        split at here
        · exact (ih here).snoc s
        · -- the item is the one just added
          rename_i notBefore
          rw [List.getElem?_singleton] at here
          split at here
          · cases here
            obtain ⟨data, rfl, hcontent⟩ := ofData field barcode
            cases eq_fieldData_of_read hr
            obtain rfl : (({} : Builder).steps ss).label.items.length = k := by omega
            exact madeAt_last (hcontent.symm.trans barcode)
          · cases here

/-! ## Sizes later on -/

theorem sizes_steps (field : BarcodeField) (ss : List Step) :
    field.sizes (({} : Builder).steps ss).label =
      field.sizes { barcodeDefaults := History.barcodeDefaults (({} : Builder).accepted ss) } := by
  rw [← (steps_follows ss).barcodeDefaults]
  rfl

/-- More steps leave a barcode where it is, and with the sizes that it has, if there were defaults when it was made
or if they bring no defaults. Only the module width of another barcode is that of the last defaults of the run, and its
height if it has none of its own. -/
theorem sizes_after (s e : List Step) (k : Nat) (i : Item) (field : BarcodeField)
    (here : (({} : Builder).steps s).label.items[k]? = some i) (barcode : i.content = .barcode field) :
    let now := (({} : Builder).steps s).label
    let later := (({} : Builder).steps (s ++ e)).label
    later.items[k]? = some i ∧
    MadeAt s k field ∧
    (field.sizes later).hasCaption = (field.sizes now).hasCaption ∧
    (field.sizes later).orientation = (field.sizes now).orientation ∧
    (field.symbology.height ≠ none → (field.sizes later).height = (field.sizes now).height) ∧
    (field.defaults ≠ none ∨ (∀ t ∈ e, t.barcodeDefaults? = none) → field.sizes later = field.sizes now) ∧
    (field.defaults = none → field.sizes later =
      field.sizes { barcodeDefaults := History.barcodeDefaults (({} : Builder).accepted (s ++ e)) }) := by
  intro now later
  have kept : later.items[k]? = some i := by
    obtain ⟨more, hmore⟩ := items_steps (({} : Builder).steps s) e
    rw [← steps_append] at hmore
    obtain ⟨hk, -⟩ := List.getElem?_eq_some_iff.mp here
    rw [← hmore, List.getElem?_append_left hk, here]
  refine ⟨kept, barcode_madeAt here barcode, rfl, rfl, fun own => ?_, ?_, fun _ => sizes_steps field (s ++ e)⟩
  · obtain ⟨height, hheight⟩ := Option.ne_none_iff_exists'.mp own
    simp only [BarcodeField.sizes, hheight, Option.getD_some]
  · rintro (snapshot | none)
    · obtain ⟨defaults, hdefaults⟩ := Option.ne_none_iff_exists'.mp snapshot
      simp only [BarcodeField.sizes, hdefaults, Option.some_or]
    · have same : History.barcodeDefaults (({} : Builder).accepted (s ++ e)) =
          History.barcodeDefaults (({} : Builder).accepted s) := by
        rw [accepted_append]
        exact History.barcodeDefaults_append_of_none (fun t ht => none t (accepted_subset _ e ht)) _
      rw [sizes_steps, sizes_steps, same]

/-- Two barcodes, of which only the second was made with defaults, before defaults of another width. -/
theorem sizes_after_defaults :
    let s : List Step := [⟨.ean13, []⟩, ⟨.fieldData, ['7']⟩, ⟨.barcodeDefaults, ['4']⟩, ⟨.ean13, []⟩,
      ⟨.fieldData, ['7']⟩]
    let e : List Step := [⟨.barcodeDefaults, ['5']⟩]
    let symbology : Symbology := .ean13 {}
    let now := (({} : Builder).steps s).label
    let later := (({} : Builder).steps (s ++ e)).label
    let first : BarcodeField := ⟨['7'], symbology, none, none⟩
    let second : BarcodeField := ⟨['7'], symbology, some { moduleWidth := 4 }, none⟩
    (first.sizes now).moduleWidth = 4 ∧ (first.sizes later).moduleWidth = 5 ∧
      (first.sizes later).orientation = (first.sizes now).orientation ∧ second.sizes later = second.sizes now := by
  intro s e symbology now later first second
  have one := sizes_after s e 0 ⟨0, 0, false, .barcode first⟩ first rfl rfl
  have two := sizes_after s e 1 ⟨0, 0, false, .barcode second⟩ second rfl rfl
  refine ⟨rfl, ?_, one.2.2.2.1, two.2.2.2.2.2.1 (.inl (by simp [second]))⟩
  rw [one.2.2.2.2.2.2 rfl]
  rfl

/-- Defaults that come after a barcode change its width if there were none before. -/
theorem later_defaults_count :
    let s : List Step := [⟨.ean13, []⟩, ⟨.fieldData, ['7']⟩]
    let e : List Step := [⟨.barcodeDefaults, ['5']⟩]
    ∃ i field, (({} : Builder).steps s).label.items = [i] ∧ i.content = .barcode field ∧
      (field.sizes (({} : Builder).steps s).label).moduleWidth = 2 ∧
      (field.sizes (({} : Builder).steps (s ++ e)).label).moduleWidth = 5 :=
  ⟨_, _, rfl, rfl, rfl, rfl⟩

end Builder

end LabelPreview
