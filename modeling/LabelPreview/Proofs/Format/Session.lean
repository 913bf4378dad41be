import LabelPreview.Format.Template
import LabelPreview.Proofs.Format.Keys
import LabelPreview.Proofs.Format.Produce
import Mathlib.Data.List.Induction

/-!
# Sessions

A format is read, given values and produced again and again, in any order. Its text and its name stay, every reading
says the same, and it can be produced as soon as a reading has found nothing to complain about.
-/

namespace LabelPreview

/-! ## Variables of a template -/

theorem Template.vars_of_wrapper {s : Text} {w : Wrapper} (h : wrapper? s = some w) :
    w.vars = [] ∨ ∃ params, w.vars = Variables.readDeclarations params := by
  unfold wrapper? at h
  simp only [Option.bind_eq_bind, Option.bind_eq_some_iff] at h
  obtain ⟨inner, -, rest, -, found⟩ := h
  split at found
  · split_ifs at found
    obtain ⟨⟨params, body⟩, -, last⟩ := Option.bind_eq_some_iff.mp found
    cases last
    exact .inr ⟨params, rfl⟩
  · obtain ⟨body, -, last⟩ := Option.bind_eq_some_iff.mp found
    cases last
    exact .inl rfl

namespace Format

/-! ## Operations -/

inductive Operation where
  | read
  | assign (key value : Text)
  /-- An entry goes among the variables, under its own name or any other key. -/
  | insert (key : Text) (entry : Variable)
  | produce

inductive Answer where
  | reading (r : Reading)
  | known (there : Bool)
  | inserted
  | produced (text : Except ProduceError Text)

def operate (f : Format) : Operation → Format × Answer
  | .read => (f.read.1, .reading f.read.2)
  | .assign key value => ((f.assign key value).1, .known (f.assign key value).2)
  | .insert key entry => ({ f with vars := f.vars.insert key entry }, .inserted)
  | .produce => (f, .produced f.produce)

def session (f : Format) (ops : List Operation) : Format := ops.foldl (fun g op => (g.operate op).1) f

theorem session_snoc (f : Format) (ops : List Operation) (op : Operation) :
    f.session (ops ++ [op]) = ((f.session ops).operate op).1 := List.foldl_append

/-! ## New formats -/

structure New (f : Format) : Prop where
  unread : f.accepted = false
  once : f.vars.keys.Nodup

theorem new_ofText (s : Text) (limit : LengthLimit) : (ofText s limit).New := ⟨rfl, List.nodup_nil⟩

theorem new_template (s : Text) (limit : LengthLimit) : (Template.read s limit).New := by
  unfold Template.read
  simp only
  split
  · rename_i w hw
    refine ⟨rfl, ?_⟩
    obtain h | ⟨params, h⟩ := Template.vars_of_wrapper hw
    · simp only [h]
      exact List.nodup_nil
    · simp only [h]
      exact Variables.nodup_readDeclarations params
  · exact new_ofText _ limit

/-! ## What a session keeps -/

/-- What `g` has of the new format `f` after some operations. -/
structure Keeps (f : Format) (ops : List Operation) (g : Format) : Prop where
  source : g.source = f.source
  name : g.name = f.name
  once : g.vars.keys.Nodup
  accepted : g.accepted = true ↔ .read ∈ ops ∧ f.read.2.isValid = true

theorem read_of_source {f g : Format} (h : g.source = f.source) : g.read.2 = { f.read.2 with vars := g.vars } := by
  simp only [read, h]

section

variable {f g : Format} {ops : List Operation}

theorem Keeps.snoc (h : Keeps f ops g) (op : Operation) : Keeps f (ops ++ [op]) (g.operate op).1 := by
  cases op with
  | read =>
    refine ⟨h.source, h.name, h.once, ?_⟩
    -- reading forgets what it said before, and says the same again
    have same : g.read.2.isValid = f.read.2.isValid := by
      rw [read_of_source h.source]
      rfl
    show g.read.2.isValid = true ↔ _
    simp [same]
  | assign key value =>
    refine ⟨h.source, h.name, ?_, ?_⟩
    · show (g.vars.assign key value).keys.Nodup
      rw [Variables.keys_assign]
      exact h.once
    · show g.accepted = true ↔ _
      simp [h.accepted]
  | insert key entry =>
    refine ⟨h.source, h.name, Variables.nodup_insert h.once key entry, ?_⟩
    show g.accepted = true ↔ _
    simp [h.accepted]
  | produce =>
    refine ⟨h.source, h.name, h.once, ?_⟩
    show g.accepted = true ↔ _
    simp [h.accepted]

theorem session_keeps (new : f.New) (ops : List Operation) : Keeps f ops (f.session ops) := by
  induction ops using List.reverseRecOn with
  | nil =>
    refine ⟨rfl, rfl, new.once, ?_⟩
    show f.accepted = true ↔ _
    simp [new.unread]
  | append_singleton ops op ih =>
    rw [session_snoc]
    exact ih.snoc op

end

/-! ## Producing -/

theorem produce_of_accepted {f : Format} (h : f.accepted = true) :
    f.produce = .ok ((f.vars.map Prod.snd).foldl fill f.source) := if_pos h

theorem produce_eq_error_iff {f : Format} {cause : ProduceError} :
    f.produce = .error cause ↔ ¬f.accepted = true := by
  unfold produce
  cases cause
  split_ifs with h
  · simp [h]
  · simp [h]

theorem fill_nothing {v : Variable} (h : v.name = [] ∨ v.value = []) (source : Text) : fill source v = source := by
  unfold fill
  obtain h | h := h
  · simp [h]
  · simp [h]

theorem foldl_fill_nothing {vs : List Variable} (h : ∀ v ∈ vs, v.name = [] ∨ v.value = []) (source : Text) :
    vs.foldl fill source = source := by
  induction vs generalizing source with
  | nil => rfl
  | cons v vs ih =>
    rw [List.foldl_cons, fill_nothing (h v List.mem_cons_self)]
    exact ih (fun w hw => h w (List.mem_cons_of_mem _ hw)) source

/-! ## Any session -/

/-- A format starts new. After any operations on it the next one answers by the text it has always had, by its
variables as they are now, and by whether it was ever read. -/
theorem session_answers :
    (∀ s limit, (ofText s limit).New ∧ (Template.read s limit).New) ∧
    ∀ f : Format, f.New → ∀ ops : List Operation,
      let g := f.session ops
      g.source = f.source ∧ g.name = f.name ∧ g.vars.keys.Nodup ∧
      (g.operate .read).2 = .reading { f.read.2 with vars := g.vars } ∧
      (∀ key value, ∃ there, (g.operate (.assign key value)).2 = .known there ∧
        (there = true ↔ key ∈ g.vars.keys) ∧
        (g.operate (.assign key value)).1 =
          { g with vars := g.vars.map fun e => if e.1 = key then (e.1, { e.2 with value }) else e }) ∧
      (g.produce = .error .invalidLabel ↔ .read ∉ ops ∨ f.read.2.isValid = false) ∧
      (.read ∈ ops → f.read.2.isValid = true → ∃ text, g.produce = .ok text) ∧
      ((∀ e ∈ g.vars, e.2.name = [] ∨ e.2.value = []) → ∀ text, g.produce = .ok text → text = f.source) := by
  refine ⟨fun s limit => ⟨new_ofText s limit, new_template s limit⟩, ?_⟩
  intro f new ops g
  have kept : Keeps f ops g := session_keeps new ops
  refine ⟨kept.source, kept.name, kept.once, ?_, ?_, ?_, ?_, ?_⟩
  · exact congrArg Answer.reading (read_of_source kept.source)
  · intro key value
    refine ⟨_, rfl, Variables.isSome_get?_iff key, ?_⟩
    show ({ g with vars := g.vars.assign key value } : Format) = _
    rw [Variables.assign_eq_map kept.once]
  · rw [produce_eq_error_iff, kept.accepted, not_and_or, Bool.not_eq_true]
  · intro hread valid
    exact ⟨_, produce_of_accepted (kept.accepted.mpr ⟨hread, valid⟩)⟩
  · intro nothing text produced
    have values : ∀ v ∈ g.vars.map Prod.snd, v.name = [] ∨ v.value = [] := by
      intro v hv
      obtain ⟨e, he, rfl⟩ := List.mem_map.mp hv
      exact nothing e he
    unfold produce at produced
    split_ifs at produced
    cases produced
    rw [foldl_fill_nothing values, kept.source]

theorem session_answers_greeting :
    let f : Format := { source := "^XA^FDTo NAME^FS^XZ".toList }
    let g := f.session [.produce, .insert "NAME".toList ⟨"NAME".toList, .string, []⟩, .read]
    f.New ∧ f.produce = .error .invalidLabel ∧ g.produce = .ok f.source ∧
      (g.operate (.assign "NAME".toList "Eve".toList)).2 = .known true ∧
      (g.operate (.assign "DATE".toList "Eve".toList)).2 = .known false := by
  intro f g
  have new : f.New := ⟨rfl, List.nodup_nil⟩
  have valid : f.read.2.isValid = true :=
    isValid_read_iff.mpr ⟨"^FDTo NAME^FS".toList, rfl, by rw [complaints, Token.scan_eq]; rfl,
      by rw [made, Token.scan_eq]; exact List.cons_ne_nil _ _⟩
  obtain ⟨-, -, -, -, -, refused, -⟩ := session_answers.2 f new []
  obtain ⟨-, -, -, -, assigned, -, produced, same⟩ := session_answers.2 f new
    [.produce, .insert "NAME".toList ⟨"NAME".toList, .string, []⟩, .read]
  obtain ⟨text, htext⟩ := produced (by simp) valid
  have unchanged := same (by simp [session, operate, read, Variables.insert, f]) text htext
  refine ⟨new, refused.mpr (.inl List.not_mem_nil), unchanged ▸ htext, ?_, ?_⟩
  · rfl
  · rfl

end Format

end LabelPreview
