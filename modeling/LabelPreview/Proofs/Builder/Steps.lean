import LabelPreview.Proofs.Builder.Directive

/-!
# Runs of a builder

A run is a list of steps on one builder, refused steps included. A refused step changes nothing, so a run comes
to the same as the run of its accepted steps.
-/

namespace LabelPreview

structure Step where
  kind : CommandKind
  params : Text

namespace Builder

/-! ## Runs -/

/-- What the builder answers to a step, and the builder then. -/
def answer (b : Builder) (s : Step) : Except CommandError Unit × Builder :=
  match (handle s.kind s.params).run b with
  | .ok _ next => (.ok (), next)
  | .error cause next => (.error cause, next)

def step (b : Builder) (s : Step) : Builder := (b.answer s).2

def steps (b : Builder) (ss : List Step) : Builder := ss.foldl step b

def answers : Builder → List Step → List (Except CommandError Unit)
  | _, [] => []
  | b, s :: rest => (b.answer s).1 :: answers (b.step s) rest

/-- The steps of a run that are not refused. -/
def accepted : Builder → List Step → List Step
  | _, [] => []
  | b, s :: rest =>
    match (b.answer s).1 with
    | .ok _ => s :: accepted (b.step s) rest
    | .error _ => accepted (b.step s) rest

/-! ## One step -/

theorem answer_eq (b : Builder) (s : Step) :
    b.answer s =
      match Directive.read s.kind s.params with
      | .ok d => (.ok (), b.perform d)
      | .error cause => (.error cause, b) := by
  rw [answer, run_handle]
  cases Directive.read s.kind s.params <;> rfl

theorem answer_of_read {s : Step} {d : Directive} (h : Directive.read s.kind s.params = .ok d)
    (b : Builder) : b.answer s = (.ok (), b.perform d) := by
  rw [answer_eq, h]

theorem answer_of_refused {s : Step} {cause : CommandError}
    (h : Directive.read s.kind s.params = .error cause) (b : Builder) :
    b.answer s = (.error cause, b) := by
  rw [answer_eq, h]

/-- Whether a step is refused, and why, is told by the step alone. -/
theorem answer_anywhere (b c : Builder) (s : Step) : (b.answer s).1 = (c.answer s).1 := by
  rw [answer_eq, answer_eq]
  cases Directive.read s.kind s.params with
  | ok d => rfl
  | error cause => rfl

theorem step_of_read {s : Step} {d : Directive} (h : Directive.read s.kind s.params = .ok d)
    (b : Builder) : b.step s = b.perform d := by
  rw [step, answer_of_read h]

theorem step_of_refused {s : Step} {cause : CommandError}
    (h : Directive.read s.kind s.params = .error cause) (b : Builder) : b.step s = b := by
  rw [step, answer_of_refused h]

theorem step_induction {P : Builder → Prop} {b : Builder} (s : Step) (hb : P b)
    (hd : ∀ d, Directive.read s.kind s.params = .ok d → P (b.perform d)) : P (b.step s) := by
  cases h : Directive.read s.kind s.params with
  | ok d => rw [step_of_read h]; exact hd d h
  | error cause => rw [step_of_refused h]; exact hb

/-! ## Whole runs -/

@[simp]
theorem steps_cons (b : Builder) (s : Step) (ss : List Step) :
    b.steps (s :: ss) = (b.step s).steps ss := rfl

theorem steps_append (b : Builder) (ss more : List Step) :
    b.steps (ss ++ more) = (b.steps ss).steps more := List.foldl_append

theorem steps_snoc (b : Builder) (ss : List Step) (s : Step) :
    b.steps (ss ++ [s]) = (b.steps ss).step s := steps_append b ss [s]

theorem answers_anywhere (b c : Builder) (ss : List Step) : b.answers ss = c.answers ss := by
  induction ss generalizing b c with
  | nil => rfl
  | cons s ss ih => rw [answers, answers, answer_anywhere b c, ih (b.step s) (c.step s)]

theorem accepted_cons_of_read {s : Step} {d : Directive}
    (h : Directive.read s.kind s.params = .ok d) (b : Builder) (ss : List Step) :
    b.accepted (s :: ss) = s :: (b.step s).accepted ss := by
  rw [accepted, answer_of_read h]

theorem accepted_cons_of_refused {s : Step} {cause : CommandError}
    (h : Directive.read s.kind s.params = .error cause) (b : Builder) (ss : List Step) :
    b.accepted (s :: ss) = b.accepted ss := by
  rw [accepted, answer_of_refused h, step_of_refused h]

theorem accepted_append (b : Builder) (ss more : List Step) :
    b.accepted (ss ++ more) = b.accepted ss ++ (b.steps ss).accepted more := by
  induction ss generalizing b with
  | nil => rfl
  | cons s ss ih =>
    rw [List.cons_append]
    cases h : Directive.read s.kind s.params with
    | ok d =>
      rw [accepted_cons_of_read h, accepted_cons_of_read h, ih, steps_cons, List.cons_append]
    | error cause =>
      rw [accepted_cons_of_refused h, accepted_cons_of_refused h, ih, steps_cons, step_of_refused h]

theorem steps_accepted (b : Builder) (ss : List Step) : b.steps (b.accepted ss) = b.steps ss := by
  induction ss generalizing b with
  | nil => rfl
  | cons s ss ih =>
    cases h : Directive.read s.kind s.params with
    | ok d => rw [accepted_cons_of_read h, steps_cons, steps_cons, ih]
    | error cause => rw [accepted_cons_of_refused h, ih, steps_cons, step_of_refused h]

theorem answers_accepted (b : Builder) (ss : List Step) :
    ∀ r ∈ b.answers (b.accepted ss), r = .ok () := by
  induction ss generalizing b with
  | nil => simp [accepted, answers]
  | cons s ss ih =>
    cases h : Directive.read s.kind s.params with
    | ok d =>
      intro r hr
      rw [accepted_cons_of_read h, answers, answer_of_read h] at hr
      rcases List.mem_cons.mp hr with rfl | hr
      · rfl
      · exact ih _ r hr
    | error cause =>
      rw [accepted_cons_of_refused h]
      exact ih b

theorem run_handle_refused {kind : CommandKind} {params : Text} {b left : Builder}
    {cause : CommandError} (h : (handle kind params).run b = .error cause left) : left = b := by
  rw [run_handle] at h
  cases hr : Directive.read kind params with
  | ok d => rw [hr] at h; cases h
  | error e => rw [hr] at h; cases h; rfl

/-- A refused command leaves the whole builder as it was. So a run ends where the run of its accepted steps
ends, and no step of that run is refused. -/
theorem refused_steps_leave_no_trace :
    (∀ (b left : Builder) (kind : CommandKind) (params : Text) (cause : CommandError),
      (handle kind params).run b = .error cause left → left = b) ∧
    ∀ (b : Builder) (ss : List Step),
      b.steps (b.accepted ss) = b.steps ss ∧ ∀ r ∈ b.answers (b.accepted ss), r = .ok () :=
  ⟨fun _ _ _ _ _ h => run_handle_refused h,
    fun b ss => ⟨steps_accepted b ss, answers_accepted b ss⟩⟩

/-- A box of no known color keeps reverse video for the next item. -/
theorem refused_box_keeps_reverse :
    ∃ left, (handle .graphicBox ['9', ',', '9', ',', '1', ',', 'G']).run { reverse := true } =
      .error (.letter .color) left ∧ left.reverse = true := by
  refine ⟨_, rfl, ?_⟩
  rw [refused_steps_leave_no_trace.1 { reverse := true } _ .graphicBox
    ['9', ',', '9', ',', '1', ',', 'G'] (.letter .color) rfl]

end Builder

end LabelPreview
