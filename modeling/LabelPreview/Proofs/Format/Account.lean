import LabelPreview.Proofs.Builder.Steps
import LabelPreview.Proofs.Command.Pieces
import LabelPreview.Proofs.Format.Stream

/-!
# The account of a format

Every command of a format is accounted for: it makes an item, it is complained about, or it has its effect on the
fields to come, and the reading shows items and complaints in the order of the commands.
-/

namespace LabelPreview

/-! ## Commands on a builder -/

namespace Token

/-- A command that the catalog has. -/
def known (t : Token) : Bool := (Catalog.find? t.command).isSome

/-- The step that a command of the catalog takes on a builder. -/
def step (t : Token) : Step := ⟨(CommandKind.handled.lookup t.command).getD .unsupported, t.params.trim⟩

theorem read_eq (t : Token) :
    t.read =
      if t.known then (Directive.read t.step.kind t.step.params).mapError (.rejected t.command)
      else .error (.unknownCommand t.command) := by
  rw [read, CommandKind.ofCommand?, known]
  cases Catalog.find? t.command <;> rfl

/-! ## Names of commands -/

theorem known_of_mem_handled {t : Token} {kind : CommandKind} (h : (t.command, kind) ∈ CommandKind.handled) :
    t.known = true := by
  have table : ∀ p ∈ CommandKind.handled, (Catalog.find? p.1).isSome = true := by decide
  exact table _ h

theorem step_kind_eq_iff {name : Text} {kind : CommandKind} (h : (name, kind) ∈ CommandKind.handled) (t : Token) :
    t.step.kind = kind ↔ t.command = name := by
  have names : ∀ p ∈ CommandKind.handled, ∀ q ∈ CommandKind.handled, p.2 = q.2 → p.1 = q.1 := by decide
  have kinds : ∀ p ∈ CommandKind.handled, p.2 ≠ .unsupported ∧ CommandKind.handled.lookup p.1 = some p.2 := by
    decide
  constructor
  · intro hkind
    cases hl : CommandKind.handled.lookup t.command with
    | none =>
      rw [step, hl] at hkind
      exact absurd hkind.symm (kinds _ h).1
    | some found =>
      rw [step, hl] at hkind
      exact names _ (CommandKind.mem_handled_of_lookup hl) _ h hkind
  · rintro rfl
    rw [step, (kinds _ h).2]
    rfl

end Token

namespace Builder

/-- The builder after a command of a stream. One that the catalog does not have leaves it as it is. -/
def follow (b : Builder) (t : Token) : Builder := if t.known then b.step t.step else b

/-- The commands of a stream, each with the builder that it finds. -/
def course : Builder → List Token → List (Builder × Token)
  | _, [] => []
  | b, t :: rest => (b, t) :: course (b.follow t) rest

/-- The complaint about a command, unless it is carried out. -/
def complaintText? (b : Builder) (t : Token) : Option String :=
  if t.known then
    match (b.answer t.step).1 with
    | .ok _ => none
    | .error cause =>
      some ("Error processing command " ++ String.ofList t.command ++ ": " ++ cause.message)
  else some ("Invalid command: " ++ String.ofList t.command)

/-- Data of a field makes an item in any case, a box or a bitmap unless it is refused. -/
def Prints (b : Builder) (t : Token) : Prop :=
  t.command = ['^', 'F', 'D'] ∨
    (t.command = ['^', 'G', 'B'] ∨ t.command = ['^', 'G', 'F']) ∧ (b.answer t.step).1 = .ok ()

/-- The item that a directive makes. -/
def itemOf? (b : Builder) : Directive → Option Item
  | .fieldData data => some (b.item (b.fieldContent data))
  | .box shape => some (b.item (.box shape))
  | .graphic bitmap => some (b.item (.graphic bitmap))
  | _ => none

/-- The item that a command of a stream makes. -/
def item? (b : Builder) (t : Token) : Option Item := t.directive?.bind b.itemOf?

/-! ## One command -/

theorem complaintText?_eq (b : Builder) (t : Token) :
    b.complaintText? t = t.complaint?.map Complaint.message := by
  rw [complaintText?, Token.complaint?, Token.read_eq, answer_eq]
  split_ifs
  · cases Directive.read t.step.kind t.step.params <;> rfl
  · rfl

theorem follow_eq (b : Builder) (t : Token) :
    b.follow t =
      match t.directive? with
      | some d => b.perform d
      | none => b := by
  rw [follow, Token.directive?, Token.read_eq, step, answer_eq]
  split_ifs
  · cases Directive.read t.step.kind t.step.params <;> rfl
  · rfl

theorem items_perform_eq (b : Builder) (d : Directive) :
    (b.perform d).label.items = b.label.items ++ (b.itemOf? d).toList := by
  cases d with
  | fieldData data => rfl
  | box shape => rfl
  | graphic bitmap => rfl
  | _ => exact (List.append_nil _).symm

theorem items_follow (b : Builder) (t : Token) :
    (b.follow t).label.items = b.label.items ++ (b.item? t).toList := by
  rw [follow_eq, item?]
  cases t.directive? with
  | none => exact (List.append_nil _).symm
  | some d => exact items_perform_eq b d

theorem answer_eq_ok_iff {b : Builder} {s : Step} :
    (b.answer s).1 = .ok () ↔ ∃ d, Directive.read s.kind s.params = .ok d := by
  rw [answer_eq]
  cases Directive.read s.kind s.params <;> simp

theorem isSome_itemOf?_of_read {kind : CommandKind} {params : Text} {d : Directive}
    (h : Directive.read kind params = .ok d) (b : Builder) :
    (b.itemOf? d).isSome ↔ kind = .fieldData ∨ kind = .graphicBox ∨ kind = .graphicField := by
  cases kind with
  | fieldData | fieldBlock | fieldReverse | fieldHex | fieldSeparator | comment => cases h; simp [itemOf?]
  | unsupported => cases h
  | fieldOrigin | fieldTypeset =>
    obtain ⟨_ | move, -, rfl⟩ := Directive.map_eq_ok h
    · simp [itemOf?, Directive.ofOrigin]
    · simp [itemOf?, Directive.ofOrigin]
  | _ =>
    obtain ⟨_, -, rfl⟩ := Directive.map_eq_ok h
    simp [itemOf?]

theorem isSome_item?_iff (b : Builder) (t : Token) :
    (b.item? t).isSome ↔ t.known ∧ (∃ d, Directive.read t.step.kind t.step.params = .ok d) ∧
      (t.step.kind = .fieldData ∨ t.step.kind = .graphicBox ∨ t.step.kind = .graphicField) := by
  rw [item?, Token.directive?, Token.read_eq]
  split_ifs with known
  · cases h : Directive.read t.step.kind t.step.params with
    | error cause => simp [Except.mapError, Except.toOption]
    | ok d => simpa [Except.mapError, Except.toOption, known] using isSome_itemOf?_of_read h b
  · simp [Except.toOption, known]

theorem prints_iff (b : Builder) (t : Token) : b.Prints t ↔ (b.item? t).isSome := by
  have data : (['^', 'F', 'D'], CommandKind.fieldData) ∈ CommandKind.handled := by decide
  have box : (['^', 'G', 'B'], CommandKind.graphicBox) ∈ CommandKind.handled := by decide
  have graphic : (['^', 'G', 'F'], CommandKind.graphicField) ∈ CommandKind.handled := by decide
  rw [isSome_item?_iff, Token.step_kind_eq_iff data, Token.step_kind_eq_iff box,
    Token.step_kind_eq_iff graphic, Prints, answer_eq_ok_iff]
  constructor
  · rintro (h | ⟨h, accepted⟩)
    · have kind := (Token.step_kind_eq_iff data t).mpr h
      exact ⟨Token.known_of_mem_handled (h ▸ data), ⟨_, by rw [kind]; rfl⟩, .inl h⟩
    · rcases h with h | h
      · exact ⟨Token.known_of_mem_handled (h ▸ box), accepted, .inr (.inl h)⟩
      · exact ⟨Token.known_of_mem_handled (h ▸ graphic), accepted, .inr (.inr h)⟩
  · rintro ⟨-, accepted, h | h⟩
    · exact .inl h
    · exact .inr ⟨h, accepted⟩

/-! ## A whole stream -/

theorem complaints_course (b : Builder) (ts : List Token) :
    ((b.course ts).filterMap fun e => e.1.complaintText? e.2) =
      (ts.filterMap Token.complaint?).map Complaint.message := by
  induction ts generalizing b with
  | nil => rfl
  | cons t ts ih =>
    have here := complaintText?_eq b t
    cases h : t.complaint? <;> simp [course, ih, here, h]

theorem items_course (b : Builder) (ts : List Token) :
    ((ts.filterMap Token.directive?).foldl perform b).label.items =
      b.label.items ++ (b.course ts).filterMap fun e => e.1.item? e.2 := by
  induction ts generalizing b with
  | nil => exact (List.append_nil _).symm
  | cons t ts ih =>
    -- a command that is refused leaves the builder to the next one as it was
    have next : ((t :: ts).filterMap Token.directive?).foldl perform b =
        (ts.filterMap Token.directive?).foldl perform (b.follow t) := by
      rw [follow_eq]
      cases h : t.directive? <;> simp [h]
    rw [next, ih, items_follow, course]
    cases h : b.item? t <;> simp [h]

theorem map_snd_course (b : Builder) (ts : List Token) : (b.course ts).map Prod.snd = ts := by
  induction ts generalizing b with
  | nil => rfl
  | cons t ts ih => rw [course, List.map_cons, ih]

end Builder

/-! ## The reading of a format -/

/-- What a reading complains about, as texts. -/
def Reading.messages (r : Reading) : List String := r.complaints.map Complaint.message

namespace Format

open Builder

theorem read_of_body_error {f : Format} {complaint : Complaint} (h : body f.source = .error complaint) :
    f.read.2.messages = [complaint.message] ∧ f.read.2.label = none := by
  have source : readSource f.source = (none, [complaint]) := by rw [readSource, h]
  simp only [read, Reading.messages, source]
  exact ⟨rfl, trivial⟩

theorem body_eq_missingStart {source : Text} (h : ¬['^', 'X', 'A'] <+: source) :
    body source = .error .missingStart := by
  rw [body]
  cases hs : Text.after? ['^', 'X', 'A'] source with
  | none => rfl
  | some rest => exact absurd ⟨rest, (Text.after?_eq_some_iff.mp hs).symm⟩ h

theorem body_eq_missingEnd {rest : Text} (h : ¬['^', 'X', 'Z'] <:+ rest) :
    body (['^', 'X', 'A'] ++ rest) = .error .missingEnd := by
  have hs : Text.after? ['^', 'X', 'A'] (['^', 'X', 'A'] ++ rest) = some rest :=
    Text.after?_eq_some_iff.mpr rfl
  rw [body, hs]
  cases he : Text.before? ['^', 'X', 'Z'] rest with
  | none => simp only [he]
  | some front => exact absurd ⟨front, (Text.before?_eq_some_iff.mp he).symm⟩ h

theorem made_items (s : Text) :
    (made s).label.items = (course {} (Token.scan s)).filterMap fun e => e.1.item? e.2 :=
  items_course {} (Token.scan s)

theorem made_items_ne_nil_iff (s : Text) :
    (made s).label.items ≠ [] ↔ ∃ e ∈ course {} (Token.scan s), e.1.Prints e.2 := by
  rw [made_items, ne_eq, List.filterMap_eq_nil_iff]
  simp only [prints_iff, Option.isSome_iff_ne_none, not_forall, exists_prop]

theorem messages_read {f : Format} {s : Text} (h : body f.source = .ok s) :
    f.read.2.messages = ((course {} (Token.scan s)).filterMap fun e => e.1.complaintText? e.2) ++
      if (made s).label.items = [] then [Complaint.nothingPrintable.message] else [] := by
  rw [complaints_course]
  simp only [read, Reading.messages]
  rw [readSource_eq h]
  split_ifs <;> simp_all [complaints]

theorem label_read_of_empty {f : Format} {s : Text} (h : body f.source = .ok s)
    (empty : (made s).label.items = []) : f.read.2.label = none := by
  simp only [read]
  rw [readSource_eq h, if_pos (by simp [empty])]

theorem isValid_iff_messages (r : Reading) : r.isValid = true ↔ r.messages = [] := by
  rw [Reading.isValid, List.isEmpty_iff, Reading.messages, List.map_eq_nil_iff]

theorem mem_handled_of_complaint? {t : Token} (h : t.complaint? = none) :
    t.command ∈ CommandKind.handled.map Prod.fst := by
  cases hl : CommandKind.handled.lookup t.command with
  | some kind => exact List.mem_map_of_mem (CommandKind.mem_handled_of_lookup hl)
  | none =>
    have refused : Directive.read t.step.kind t.step.params = .error .notImplemented := by
      rw [Token.step, hl]
      rfl
    rw [Token.complaint?, Token.read_eq, refused] at h
    split_ifs at h
    cases h

-- the nineteen commands that have an effect
example : CommandKind.handled.length = 19 := rfl

/-- Without its start or its end a format has that one complaint and no label. Otherwise the complaints are, in
order, those about its commands, and the items are those of the commands that print; if there is none, that is the
last complaint. A valid format has a label with items, and only commands that have an effect. -/
theorem read_accounts_for_commands (f : Format) :
    (¬['^', 'X', 'A'] <+: f.source →
      f.read.2.messages = ["Missing ^XA start command"] ∧ f.read.2.label = none) ∧
    (∀ rest, f.source = ['^', 'X', 'A'] ++ rest → ¬['^', 'X', 'Z'] <:+ rest →
      f.read.2.messages = ["Missing ^XZ end command"] ∧ f.read.2.label = none) ∧
    (∀ s, f.source = ['^', 'X', 'A'] ++ s ++ ['^', 'X', 'Z'] →
      let commands := course {} (Token.scan s)
      let complaints := commands.filterMap fun e => e.1.complaintText? e.2
      commands.map Prod.snd = Token.scan s ∧
      ((∃ e ∈ commands, e.1.Prints e.2) → f.read.2.messages = complaints ∧
        ∃ label, f.read.2.label = some label ∧ label.items = commands.filterMap fun e => e.1.item? e.2) ∧
      ((∀ e ∈ commands, ¬e.1.Prints e.2) →
        f.read.2.messages = complaints ++ ["Label contains no printable items"] ∧ f.read.2.label = none) ∧
      ∀ e ∈ commands, (e.1.follow e.2).label.items = e.1.label.items ++ (e.1.item? e.2).toList ∧
        ((e.1.item? e.2).isSome ↔ e.1.Prints e.2)) ∧
    (f.read.2.isValid = true ↔ f.read.2.messages = []) ∧
    (f.read.2.isValid = true → ∃ s label, f.source = ['^', 'X', 'A'] ++ s ++ ['^', 'X', 'Z'] ∧
      f.read.2.label = some label ∧ label.items ≠ [] ∧
      ∀ t ∈ Token.scan s, t.command ∈ CommandKind.handled.map Prod.fst) := by
  refine ⟨fun noStart => ?_, fun rest start noEnd => ?_, fun s source => ?_, isValid_iff_messages _, fun valid => ?_⟩
  · exact read_of_body_error (body_eq_missingStart noStart)
  · exact read_of_body_error (start ▸ body_eq_missingEnd noEnd)
  · have wrapped := body_eq_ok_iff.mpr source
    refine ⟨map_snd_course _ _, fun prints => ?_, fun none => ?_, fun e _ => ?_⟩
    · have items := (made_items_ne_nil_iff s).mpr prints
      refine ⟨?_, _, label_read wrapped items, made_items s⟩
      rw [messages_read wrapped, if_neg items, List.append_nil]
    · have empty : (made s).label.items = [] := by
        by_contra items
        obtain ⟨e, he, prints⟩ := (made_items_ne_nil_iff s).mp items
        exact none e he prints
      refine ⟨?_, label_read_of_empty wrapped empty⟩
      rw [messages_read wrapped, if_pos empty]
      rfl
    · exact ⟨items_follow e.1 e.2, (prints_iff e.1 e.2).symm⟩
  · obtain ⟨s, wrapped, fine, items⟩ := isValid_read_iff.mp valid
    refine ⟨s, _, body_eq_ok_iff.mp wrapped, label_read wrapped items, items, fun t ht => ?_⟩
    exact mem_handled_of_complaint? (List.filterMap_eq_nil_iff.mp fine t ht)

/-- A command outside the catalog, a refused box, a field and a box. -/
theorem read_accounts_for_refusals :
    let f : Format := { source := "^XA^QQ^GB9,9,1,G^FDa^GB9,9^XZ".toList }
    f.read.2.messages = ["Invalid command: ^QQ", "Error processing command ^GB: Color must be B or W"] ∧
      ∃ label, f.read.2.label = some label ∧ label.items.length = 2 := by
  intro f
  obtain ⟨-, prints, -, -⟩ := (read_accounts_for_commands f).2.2.1 "^QQ^GB9,9,1,G^FDa^GB9,9".toList rfl
  rw [Token.scan_eq] at prints
  obtain ⟨messages, label, hlabel, items⟩ := prints ⟨_, .tail _ (.tail _ (.head _)), .inl rfl⟩
  refine ⟨messages.trans ?_, label, hlabel, ?_⟩
  · rfl
  · rw [items]
    rfl

end Format

end LabelPreview
