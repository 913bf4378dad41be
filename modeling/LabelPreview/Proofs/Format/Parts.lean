import LabelPreview.Proofs.Format.Account
import LabelPreview.Proofs.Format.Produce

/-!
# Formats in parts

Whether a command is refused, and why, is told by the command alone. So the complaints about a stream are those
about its parts, wherever it is cut in front of a control character.
-/

namespace LabelPreview

/-! ## Two parts of a stream -/

namespace Token

theorem stops_of_control {s : Text} (h : s = [] ∨ ∃ c rest, s = c :: rest ∧ (c = '^' ∨ c = '~')) : Stops s := by
  obtain rfl | ⟨c, rest, rfl, hc⟩ := h
  · rfl
  · apply stops_cons
    obtain rfl | rfl := hc
    · rfl
    · rfl

theorem scan_append {a b : Text} (hb : Stops b) : scan (a ++ b) = scan a ++ scan b := by
  rw [scan_eq, scan_eq, scan_eq, pieces_append hb, List.filterMap_append]

theorem complaint?_names {t : Token} {complaint : Complaint} (h : t.complaint? = some complaint) :
    complaint = .unknownCommand t.command ∨ ∃ cause, complaint = .rejected t.command cause := by
  unfold complaint? at h
  rw [read_eq] at h
  split_ifs at h with known
  · right
    cases hr : Directive.read t.step.kind t.step.params with
    | ok d =>
      rw [hr] at h
      cases h
    | error cause =>
      rw [hr] at h
      cases h
      exact ⟨cause, rfl⟩
  · left
    cases h
    rfl

theorem head?_toList_append {c : Char} {s : String} (h : s.toList.head? = some c) (t : String) :
    (s ++ t).toList.head? = some c := by
  rw [String.toList_append, List.head?_append, h, Option.some_or]

theorem message_ne_nothing {t : Token} {complaint : Complaint} (h : t.complaint? = some complaint) :
    complaint.message ≠ "Label contains no printable items" := by
  intro same
  have first : complaint.message.toList.head? = some 'L' := by rw [same]; rfl
  obtain rfl | ⟨cause, rfl⟩ := complaint?_names h
  · have unknown : (Complaint.unknownCommand t.command).message.toList.head? = some 'I' :=
      @head?_toList_append 'I' "Invalid command: " (by decide) _
    rw [unknown] at first
    cases first
  · have front := @head?_toList_append 'E' "Error processing command " (by decide) (String.ofList t.command)
    have rejected : (Complaint.rejected t.command cause).message.toList.head? = some 'E' :=
      head?_toList_append (head?_toList_append front _) _
    rw [rejected] at first
    cases first

end Token

/-- What a reading complains about, but for having nothing to print. -/
def Reading.commandMessages (r : Reading) : List String :=
  r.messages.filter fun m => m ≠ "Label contains no printable items"

namespace Format

open Token

/-- A body between the start and the end command. -/
def wrapped (s : Text) : Text := ['^', 'X', 'A'] ++ s ++ ['^', 'X', 'Z']

theorem complaints_append {a b : Text} (hb : Stops b) : complaints (a ++ b) = complaints a ++ complaints b := by
  unfold complaints
  rw [scan_append hb, List.filterMap_append]

theorem commandMessages_of_body {f : Format} {s : Text} (h : body f.source = .ok s) :
    f.read.2.commandMessages = (complaints s).map Complaint.message := by
  have about : ∀ m ∈ (complaints s).map Complaint.message, m ≠ "Label contains no printable items" := by
    intro m hm
    obtain ⟨complaint, hc, rfl⟩ := List.mem_map.mp hm
    obtain ⟨t, -, ht⟩ := List.mem_filterMap.mp hc
    exact message_ne_nothing ht
  have kept : ((complaints s).map Complaint.message).filter (fun m => m ≠ "Label contains no printable items") =
      (complaints s).map Complaint.message := by
    apply List.filter_eq_self.mpr
    intro m hm
    exact decide_eq_true (about m hm)
  have last : Complaint.nothingPrintable.message = "Label contains no printable items" := rfl
  unfold Reading.commandMessages
  rw [messages_read h, Builder.complaints_course, List.filter_append, last]
  change ((complaints s).map Complaint.message).filter _ ++ _ = _
  rw [kept]
  split_ifs
  · simp
  · simp

theorem commandMessages_wrapped {limit : LengthLimit} {s : Text} (lines : '\r' ∉ s)
    (fits : (wrapped s).length ≤ limit.size) :
    (ofText (wrapped s) limit).read.2.commandMessages = (complaints s).map Complaint.message := by
  have lines' : '\r' ∉ wrapped s := by
    unfold wrapped
    simpa using lines
  apply commandMessages_of_body
  exact body_eq_ok_iff.mpr (normalize_wrapped limit lines' fits)

/-- A builder refuses a command as any other builder does, for the same reason. So the complaints about the commands
of a body are those about its front and those about the rest. -/
theorem complaints_without_context :
    (∀ (b c : Builder) (kind : CommandKind) (params : Text),
      (b.answer ⟨kind, params⟩).1 = (c.answer ⟨kind, params⟩).1) ∧
    (∀ (b c : Builder) (ss : List Step), b.answers ss = c.answers ss) ∧
    ∀ (limit : LengthLimit) (a b : Text), (b = [] ∨ ∃ c rest, b = c :: rest ∧ (c = '^' ∨ c = '~')) →
      '\r' ∉ a → '\r' ∉ b → (wrapped (a ++ b)).length ≤ limit.size →
      (ofText (wrapped (a ++ b)) limit).read.2.commandMessages =
        (ofText (wrapped a) limit).read.2.commandMessages ++
          (ofText (wrapped b) limit).read.2.commandMessages := by
  refine ⟨fun b c kind params => Builder.answer_anywhere b c ⟨kind, params⟩, Builder.answers_anywhere, ?_⟩
  intro limit a b parts linesA linesB fits
  have lines : '\r' ∉ a ++ b := by
    rw [List.mem_append]
    exact fun h => h.elim linesA linesB
  have whole : (wrapped (a ++ b)).length = a.length + b.length + 6 := by
    simp [wrapped]
    omega
  have fitsA : (wrapped a).length ≤ limit.size := by
    simp [wrapped]
    omega
  have fitsB : (wrapped b).length ≤ limit.size := by
    simp [wrapped]
    omega
  rw [commandMessages_wrapped lines fits, commandMessages_wrapped linesA fitsA, commandMessages_wrapped linesB fitsB,
    complaints_append (stops_of_control parts), List.map_append]

/-- A command outside the catalog behind plain text, and a box of no known color; neither part prints anything. -/
theorem complaints_without_context_box :
    (ofText (wrapped ("x^QQ1".toList ++ "^GB9,9,1,G".toList))).read.2.commandMessages =
      ["Invalid command: ^QQ", "Error processing command ^GB: Color must be B or W"] := by
  rw [complaints_without_context.2.2 {} "x^QQ1".toList "^GB9,9,1,G".toList (.inr ⟨'^', _, rfl, .inl rfl⟩) (by decide)
    (by decide) (by decide)]
  rw [commandMessages_wrapped (by decide) (by decide), commandMessages_wrapped (by decide) (by decide), complaints,
    complaints, scan_eq, scan_eq]
  rfl

end Format

end LabelPreview
