import LabelPreview.Format.Template
import LabelPreview.Proofs.Command.Compact
import LabelPreview.Proofs.Format.Account

/-!
# The layout of a format

Blanks in front of a control character and at the ends of a text do not matter: the ends are trimmed, and so are the
parameters of a command. A format is read as its compact text is, however its runs of blanks were rewritten before.
-/

namespace LabelPreview

open Text

/-! ## Reading a compact text -/

theorem Token.read_trimmed (t : Token) : t.trimmed.read = t.read := by
  simp only [read, trimmed, trim_trimEnd]

namespace Format

open Token

theorem complaints_compact (s : Text) : complaints (compact s) = complaints s := by
  have each : complaint? ∘ trimmed = complaint? := by
    funext t
    simp only [Function.comp, complaint?, read_trimmed]
  rw [complaints, complaints, scan_compact, List.filterMap_map, each]

theorem made_compact (s : Text) : made (compact s) = made s := by
  have each : directive? ∘ trimmed = directive? := by
    funext t
    simp only [Function.comp, directive?, read_trimmed]
  rw [made, made, scan_compact, List.filterMap_map, each]

theorem compact_start (s : Text) :
    compact (['^', 'X', 'A'] ++ s) = ['^', 'X', 'A'] ++ compact s := by
  simp only [List.cons_append, List.nil_append]
  rw [compact_cons_solid rfl, compact_cons_solid rfl, compact_cons_solid rfl]

theorem compact_finish (s : Text) :
    compact (s ++ ['^', 'X', 'Z']) = compact s ++ ['^', 'X', 'Z'] := by
  rw [compact_append (stops_cons rfl)]
  rfl

theorem start_of_compact {s : Text} (trimmed : s.trimStart = s) (h : ['^', 'X', 'A'] <+: compact s) :
    ['^', 'X', 'A'] <+: s := by
  cases s with
  | nil => exact h
  | cons c s =>
    have solid := solid_of_trimStart trimmed
    rw [compact_cons_solid solid, List.cons_prefix_cons] at h
    obtain ⟨rfl, u, hu⟩ := h
    obtain ⟨s, rfl, hs⟩ := eq_cons_of_compact (by rfl) (by rfl) hu.symm
    obtain ⟨s, rfl, -⟩ := eq_cons_of_compact (by rfl) (by rfl) hs
    exact ⟨s, rfl⟩

theorem finish_of_compact {s : Text} (trimmed : s.trimEnd = s) (h : ['^', 'X', 'Z'] <:+ compact s) :
    ['^', 'X', 'Z'] <:+ s := by
  obtain ⟨m, hm⟩ := h
  -- the end command is the last piece, so the last piece of the text is the end command and blanks
  have last : pieces (m ++ ['^', 'X', 'Z']) = pieces m ++ [['^', 'X', 'Z']] := pieces_append (stops_cons rfl)
  rw [hm, pieces_compact, List.map_eq_append_iff] at last
  obtain ⟨ps, qs, hpieces, -, hlast⟩ := last
  obtain ⟨p, rfl, hp⟩ := List.map_eq_singleton_iff.mp hlast
  have whole : s = (s.takeWhile isPlain ++ ps.flatten) ++ p := by
    conv_lhs => rw [← flatten_pieces s, hpieces, List.flatten_append, List.flatten_singleton,
      ← List.append_assoc]
  obtain ⟨c, body, hc, -⟩ : IsPiece p := isPiece_of_mem (s := s) (by simp [hpieces])
  rw [whole, trimEnd_append_solid _ body (solid_of_isControl hc), List.append_cancel_left_eq,
    ← trimEnd_cons_solid (solid_of_isControl hc), hp] at trimmed
  rw [whole, ← trimmed]
  exact List.suffix_append _ _

/-- A trimmed text is read as its compact text is. -/
theorem readSource_compact {s : Text} (trimmed : s.trim = s) : readSource (compact s) = readSource s := by
  have front : s.trimStart = s := by rw [← trimmed, trimStart_trim]
  have back : s.trimEnd = s := by rw [← trimmed, trimEnd_trim]
  by_cases start : ['^', 'X', 'A'] <+: s
  · obtain ⟨r, rfl⟩ := start
    have rest : trimEnd r = r := by
      rw [show ['^', 'X', 'A'] ++ r = ['^', 'X'] ++ 'A' :: r from rfl,
        trimEnd_append_solid ['^', 'X'] r (by rfl)] at back
      simpa using back
    rw [compact_start]
    by_cases finish : ['^', 'X', 'Z'] <:+ r
    · obtain ⟨m, rfl⟩ := finish
      rw [compact_finish, ← List.append_assoc, ← List.append_assoc, readSource_eq (body_eq_ok_iff.mpr rfl),
        readSource_eq (body_eq_ok_iff.mpr rfl), made_compact, complaints_compact]
    · rw [readSource, readSource, body_eq_missingEnd finish,
        body_eq_missingEnd fun h => finish (finish_of_compact rest h)]
  · rw [readSource, readSource, body_eq_missingStart start,
      body_eq_missingStart fun h => start (start_of_compact front h)]

end Format

/-! ## Two ways to keep a text -/

namespace Format

open Token

variable {limit : LengthLimit} {t : Text}

theorem read_congr {f g : Format} (source : readSource f.source = readSource g.source) (vars : f.vars = g.vars) :
    f.read.2 = g.read.2 := by
  simp only [read, source, vars]

theorem readSource_rewrite {f : Text → Text} (hf : RewritesRuns f) (t : Text) :
    readSource (f (trim t)) = readSource (f (compact (trim t))) := by
  have trimmed : trim (f (trim t)) = f (trim t) := by rw [hf.trim, trim_trim]
  rw [← readSource_compact trimmed, compact_rewrite hf]

theorem source_ofText (fits : (unixLines (trim t)).length ≤ limit.size) :
    (ofText t limit).source = unixLines (trim t) :=
  List.take_of_length_le fits

theorem source_ofText_collapsed (fits : (collapseBlanks t).length ≤ limit.size) :
    (ofText (collapseBlanks t) limit).source = trim (collapseBlanks t) := by
  have lines : unixLines (trim (collapseBlanks t)) = trim (collapseBlanks t) := by
    rw [rewritesRuns_collapseBlanks.trim, unixLines_collapseBlanks]
  have shorter := (infix_trim (collapseBlanks t)).length_le
  rw [source_ofText (by rw [lines]; exact shorter.trans fits), lines]

end Format

namespace Template

theorem wrapper?_of_start {s : Text} (start : ['^', 'X', 'A'] <+: s) : wrapper? s = none := by
  obtain ⟨rest, rfl⟩ := start
  have none : ∀ inner, Text.before? ['\x7d'] (['^', 'X', 'A'] ++ rest) = some inner → afterKeyword inner = none := by
    intro inner h
    rw [before?_eq_some_iff] at h
    cases inner with
    | nil => simp at h
    | cons c inner =>
      obtain ⟨rfl, -⟩ := List.cons.inj h
      rfl
  unfold wrapper?
  cases h : Text.before? ['\x7d'] (['^', 'X', 'A'] ++ rest) with
  | none => rfl
  | some inner => simp [none inner h]

theorem read_of_start {s : Text} {limit : LengthLimit} (start : ['^', 'X', 'A'] <+: normalize limit s) :
    read s limit = Format.ofText (normalize limit s) limit := by
  rw [read, wrapper?_of_start start]

end Template

namespace Format

open Token

/-- A text and the same text with more blanks at its ends and in front of control characters read alike. A text
with a start command and single spaces elsewhere reads alike as a format and as a template. -/
theorem reading_ignores_layout (limit : LengthLimit) (t : Text) (short : t.trim.unixLines.length ≤ limit.size) :
    (∀ t', Respaced t t' → t'.trim.unixLines.length ≤ limit.size →
      (ofText t' limit).read.2 = (ofText t limit).read.2) ∧
    (['^', 'X', 'A'] <+: t.trim → SingleSpaced t →
      (Template.read t limit).read.2 = (ofText t limit).read.2) := by
  have lines (u : Text) (fits : u.trim.unixLines.length ≤ limit.size) :
      readSource (ofText u limit).source = readSource (unixLines (compact (trim u))) := by
    rw [source_ofText fits, readSource_rewrite rewritesRuns_unixLines]
  refine ⟨fun t' more short' => read_congr ?_ rfl, fun start spaced => ?_⟩
  · rw [lines t short, lines t' short', more.compact_trim]
  · have fits : (collapseBlanks (trim t)).length ≤ limit.size := (length_collapseBlanks_le _).trans short
    have text : Template.normalize limit t = collapseBlanks (trim t) := List.take_of_length_le fits
    have kept : ['^', 'X', 'A'] <+: Template.normalize limit t := by
      obtain ⟨rest, hrest⟩ := start
      rw [text, ← hrest, rewritesRuns_collapseBlanks.append_solid (by simp [isBlank])]
      exact List.prefix_append _ _
    have plain : readSource (ofText t limit).source = readSource (compact (trim t)) := by
      rw [lines t short, rewrite_compact_trim rewritesRuns_unixLines rfl spaced]
    have collapsed : readSource (ofText (collapseBlanks (trim t)) limit).source = readSource (compact (trim t)) := by
      rw [source_ofText_collapsed fits, rewritesRuns_collapseBlanks.trim, trim_trim,
        readSource_rewrite rewritesRuns_collapseBlanks,
        rewrite_compact_trim rewritesRuns_collapseBlanks rfl spaced]
    rw [Template.read_of_start kept, text]
    exact read_congr (collapsed.trans plain.symm) rfl

/-- Lines that are ended in both ways, a space in the data, and more blanks around. -/
theorem reading_ignores_layout_lines :
    let t := "^XA\n  ^FDa b\r\n^FS^XZ\n".toList
    let t' := "\t^XA\n  ^FDa b\r\n\n^FS ^XZ\n".toList
    (ofText t').read.2 = (ofText t).read.2 ∧ (Template.read t).read.2 = (ofText t).read.2 := by
  intro t t'
  have more : Respaced t t' := by
    have front : Respaced t ([] ++ "\t".toList ++ t) := .insert .refl (by decide) (.inl rfl)
    have inside : Respaced t ("\t^XA\n  ^FDa b\r\n".toList ++ "\n".toList ++ "^FS^XZ\n".toList) :=
      .insert front (by decide) (.inr (.inr ⟨'^', _, rfl, .inl rfl⟩))
    exact .insert (a := "\t^XA\n  ^FDa b\r\n\n^FS".toList) (w := " ".toList) (b := "^XZ\n".toList) inside
      (by decide) (.inr (.inr ⟨'^', _, rfl, .inl rfl⟩))
  have reading := reading_ignores_layout {} t (by decide)
  exact ⟨reading.1 t' more (by decide), reading.2 (by decide) (by decide +kernel)⟩

end Format

end LabelPreview
