import LabelPreview.Proofs.Builder.Data
import LabelPreview.Proofs.Format.Stream
import LabelPreview.Proofs.Format.Substitution

/-!
# Produced formats

The text that a format produces is read again, so it is trimmed, unwrapped and scanned anew. Values of plain
text come through as data of the fields, and the rest of the label is that of the format.
-/

namespace LabelPreview

/-! ## Commands with other data -/

namespace Token

def data? (t : Token) : Option Text := if t.command = ['^', 'F', 'D'] then some t.params else none

theorem ofCommand?_eq_fieldData {command : Text} (h : CommandKind.ofCommand? command = some .fieldData) :
    command = ['^', 'F', 'D'] := by
  obtain ⟨_, -, hkind⟩ := Option.map_eq_some_iff.mp h
  cases hl : CommandKind.handled.lookup command with
  | none => rw [hl] at hkind; cases hkind
  | some kind =>
    rw [hl, Option.getD_some] at hkind
    subst hkind
    have mem := CommandKind.mem_handled_of_lookup hl
    simpa [CommandKind.handled] using mem

theorem read_fieldData (params : Text) :
    read ⟨['^', 'F', 'D'], params⟩ = .ok (.fieldData params.trim) := rfl

theorem data?_directive? (t : Token) : t.directive?.bind Directive.data? = t.data?.map Text.trim := by
  obtain ⟨command, params⟩ := t
  by_cases hc : command = ['^', 'F', 'D']
  · subst hc
    rw [directive?, read_fieldData]
    rfl
  · rw [data?, if_neg hc, Option.map_none, directive?, read]
    cases hk : CommandKind.ofCommand? command with
    | none => rfl
    | some kind =>
      have ne : kind ≠ .fieldData := by
        rintro rfl
        exact hc (ofCommand?_eq_fieldData hk)
      cases hd : Directive.read kind params.trim with
      | error cause => simp [hd, Except.mapError, Except.toOption]
      | ok d => simp [hd, Except.mapError, Except.toOption, Directive.data?_of_read hd, ne]

theorem complaint?_changeData (change : Text → Text) (t : Token) :
    (changeData change t).complaint? = t.complaint? := by
  obtain ⟨command, params⟩ := t
  unfold changeData
  split_ifs with h
  · cases h; rfl
  · rfl

theorem blank_directive?_changeData (change : Text → Text) (t : Token) :
    (changeData change t).directive?.map Directive.blank = t.directive?.map Directive.blank := by
  obtain ⟨command, params⟩ := t
  unfold changeData
  split_ifs with h
  · cases h; rfl
  · rfl

theorem data?_changeData (change : Text → Text) (t : Token) :
    (changeData change t).data? = t.data?.map change := by
  unfold changeData
  split_ifs with h
  · simp [data?, h]
  · simp [data?, h]

end Token

/-! ## Filling in -/

namespace Format

open Token

/-- The data of a field with the value of a variable written for its name. -/
def fillData (data : Text) (v : Variable) : Text :=
  if v.name.isEmpty || v.value.isEmpty then data else Text.replaceAll v.name v.value data

theorem mem_fillData {data : Text} {v : Variable} {c : Char} (h : c ∈ fillData data v) :
    c ∈ v.value ∨ c ∈ data := by
  unfold fillData at h
  split_ifs at h
  · exact .inr h
  · exact Text.mem_replaceFrom h

theorem fill_eq (source : Text) (v : Variable) :
    fill source v = mapFieldData (fun data => fillData data v) source := by
  unfold fill fillData
  split_ifs
  · exact (mapFieldData_id source).symm
  · rfl

theorem keepsPlain_fillData {v : Variable} (h : ∀ c ∈ v.value, isPlain c = true) :
    KeepsPlain fun data => fillData data v := by
  intro data hdata c hc
  rcases mem_fillData hc with hc | hc
  · exact h c hc
  · exact hdata c hc

theorem mem_mapFieldData {change : Text → Text} {s : Text} {c : Char}
    (h : ∀ data, c ∈ change data → c ∈ data) (hc : c ∈ mapFieldData change s) : c ∈ s := by
  induction s using mapFieldData.induct with
  | case1 rest ih =>
    rw [mapFieldData] at hc
    simp only [List.cons_append, List.mem_cons, List.mem_append] at hc ⊢
    rcases hc with hc | hc | hc | hc | hc
    · exact .inl hc
    · exact .inr (.inl hc)
    · exact .inr (.inr (.inl hc))
    · exact .inr (.inr (.inr ((List.takeWhile_sublist _).subset (h _ hc))))
    · exact .inr (.inr (.inr ((List.dropWhile_sublist _).subset (ih hc))))
  | case2 d rest hd ih =>
    rw [mapFieldData.eq_2 change d rest hd] at hc
    rcases List.mem_cons.mp hc with rfl | hc
    · exact List.mem_cons_self
    · exact List.mem_cons_of_mem _ (ih hc)
  | case3 => rwa [mapFieldData] at hc

/-! ## All variables -/

theorem notMem_foldl_fill {c : Char} {vs : List Variable} {source : Text}
    (hvs : ∀ v ∈ vs, c ∉ v.value) (h : c ∉ source) : c ∉ vs.foldl fill source := by
  induction vs generalizing source with
  | nil => exact h
  | cons v vs ih =>
    refine ih (fun w hw => hvs w (List.mem_cons_of_mem _ hw)) fun hc => h ?_
    rw [fill_eq] at hc
    exact mem_mapFieldData (fun _ hdata => (mem_fillData hdata).resolve_left (hvs v List.mem_cons_self)) hc

theorem keepsPlain_foldl_fillData {vs : List Variable} (hvs : ∀ v ∈ vs, ∀ c ∈ v.value, isPlain c = true) :
    KeepsPlain fun data => vs.foldl fillData data := by
  induction vs with
  | nil => exact fun data hdata => hdata
  | cons v vs ih =>
    intro data hdata
    have first := keepsPlain_fillData (hvs v List.mem_cons_self) data hdata
    exact ih (fun w hw => hvs w (List.mem_cons_of_mem _ hw)) _ first

/-- The variables can be filled in field by field. -/
theorem foldl_fill_eq {vs : List Variable} (hvs : ∀ v ∈ vs, ∀ c ∈ v.value, isPlain c = true) (s : Text) :
    vs.foldl fill s = mapFieldData (fun data => vs.foldl fillData data) s := by
  induction vs generalizing s with
  | nil => exact (mapFieldData_id s).symm
  | cons v vs ih =>
    rw [List.foldl_cons, ih fun w hw => hvs w (List.mem_cons_of_mem _ hw), fill_eq,
      mapFieldData_mapFieldData (keepsPlain_fillData (hvs v List.mem_cons_self))]
    rfl

theorem scan_foldl_fill {vs : List Variable} (hvs : ∀ v ∈ vs, ∀ c ∈ v.value, isPlain c = true) (s : Text) :
    scan (vs.foldl fill s) = (scan s).map (changeData fun data => vs.foldl fillData data) := by
  rw [foldl_fill_eq hvs, scan_mapFieldData (keepsPlain_foldl_fillData hvs)]

theorem fill_wrapped (s : Text) (v : Variable) :
    fill (['^', 'X', 'A'] ++ s ++ ['^', 'X', 'Z']) v =
      ['^', 'X', 'A'] ++ fill s v ++ ['^', 'X', 'Z'] := by
  have front (more : Text) (change : Text → Text) :
      mapFieldData change ('^' :: 'X' :: 'A' :: more) = '^' :: 'X' :: 'A' :: mapFieldData change more := by
    simp [mapFieldData]
  have back (change : Text → Text) :
      mapFieldData change ['^', 'X', 'Z'] = ['^', 'X', 'Z'] := by
    simp [mapFieldData]
  simp only [fill_eq, List.cons_append, List.nil_append, front]
  rw [mapFieldData_append _ _ (stops_cons rfl), back]

theorem foldl_fill_wrapped (vs : List Variable) (s : Text) :
    vs.foldl fill (['^', 'X', 'A'] ++ s ++ ['^', 'X', 'Z']) =
      ['^', 'X', 'A'] ++ vs.foldl fill s ++ ['^', 'X', 'Z'] := by
  induction vs generalizing s with
  | nil => rfl
  | cons v vs ih => rw [List.foldl_cons, fill_wrapped, ih, List.foldl_cons]

/-! ## Reading the result -/

/-- The data of all fields of a format, as written. -/
def fieldData (source : Text) : List Text :=
  match body source with
  | .error _ => []
  | .ok s => (scan s).filterMap data?

theorem data_made (s : Text) : (made s).label.data = ((scan s).filterMap data?).map Text.trim := by
  rw [made, Builder.data_foldl, List.filterMap_filterMap, List.map_filterMap]
  have each : (fun t : Token => t.directive?.bind Directive.data?) = fun t => t.data?.map Text.trim :=
    funext data?_directive?
  rw [each]
  rfl

section

variable {s filled : Text} {change : Text → Text} (h : scan filled = (scan s).map (changeData change))

include h

theorem complaints_changeData : complaints filled = complaints s := by
  have each : complaint? ∘ changeData change = complaint? := funext (complaint?_changeData change)
  rw [complaints, complaints, h, List.filterMap_map, each]

theorem blank_made_changeData : (made filled).blank = (made s).blank := by
  have each : (fun t => ((directive? ∘ changeData change) t).map Directive.blank) =
      fun t => t.directive?.map Directive.blank := funext (blank_directive?_changeData change)
  rw [made, made, Builder.blank_foldl, Builder.blank_foldl, h, List.filterMap_map, List.map_filterMap,
    List.map_filterMap, each]

theorem data_made_changeData :
    (made filled).label.data = ((scan s).filterMap data?).map fun data => (change data).trim := by
  have each : data? ∘ changeData change = fun t => t.data?.map change := funext (data?_changeData change)
  rw [data_made, h, List.filterMap_map, each, ← List.map_filterMap, List.map_map]
  rfl

end

theorem normalize_wrapped (limit : LengthLimit) {s : Text}
    (hcr : '\r' ∉ ['^', 'X', 'A'] ++ s ++ ['^', 'X', 'Z'])
    (hlen : (['^', 'X', 'A'] ++ s ++ ['^', 'X', 'Z']).length ≤ limit.size) :
    normalize limit (['^', 'X', 'A'] ++ s ++ ['^', 'X', 'Z']) =
      ['^', 'X', 'A'] ++ s ++ ['^', 'X', 'Z'] := by
  have start : Text.isBlank '^' = false := by decide
  have finish : Text.isBlank 'Z' = false := by decide
  have trimmed : Text.trim (['^', 'X', 'A'] ++ s ++ ['^', 'X', 'Z']) =
      ['^', 'X', 'A'] ++ s ++ ['^', 'X', 'Z'] := by
    simp [Text.trim, Text.trimStart, Text.trimEnd, start, finish]
  rw [normalize, trimmed, Text.unixLines, Text.replaceAll_of_notMem hcr, LengthLimit.cut,
    List.take_of_length_le hlen]

theorem produce_of_valid {f : Format} {vars : Variables} (valid : f.read.2.isValid = true) :
    ({ f.read.1 with vars := vars } : Format).produce = .ok ((vars.map Prod.snd).foldl fill f.source) :=
  if_pos (show f.read.1.accepted = true from valid)

/-- Filled in with plain values and read again, a valid format gives its own label with the values in the data
of the fields, and nothing else in it is different. -/
theorem produce_keeps_structure (f : Format) (vars : Variables) (valid : f.read.2.isValid = true)
    (lines : '\r' ∉ f.source)
    (values : ∀ entry ∈ vars, ∀ c ∈ entry.2.value, c ≠ '^' ∧ c ≠ '~' ∧ c ≠ '\r') :
    ∃ text label, ({ f.read.1 with vars := vars } : Format).produce = .ok text ∧
      f.read.2.label = some label ∧
      (text.length ≤ 4096 → ∃ filled, (ofText text).read.2.isValid = true ∧
        (ofText text).read.2.label = some filled ∧ filled.blank = label.blank ∧
        label.data = (fieldData f.source).map Text.trim ∧
        filled.data = (fieldData f.source).map fun data =>
          ((vars.map Prod.snd).foldl fillData data).trim) := by
  obtain ⟨s, hbody, hcomplaints, hitems⟩ := isValid_read_iff.mp valid
  have source := body_eq_ok_iff.mp hbody
  have plain : ∀ v ∈ vars.map Prod.snd, ∀ c ∈ v.value, isPlain c = true := by
    intro v hv c hc
    obtain ⟨entry, hentry, rfl⟩ := List.mem_map.mp hv
    obtain ⟨caret, tilde, -⟩ := values entry hentry c hc
    simp [isPlain, isControl, caret, tilde]
  have unix : ∀ v ∈ vars.map Prod.snd, '\r' ∉ v.value := by
    intro v hv hc
    obtain ⟨entry, hentry, rfl⟩ := List.mem_map.mp hv
    exact (values entry hentry _ hc).2.2 rfl
  have produced : ({ f.read.1 with vars := vars } : Format).produce =
      .ok (['^', 'X', 'A'] ++ (vars.map Prod.snd).foldl fill s ++ ['^', 'X', 'Z']) := by
    rw [produce_of_valid valid, source, foldl_fill_wrapped]
  refine ⟨_, _, produced, label_read hbody hitems, fun hlen => ?_⟩
  have hcr : '\r' ∉ ['^', 'X', 'A'] ++ (vars.map Prod.snd).foldl fill s ++ ['^', 'X', 'Z'] := by
    rw [← foldl_fill_wrapped, ← source]
    exact notMem_foldl_fill unix lines
  have again := body_eq_ok_iff.mpr (normalize_wrapped {} hcr hlen)
  have scanned := scan_foldl_fill plain s
  have blank : (made ((vars.map Prod.snd).foldl fill s)).label.blank = (made s).label.blank :=
    congrArg Builder.label (blank_made_changeData scanned)
  have items : (made ((vars.map Prod.snd).foldl fill s)).label.items ≠ [] := by
    intro none
    have empty := congrArg Label.items blank
    simp only [Label.blank, none, List.map_nil] at empty
    exact hitems (List.map_eq_nil_iff.mp empty.symm)
  have fields : fieldData f.source = (scan s).filterMap data? := by rw [fieldData, hbody]
  refine ⟨_, isValid_read_iff.mpr ⟨_, again, ?_, items⟩, label_read again items, blank, ?_, ?_⟩
  · rw [complaints_changeData scanned, hcomplaints]
  · rw [fields, data_made]
  · rw [fields, data_made_changeData scanned]

theorem produce_keeps_structure_greeting :
    let f : Format := { source := "^XA^FDTo NAME^FS^XZ".toList }
    let vars : Variables := [("NAME".toList, ⟨"NAME".toList, .string, "Eve".toList⟩)]
    ∃ label filled, ({ f.read.1 with vars := vars } : Format).produce = .ok "^XA^FDTo Eve^FS^XZ".toList ∧
      f.read.2.label = some label ∧ (ofText "^XA^FDTo Eve^FS^XZ".toList).read.2.label = some filled ∧
      filled.blank = label.blank ∧ label.data = ["To NAME".toList] ∧ filled.data = ["To Eve".toList] := by
  intro f vars
  have valid : f.read.2.isValid = true :=
    isValid_read_iff.mpr ⟨"^FDTo NAME^FS".toList, rfl, by rw [complaints, scan_eq]; rfl,
      by rw [made, scan_eq]; exact List.cons_ne_nil _ _⟩
  have data : fieldData f.source = ["To NAME".toList] := by
    change ((scan "^FDTo NAME^FS".toList).filterMap data?) = _
    rw [scan_eq]
    rfl
  obtain ⟨text, label, produced, hlabel, again⟩ :=
    produce_keeps_structure f vars valid (by simp [f]) (by simp [vars])
  have greeting : ({ f.read.1 with vars := vars } : Format).produce =
      .ok "^XA^FDTo Eve^FS^XZ".toList := by
    rw [produce_of_valid valid]
    simp only [vars, List.map_cons, List.map_nil, List.foldl_cons, List.foldl_nil]
    rw [fill_eq, mapFieldData_eq]
    rfl
  obtain rfl : text = "^XA^FDTo Eve^FS^XZ".toList := Except.ok.inj (produced.symm.trans greeting)
  obtain ⟨filled, -, hfilled, blank, before, after⟩ := again (by decide)
  rw [data] at before after
  exact ⟨label, filled, greeting, hlabel, hfilled, blank, before, after⟩

end Format

end LabelPreview
