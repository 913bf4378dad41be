import LabelPreview.Proofs.Format.Produce
import Mathlib.Data.List.Pairwise

/-!
# One pass over the data

A format fills in its variables one after the other, so a name that an earlier value brings in is filled in as well.
With names that share no characters this is still one pass over the data, with values that are filled in themselves.
-/

namespace LabelPreview.Format

open Text

/-! ## The pass -/

def nameAt (vs : List Variable) (s : Text) : Option Variable := vs.find? fun v => v.name.isPrefixOf s

/-- Writes the values for the names in one pass; `skip` characters of a name are still to be passed over. -/
def fillFrom (vs : List Variable) : (skip : Nat) → Text → Text
  | _, [] => []
  | skip + 1, _ :: rest => fillFrom vs skip rest
  | 0, c :: rest =>
    match nameAt vs (c :: rest) with
    | some v => v.value ++ fillFrom vs (v.name.length - 1) rest
    | none => c :: fillFrom vs 0 rest

def fillOnce (vs : List Variable) (s : Text) : Text := fillFrom vs 0 s

/-- There is no empty name, and no character is in two of the names. -/
structure Separate (names : List Text) : Prop where
  named : [] ∉ names
  disjoint : names.Pairwise fun a b => ∀ c ∈ a, c ∉ b

theorem Separate.perm {names names' : List Text} (sep : Separate names) (h : names.Perm names') :
    Separate names' where
  named := mt h.mem_iff.mpr sep.named
  disjoint := sep.disjoint.perm h fun apart c hb ha => apart c ha hb

theorem Separate.tail {name : Text} {names : List Text} (sep : Separate (name :: names)) : Separate names where
  named := fun h => sep.named (List.mem_cons_of_mem name h)
  disjoint := sep.disjoint.of_cons

theorem nameAt_eq_none_iff {vs : List Variable} {s : Text} : nameAt vs s = none ↔ ∀ v ∈ vs, ¬v.name <+: s := by
  simp [nameAt]

theorem nameAt_eq_some {vs : List Variable} {s : Text} {v : Variable} (h : nameAt vs s = some v) :
    v ∈ vs ∧ v.name <+: s := by
  have start := List.find?_some (show vs.find? _ = some v from h)
  exact ⟨List.mem_of_find?_eq_some h, List.isPrefixOf_iff_prefix.mp start⟩

theorem fillFrom_eq (vs : List Variable) (skip : Nat) (s : Text) : fillFrom vs skip s = fillOnce vs (s.drop skip) := by
  induction skip generalizing s with
  | zero => rfl
  | succ skip ih =>
    cases s with
    | nil => rfl
    | cons c s => rw [fillFrom, ih, List.drop_succ_cons]

theorem fillOnce_cons {vs : List Variable} {c : Char} {s : Text} (none : nameAt vs (c :: s) = none) :
    fillOnce vs (c :: s) = c :: fillOnce vs s := by
  rw [fillOnce, fillFrom, none, fillOnce]

theorem fillOnce_of_notInfix {vs : List Variable} {s : Text} (h : ∀ v ∈ vs, ¬v.name <:+: s) :
    fillOnce vs s = s := by
  induction s with
  | nil => rfl
  | cons c s ih =>
    rw [fillOnce_cons (nameAt_eq_none_iff.mpr fun v hv start => h v hv start.isInfix),
      ih fun v hv more => h v hv (more.trans (List.suffix_cons c s).isInfix)]

section

variable {vs : List Variable} (sep : Separate (vs.map Variable.name))

include sep

theorem name_ne_nil {v : Variable} (hv : v ∈ vs) : v.name ≠ [] :=
  fun h => sep.named (h ▸ List.mem_map_of_mem hv)

theorem fillOnce_append_name {v : Variable} {s : Text} (here : nameAt vs (v.name ++ s) = some v) :
    fillOnce vs (v.name ++ s) = v.value ++ fillOnce vs s := by
  have named := name_ne_nil sep (nameAt_eq_some here).1
  obtain ⟨c, name, hname⟩ := List.exists_cons_of_ne_nil named
  rw [hname, List.cons_append] at here ⊢
  rw [fillOnce, fillFrom, here]
  simp [fillFrom_eq, hname]

theorem nameAt_of_mem {v : Variable} {s : Text} (hv : v ∈ vs) (start : v.name <+: s) : nameAt vs s = some v := by
  cases found : nameAt vs s with
  | none => exact absurd start (nameAt_eq_none_iff.mp found v hv)
  | some w =>
    obtain ⟨hw, start'⟩ := nameAt_eq_some found
    obtain ⟨c, name, hname⟩ := List.exists_cons_of_ne_nil (name_ne_nil sep hv)
    obtain ⟨d, name', hname'⟩ := List.exists_cons_of_ne_nil (name_ne_nil sep hw)
    -- both names begin with the first character of the text
    obtain ⟨rest, rfl⟩ := start
    obtain ⟨rest', same⟩ := start'
    rw [hname, hname', List.cons_append, List.cons_append] at same
    obtain ⟨rfl, -⟩ := List.cons.inj same
    by_contra other
    have symm : Std.Symm fun v w : Variable => ∀ c ∈ v.name, c ∉ w.name := ⟨fun v w h c hw hv => h c hv hw⟩
    have apart := (List.pairwise_map.mp sep.disjoint).forall hv hw fun h => other (by rw [h])
    exact apart d (by simp [hname]) (by simp [hname'])

/-- A text is empty, or it starts with a name or with a character where there is no name. -/
theorem names_induction {P : Text → Prop} (nil : P [])
    (name : ∀ v s, v ∈ vs → nameAt vs (v.name ++ s) = some v → P s → P (v.name ++ s))
    (other : ∀ c s, nameAt vs (c :: s) = none → P s → P (c :: s)) (s : Text) : P s := by
  cases s with
  | nil => exact nil
  | cons c s =>
    cases h : nameAt vs (c :: s) with
    | none => exact other c s h (names_induction nil name other s)
    | some v =>
      obtain ⟨hv, rest, hrest⟩ := nameAt_eq_some h
      have shorter : rest.length < (c :: s).length := by
        have := List.length_pos_iff.mpr (name_ne_nil sep hv)
        rw [← hrest, List.length_append]
        omega
      rw [← hrest] at h ⊢
      exact name v rest hv h (names_induction nil name other rest)
  termination_by s.length
  decreasing_by
    · simp
    · exact shorter

theorem fillOnce_perm {ws : List Variable} (h : vs.Perm ws) (s : Text) : fillOnce vs s = fillOnce ws s := by
  have sep' : Separate (ws.map Variable.name) := sep.perm (h.map _)
  have same (s : Text) : nameAt ws s = nameAt vs s := by
    cases found : nameAt vs s with
    | none => exact nameAt_eq_none_iff.mpr fun v hv => nameAt_eq_none_iff.mp found v (h.mem_iff.mpr hv)
    | some v =>
      obtain ⟨hv, start⟩ := nameAt_eq_some found
      exact nameAt_of_mem sep' (h.mem_iff.mp hv) start
  induction s using names_induction sep with
  | nil => rfl
  | name v s hv here ih => rw [fillOnce_append_name sep here, fillOnce_append_name sep' ((same _).trans here), ih]
  | other c s none ih => rw [fillOnce_cons none, fillOnce_cons ((same _).trans none), ih]

end

/-! ## One variable before the others -/

/-- An occurrence of the name may lie partly in the value and partly in the text around it. -/
def Straddles (value name : Text) : Prop :=
  ∃ k < name.length, 0 < k ∧ (name.take k <:+ value ∨ name.drop k <+: value ∨ value <+: name.drop k)

instance (value name : Text) : Decidable (Straddles value name) :=
  inferInstanceAs (Decidable (∃ k < name.length, 0 < k ∧
    (name.take k <:+ value ∨ name.drop k <+: value ∨ value <+: name.drop k)))

section

variable {vs : List Variable} (sep : Separate (vs.map Variable.name))

include sep

theorem fillOnce_append {a : Text} (whole : ∀ v ∈ vs, ∀ k < v.name.length, 0 < k → ¬v.name.take k <:+ a) (b : Text) :
    fillOnce vs (a ++ b) = fillOnce vs a ++ fillOnce vs b := by
  induction a using names_induction sep with
  | nil => rfl
  | name w s hw here ih =>
    have here' : nameAt vs (w.name ++ (s ++ b)) = some w := nameAt_of_mem sep hw (List.prefix_append _ _)
    rw [fillOnce_append_name sep here, List.append_assoc, fillOnce_append_name sep here', ih, List.append_assoc]
    exact fun v hv k hk pos more => whole v hv k hk pos (more.trans (List.suffix_append _ _))
  | other c s none ih =>
    have none' : nameAt vs (c :: (s ++ b)) = .none := by
      rw [nameAt_eq_none_iff] at none ⊢
      intro v hv start
      have start' : c :: s <+: c :: (s ++ b) := List.prefix_append (c :: s) b
      obtain inside | ⟨more, hmore⟩ := List.prefix_or_prefix_of_prefix start start'
      · exact none v hv inside
      · cases more with
        | nil => exact none v hv ⟨[], by simpa using hmore.symm⟩
        | cons d more =>
          refine whole v hv (c :: s).length ?_ (Nat.succ_pos _) ?_
          · simp [← hmore]
          · simp [← hmore]
    rw [fillOnce_cons none, List.cons_append, fillOnce_cons none', ih]
    · rfl
    · exact fun v hv k hk pos more => whole v hv k hk pos (more.trans (List.suffix_cons c s))

end

theorem nameAt_cons_replaceAll {vs : List Variable} (sep : Separate (vs.map Variable.name)) {old new : Text}
    (named : old ≠ []) (whole : ∀ w ∈ vs, ¬Straddles new w.name) {c : Char} {s : Text}
    (none : nameAt vs (c :: s) = none) : nameAt vs (c :: replaceAll old new s) = .none := by
  rw [nameAt_eq_none_iff] at none ⊢
  intro w hw start
  obtain empty | ⟨name, hname, start⟩ := List.prefix_cons_iff.mp start
  · exact name_ne_nil sep hw empty
  · obtain before | ⟨k, hk, reach⟩ := prefix_of_prefix_replaceAll named start
    · exact none w hw (hname ▸ List.cons_prefix_cons.mpr ⟨rfl, before⟩)
    · apply whole w hw
      refine ⟨k + 1, by simp [hname, hk], Nat.succ_pos k, .inr ?_⟩
      rwa [hname, List.drop_succ_cons]

/-- To write one value for its name and then all others is to write them all in one pass, the one value filled in. -/
theorem fillOnce_replaceAll {v : Variable} {vs : List Variable} (sep : Separate ((v :: vs).map Variable.name))
    (whole : ∀ w ∈ vs, ¬Straddles v.value w.name) (s : Text) :
    fillOnce vs (replaceAll v.name v.value s) =
      fillOnce ({ v with value := fillOnce vs v.value } :: vs) s := by
  have later : Separate (vs.map Variable.name) := sep.tail
  have named : v.name ≠ [] := name_ne_nil sep List.mem_cons_self
  have apart : ∀ w ∈ vs, ∀ c ∈ v.name, c ∉ w.name := fun w hw =>
    (List.pairwise_cons.mp sep.disjoint).1 w.name (List.mem_map_of_mem hw)
  have sep' : Separate (({ v with value := fillOnce vs v.value } :: vs).map Variable.name) := sep
  induction s using names_induction sep' with
  | nil => rfl
  | name w s hw here ih =>
    rw [fillOnce_append_name sep' here, ← ih]
    rcases List.mem_cons.mp hw with rfl | hw
    · rw [replaceAll_append_old named, fillOnce_append later]
      exact fun w hw k hk pos front => whole w hw ⟨k, hk, pos, .inl front⟩
    · -- the name of another variable is passed over
      obtain ⟨c, name, hname⟩ := List.exists_cons_of_ne_nil named
      have passed : replaceAll v.name v.value (w.name ++ s) = w.name ++ replaceAll v.name v.value s := by
        rw [hname, replaceAll_append_of_notMem (apart w hw c (by simp [hname]))]
      rw [passed, fillOnce_append_name later (nameAt_of_mem later hw (List.prefix_append _ _))]
  | other c s none ih =>
    have free := nameAt_eq_none_iff.mp none
    have none' : nameAt vs (c :: s) = .none :=
      nameAt_eq_none_iff.mpr fun w hw => free w (List.mem_cons_of_mem _ hw)
    rw [replaceAll_cons (free { v with value := fillOnce vs v.value } List.mem_cons_self),
      fillOnce_cons (nameAt_cons_replaceAll later named whole none'), fillOnce_cons none, ih]

/-! ## All variables -/

/-- The variables with every value filled in for the variables behind it. -/
def settled : List Variable → List Variable
  | [] => []
  | v :: vs => { v with value := fillOnce (settled vs) v.value } :: settled vs

theorem map_name_settled (vs : List Variable) : (settled vs).map Variable.name = vs.map Variable.name := by
  induction vs with
  | nil => rfl
  | cons v vs ih => rw [settled, List.map_cons, List.map_cons, ih]

theorem settled_of_notInfix {vs : List Variable} (free : vs.Pairwise fun v w => ¬w.name <:+: v.value) :
    settled vs = vs := by
  induction vs with
  | nil => rfl
  | cons v vs ih =>
    obtain ⟨first, rest⟩ := List.pairwise_cons.mp free
    rw [settled, ih rest, fillOnce_of_notInfix first]

theorem foldl_fillData_eq {vs : List Variable} (sep : Separate (vs.map Variable.name))
    (valued : ∀ v ∈ vs, v.value ≠ []) (whole : vs.Pairwise fun v w => ¬Straddles v.value w.name) (data : Text) :
    vs.foldl fillData data = fillOnce (settled vs) data := by
  induction vs generalizing data with
  | nil => exact (fillOnce_of_notInfix (by simp [settled])).symm
  | cons v vs ih =>
    have named : v.name ≠ [] := name_ne_nil sep List.mem_cons_self
    have later : Separate (vs.map Variable.name) := sep.tail
    have step : fillData data v = replaceAll v.name v.value data := by
      simp [fillData, named, valued v List.mem_cons_self]
    obtain ⟨first, rest⟩ := List.pairwise_cons.mp whole
    rw [List.foldl_cons, ih later (fun w hw => valued w (List.mem_cons_of_mem v hw)) rest, step]
    apply fillOnce_replaceAll
    · rwa [List.map_cons, map_name_settled]
    · intro w hw
      have name : w.name ∈ vs.map Variable.name := map_name_settled vs ▸ List.mem_map_of_mem hw
      obtain ⟨w', hw', hname⟩ := List.mem_map.mp name
      exact hname ▸ first w' hw'

/-- The variables with a name and a value. -/
def active (vars : Variables) : List Variable :=
  (vars.map Prod.snd).filter fun v => !(v.name.isEmpty || v.value.isEmpty)

theorem foldl_fillData_active (vars : Variables) (data : Text) :
    (vars.map Prod.snd).foldl fillData data = (active vars).foldl fillData data := by
  rw [active, List.foldl_filter]
  congr 1
  funext data v
  unfold fillData
  cases v.name.isEmpty || v.value.isEmpty
  · rfl
  · rfl

theorem separate_active {vars : Variables}
    (disjoint : (vars.map Prod.snd).Pairwise fun v w => ∀ c ∈ v.name, c ∉ w.name) :
    Separate ((active vars).map Variable.name) where
  named := by
    intro h
    obtain ⟨v, hv, empty⟩ := List.mem_map.mp h
    have named := (List.mem_filter.mp hv).2
    rw [empty] at named
    cases named
  disjoint := List.pairwise_map.mpr (disjoint.filter _)

theorem value_ne_nil_of_active {vars : Variables} {v : Variable} (hv : v ∈ active vars) : v.value ≠ [] := by
  intro h
  have valued := (List.mem_filter.mp hv).2
  simp [h] at valued

/-! ## The format text -/

section

variable {f : Format} {vars : Variables} (valid : f.read.2.isValid = true)
  (values : ∀ entry ∈ vars, ∀ c ∈ entry.2.value, c ≠ '^' ∧ c ≠ '~')
  (disjoint : (vars.map Prod.snd).Pairwise fun v w => ∀ c ∈ v.name, c ∉ w.name)

include valid values disjoint

theorem produce_settled (whole : (active vars).Pairwise fun v w => ¬Straddles v.value w.name) :
    ({ f.read.1 with vars } : Format).produce = .ok (mapFieldData (fillOnce (settled (active vars))) f.source) := by
  have plain : ∀ v ∈ vars.map Prod.snd, ∀ c ∈ v.value, Token.isPlain c = true := by
    intro v hv c hc
    obtain ⟨entry, hentry, rfl⟩ := List.mem_map.mp hv
    obtain ⟨caret, tilde⟩ := values entry hentry c hc
    simp [Token.isPlain, Token.isControl, caret, tilde]
  have each : (fun data => (vars.map Prod.snd).foldl fillData data) = fillOnce (settled (active vars)) := by
    funext data
    rw [foldl_fillData_active,
      foldl_fillData_eq (separate_active disjoint) (fun v hv => value_ne_nil_of_active hv) whole]
  rw [produce_of_valid valid, foldl_fill_eq plain, each]

theorem produce_once (whole : (active vars).Pairwise fun v w => ¬Straddles v.value w.name)
    (final : (active vars).Pairwise fun v w => ¬w.name <:+: v.value) :
    ({ f.read.1 with vars } : Format).produce = .ok (mapFieldData (fillOnce (active vars)) f.source) := by
  rw [produce_settled valid values disjoint whole, settled_of_notInfix final]

end

/-- With names that share no characters the values are written in one pass over the data of each field, every value
filled in for the variables behind it, if no name can lie partly in a value. If no name of a later variable is in a
value either, the values are written as they are, and in any such order they give the same text. -/
theorem produce_in_one_pass (f : Format) (vars : Variables) (valid : f.read.2.isValid = true)
    (values : ∀ entry ∈ vars, ∀ c ∈ entry.2.value, c ≠ '^' ∧ c ≠ '~')
    (disjoint : (vars.map Prod.snd).Pairwise fun v w => ∀ c ∈ v.name, c ∉ w.name)
    (whole : (active vars).Pairwise fun v w => ¬Straddles v.value w.name) :
    ({ f.read.1 with vars } : Format).produce = .ok (mapFieldData (fillOnce (settled (active vars))) f.source) ∧
    ((active vars).Pairwise (fun v w => ¬w.name <:+: v.value) →
      ({ f.read.1 with vars } : Format).produce = .ok (mapFieldData (fillOnce (active vars)) f.source) ∧
      ∀ vars' : Variables, vars.Perm vars' → (active vars').Pairwise (fun v w => ¬Straddles v.value w.name) →
        (active vars').Pairwise (fun v w => ¬w.name <:+: v.value) →
        ({ f.read.1 with vars := vars' } : Format).produce = ({ f.read.1 with vars } : Format).produce) := by
  refine ⟨produce_settled valid values disjoint whole, fun final => ?_⟩
  have once := produce_once valid values disjoint whole final
  refine ⟨once, fun vars' perm whole' final' => ?_⟩
  have values' : ∀ entry ∈ vars', ∀ c ∈ entry.2.value, c ≠ '^' ∧ c ≠ '~' :=
    fun entry hentry => values entry (perm.mem_iff.mpr hentry)
  have disjoint' : (vars'.map Prod.snd).Pairwise fun v w => ∀ c ∈ v.name, c ∉ w.name :=
    disjoint.perm (perm.map _) fun apart c hw hv => apart c hv hw
  have same : fillOnce (active vars) = fillOnce (active vars') :=
    funext (fillOnce_perm (separate_active disjoint) ((perm.map Prod.snd).filter _))
  rw [produce_once valid values' disjoint' whole' final', once, same]

theorem produce_in_one_pass_pair :
    let f : Format := { source := "^XA^FDA to B^FS^XZ".toList }
    let setTo (a b : Text) : Variables := [(['A'], ⟨['A'], .string, a⟩), (['B'], ⟨['B'], .string, b⟩)]
    let nested := setTo "(B)".toList ['x']
    let plain := setTo ['1'] ['2']
    ({ f.read.1 with vars := nested } : Format).produce = .ok "^XA^FD(x) to x^FS^XZ".toList ∧
    ({ f.read.1 with vars := plain } : Format).produce = .ok "^XA^FD1 to 2^FS^XZ".toList ∧
    ({ f.read.1 with vars := plain.reverse } : Format).produce =
      ({ f.read.1 with vars := plain } : Format).produce := by
  intro f setTo nested plain
  have valid : f.read.2.isValid = true :=
    isValid_read_iff.mpr ⟨"^FDA to B^FS".toList, rfl, by rw [complaints, Token.scan_eq]; rfl,
      by rw [made, Token.scan_eq]; exact List.cons_ne_nil _ _⟩
  have first := (produce_in_one_pass f nested valid (by simp [nested, setTo]) (by simp [nested, setTo]) (by decide)).1
  obtain ⟨-, once⟩ := produce_in_one_pass f plain valid (by simp [plain, setTo]) (by simp [plain, setTo]) (by decide)
  obtain ⟨second, order⟩ := once (by decide)
  refine ⟨?_, ?_, order plain.reverse plain.reverse_perm.symm (by decide) (by decide)⟩
  · rw [first, mapFieldData_eq]
    rfl
  · rw [second, mapFieldData_eq]
    rfl

/-- A name in the value of an earlier variable is filled in, so the order of the variables counts. -/
theorem produce_fills_value :
    let f : Format := { source := "^XA^FDA^FS^XZ".toList }
    let vars : Variables := [(['A'], ⟨['A'], .string, ['B']⟩), (['B'], ⟨['B'], .string, ['x']⟩)]
    f.read.2.isValid = true ∧ (∀ entry ∈ vars, ∀ c ∈ entry.2.value, c ≠ '^' ∧ c ≠ '~') ∧
    ((vars.map Prod.snd).Pairwise fun v w => ∀ c ∈ v.name, c ∉ w.name) ∧
    ({ f.read.1 with vars } : Format).produce = .ok "^XA^FDx^FS^XZ".toList ∧
    ({ f.read.1 with vars := vars.reverse } : Format).produce = .ok "^XA^FDB^FS^XZ".toList ∧
    mapFieldData (fillOnce (active vars)) f.source = "^XA^FDB^FS^XZ".toList := by
  intro f vars
  have valid : f.read.2.isValid = true :=
    isValid_read_iff.mpr ⟨"^FDA^FS".toList, rfl, by rw [complaints, Token.scan_eq]; rfl,
      by rw [made, Token.scan_eq]; exact List.cons_ne_nil _ _⟩
  refine ⟨valid, by simp [vars], by simp [vars], ?_, ?_, ?_⟩
  · rw [produce_of_valid valid, foldl_fill_eq (by simp [vars, Token.isPlain, Token.isControl]), mapFieldData_eq]
    rfl
  · rw [produce_of_valid valid, foldl_fill_eq (by simp [vars, Token.isPlain, Token.isControl]), mapFieldData_eq]
    rfl
  · rw [mapFieldData_eq]
    rfl

end LabelPreview.Format
