import LabelPreview.Proofs.Format.Keys
import LabelPreview.Proofs.Text.Blanks

/-!
# Declared variables

A parameter list declares a variable for each name in it, in the order in which the names come first. A name that comes
again keeps its place, and has the type that it is given last. Declarations that are written out are read back as they
are.
-/

namespace LabelPreview

open Text

/-! ## Types by their names -/

namespace VariableType

/-- The type of that name; string if there is none. -/
def named (word : Text) : VariableType :=
  ([.string, .number, .boolean].find? fun t => t.name.toList == word).getD .string

theorem named_name (t : VariableType) : named t.name.toList = t := by
  cases t <;> rfl

theorem named_of_other {word : Text} (other : ∀ t : VariableType, t.name.toList ≠ word) : named word = .string := by
  have none : ([.string, .number, .boolean].find? fun t : VariableType => t.name.toList == word) = none := by
    rw [List.find?_eq_none]
    intro t _
    simpa using other t
  rw [named, none]
  rfl

theorem read_eq_named (s : Text) : read s = named (trim s) := by
  unfold read
  generalize trim s = word
  by_cases known : ∃ t : VariableType, t.name.toList = word
  · obtain ⟨t, rfl⟩ := known
    cases t <;> rfl
  · have other : ∀ t : VariableType, t.name.toList ≠ word := fun t same => known ⟨t, same⟩
    rw [named_of_other other]
    exact (if_neg (Ne.symm (other .number))).trans (if_neg (Ne.symm (other .boolean)))

end VariableType

namespace Variables

/-! ## One piece -/

/-- The name that a piece declares stands in front of the first colon. -/
def declaredName (piece : Text) : Text := trim (piece.takeWhile (· != ':'))

/-- The type stands behind the first colon. -/
def declaredType (piece : Text) : VariableType := .named (trim ((piece.dropWhile (· != ':')).drop 1))

section Colon

variable {front : Text} (free : ':' ∉ front)

include free

theorem ne_colon_of_mem : ∀ c ∈ front, (c != ':') = true := by
  intro c hc
  rw [bne_iff_ne]
  rintro rfl
  exact free hc

theorem declaredName_append (rest : Text) : declaredName (front ++ ':' :: rest) = trim front := by
  unfold declaredName
  rw [List.takeWhile_append_of_pos (ne_colon_of_mem free)]
  simp

theorem declaredType_append (rest : Text) : declaredType (front ++ ':' :: rest) = .named (trim rest) := by
  unfold declaredType
  rw [List.dropWhile_append_of_pos (ne_colon_of_mem free)]
  simp

theorem declaredName_of_free : declaredName front = trim front := by
  unfold declaredName
  rw [List.takeWhile_eq_self_iff.mpr (ne_colon_of_mem free)]

theorem declaredType_of_free : declaredType front = .string := by
  unfold declaredType
  rw [List.dropWhile_eq_nil_iff.mpr (ne_colon_of_mem free)]
  rfl

end Colon

theorem readDeclaration_eq (piece : Text) :
    readDeclaration piece = ⟨declaredName piece, declaredType piece, []⟩ := by
  unfold readDeclaration
  cases piece using cuts_induction ':' with
  | whole piece free => rw [cutAt_of_notMem free, declaredName_of_free free, declaredType_of_free free]
  | cut front rest free =>
    rw [cutAt_append free, declaredName_append free, declaredType_append free]
    simp only [VariableType.read_eq_named]

/-- A variable without a value, under its own name. -/
def unset (name : Text) (type : VariableType) : Text × Variable := (name, ⟨name, type, []⟩)

theorem declare_eq (known : Variables) (piece : Text) :
    known.declare piece =
      if declaredName piece = [] then known
      else known.insert (declaredName piece) (unset (declaredName piece) (declaredType piece)).2 := by
  simp only [declare, readDeclaration_eq, List.isEmpty_iff, unset]

/-! ## Names and types of all pieces -/

/-- The names that the pieces declare. A piece without a name declares nothing. -/
def names (pieces : List Text) : List Text := (pieces.map declaredName).filter fun name => !name.isEmpty

/-- The type in the last of the pieces that declare the name. -/
def lastType (pieces : List Text) (name : Text) : VariableType :=
  ((pieces.filter fun piece => declaredName piece == name).getLast?.map declaredType).getD .string

theorem nil_notMem_names (pieces : List Text) : [] ∉ names pieces := by
  simp [names]

theorem names_snoc (pieces : List Text) (piece : Text) :
    names (pieces ++ [piece]) =
      if declaredName piece = [] then names pieces else names pieces ++ [declaredName piece] := by
  unfold names
  rw [List.map_append, List.filter_append]
  split_ifs with empty
  · simp [empty]
  · simp [empty]

theorem lastType_snoc (pieces : List Text) (piece name : Text) :
    lastType (pieces ++ [piece]) name =
      if name = declaredName piece then declaredType piece else lastType pieces name := by
  unfold lastType
  rw [List.filter_append]
  split_ifs with same
  · simp [same]
  · simp [Ne.symm same]

theorem eraseDups_snoc (ns : List Text) (name : Text) :
    (ns ++ [name]).eraseDups = if name ∈ ns then ns.eraseDups else ns.eraseDups ++ [name] := by
  rw [List.eraseDups_append]
  split_ifs with there
  · simp [List.removeAll, there]
  · have new : [name].removeAll ns = [name] := by simp [List.removeAll, there]
    rw [new]
    rfl

/-! ## What a list declares -/

def declared (pieces : List Text) (name : Text) : Text × Variable := unset name (lastType pieces name)

theorem keys_map_declared (pieces ns : List Text) : keys (ns.map (declared pieces)) = ns := by
  simp [keys, declared, unset, Function.comp_def]

theorem map_declared_snoc (pieces : List Text) (piece : Text) (ns : List Text) :
    ns.map (declared (pieces ++ [piece])) = (ns.map (declared pieces)).map fun e =>
      if e.1 = declaredName piece then unset (declaredName piece) (declaredType piece) else e := by
  rw [List.map_map]
  apply List.map_congr_left
  intro name _
  have key : (declared pieces name).1 = name := rfl
  simp only [Function.comp_apply, key]
  unfold declared
  rw [lastType_snoc]
  split_ifs with same
  · rw [same]
  · rfl

theorem declare_declared {pieces : List Text} (once : (keys ((names pieces).eraseDups.map (declared pieces))).Nodup)
    (piece : Text) :
    declare ((names pieces).eraseDups.map (declared pieces)) piece =
      (names (pieces ++ [piece])).eraseDups.map (declared (pieces ++ [piece])) := by
  have mem_keys (name : Text) : name ∈ keys ((names pieces).eraseDups.map (declared pieces)) ↔ name ∈ names pieces := by
    rw [keys_map_declared, List.mem_eraseDups]
  rw [declare_eq, names_snoc, map_declared_snoc]
  split_ifs with empty
  · -- no variable has the empty name, so nothing changes
    rw [map_of_notMem]
    rw [mem_keys, empty]
    exact nil_notMem_names pieces
  · rw [eraseDups_snoc]
    split_ifs with there
    · exact insert_of_mem once ((mem_keys _).mpr there) _
    · have new := mt (mem_keys _).mp there
      rw [List.map_append, List.map_append, map_of_notMem new, insert_of_notMem new]
      simp [declared, unset]

/-- The first piece with a name says where its variable stands, the last one of what type it is. -/
theorem ofPieces_eq (pieces : List Text) : ofPieces pieces = (names pieces).eraseDups.map (declared pieces) := by
  -- from the end, since a piece can only change what the pieces in front of it have declared
  induction pieces using List.reverseRecOn with
  | nil => rfl
  | append_singleton pieces piece ih =>
    have once := nodup_ofPieces pieces
    rw [ih] at once
    rw [ofPieces_snoc, ih, declare_declared once]

end Variables

/-! ## Declarations written out -/

/-- A name that can be declared, with a type. -/
structure Declaration where
  name : Text
  type : VariableType
  name_ne_nil : name ≠ []
  trim_name : trim name = name
  comma_notMem : ',' ∉ name
  colon_notMem : ':' ∉ name

namespace Declaration

def text (d : Declaration) : Text := d.name ++ ':' :: ' ' :: d.type.name.toList

theorem comma_notMem_text (d : Declaration) : ',' ∉ d.text := by
  have type : ',' ∉ d.type.name.toList := by cases d.type <;> decide
  simp [text, d.comma_notMem, type]

theorem declaredName_text (d : Declaration) : Variables.declaredName d.text = d.name := by
  rw [text, Variables.declaredName_append d.colon_notMem, d.trim_name]

theorem declaredType_text (d : Declaration) : Variables.declaredType d.text = d.type := by
  have space : trim (' ' :: d.type.name.toList) = d.type.name.toList := by cases d.type <;> rfl
  rw [text, Variables.declaredType_append d.colon_notMem, space, VariableType.named_name]

end Declaration

namespace Variables

theorem ofPieces_texts {ds : List Declaration} (once : (ds.map Declaration.name).Nodup) :
    ofPieces (ds.map Declaration.text) = ds.map fun d => unset d.name d.type := by
  induction ds using List.reverseRecOn with
  | nil => rfl
  | append_singleton ds d ih =>
    rw [List.map_append, List.map_singleton, List.nodup_append] at once
    obtain ⟨before, -, apart⟩ := once
    have new : d.name ∉ keys (ds.map fun d => unset d.name d.type) := by
      intro h
      simp only [keys, List.map_map, unset] at h
      exact apart d.name h d.name List.mem_cons_self rfl
    rw [List.map_append, List.map_singleton, ofPieces_snoc, ih before, declare_eq, d.declaredName_text,
      d.declaredType_text, if_neg d.name_ne_nil, insert_of_notMem new, List.map_append]
    rfl

theorem readDeclarations_texts {ds : List Declaration} (once : (ds.map Declaration.name).Nodup) :
    readDeclarations ([','].intercalate (ds.map Declaration.text)) = ds.map fun d => unset d.name d.type := by
  rcases eq_or_ne ds [] with rfl | some
  · rfl
  · have free : ∀ s ∈ ds.map Declaration.text, ',' ∉ s := by
      intro s hs
      obtain ⟨d, -, rfl⟩ := List.mem_map.mp hs
      exact d.comma_notMem_text
    rw [readDeclarations_eq, List.splitOn_intercalate ',' free (by simpa using some), ofPieces_texts once]

/-- A parameter list declares the names in front of the first colons of its pieces, each once and in the order in which
they come first, with the type in the last piece of that name and without a value. Declarations with different names
are read as they were written. -/
theorem readDeclarations_exact :
    (∀ params, readDeclarations params = (names (params.splitOn ',')).eraseDups.map fun name =>
      unset name (lastType (params.splitOn ',') name)) ∧
    ∀ ds : List Declaration, (ds.map Declaration.name).Nodup →
      readDeclarations ([','].intercalate (ds.map Declaration.text)) = ds.map fun d => unset d.name d.type :=
  ⟨fun params => ofPieces_eq (params.splitOn ','), fun _ => readDeclarations_texts⟩

/-- A name with a blank in it that comes again with an unknown type, a piece without a name, and a list as written. -/
theorem readDeclarations_exact_again :
    let ds : List Declaration := [⟨"b a".toList, .number, by decide, by decide, by decide, by decide⟩,
      ⟨['c'], .boolean, by decide, by decide, by decide, by decide⟩]
    readDeclarations "x y:number, :boolean,b,\tx y : boolean:2,b : number".toList =
        [unset "x y".toList .string, unset ['b'] .number] ∧
      (ds.map Declaration.name).Nodup ∧
      readDeclarations "b a: number,c: boolean".toList = [unset "b a".toList .number, unset ['c'] .boolean] := by
  intro ds
  have once : (ds.map Declaration.name).Nodup := by decide
  refine ⟨?_, once, readDeclarations_exact.2 ds once⟩
  rw [readDeclarations_exact.1]
  decide

end Variables

end LabelPreview
