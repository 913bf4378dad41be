import LabelPreview.Proofs.Builder.Directive

/-!
# Field data

The data of fields has no influence on anything else: a run that is blanked, all data taken out, is the run of
the blanked directives. What data the fields get is told by the directives alone.
-/

namespace LabelPreview

/-! ## Without data -/

def Content.blank : Content → Content
  | .text field => .text { field with data := [] }
  | .barcode field => .barcode { field with data := [] }
  | .box shape => .box shape
  | .graphic bitmap => .graphic bitmap

def Item.blank (i : Item) : Item := { i with content := i.content.blank }

/-- All of a label but the data of its fields. -/
def Label.blank (l : Label) : Label := { l with items := l.items.map Item.blank }

def Builder.blank (b : Builder) : Builder := { b with label := b.label.blank }

def Directive.blank : Directive → Directive
  | .fieldData _ => .fieldData []
  | d => d

/-! ## Data alone -/

def Item.data? (i : Item) : Option Text :=
  match i.content with
  | .text field => some field.data
  | .barcode field => some field.data
  | .box _ | .graphic _ => none

def Label.data (l : Label) : List Text := l.items.filterMap Item.data?

def Directive.data? : Directive → Option Text
  | .fieldData data => some data
  | _ => none

theorem Directive.data?_of_read {kind : CommandKind} {params : Text} {d : Directive}
    (h : Directive.read kind params = .ok d) :
    d.data? = if kind = .fieldData then some params else none := by
  cases kind with
  | fieldData | fieldBlock | fieldReverse | fieldHex | fieldSeparator | comment => cases h; rfl
  | unsupported => cases h
  | fieldOrigin | fieldTypeset =>
    obtain ⟨_ | move, -, rfl⟩ := map_eq_ok h
    · rfl
    · rfl
  | _ =>
    obtain ⟨_, -, rfl⟩ := map_eq_ok h
    rfl

namespace Builder

theorem blank_withItem (b : Builder) (content : Content) :
    (b.withItem content).blank = b.blank.withItem content.blank := by
  simp [blank, withItem, Label.blank, item, Item.blank, position]

theorem blank_fieldContent (b : Builder) (data : Text) :
    (b.fieldContent data).blank = b.blank.fieldContent [] := by
  rcases b with ⟨label, cursor, fieldFont, block, reverse, hexEscape, _ | symbology⟩ <;> rfl

theorem blank_perform (b : Builder) (d : Directive) :
    (b.perform d).blank = b.blank.perform d.blank := by
  cases d with
  | fieldData data =>
    have made := blank_withItem b (b.fieldContent data)
    rw [blank_fieldContent] at made
    exact congrArg (fun b : Builder => { b with hexEscape := none, barcode := none }) made
  | box shape => exact blank_withItem b (.box shape)
  | graphic bitmap => exact blank_withItem b (.graphic bitmap)
  | _ => rfl

theorem blank_foldl (ds : List Directive) (b : Builder) :
    (ds.foldl perform b).blank = (ds.map Directive.blank).foldl perform b.blank := by
  induction ds generalizing b with
  | nil => rfl
  | cons d ds ih => rw [List.foldl_cons, ih, blank_perform, List.map_cons, List.foldl_cons]

theorem data_withItem (b : Builder) (content : Content) :
    (b.withItem content).label.data = b.label.data ++ (b.item content).data?.toList := by
  simp only [Label.data, withItem, List.filterMap_append]
  cases h : (b.item content).data? <;> simp [h]

theorem data_item (b : Builder) (data : Text) : (b.item (b.fieldContent data)).data? = some data := by
  rcases b with ⟨label, cursor, fieldFont, block, reverse, hexEscape, _ | symbology⟩ <;> rfl

theorem data_perform (b : Builder) (d : Directive) :
    (b.perform d).label.data = b.label.data ++ d.data?.toList := by
  cases d with
  | fieldData data =>
    have made := data_withItem b (b.fieldContent data)
    rwa [data_item] at made
  | box shape => exact data_withItem b (.box shape)
  | graphic bitmap => exact data_withItem b (.graphic bitmap)
  | _ => exact (List.append_nil _).symm

theorem data_foldl (ds : List Directive) (b : Builder) :
    (ds.foldl perform b).label.data = b.label.data ++ ds.filterMap Directive.data? := by
  induction ds generalizing b with
  | nil => simp
  | cons d ds ih =>
    rw [List.foldl_cons, ih, data_perform, List.append_assoc]
    cases h : d.data? <;> simp [h]

end Builder

end LabelPreview
