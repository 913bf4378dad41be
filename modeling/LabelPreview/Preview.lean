import LabelPreview.Format.Template
import LabelPreview.Render.Label

/-! # Previews

A format is read and its label is drawn. Complaints do not matter as long as there is something to draw.
-/

namespace LabelPreview

structure Preview where
  picture : Canvas
  complaints : List Complaint

inductive PreviewError where
  | invalidLabel (complaints : List Complaint)
  | render (cause : RenderError)
  deriving DecidableEq, Repr

def PreviewError.message : PreviewError → String
  | .invalidLabel complaints =>
    "Label has nothing to render: " ++ "; ".intercalate (complaints.map Complaint.message)
  | .render cause => cause.message

/-- Reads a format and draws its label. -/
def Setup.preview (s : Setup) (f : Format) : Except PreviewError Preview :=
  let reading := f.read.2
  match reading.label with
  | none => .error (.invalidLabel reading.complaints)
  | some label =>
    match s.draw label with
    | .ok picture => .ok ⟨picture, reading.complaints⟩
    | .error cause => .error (.render cause)

/-- Reads a format and draws its label with options. The options are checked first. -/
def Format.preview (f : Format) (o : Options := {}) : Except PreviewError Preview :=
  match Setup.ofOptions o with
  | .ok s => s.preview f
  | .error cause => .error (.render (.options cause))

end LabelPreview
