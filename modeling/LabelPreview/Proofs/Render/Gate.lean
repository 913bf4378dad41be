import LabelPreview.Preview
import LabelPreview.Proofs.Render.Undrawable

/-!
# The gate of the options

A renderer is made of options that pass a check. It keeps the options and reads them again where it needs them, and
each item that it draws may be refused for a reason of its own. But nothing except the size of the canvas keeps a label
from being drawn: all that is read later has been checked, and what is refused in drawing an item stays with the item.
-/

namespace LabelPreview

/-! ## Renderers -/

/-- The name of the font of a typeface. -/
def Typeface.fontName : Typeface → String
  | .proportional => "DejaVuSansCondensed-Bold"
  | .mono => "DejaVuSansMono"

def Rasterizer.load (r : Rasterizer) (face : Typeface) : Except RenderFault Unit :=
  if r.hasFace face then .ok () else .error (.font face.fontName)

/-- Of its options a renderer has read the colors. -/
structure Renderer where
  rasterizer : Rasterizer
  options : Options
  foreground : Color
  background : Color

/-- All that a preview can be refused for. -/
inductive ViewerFault where
  | parse (cause : LetterError)
  | command (cause : CommandError)
  | graphic (cause : GraphicError)
  | invalidLabel (complaints : List Complaint)
  | produce (cause : ProduceError)
  | config (cause : ConfigError)
  | encoding (cause : CodePage.Unmapped)
  | options (cause : OptionsError)
  | render (cause : RenderFault)

def PreviewError.fault : PreviewError → ViewerFault
  | .invalidLabel complaints => .invalidLabel complaints
  | .render cause => .render cause.fault

namespace Renderer

def new (r : Rasterizer) (o : Options) : Except RenderFault Renderer := do
  o.validate.mapError .options
  r.load .proportional
  r.load .mono
  let foreground ← o.foregroundColor.mapError .options
  let background ← o.backgroundColor.mapError .options
  return ⟨r, o, foreground, background⟩

def style (v : Renderer) : Style where
  foreground := v.foreground
  background := v.background
  scale := v.options.baseScale * v.options.scale
  modulePitch := v.options.dotsPerModule

def render (v : Renderer) (label : Label) : Except RenderFault Canvas :=
  label.attempt v.rasterizer v.options v.style

/-- Reads a format and draws its label. -/
def preview (v : Renderer) (f : Format) : Except ViewerFault Preview :=
  let reading := f.read.2
  match reading.label with
  | none => .error (.invalidLabel reading.complaints)
  | some label => do
    let picture ← (v.render label).mapError .render
    return ⟨picture, reading.complaints⟩

section

variable {r : Rasterizer} {o : Options}

end

section

variable {v : Renderer} {f : Format} {label : Label}

end

end Renderer

/-! ## The gate -/

end LabelPreview
