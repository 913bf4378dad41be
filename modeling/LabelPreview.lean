import LabelPreview.Options.Json
import LabelPreview.Picture.Png
import LabelPreview.Preview
import LabelPreview.Proofs.Builder.Directive
import LabelPreview.Proofs.Builder.Range
import LabelPreview.Proofs.Builder.Data
import LabelPreview.Proofs.Builder.History
import LabelPreview.Proofs.Command.Fields
import LabelPreview.Proofs.Command.Pieces
import LabelPreview.Proofs.Format.Stream
import LabelPreview.Proofs.Format.Substitution
import LabelPreview.Proofs.Format.Produce
import LabelPreview.Proofs.Command.Spelling
import LabelPreview.Proofs.Format.Account
import LabelPreview.Proofs.Graphic.Base64
import LabelPreview.Proofs.Graphic.HexRows
import LabelPreview.Proofs.Graphic.Inflate
import LabelPreview.Proofs.Graphic.Stored
import LabelPreview.Proofs.Text.Laws
import LabelPreview.Proofs.Graphic.Field
import LabelPreview.Proofs.Text.Blanks
import LabelPreview.Proofs.Format.Layout
import LabelPreview.Proofs.Format.Wrapper
import LabelPreview.Proofs.Format.OnePass
import LabelPreview.Proofs.Builder.Sizes
import LabelPreview.Proofs.Builder.Modifiers
import LabelPreview.Proofs.Format.Kept
import LabelPreview.Proofs.Format.Keys
import LabelPreview.Proofs.Format.Declarations
import LabelPreview.Proofs.Format.Parts
import LabelPreview.Proofs.Format.Session
import LabelPreview.Proofs.Graphic.Sizes
import LabelPreview.Proofs.Builder.Numbers
import LabelPreview.Proofs.Graphic.Blanks
import LabelPreview.Proofs.Graphic.FirstRows
import LabelPreview.Proofs.Render.CodePage
import LabelPreview.Proofs.Render.Size
import LabelPreview.Proofs.Symbol.Area
import LabelPreview.Proofs.Options.Valid
import LabelPreview.Proofs.Render.Attempt
import LabelPreview.Proofs.Render.Sound
import LabelPreview.Proofs.Render.Undrawable
import LabelPreview.Proofs.Render.Gate
import LabelPreview.Proofs.Builder.Home
import LabelPreview.Proofs.Render.Escapes
import LabelPreview.Proofs.Symbol.FunctionCharacter
import LabelPreview.Proofs.Symbol.Ean13
import LabelPreview.Proofs.Format.Normal
import LabelPreview.Proofs.Options.Colors
import LabelPreview.Proofs.Symbol.Code39
import LabelPreview.Proofs.Builder.Settings
import LabelPreview.Proofs.Builder.Omitted
import LabelPreview.Proofs.Picture.Paint
import LabelPreview.Proofs.Render.Layers
