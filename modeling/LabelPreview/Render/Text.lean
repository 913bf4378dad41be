import LabelPreview.CodePage
import LabelPreview.Label.Basic
import LabelPreview.Options.Basic
import LabelPreview.Picture.Glyph

/-! # Drawing text

A text is drawn line by line. In a block the lines are indented and justified, and a line that is too wide is
pressed together until it fits.
-/

namespace LabelPreview

/-! ## Paragraphs -/

/-- Lines of one size, one below the other. -/
structure Paragraph where
  lines : List TextLine
  size : Rat
  block : Option TextBlock := none

namespace Paragraph

/-- From one line to the next: the size and a fifth of it, and the spacing of the block. -/
def lineAdvance (p : Paragraph) : Rat :=
  p.size * (6 / 5) + (p.block.map TextBlock.lineSpacing).getD 0

/-- Where a line of a width begins in a block, and how far it is pressed together. -/
def fitInBlock (block : TextBlock) (index : Nat) (width : Rat) : Rat × Rat :=
  let indent : Nat := if index = 0 then 0 else block.hangingIndent
  let available : Nat := block.width - indent
  if block.width = 0 ∨ width ≤ 0 then (indent, 1)
  else if available < width then (indent, available / width)
  else
    match block.justification with
    | .center => (indent + (available - width) / 2, 1)
    | .right => (indent + (available - width), 1)
    | .left | .justified => (indent, 1)

/-- Where a line begins, and how far it is pressed together. -/
def fit (p : Paragraph) (index : Nat) (line : TextLine) : Rat × Rat :=
  match p.block with
  | none => (0, 1)
  | some block => fitInBlock block index line.width

/-- Draws one line. An image that lies on the pixels of the canvas is copied. -/
def drawLine (p : Paragraph) (frame : Frame) (ink : Ink) (index : Nat) (line : TextLine)
    (c : Canvas) : Canvas :=
  let image := line.image
  if image.isSound then
    let (offset, compression) := p.fit index line
    let placement := (frame.shift offset (index * p.lineAdvance)).place compression 1
    if placement.isAligned then image.drawNearest placement ink c
    else image.drawSmooth placement ink c
  else c

/-- Draws the paragraph at the origin of a frame. -/
def draw (p : Paragraph) (frame : Frame) (ink : Ink) (c : Canvas) : Canvas :=
  p.lines.zipIdx.foldl (fun c (line, index) => p.drawLine frame ink index line c) c

end Paragraph

/-! ## Text fields -/

namespace TextField

/-- The height of text that names none, in dots. -/
def defaultSize : Nat := 20

/-- The size of the text, which is at most `limit`. -/
def size (t : TextField) (limit : Rat) : Rat :=
  lesser (t.font.height.getD defaultSize : Nat) limit

/-- A line ends at a line feed and at `\&`. -/
def splitLines : Text → List Text
  | [] => [[]]
  | '\n' :: rest => [] :: splitLines rest
  | '\\' :: '&' :: rest => [] :: splitLines rest
  | c :: rest =>
    match splitLines rest with
    | first :: others => (c :: first) :: others
    | [] => [[c]]

/-- A hyphen of the proportional font is a dash with spaces around it. -/
def airHyphens (face : Typeface) (s : Text) : Text :=
  match face with
  | .proportional => s.flatMap fun c => if c = '-' then [' ', '–', ' '] else [c]
  | .mono => s

/-- The data in lines; only a block has more than one. -/
def dataLines (t : TextField) : List Text :=
  match t.block with
  | some block => (splitLines t.data).take block.maxLines
  | none => [t.data]

def paragraph (t : TextField) (limit : Rat) : Paragraph :=
  let face := Typeface.ofName t.font.name
  let size := t.size limit
  { lines := t.dataLines.map fun data => ⟨face, size, airHyphens face (CodePage.shown t.hexEscape data)⟩
    size
    block := t.block }

/-- Draws a text with its upper left corner at the origin of a frame. -/
def draw (t : TextField) (limit : Rat) (frame : Frame) (ink : Ink) (c : Canvas) : Canvas :=
  (t.paragraph limit).draw (frame.turn t.font.orientation) ink c

end TextField

end LabelPreview
