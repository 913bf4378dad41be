import LabelPreview.Format.Basic

/-! # Templates

A format may be wrapped as `label NAME(variables) { ... }`. The variables, and also the name, may be left
out; any other text is a format as it stands.
-/

namespace LabelPreview.Template

structure Wrapper where
  name : Option Text
  vars : Variables
  body : Text

def isNameChar (c : Char) : Bool := c.isAlphanum || c == '-' || c == '_'

/-- What follows the word `label` and at least one blank. -/
def afterKeyword (s : Text) : Option Text :=
  match Text.after? ['l', 'a', 'b', 'e', 'l'] s with
  | some (c :: rest) => if Text.isBlank c then some (rest.dropWhile Text.isBlank) else none
  | _ => none

/-- What follows an opening brace, with blanks in front of it or not. -/
def afterBrace (s : Text) : Option Text :=
  match s.dropWhile Text.isBlank with
  | '\x7b' :: rest => some rest
  | _ => none

/-- Cuts at the last closing parenthesis that an opening brace follows. -/
def cutParams : Text → Option (Text × Text)
  | [] => none
  | c :: rest =>
    match cutParams rest with
    | some (params, body) => some (c :: params, body)
    | none => if c = ')' then (afterBrace rest).map fun body => ([], body) else none

/-- The wrapper of a template, if the text is one. The last character closes it. -/
def wrapper? (s : Text) : Option Wrapper := do
  let inner ← Text.before? ['\x7d'] s
  let rest ← afterKeyword inner
  let name := rest.takeWhile isNameChar
  match rest.dropWhile isNameChar with
  | '(' :: params =>
    if name.isEmpty then none
    else
      let (params, body) ← cutParams params
      return ⟨some name, Variables.readDeclarations params, body⟩
  | rest =>
    let body ← afterBrace rest
    return ⟨if name.isEmpty then none else some name, [], body⟩

/-- A text as a template keeps it: trimmed, its blanks collapsed, and cut to the limit. -/
def normalize (limit : LengthLimit) (s : Text) : Text := limit.cut s.trim.collapseBlanks

/-- The format of a template or of a plain text. -/
def read (s : Text) (limit : LengthLimit := {}) : Format :=
  let text := normalize limit s
  match wrapper? text with
  | some w =>
    let format := Format.ofText w.body limit
    { format with name := w.name.getD format.name, vars := w.vars }
  | none => Format.ofText text limit

end LabelPreview.Template
