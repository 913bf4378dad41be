import LabelPreview.Text.Basic

/-! # Commands in a stream

A command starts with a control character, a letter and a letter, digit or `@`. Its parameters run to the
next control character. Anything else is passed over.
-/

namespace LabelPreview

structure Token where
  command : Text
  params : Text
  deriving DecidableEq, Repr

namespace Token

def isControl (c : Char) : Bool := c == '^' || c == '~'

def isPlain (c : Char) : Bool := !isControl c

def isNameTail (c : Char) : Bool := c.isUpper || c.isDigit || c == '@'

/-- The command that the text starts with, and the text after its name. The font command takes one
letter: in `^A0N` the parameters begin at the font name `0`. -/
def readName : Text → Option (Text × Text)
  | mark :: first :: second :: rest =>
    if isControl mark && first.isUpper && isNameTail second then
      if mark = '^' ∧ first = 'A' ∧ second ≠ '@' then some ([mark, first], second :: rest)
      else some ([mark, first, second], rest)
    else none
  | _ => none

/-- What a name leaves over is shorter than the text. -/
theorem readName_length {s command rest : Text} (h : readName s = some (command, rest)) :
    rest.length < s.length := by
  unfold readName at h
  split at h
  · split at h
    · split at h <;> · cases h; simp only [List.length_cons]; omega
    · cases h
  · cases h

theorem dropWhile_length_le (p : Char → Bool) (s : Text) : (s.dropWhile p).length ≤ s.length := by
  induction s with
  | nil => simp
  | cons c s ih => rw [List.dropWhile_cons]; split <;> simp only [List.length_cons] <;> omega

/-- The commands of a stream, in order. -/
def scan (s : Text) : List Token :=
  match s with
  | [] => []
  | c :: rest =>
    match _h : readName (c :: rest) with
    | some (command, body) => ⟨command, body.takeWhile isPlain⟩ :: scan (body.dropWhile isPlain)
    | none => scan (rest.dropWhile isPlain)
termination_by s.length
decreasing_by
  · have := readName_length _h; have := dropWhile_length_le isPlain body; omega
  · have := dropWhile_length_le isPlain rest; simp only [List.length_cons]; omega

end Token

/-! ## Parameter fields -/

/-- Fields between commas, each trimmed. Blank parameters have no fields. -/
def fields (params : Text) : List Text :=
  let body := params.trim
  if body.isEmpty then [] else (body.splitOn ',').map Text.trim

/-- The field at an index, unless it is missing or blank. -/
def filled? (fields : List Text) (index : Nat) : Option Text :=
  fields[index]?.filter fun f => !f.isEmpty

end LabelPreview
