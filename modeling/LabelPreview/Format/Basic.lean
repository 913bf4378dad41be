import LabelPreview.Command.Token
import LabelPreview.Format.Variables
import LabelPreview.Label.Builder

/-! # Label formats

A format is the text of a label with the variables that may be filled into its data fields. Reading it gives a
label and the complaints met on the way.
-/

namespace LabelPreview

/-! ## Length limit -/

inductive ConfigError where
  | zeroMaxLength
  deriving DecidableEq, Repr

def ConfigError.message : ConfigError → String
  | .zeroMaxLength => "Maximum ZPL length must be a positive number"

/-- The number of characters kept of a format. -/
structure LengthLimit where
  size : Nat := 4096
  positive : 0 < size := by decide

namespace LengthLimit

def ofNat (n : Nat) : Except ConfigError LengthLimit :=
  if h : 0 < n then .ok ⟨n, h⟩ else .error .zeroMaxLength

def cut (limit : LengthLimit) (s : Text) : Text := s.take limit.size

end LengthLimit

/-! ## Complaints -/

/-- What is wrong with a format. -/
inductive Complaint where
  | missingStart
  | missingEnd
  | unknownCommand (command : Text)
  | rejected (command : Text) (cause : CommandError)
  | nothingPrintable
  deriving DecidableEq, Repr

def Complaint.message : Complaint → String
  | .missingStart => "Missing ^XA start command"
  | .missingEnd => "Missing ^XZ end command"
  | .unknownCommand command => "Invalid command: " ++ String.ofList command
  | .rejected command cause =>
    "Error processing command " ++ String.ofList command ++ ": " ++ cause.message
  | .nothingPrintable => "Label contains no printable items"

/-! ## Reading commands -/

namespace Builder

/-- Carries out one command of a stream, with its parameters trimmed. -/
def take (t : Token) : EStateM Complaint Builder Unit :=
  match CommandKind.ofCommand? t.command with
  | none => throw (.unknownCommand t.command)
  | some kind => (handle kind t.params.trim).adaptExcept (.rejected t.command)

/-- Carries out the commands of a stream one after the other, also after a complaint. -/
def run : Builder → List Token → Builder × List Complaint
  | b, [] => (b, [])
  | b, t :: rest =>
    match (take t).run b with
    | .ok _ next => run next rest
    | .error complaint next =>
      let (final, complaints) := run next rest
      (final, complaint :: complaints)

end Builder

/-! ## Formats -/

/-- The outcome of reading a format. There is a label only if there is something to print. -/
structure Reading where
  label : Option Label
  complaints : List Complaint
  vars : Variables

/-- A format without complaints is valid. -/
def Reading.isValid (r : Reading) : Bool := r.complaints.isEmpty

structure Format where
  source : Text
  name : Text := ['L', 'a', 'b', 'e', 'l']
  vars : Variables := []
  /-- Whether the format was read and found valid. -/
  accepted : Bool := false

inductive ProduceError where
  | invalidLabel
  deriving DecidableEq, Repr

def ProduceError.message : ProduceError → String
  | .invalidLabel => "Label is not valid"

namespace Format

/-- A text as a format keeps it: trimmed, with plain line feeds, and cut to the limit. -/
def normalize (limit : LengthLimit) (s : Text) : Text := limit.cut s.trim.unixLines

def ofText (s : Text) (limit : LengthLimit := {}) : Format where
  source := normalize limit s

/-- The text between the start and the end command. -/
def body (source : Text) : Except Complaint Text :=
  match Text.after? ['^', 'X', 'A'] source with
  | none => .error .missingStart
  | some rest =>
    match Text.before? ['^', 'X', 'Z'] rest with
    | none => .error .missingEnd
    | some body => .ok body

/-- The label and the complaints of a format text. -/
def readSource (source : Text) : Option Label × List Complaint :=
  match body source with
  | .error complaint => (none, [complaint])
  | .ok body =>
    let (final, complaints) := Builder.run {} (Token.scan body)
    if final.label.items.isEmpty then (none, complaints ++ [.nothingPrintable])
    else (some final.label, complaints)

/-- Reads the format and remembers whether it was valid. -/
def read (f : Format) : Format × Reading :=
  let (label, complaints) := readSource f.source
  let reading : Reading := ⟨label, complaints, f.vars⟩
  ({ f with accepted := reading.isValid }, reading)

/-! ## Substitution -/

/-- Changes the parameters of every data field. -/
def mapFieldData (change : Text → Text) (s : Text) : Text :=
  match s with
  | '^' :: 'F' :: 'D' :: rest =>
    '^' :: 'F' :: 'D' :: change (rest.takeWhile Token.isPlain) ++
      mapFieldData change (rest.dropWhile Token.isPlain)
  | c :: rest => c :: mapFieldData change rest
  | [] => []
termination_by s.length
decreasing_by
  · have := Token.dropWhile_length_le Token.isPlain rest
    simp only [List.length_cons]; omega
  · simp

/-- Writes the value of a variable for its name in all data fields. Without a value the name stays. -/
def fill (source : Text) (v : Variable) : Text :=
  if v.name.isEmpty || v.value.isEmpty then source
  else mapFieldData (Text.replaceAll v.name v.value) source

/-- Sets the value of a declared variable; says whether there is one of that name. -/
def assign (f : Format) (key value : Text) : Format × Bool :=
  ({ f with vars := f.vars.assign key value }, (f.vars.get? key).isSome)

/-- The format text with the values filled in, one variable after the other. -/
def produce (f : Format) : Except ProduceError Text :=
  if f.accepted then .ok ((f.vars.map Prod.snd).foldl fill f.source)
  else .error .invalidLabel

end Format

end LabelPreview
