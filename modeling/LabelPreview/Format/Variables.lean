import LabelPreview.Text.Basic

/-! # Template variables

Variables keep the order in which they were declared, which is the order of substitution.
-/

namespace LabelPreview

/-- What a variable is declared as. Values are texts in any case. -/
inductive VariableType where
  | string
  | number
  | boolean
  deriving DecidableEq, Repr

namespace VariableType

/-- Any other declaration is a string. -/
def read (declaration : Text) : VariableType :=
  let word := declaration.trim
  if word = ['n', 'u', 'm', 'b', 'e', 'r'] then .number
  else if word = ['b', 'o', 'o', 'l', 'e', 'a', 'n'] then .boolean
  else .string

def name : VariableType → String
  | .string => "string"
  | .number => "number"
  | .boolean => "boolean"

end VariableType

structure Variable where
  name : Text
  type : VariableType
  value : Text
  deriving DecidableEq, Repr

/-- Variables under their keys, each key once. -/
abbrev Variables := List (Text × Variable)

namespace Variables

def get? (key : Text) : Variables → Option Variable
  | [] => none
  | (k, v) :: rest => if k = key then some v else get? key rest

/-- A key that is there keeps its place; a new one goes to the end. -/
def insert (key : Text) (entry : Variable) : Variables → Variables
  | [] => [(key, entry)]
  | (k, v) :: rest =>
    if k = key then (k, entry) :: rest else (k, v) :: insert key entry rest

/-- Gives a variable another value; an unknown key has no effect. -/
def assign (key value : Text) : Variables → Variables
  | [] => []
  | (k, v) :: rest =>
    if k = key then (k, { v with value }) :: rest else (k, v) :: assign key value rest

/-- One declaration: a name, and a type behind a colon. -/
def readDeclaration (piece : Text) : Variable :=
  match piece.cutAt ':' with
  | some (name, type) => ⟨name.trim, VariableType.read type, []⟩
  | none => ⟨piece.trim, .string, []⟩

/-- The variables that a parameter list declares. A piece without a name declares nothing. -/
def readDeclarations (params : Text) : Variables :=
  (params.splitOn ',').foldl (fun known piece =>
    let v := readDeclaration piece
    if v.name.isEmpty then known else insert v.name v known) []

end Variables

end LabelPreview
