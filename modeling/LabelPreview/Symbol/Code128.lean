import LabelPreview.Symbol.Bars
import LabelPreview.Text.Basic

/-! # Code 128

Six bars and spaces to a code. Three code sets give the codes their meaning: A has control characters and
capitals, B has all printable characters, and C has pairs of digits. Function characters are written as letters
that the code sets do not have.
-/

namespace LabelPreview.Code128

/-! ## Function characters -/

def fnc1 : Char := 'ñ'

def fnc2 : Char := 'ò'

def fnc3 : Char := 'ó'

def fnc4 : Char := 'ô'

def isFunction (c : Char) : Bool := c == fnc1 || c == fnc2 || c == fnc3 || c == fnc4

/-! ## Code sets -/

inductive CodeSet where
  | a
  | b
  | c
  deriving DecidableEq, Repr

namespace CodeSet

/-- The code that begins a symbol in the set. -/
def start : CodeSet → Nat
  | .a => 103
  | .b => 104
  | .c => 105

/-- The code that changes to the set. -/
def change : CodeSet → Nat
  | .a => 101
  | .b => 100
  | .c => 99

end CodeSet

/-- What a text begins with, as far as it matters for pairs of digits. -/
inductive Ahead where
  | fnc1
  | oneDigit
  | twoDigits
  | other
  deriving DecidableEq, Repr

def ahead : Text → Ahead
  | [] => .other
  | [c] => if c = fnc1 then .fnc1 else if c.isDigit then .oneDigit else .other
  | c :: d :: _ =>
    if c = fnc1 then .fnc1
    else if !c.isDigit then .other
    else if d.isDigit then .twoDigits else .oneDigit

/-- Whether the digits that a text begins with are odd in number. -/
def hasOddDigits : Text → Bool
  | [] => false
  | [c] => c.isDigit
  | c :: d :: rest => c.isDigit && (!d.isDigit || hasOddDigits rest)

/-- Whether it is worth leaving set B for a text that begins with two digits. An odd digit goes first. -/
def leavesForDigits (s : Text) : Bool :=
  match ahead (s.drop 2) with
  | .other | .oneDigit => false
  | .fnc1 => ahead (s.drop 3) == .twoDigits
  | .twoDigits => !hasOddDigits (s.drop 4)

/-- Whether set A, once in use, goes on for a character that is no digit. -/
def staysInA (c : Char) : Bool := c.toNat < 0x60 || isFunction c

/-- The code set for the first character of a text, after the one that is in use. -/
def choose (used : Option CodeSet) (s : Text) : CodeSet :=
  match ahead s, used with
  | .oneDigit, some .a => .a
  | .oneDigit, _ => .b
  | .other, _ =>
    match s with
    | c :: _ => if c.toNat < 0x20 ∨ (used = some .a ∧ staysInA c) then .a else .b
    | [] => .b
  | .fnc1, some set => set
  | .fnc1, none => if ahead (s.drop 1) = .twoDigits then .c else .b
  | .twoDigits, some .b => if leavesForDigits s then .c else .b
  | .twoDigits, _ => .c

/-! ## Codes -/

/-- The code of a single character in a set. -/
def code (set : CodeSet) (c : Char) : Nat :=
  if c = fnc1 then 102
  else if c = fnc2 then 97
  else if c = fnc3 then 96
  else if c = fnc4 then if set = .a then 101 else 100
  else if c.toNat < 0x20 then c.toNat + 64 else c.toNat - 32

def digitPair (c d : Char) : Nat := 10 * (c.toNat - 48) + (d.toNat - 48)

/-- The code that makes `set` the one in use, if it is not. -/
def enter (used : Option CodeSet) (set : CodeSet) : List Nat :=
  match used with
  | none => [set.start]
  | some old => if old = set then [] else [set.change]

/-- The codes of a text from the start code on, without the check code. -/
def codes (used : Option CodeSet) : Text → List Nat
  | [] => []
  | [c] =>
    let set := choose used [c]
    enter used set ++ [code set c]
  | c :: d :: rest =>
    let set := choose used (c :: d :: rest)
    enter used set ++
      if set = .c ∧ c ≠ fnc1 then digitPair c d :: codes (some set) rest
      else code set c :: codes (some set) (d :: rest)
termination_by s => s.length

/-- The sum of all codes, each times its place; the start code counts like the first one after it. -/
def weightedSum : List Nat → Nat
  | [] => 0
  | start :: rest => (rest.zipIdx 1).foldl (fun sum (code, place) => sum + code * place) start

def checkCode (codes : List Nat) : Nat := weightedSum codes % 103

/-! ## Bars -/

/-- The widths of the bars and spaces of a code, by code; the digits are the widths. -/
def patterns : List Nat := [
  212222, 222122, 222221, 121223, 121322, 131222, 122213, 122312, 132212, 221213, 221312, 231212,
  112232, 122132, 122231, 113222, 123122, 123221, 223211, 221132, 221231, 213212, 223112, 312131,
  311222, 321122, 321221, 312212, 322112, 322211, 212123, 212321, 232121, 111323, 131123, 131321,
  112313, 132113, 132311, 211313, 231113, 231311, 112133, 112331, 132131, 113123, 113321, 133121,
  313121, 211331, 231131, 213113, 213311, 213131, 311123, 311321, 331121, 312113, 312311, 332111,
  314111, 221411, 431111, 111224, 111422, 121124, 121421, 141122, 141221, 112214, 112412, 122114,
  122411, 142112, 142211, 241211, 221114, 413111, 241112, 134111, 111242, 121142, 121241, 114212,
  124112, 124211, 411212, 421112, 421211, 212141, 214121, 412121, 111143, 111341, 131141, 114113,
  114311, 411113, 411311, 113141, 114131, 311141, 411131, 211412, 211214, 211232]

/-- The widths at the end of a symbol. -/
def stopPattern : Nat := 2331112

def codeWidths (code : Nat) : List Nat := Bars.widthsOf (patterns.getD code stopPattern)

/-! ## Symbols -/

/-- The longest text of a symbol. -/
def limit : Nat := 80

def isEncodable (s : Text) : Bool :=
  !s.isEmpty && s.length ≤ limit && s.all fun c => c.toNat < 128 || isFunction c

/-- The symbol of a text. -/
def encode (s : Text) : Option Bitmap :=
  if isEncodable s then
    let codes := codes none s
    some (Bars.symbol ((codes ++ [checkCode codes]).flatMap codeWidths ++ Bars.widthsOf stopPattern))
  else none

end LabelPreview.Code128
