/-! # Modes of Data Matrix words

Six modes write text in words. Which of them is best for what comes is estimated character by character, until
one of them is clearly ahead. The estimates are sums in single precision.
-/

namespace LabelPreview.DataMatrix

inductive Mode where
  | ascii
  /-- For capitals and digits. -/
  | c40
  /-- For small letters and digits. -/
  | text
  /-- For capitals, digits and four other characters. -/
  | x12
  /-- For the characters from the space to the circumflex. -/
  | edifact
  /-- For bytes. -/
  | base256
  deriving DecidableEq, Repr

/-! ## Characters

A character is a number below 256. -/

def isDigit (c : Nat) : Bool := 48 ≤ c && c ≤ 57

def isUpper (c : Nat) : Bool := 65 ≤ c && c ≤ 90

def isLower (c : Nat) : Bool := 97 ≤ c && c ≤ 122

def isExtended (c : Nat) : Bool := 128 ≤ c

/-- Whether C40 writes a character as one value. -/
def fitsC40 (c : Nat) : Bool := c == 32 || isDigit c || isUpper c

/-- Whether the text mode writes a character as one value. -/
def fitsText (c : Nat) : Bool := c == 32 || isDigit c || isLower c

/-- The characters that end or separate segments of X12 messages. -/
def isSeparator (c : Nat) : Bool := c == 13 || c == 42 || c == 62

def fitsX12 (c : Nat) : Bool := isSeparator c || c == 32 || isDigit c || isUpper c

def fitsEdifact (c : Nat) : Bool := 32 ≤ c && c ≤ 94

/-! ## Estimates -/

structure PerMode (α : Type) where
  ascii : α
  c40 : α
  text : α
  x12 : α
  edifact : α
  base256 : α

/-- The words to get into each mode. -/
def entryCosts (used : Mode) : PerMode Float32 :=
  let cost (mode : Mode) (words : Float32) : Float32 := if mode = used then 0 else words
  match used with
  | .ascii => ⟨0, 1, 1, 1, 1, 1.25⟩
  | _ => ⟨1, cost .c40 2, cost .text 2, cost .x12 2, cost .edifact 2, cost .base256 2.25⟩

/-- A cost that depends on whether a character fits a mode or else is extended. -/
def charge (fits extended : Bool) (least most other : Float32) : Float32 :=
  if fits then least else if extended then most else other

/-- Adds the words for a character. -/
def addCharacter (k : PerMode Float32) (c : Nat) : PerMode Float32 :=
  let extended := isExtended c
  { ascii := if isDigit c then k.ascii + 0.5 else k.ascii.ceil + (if extended then 2 else 1)
    c40 := k.c40 + charge (fitsC40 c) extended (2 / 3) (8 / 3) (4 / 3)
    text := k.text + charge (fitsText c) extended (2 / 3) (8 / 3) (4 / 3)
    x12 := k.x12 + charge (fitsX12 c) extended (2 / 3) (13 / 3) (10 / 3)
    edifact := k.edifact + charge (fitsEdifact c) extended (3 / 4) (17 / 4) (13 / 4)
    base256 := k.base256 + 1 }

/-- Whole words. -/
def wholeWords (k : PerMode Float32) : PerMode Nat :=
  let up (x : Float32) : Nat := x.ceil.toUInt32.toNat
  ⟨up k.ascii, up k.c40, up k.text, up k.x12, up k.edifact, up k.base256⟩

/-! ## Decisions -/

def least (first : Nat) (others : List Nat) : Nat := others.foldl min first

/-- C40 and X12 are even: X12 wins if the text goes on with characters of it to a separator. -/
def reachesSeparator : List Nat → Bool
  | [] => false
  | c :: rest => isSeparator c || (fitsX12 c && reachesSeparator rest)

/-- The mode that is clearly ahead, if there is one; `rest` is still to come. -/
def ahead? (k : PerMode Nat) (rest : List Nat) : Option Mode :=
  if k.ascii < least k.base256 [k.c40, k.text, k.x12, k.edifact] then some .ascii
  else if k.base256 < k.ascii ∨ k.base256 + 1 < least k.c40 [k.text, k.x12, k.edifact] then some .base256
  else if k.edifact + 1 < least k.base256 [k.c40, k.text, k.x12, k.ascii] then some .edifact
  else if k.text + 1 < least k.base256 [k.c40, k.edifact, k.x12, k.ascii] then some .text
  else if k.x12 + 1 < least k.base256 [k.c40, k.edifact, k.text, k.ascii] then some .x12
  else if k.c40 + 1 < least k.ascii [k.base256, k.edifact, k.text] then
    if k.c40 < k.x12 then some .c40
    else if k.c40 = k.x12 then some (if reachesSeparator (rest.drop 1) then .x12 else .c40)
    else none
  else none

/-- The mode for a text that ends before one is clearly ahead: ASCII if no mode is better, a mode that is
better than all others, or else C40. -/
def atEnd (k : PerMode Nat) : Mode :=
  let min := least k.ascii [k.c40, k.text, k.x12, k.edifact, k.base256]
  if k.ascii = min then .ascii
  else
    match [(Mode.c40, k.c40), (.text, k.text), (.x12, k.x12), (.edifact, k.edifact),
        (.base256, k.base256)].filter fun (_, words) => words == min with
    | [(mode, _)] => mode
    | _ => .c40

/-- Decides on a mode, but not before four characters; `seen` of them have been added. -/
def pickMode (k : PerMode Float32) (seen : Nat) : List Nat → Mode
  | [] => atEnd (wholeWords k)
  | c :: rest =>
    let k := addCharacter k c
    match if seen < 3 then none else ahead? (wholeWords k) rest with
    | some mode => mode
    | none => pickMode k (seen + 1) rest

/-- The best mode for a text while `used` is in use. X12 and EDIFACT are left if one of the next characters
does not fit. -/
def nextMode (used : Mode) (s : List Nat) : Mode :=
  if s.isEmpty then used
  else
    let mode := pickMode (entryCosts used) 0 s
    if used = .x12 ∧ mode = .x12 ∧ !(s.take 3).all fitsX12 then .ascii
    else if used = .edifact ∧ mode = .edifact ∧ !(s.take 4).all fitsEdifact then .ascii
    else mode

end LabelPreview.DataMatrix
