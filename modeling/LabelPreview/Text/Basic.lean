/-! # Texts

A text is a list of characters, so that every rule below is a recursion on it.
-/

namespace LabelPreview

abbrev Text := List Char

namespace Text

/-! ## Blanks -/

/-- A character with the Unicode property White_Space. -/
def isBlank (c : Char) : Bool :=
  let n := c.toNat
  (9 ≤ n && n ≤ 13) || n == 0x20 || n == 0x85 || n == 0xA0 || n == 0x1680 ||
    (0x2000 ≤ n && n ≤ 0x200A) || n == 0x2028 || n == 0x2029 || n == 0x202F || n == 0x205F ||
    n == 0x3000

def trimStart (s : Text) : Text := s.dropWhile isBlank

def trimEnd (s : Text) : Text := (s.reverse.dropWhile isBlank).reverse

def trim (s : Text) : Text := trimEnd (trimStart s)

/-- Every run of blanks becomes one space. -/
def collapseBlanks : Text → Text
  | [] => []
  | c :: rest =>
    if isBlank c then
      match rest with
      | next :: _ => if isBlank next then collapseBlanks rest else ' ' :: collapseBlanks rest
      | [] => [' ']
    else c :: collapseBlanks rest

/-! ## Cutting -/

/-- The text in front of the first `mark`, and the text after it. -/
def cutAt (mark : Char) : Text → Option (Text × Text)
  | [] => none
  | c :: rest =>
    if c = mark then some ([], rest)
    else (cutAt mark rest).map fun (before, after) => (c :: before, after)

/-- What follows `start`, if the text begins with it. -/
def after? : (start : Text) → Text → Option Text
  | [], s => some s
  | _ :: _, [] => none
  | a :: start, c :: s => if a = c then after? start s else none

/-- What precedes `finish`, if the text ends with it. -/
def before? (finish s : Text) : Option Text := (after? finish.reverse s.reverse).map List.reverse

/-! ## Replacing -/

def asciiUpper (s : Text) : Text := s.map Char.toUpper

def asciiLower (s : Text) : Text := s.map Char.toLower

/-- Replaces from left to right; `skip` characters of an occurrence are still to be passed over. -/
def replaceFrom (old new : Text) : (skip : Nat) → Text → Text
  | _, [] => []
  | skip + 1, _ :: rest => replaceFrom old new skip rest
  | 0, c :: rest =>
    if old.isPrefixOf (c :: rest) then new ++ replaceFrom old new (old.length - 1) rest
    else c :: replaceFrom old new 0 rest

/-- Every occurrence of `old`, a text with at least one character, becomes `new`. Occurrences are taken
from the left and do not overlap. -/
def replaceAll (old new s : Text) : Text := replaceFrom old new 0 s

/-- A carriage return in front of a line feed is dropped. -/
def unixLines (s : Text) : Text := replaceAll ['\r', '\n'] ['\n'] s

/-! ## Bytes -/

/-- The bytes of the text in UTF-8. -/
def utf8 (s : Text) : List UInt8 := s.flatMap String.utf8EncodeChar

/-! ## Digits -/

/-- The value of a hexadecimal digit of either case. -/
def hexDigit? (c : Char) : Option Nat :=
  if '0' ≤ c ∧ c ≤ '9' then some (c.toNat - 48)
  else if 'a' ≤ c ∧ c ≤ 'f' then some (c.toNat - 87)
  else if 'A' ≤ c ∧ c ≤ 'F' then some (c.toNat - 55)
  else none

/-- The number that decimal digits spell. -/
def decimalValue (digits : Text) : Nat :=
  digits.foldl (fun n c => 10 * n + (c.toNat - 48)) 0

/-- A whole unsigned number below 2^64 and nothing else; a plus sign may stand in front. -/
def count? (s : Text) : Option Nat :=
  let digits := match s with
    | '+' :: rest => rest
    | _ => s
  if digits.isEmpty || digits.any (fun c => !c.isDigit) then none
  else
    let n := decimalValue digits
    if n < 0x10000000000000000 then some n else none

end Text

end LabelPreview
