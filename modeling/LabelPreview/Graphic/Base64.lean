/-! # Base64

The standard alphabet with padding. A text is accepted only in the one form that encoding gives.
-/

namespace LabelPreview.Base64

inductive Error where
  | invalidSymbol (offset : Nat) (symbol : UInt8)
  | invalidLength (length : Nat)
  | invalidLastSymbol (offset : Nat) (symbol : UInt8)
  | invalidPadding
  deriving DecidableEq, Repr

def Error.message : Error → String
  | .invalidSymbol offset symbol => s!"Invalid symbol {symbol}, offset {offset}."
  | .invalidLength length => s!"Invalid input length: {length}"
  | .invalidLastSymbol offset symbol => s!"Invalid last symbol {symbol}, offset {offset}."
  | .invalidPadding => "Invalid padding"

/-- The equals sign. -/
def pad : UInt8 := 61

/-- The six bits that a symbol stands for. -/
def value? (b : UInt8) : Option Nat :=
  let n := b.toNat
  if 65 ≤ n ∧ n ≤ 90 then some (n - 65)
  else if 97 ≤ n ∧ n ≤ 122 then some (n - 71)
  else if 48 ≤ n ∧ n ≤ 57 then some (n + 4)
  else if n = 43 then some 62
  else if n = 47 then some 63
  else none

/-- The value of a symbol that has to be one. -/
def value (offset : Nat) (b : UInt8) : Except Error Nat :=
  match value? b with
  | some v => .ok v
  | none => .error (.invalidSymbol offset b)

/-- The three bytes of four symbols. -/
def quadBytes (a b c d : Nat) : List UInt8 :=
  let n := ((a * 64 + b) * 64 + c) * 64 + d
  [UInt8.ofNat (n / 65536), UInt8.ofNat (n / 256), UInt8.ofNat n]

/-- The values of the last group and the number of padding signs after them. Padding stands for the third
and fourth symbol only, and nothing but padding follows it. `seen` symbols came before. -/
def takeTail (offset seen : Nat) : List UInt8 → Except Error (List Nat × Nat)
  | [] => .ok ([], 0)
  | b :: rest =>
    if b = pad then
      if 2 ≤ seen ∧ rest.all (· == pad) then .ok ([], rest.length + 1)
      else .error (.invalidSymbol offset pad)
    else do
      let v ← value offset b
      let (values, padding) ← takeTail (offset + 1) (seen + 1) rest
      return (v :: values, padding)

/-- The bytes of the last group. The bits that do not belong to a whole byte have to be zero. -/
def tailBytes (offset : Nat) (group : List UInt8) : List Nat → Except Error (List UInt8)
  | [a, b] =>
    if b % 16 = 0 then .ok ((quadBytes a b 0 0).take 1)
    else .error (.invalidLastSymbol (offset + 1) (group.getD 1 0))
  | [a, b, c] =>
    if c % 4 = 0 then .ok ((quadBytes a b c 0).take 2)
    else .error (.invalidLastSymbol (offset + 2) (group.getD 2 0))
  | [a, b, c, d] => .ok (quadBytes a b c d)
  | values => .error (.invalidLength (offset + values.length))

/-- Decodes the last group, which starts at `offset` and may be short or padded. -/
def decodeTail (offset : Nat) (group : List UInt8) : Except Error (List UInt8) :=
  if group.isEmpty then .ok []
  else
    match takeTail offset 0 group with
    | .error e => .error e
    | .ok (values, padding) =>
      if values.length < 2 then .error (.invalidLength (offset + values.length))
      else if (values.length + padding) % 4 ≠ 0 then .error .invalidPadding
      else tailBytes offset group values

/-- Decodes groups of four symbols. The last group is the one that nothing follows. -/
def decodeGroups (offset : Nat) : List UInt8 → Except Error (List UInt8)
  | a :: b :: c :: d :: e :: rest => do
    let a ← value offset a
    let b ← value (offset + 1) b
    let c ← value (offset + 2) c
    let d ← value (offset + 3) d
    let bytes ← decodeGroups (offset + 4) (e :: rest)
    return quadBytes a b c d ++ bytes
  | group => decodeTail offset group

/-- Decodes a whole text. A single symbol too many is reported first if it is none of the alphabet. -/
def decode (symbols : List UInt8) : Except Error (List UInt8) :=
  match symbols.getLast? with
  | some last =>
    if symbols.length % 4 = 1 ∧ last ≠ pad ∧ value? last = none then
      .error (.invalidSymbol (symbols.length - 1) last)
    else decodeGroups 0 symbols
  | none => .ok []

end LabelPreview.Base64
