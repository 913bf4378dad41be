import LabelPreview.Symbol.DataMatrix.Mode
import LabelPreview.Symbol.DataMatrix.Size

/-! # Words of a Data Matrix symbol

Text is written in words from left to right, mode by mode. ASCII is the mode at the beginning, and every other
mode returns to it. The end of the text depends on the room that is left in the symbol, so a size is kept ready
while words are written.
-/

namespace LabelPreview.DataMatrix

/-- The words so far, the characters to come, and the size that was last found large enough. -/
structure Draft where
  words : List Nat
  rest : List Nat
  size : Option Size := none

namespace Draft

def push (d : Draft) (words : List Nat) : Draft := { d with words := d.words ++ words }

/-- Finds a size for so many words, unless the one that is ready will do. Answers it too. -/
def reserve (d : Draft) (words : Nat) : Option (Draft × Size) :=
  match d.size.filter fun s => words ≤ s.dataWords with
  | some s => some (d, s)
  | none => (Size.smallest? words).map fun s => ({ d with size := some s }, s)

end Draft

/-- The word that ends C40, text and X12. -/
def unlatch : Nat := 254

/-! ## ASCII -/

/-- The word that starts a mode from ASCII. -/
def latch : Mode → Nat
  | .c40 => 230
  | .base256 => 231
  | .x12 => 238
  | .text => 239
  | .edifact => 240
  | .ascii => unlatch

/-- A pair of digits, a character, or the start of a better mode. -/
def writeAscii (d : Draft) : Draft × Mode :=
  match d.rest with
  | [] => (d, .ascii)
  | c :: rest =>
    let single : Draft × Mode :=
      let mode := nextMode .ascii d.rest
      if mode ≠ .ascii then (d.push [latch mode], mode)
      else if isExtended c then ({ d.push [235, c - 127] with rest }, .ascii)
      else ({ d.push [c + 1] with rest }, .ascii)
    match rest with
    | next :: others =>
      if isDigit c && isDigit next then
        ({ d.push [130 + 10 * (c - 48) + (next - 48)] with rest := others }, .ascii)
      else single
    | [] => single

/-! ## C40 and text

Characters become values below 40, and three values make two words. -/

/-- The values of an ASCII character in C40. -/
def c40Values (c : Nat) : List Nat :=
  if c = 32 then [3]
  else if isDigit c then [c - 44]
  else if isUpper c then [c - 51]
  else if c < 32 then [0, c]
  else if c ≤ 47 then [1, c - 33]
  else if c ≤ 64 then [1, c - 43]
  else if c ≤ 95 then [1, c - 69]
  else [2, c - 96]

/-- The values of an ASCII character in the text mode: those of C40 with the cases exchanged. -/
def textValues (c : Nat) : List Nat :=
  if isUpper c then [2, c - 64] else if isLower c then [c - 83] else c40Values c

/-- The values of a character. An extended one has a mark in front. -/
def valuesOf (mode : Mode) (c : Nat) : List Nat :=
  let plain := if mode = .text then textValues else c40Values
  if isExtended c then 1 :: 30 :: plain (c - 128) else plain c

/-- The words of as many values as can be put together. -/
def tripletWords : List Nat → List Nat
  | a :: b :: c :: rest =>
    let n := 1600 * a + 40 * b + c + 1
    n / 256 :: n % 256 :: tripletWords rest
  | _ => []

/-- Values that are not yet written, with the characters they come from, the last one first. -/
structure Pending where
  draft : Draft
  taken : List Nat
  values : List Nat

namespace Pending

/-- The words there are with those of complete triplets. -/
def wordCount (p : Pending) : Nat := p.draft.words.length + p.values.length / 3 * 2

/-- Gives the last character back, with `count` values; answers how many values it has. -/
def giveBack (mode : Mode) (p : Pending) (count : Nat) : Pending × Nat :=
  match p.taken with
  | [] => (p, 0)
  | c :: taken =>
    ({ draft := { p.draft with rest := c :: p.draft.rest, size := none }
       taken
       values := p.values.take (p.values.length - count) }, (valuesOf mode c).length)

/-- Gives characters back as long as one value is over and can not be written as it is. -/
def giveBackSingles (mode : Mode) (room : Nat) : (fuel : Nat) → Pending → (count : Nat) → Pending
  | 0, p, _ => p
  | fuel + 1, p, count =>
    if p.values.length % 3 = 1 ∧ (3 < count ∨ room ≠ 1) then
      let (p, count) := p.giveBack mode count
      giveBackSingles mode room fuel p count
    else p

/-- Makes the values at the end of the text fit the room that is left. -/
def settle (mode : Mode) (room : Nat) (p : Pending) (count : Nat) : Pending :=
  let (p, count) :=
    if p.values.length % 3 = 2 ∧ room ≠ 2 then p.giveBack mode count else (p, count)
  giveBackSingles mode room p.taken.length p count

/-- Takes characters until another mode is better or the text ends. -/
def gather (mode : Mode) (p : Pending) : List Nat → Option Pending
  | [] => some p
  | c :: rest =>
    let added := valuesOf mode c
    let p : Pending :=
      { draft := { p.draft with rest }, taken := c :: p.taken, values := p.values ++ added }
    match p.draft.reserve p.wordCount with
    | none => none
    | some (draft, size) =>
      let p := { p with draft }
      if rest.isEmpty then some (p.settle mode (size.dataWords - p.wordCount) added.length)
      else if p.values.length % 3 = 0 ∧ nextMode mode rest ≠ mode then some p
      else gather mode p rest

/-- Writes the values and returns to ASCII. Two values over are filled up to a triplet; a single one is
written as an ASCII character if just that has room. -/
def finish (p : Pending) : Option Draft :=
  match p.draft.reserve p.wordCount with
  | none => none
  | some (draft, size) =>
    let room := size.dataWords - p.wordCount
    let mark := if draft.rest.isEmpty then [] else [unlatch]
    match p.values.length % 3, p.taken with
    | 0, _ =>
      some (draft.push (tripletWords p.values ++ if room = 0 then mark else [unlatch]))
    | 1, c :: _ =>
      if room = 1 then
        some { draft.push (tripletWords p.values ++ mark) with rest := c :: draft.rest }
      else none
    | 2, _ => some (draft.push (tripletWords (p.values ++ [0]) ++ mark))
    | _, _ => none

end Pending

def writeTriplets (mode : Mode) (d : Draft) : Option Draft :=
  (Pending.gather mode ⟨d, [], []⟩ d.rest).bind Pending.finish

/-! ## X12 -/

/-- The value of a character in X12. -/
def x12Value? (c : Nat) : Option Nat :=
  if c = 13 then some 0
  else if c = 42 then some 1
  else if c = 62 then some 2
  else if c = 32 then some 3
  else if isDigit c then some (c - 44)
  else if isUpper c then some (c - 51)
  else none

/-- Writes whole triplets until another mode is better or fewer than three characters are left. -/
def gatherX12 (d : Draft) (s : List Nat) : Option Draft :=
  match s with
  | a :: b :: c :: rest =>
    match x12Value? a, x12Value? b, x12Value? c with
    | some x, some y, some z =>
      let d := { d.push (tripletWords [x, y, z]) with rest }
      if nextMode .x12 rest ≠ .x12 then some d else gatherX12 d rest
    | _, _, _ => none
  | few => if few.all fun c => (x12Value? c).isSome then some d else none

/-- The unlatch word may only be left out if a single character fills the symbol. -/
def writeX12 (d : Draft) : Option Draft :=
  (gatherX12 d d.rest).bind fun d =>
    (d.reserve d.words.length).map fun (d, size) =>
      let room := size.dataWords - d.words.length
      let left := d.rest.length
      if 1 < left ∨ 1 < room ∨ left ≠ room then d.push [unlatch] else d

/-! ## EDIFACT

Four values of six bits make three words. -/

def edifactValue? (c : Nat) : Option Nat :=
  if 32 ≤ c ∧ c ≤ 63 then some c else if 64 ≤ c ∧ c ≤ 94 then some (c - 64) else none

/-- The value that ends EDIFACT. -/
def edifactEnd : Nat := 31

/-- The words of up to four values. -/
def edifactWords (values : List Nat) : List Nat :=
  let value (i : Nat) : Nat := values.getD i 0
  let n := ((value 0 * 64 + value 1) * 64 + value 2) * 64 + value 3
  [n / 65536 % 256, n / 256 % 256, n % 256].take values.length

def edifactValues? : List Nat → Option (List Nat)
  | [] => some []
  | c :: rest =>
    match edifactValue? c, edifactValues? rest with
    | some v, some others => some (v :: others)
    | _, _ => none

/-- Writes groups of four characters until another mode is better or fewer are left. Those are answered. -/
def gatherEdifact (d : Draft) (s : List Nat) : Option (Draft × List Nat) :=
  match s with
  | a :: b :: c :: e :: rest =>
    match edifactValues? [a, b, c, e] with
    | some values =>
      let d := { d.push (edifactWords values) with rest }
      if nextMode .edifact rest ≠ .edifact then some (d, []) else gatherEdifact d rest
    | none => none
  | few => some (d, few)

/-- Whether what comes after whole groups is written in ASCII without an end mark, in the room of at most two
words. -/
def edifactEndsItself (d : Draft) : Option (Draft × Bool) :=
  match d.reserve d.words.length with
  | none => none
  | some (d, size) =>
    let fits (size : Size) : Bool :=
      let room := size.dataWords - d.words.length
      d.rest.length ≤ room && room ≤ 2
    if size.dataWords - d.words.length < d.rest.length then
      (d.reserve (d.words.length + 1)).map fun (d, size) => (d, fits size)
    else some (d, fits size)

/-- Ends EDIFACT after a group that is not full; `values` are those of its characters. Up to two of them are
written in ASCII if they end the text and the room is too small for more. -/
def endEdifact (d : Draft) (values : List Nat) : Option Draft :=
  let count := d.words.length
  let words := edifactWords (values ++ [edifactEnd])
  let after := { d with rest := d.rest.drop values.length }
  if values.length = 3 then some (after.push words)
  else
    match d.reserve (count + values.length) with
    | none => none
    | some (d, size) =>
      let after := { after with size := d.size }
      if 3 ≤ size.dataWords - count then
        (after.reserve (count + words.length)).map fun (d, _) => d.push words
      else if after.rest.isEmpty then some { d with size := none }
      else some (after.push words)

def writeEdifact (d : Draft) : Option Draft :=
  match gatherEdifact d d.rest with
  | none => none
  | some (d, []) =>
    (edifactEndsItself d).bind fun (d, done) => if done then some d else endEdifact d []
  | some (d, last) => (edifactValues? last).bind (endEdifact d)

/-! ## Base 256 -/

/-- Words of bytes are disguised by their place, which counts from one. -/
def disguised (word place : Nat) : Nat := (word + 149 * place % 255 + 1) % 256

/-- The bytes that are taken until another mode is better. -/
def gatherBytes : List Nat → List Nat × List Nat
  | [] => ([], [])
  | c :: rest =>
    if nextMode .base256 rest ≠ .base256 then ([c], rest)
    else
      let (bytes, rest) := gatherBytes rest
      (c :: bytes, rest)

/-- The number of bytes; none if bytes fill the rest of the symbol. -/
def byteCount? (count : Nat) (fills : Bool) : Option (List Nat) :=
  if fills then some [0]
  else if count ≤ 249 then some [count]
  else if count ≤ 1555 then some [count / 250 + 249, count % 250]
  else none

def writeBytes (d : Draft) : Option (Draft × Mode) :=
  let (bytes, rest) := gatherBytes d.rest
  let count := d.words.length + bytes.length + 1
  match d.reserve count with
  | none => none
  | some (d, size) =>
    (byteCount? bytes.length (rest.isEmpty && size.dataWords ≤ count)).map fun field =>
      let words := ((field ++ bytes).zipIdx (d.words.length + 1)).map fun (word, place) =>
        disguised word place
      ({ d.push words with rest }, if rest.isEmpty then .base256 else .ascii)

/-! ## The whole text -/

def write (mode : Mode) (d : Draft) : Option (Draft × Mode) :=
  match mode with
  | .ascii => some (writeAscii d)
  | .c40 | .text => (writeTriplets mode d).map fun d => (d, .ascii)
  | .x12 => (writeX12 d).map fun d => (d, .ascii)
  | .edifact => (writeEdifact d).map fun d => (d, .ascii)
  | .base256 => writeBytes d

/-- Writes all of the text. -/
def writeAll : (fuel : Nat) → Mode → Draft → Option Draft
  | 0, _, _ => none
  | fuel + 1, mode, d =>
    if d.rest.isEmpty then some d
    else
      match write mode d with
      | none => none
      | some (d, mode) => writeAll fuel mode d

/-- Padding is disguised by its place, except for its first word. -/
def padding (place : Nat) : Nat :=
  let n := 130 + 149 * place % 253
  if n ≤ 254 then n else n - 254

def pad (words : List Nat) (capacity : Nat) : List Nat :=
  if words.length < capacity then
    words ++ 129 :: (List.range' (words.length + 2) (capacity - words.length - 1)).map padding
  else words

/-- The size of the symbol for a text, and its data words. Every second step is one in ASCII, which writes a
word, so a text that fits has no more than twice as many steps. -/
def wordsOf (s : List Nat) : Option (Size × List Nat) :=
  (writeAll (2 * Size.largest + 2) .ascii ⟨[], s, none⟩).bind fun d =>
    (d.reserve d.words.length).map fun (d, size) => (size, pad d.words size.dataWords)

end LabelPreview.DataMatrix
