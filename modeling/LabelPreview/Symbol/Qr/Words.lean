import LabelPreview.Symbol.CheckWords
import LabelPreview.Symbol.Qr.Version
import LabelPreview.Text.Basic

/-! # Words of a QR code

A text is written as one segment of bits in the tightest mode that has all of its characters. The bits are
filled up to whole words, and check words are added block by block.
-/

namespace LabelPreview.Qr

/-- The lowest bits of a number, the highest of them first. -/
def bitsOf (count n : Nat) : List Bool := (List.range count).reverse.map n.testBit

/-! ## Modes -/

inductive Mode where
  | numeric
  | alphanumeric
  | bytes
  deriving DecidableEq, Repr

/-- The characters of the alphanumeric mode; the place of a character is its value. -/
def alphabet : Text := [
  '0', '1', '2', '3', '4', '5', '6', '7', '8', '9', 'A', 'B', 'C', 'D', 'E', 'F', 'G', 'H', 'I', 'J', 'K', 'L',
  'M', 'N', 'O', 'P', 'Q', 'R', 'S', 'T', 'U', 'V', 'W', 'X', 'Y', 'Z', ' ', '$', '%', '*', '+', '-', '.', '/',
  ':']

namespace Mode

def indicator : Mode → Nat
  | .numeric => 1
  | .alphanumeric => 2
  | .bytes => 4

/-- The bits of the number of characters. -/
def countBits (mode : Mode) (version : Nat) : Nat :=
  match mode with
  | .numeric => if version < 10 then 10 else if version < 27 then 12 else 14
  | .alphanumeric => if version < 10 then 9 else if version < 27 then 11 else 13
  | .bytes => if version < 10 then 8 else 16

/-- The tightest mode for a text. -/
def ofText (s : Text) : Mode :=
  if s.all Char.isDigit then .numeric
  else if s.all alphabet.contains then .alphanumeric
  else .bytes

end Mode

/-! ## Segments -/

/-- Three digits to ten bits. -/
def numericBits : Text → List Bool
  | a :: b :: c :: rest => bitsOf 10 (Text.decimalValue [a, b, c]) ++ numericBits rest
  | [a, b] => bitsOf 7 (Text.decimalValue [a, b])
  | [a] => bitsOf 4 (Text.decimalValue [a])
  | [] => []

/-- Two characters to eleven bits. -/
def alphanumericBits : Text → List Bool
  | a :: b :: rest => bitsOf 11 (45 * alphabet.idxOf a + alphabet.idxOf b) ++ alphanumericBits rest
  | [a] => bitsOf 6 (alphabet.idxOf a)
  | [] => []

/-- A segment without the number of its characters, which is written as wide as the version wants it. -/
structure Segment where
  mode : Mode
  /-- What goes before the number of characters. -/
  header : List Bool
  count : Nat
  body : List Bool

/-- The header of a segment in UTF-8: the number 26 names it. -/
def utf8Header : List Bool := bitsOf 4 7 ++ bitsOf 8 26

namespace Segment

def ofText (s : Text) : Segment :=
  let mode := Mode.ofText s
  let header := bitsOf 4 mode.indicator
  match mode with
  | .numeric => ⟨mode, header, s.length, numericBits s⟩
  | .alphanumeric => ⟨mode, header, s.length, alphanumericBits s⟩
  | .bytes =>
    if s.all fun c => c.toNat < 256 then
      ⟨mode, header, s.length, s.flatMap fun c => bitsOf 8 c.toNat⟩
    else
      let bytes := s.utf8
      ⟨mode, utf8Header ++ header, bytes.length, bytes.flatMap fun b => bitsOf 8 b.toNat⟩

/-- The size of the segment in bits. -/
def size (s : Segment) (version : Nat) : Nat :=
  s.header.length + s.mode.countBits version + s.body.length

def bits (s : Segment) (version : Nat) : List Bool :=
  s.header ++ bitsOf (s.mode.countBits version) s.count ++ s.body

/-- The version for a segment: the smallest one, if its length is written as in the version that would do
if it were written as in version 1. -/
def version? (s : Segment) (level : Level) : Option Nat :=
  (smallest? level (s.size 1)).bind fun version => smallest? level (s.size version)

end Segment

/-! ## Words -/

/-- The words that groups of eight bits make, the last one filled up with zeros. -/
def wordsOfBits (bits : List Bool) : List Nat :=
  match bits with
  | [] => []
  | b :: rest =>
    let group := (b :: rest).take 8
    (group ++ List.replicate (8 - group.length) false).foldl (fun n b => 2 * n + b.toNat) 0 ::
      wordsOfBits (rest.drop 7)
termination_by bits.length
decreasing_by simp only [List.length_drop, List.length_cons]; omega

/-- Fills words up to a count with two words in turn. -/
def padWords : (count : Nat) → (word other : Nat) → List Nat
  | 0, _, _ => []
  | n + 1, word, other => word :: padWords n other word

/-- The data words of a segment: up to four zero bits end it, and padding follows. -/
def dataOf (s : Segment) (version : Nat) (level : Level) : List Nat :=
  let capacity := dataWords version level
  let bits := s.bits version
  let written := wordsOfBits (bits ++ List.replicate (min 4 (8 * capacity - bits.length)) false)
  written ++ padWords (capacity - written.length) 0xEC 0x11

/-- Cuts a list into parts of the given lengths. -/
def cutBlocks : (sizes : List Nat) → List Nat → List (List Nat)
  | [], _ => []
  | n :: sizes, words => words.take n :: cutBlocks sizes (words.drop n)

def checkCode : CheckCode := ⟨0x11D, 0⟩

/-- The words of a symbol in the order in which they are drawn. -/
def wordsOf (s : Segment) (version : Nat) (level : Level) : List Nat :=
  let blocks := cutBlocks (blockSizes version level) (dataOf s version level)
  interleave blocks ++ interleave (blocks.map (checkCode.checkWords (checkWordsOf version level)))

end LabelPreview.Qr
