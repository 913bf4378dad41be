/-! # QR code versions

A version fixes the size of a symbol, from 21 modules in version 1 to 177 in version 40. With the level of error
correction it also fixes how many words of data there are and in how many blocks.
-/

namespace LabelPreview.Qr

/-- Levels of error correction, the lowest first. -/
inductive Level where
  | low
  | medium
  | quartile
  | high
  deriving DecidableEq, Repr

namespace Level

/-- The level that a letter names. -/
def ofLetter? : Char → Option Level
  | 'L' => some .low
  | 'M' => some .medium
  | 'Q' => some .quartile
  | 'H' => some .high
  | _ => none

/-- The level in the format bits of a symbol. -/
def bits : Level → Nat
  | .low => 1
  | .medium => 0
  | .quartile => 3
  | .high => 2

/-- The check words of a block, by version. -/
def checkWords : Level → List Nat
  | .low => [
    7, 10, 15, 20, 26, 18, 20, 24, 30, 18, 20, 24, 26, 30, 22, 24, 28, 30, 28, 28,
    28, 28, 30, 30, 26, 28, 30, 30, 30, 30, 30, 30, 30, 30, 30, 30, 30, 30, 30, 30]
  | .medium => [
    10, 16, 26, 18, 24, 16, 18, 22, 22, 26, 30, 22, 22, 24, 24, 28, 28, 26, 26, 26,
    26, 28, 28, 28, 28, 28, 28, 28, 28, 28, 28, 28, 28, 28, 28, 28, 28, 28, 28, 28]
  | .quartile => [
    13, 22, 18, 26, 18, 24, 18, 22, 20, 24, 28, 26, 24, 20, 30, 24, 28, 28, 26, 30,
    28, 30, 30, 30, 30, 28, 30, 30, 30, 30, 30, 30, 30, 30, 30, 30, 30, 30, 30, 30]
  | .high => [
    17, 28, 22, 16, 22, 28, 26, 26, 24, 28, 24, 28, 22, 24, 24, 30, 28, 28, 26, 28,
    30, 24, 30, 30, 30, 30, 30, 30, 30, 30, 30, 30, 30, 30, 30, 30, 30, 30, 30, 30]

/-- The number of blocks, by version. -/
def blocks : Level → List Nat
  | .low => [
    1, 1, 1, 1, 1, 2, 2, 2, 2, 4, 4, 4, 4, 4, 6, 6, 6, 6, 7, 8,
    8, 9, 9, 10, 12, 12, 12, 13, 14, 15, 16, 17, 18, 19, 19, 20, 21, 22, 24, 25]
  | .medium => [
    1, 1, 1, 2, 2, 4, 4, 4, 5, 5, 5, 8, 9, 9, 10, 10, 11, 13, 14, 16,
    17, 17, 18, 20, 21, 23, 25, 26, 28, 29, 31, 33, 35, 37, 38, 40, 43, 45, 47, 49]
  | .quartile => [
    1, 1, 2, 2, 4, 4, 6, 6, 8, 8, 8, 10, 12, 16, 12, 17, 16, 18, 21, 20,
    23, 23, 25, 27, 29, 34, 34, 35, 38, 40, 43, 45, 48, 51, 53, 56, 59, 62, 65, 68]
  | .high => [
    1, 1, 2, 4, 4, 4, 5, 6, 8, 8, 11, 11, 16, 16, 18, 16, 19, 21, 25, 25,
    25, 34, 30, 32, 35, 37, 40, 42, 45, 48, 51, 54, 57, 60, 63, 66, 70, 74, 77, 81]

end Level

/-! ## Sizes -/

/-- Modules on a side. -/
def side (version : Nat) : Nat := 17 + 4 * version

/-- Alignment patterns on a side. -/
def alignments (version : Nat) : Nat := if version < 2 then 0 else version / 7 + 2

/-- The columns of the centres of alignment patterns, and also their rows. They are evenly spaced from the
last one on, and the first one is on the timing pattern. -/
def alignmentCentres (version : Nat) : List Nat :=
  let count := alignments version
  let gaps := count - 1
  let step := if version = 32 then 26 else (4 * version + 2 * count + 1) / (2 * gaps) * 2
  if count = 0 then []
  else 6 :: (List.range gaps).map fun i => side version - 7 - step * (gaps - 1 - i)

/-- The words that the modules left to data have room for. -/
def words (version : Nat) : Nat :=
  let count := alignments version
  let square := (16 * version + 128) * version + 64
  let aligned := if count = 0 then square else square - ((25 * count - 10) * count - 55)
  (if version < 7 then aligned else aligned - 36) / 8

/-! ## Blocks -/

def checkWordsOf (version : Nat) (level : Level) : Nat := level.checkWords.getD (version - 1) 0

def blocksOf (version : Nat) (level : Level) : Nat := level.blocks.getD (version - 1) 1

/-- The words of data. -/
def dataWords (version : Nat) (level : Level) : Nat :=
  words version - blocksOf version level * checkWordsOf version level

/-- The data words of each block. All are equally long, but the last ones may have one word more. -/
def blockSizes (version : Nat) (level : Level) : List Nat :=
  let blocks := blocksOf version level
  let data := dataWords version level
  let longer := data % blocks
  List.replicate (blocks - longer) (data / blocks) ++ List.replicate longer (data / blocks + 1)

/-- The smallest version with room for data of so many bits. -/
def smallest? (level : Level) (bits : Nat) : Option Nat :=
  (List.range' 1 40).find? fun version => bits ≤ 8 * dataWords version level

end LabelPreview.Qr
