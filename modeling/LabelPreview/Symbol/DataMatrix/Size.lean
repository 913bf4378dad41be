/-! # Data Matrix sizes

A symbol is one region of modules or several of them side by side. Every region has a border of one module. The
words may be split into blocks with check words of their own.
-/

namespace LabelPreview.DataMatrix

structure Size where
  dataWords : Nat
  /-- The check words of all blocks. -/
  checkWords : Nat
  blocks : Nat
  /-- Columns of a region without its border. -/
  regionWidth : Nat
  /-- Rows of a region without its border. -/
  regionHeight : Nat
  /-- Regions from left to right. -/
  across : Nat
  /-- Regions from top to bottom. -/
  down : Nat
  deriving DecidableEq, Repr

namespace Size

/-- Columns of all regions without their borders. -/
def columns (s : Size) : Nat := s.across * s.regionWidth

/-- Rows of all regions without their borders. -/
def rows (s : Size) : Nat := s.down * s.regionHeight

/-- All sizes, square and oblong, in the order in which they are tried. -/
def all : List Size := [
  ⟨3, 5, 1, 8, 8, 1, 1⟩,
  ⟨5, 7, 1, 10, 10, 1, 1⟩,
  ⟨5, 7, 1, 16, 6, 1, 1⟩,
  ⟨8, 10, 1, 12, 12, 1, 1⟩,
  ⟨10, 11, 1, 14, 6, 2, 1⟩,
  ⟨12, 12, 1, 14, 14, 1, 1⟩,
  ⟨16, 14, 1, 24, 10, 1, 1⟩,
  ⟨18, 14, 1, 16, 16, 1, 1⟩,
  ⟨22, 18, 1, 18, 18, 1, 1⟩,
  ⟨22, 18, 1, 16, 10, 2, 1⟩,
  ⟨30, 20, 1, 20, 20, 1, 1⟩,
  ⟨32, 24, 1, 16, 14, 2, 1⟩,
  ⟨36, 24, 1, 22, 22, 1, 1⟩,
  ⟨44, 28, 1, 24, 24, 1, 1⟩,
  ⟨49, 28, 1, 22, 14, 2, 1⟩,
  ⟨62, 36, 1, 14, 14, 2, 2⟩,
  ⟨86, 42, 1, 16, 16, 2, 2⟩,
  ⟨114, 48, 1, 18, 18, 2, 2⟩,
  ⟨144, 56, 1, 20, 20, 2, 2⟩,
  ⟨174, 68, 1, 22, 22, 2, 2⟩,
  ⟨204, 84, 2, 24, 24, 2, 2⟩,
  ⟨280, 112, 2, 14, 14, 4, 4⟩,
  ⟨368, 144, 4, 16, 16, 4, 4⟩,
  ⟨456, 192, 4, 18, 18, 4, 4⟩,
  ⟨576, 224, 4, 20, 20, 4, 4⟩,
  ⟨696, 272, 4, 22, 22, 4, 4⟩,
  ⟨816, 336, 6, 24, 24, 4, 4⟩,
  ⟨1050, 408, 6, 18, 18, 6, 6⟩,
  ⟨1304, 496, 8, 20, 20, 6, 6⟩,
  ⟨1558, 620, 10, 22, 22, 6, 6⟩]

/-- The data words of the largest symbol. -/
def largest : Nat := 1558

/-- The first size with room for so many words. -/
def smallest? (words : Nat) : Option Size := all.find? fun s => words ≤ s.dataWords

end Size

end LabelPreview.DataMatrix
