/-! # Inflating compressed data

A stream has a header, blocks of literal bytes and copies, and a checksum. Only as much is read as a picture
needs, counted in whole windows: damage inside the last window counts even when it lies past the need.
-/

namespace LabelPreview.Inflate

inductive Error where
  | incomplete
  | corrupt
  deriving DecidableEq, Repr

def Error.message : Error → String
  | .incomplete => "incomplete deflate stream"
  | .corrupt => "corrupt deflate stream"

/-- The bits still to be read, in the order of the stream. -/
abbrev Bits := List Bool

/-- The bits of a byte, the lowest first. -/
def byteBits (b : UInt8) : Bits := [0, 1, 2, 3, 4, 5, 6, 7].map fun i => b.toNat.testBit i

/-- A number of `n` bits, the lowest first. -/
def takeNumber : (n : Nat) → Bits → Except Error (Nat × Bits)
  | 0, bits => .ok (0, bits)
  | _ + 1, [] => .error .incomplete
  | n + 1, b :: bits => (takeNumber n bits).map fun (v, rest) => (b.toNat + 2 * v, rest)

/-! ## Prefix codes -/

/-- A canonical prefix code: how many codewords have each length, and the symbols in codeword order. -/
structure Code where
  counts : List Nat
  symbols : Array Nat

namespace Code

/-- The symbols that have a codeword of the given length. -/
def ofLength (lengths : List Nat) (n : Nat) : List Nat :=
  (lengths.zipIdx.filter fun (l, _) => l == n).map Prod.snd

/-- The code with the given codeword lengths. It has to be complete unless it has one symbol or none. -/
def ofLengths (lengths : List Nat) : Except Error Code :=
  let groups := (List.range 15).map fun i => ofLength lengths (i + 1)
  let counts := groups.map List.length
  let total : Nat := counts.zipIdx.foldl (fun total (n, i) => total + n <<< (14 - i)) 0
  let used : Nat := counts.foldl (· + ·) 0
  if total = 1 <<< 15 ∨ used ≤ 1 then .ok ⟨counts, groups.flatten.toArray⟩ else .error .corrupt

/-- Reads on until a codeword is complete. `word` is what was read, `first` the least codeword of the
current length, and `index` the number of shorter codewords. -/
def readFrom (symbols : Array Nat) : (counts : List Nat) → (word first index : Nat) → Bits →
    Except Error (Nat × Bits)
  | [], _, _, _, _ => .error .corrupt
  | _ :: _, _, _, _, [] => .error .incomplete
  | n :: counts, word, first, index, b :: bits =>
    let word := 2 * word + b.toNat
    if word < first + n then
      match symbols[index + (word - first)]? with
      | some symbol => .ok (symbol, bits)
      | none => .error .corrupt
    else readFrom symbols counts word (2 * (first + n)) (index + n) bits

def read (code : Code) (bits : Bits) : Except Error (Nat × Bits) :=
  readFrom code.symbols code.counts 0 0 0 bits

end Code

/-! ## Copies -/

/-- Least length and extra bits of the copy symbols 257 to 285. -/
def copyLengths : List (Nat × Nat) :=
  [(3, 0), (4, 0), (5, 0), (6, 0), (7, 0), (8, 0), (9, 0), (10, 0), (11, 1), (13, 1), (15, 1), (17, 1),
    (19, 2), (23, 2), (27, 2), (31, 2), (35, 3), (43, 3), (51, 3), (59, 3), (67, 4), (83, 4), (99, 4),
    (115, 4), (131, 5), (163, 5), (195, 5), (227, 5), (258, 0)]

/-- Least distance and extra bits of the distance symbols. -/
def copyDistances : List (Nat × Nat) :=
  [(1, 0), (2, 0), (3, 0), (4, 0), (5, 1), (7, 1), (9, 2), (13, 2), (17, 3), (25, 3), (33, 4), (49, 4),
    (65, 5), (97, 5), (129, 6), (193, 6), (257, 7), (385, 7), (513, 8), (769, 8), (1025, 9), (1537, 9),
    (2049, 10), (3073, 10), (4097, 11), (6145, 11), (8193, 12), (12289, 12), (16385, 13), (24577, 13)]

-- Not unfolded by itself: an index such as `symbol - 257` would be counted down one by one.
/-- A value from a table of least values, with the extra bits added. -/
@[irreducible]
def takeFromTable (table : List (Nat × Nat)) (index : Nat) (bits : Bits) : Except Error (Nat × Bits) :=
  match table[index]? with
  | some (least, extra) => (takeNumber extra bits).map fun (v, rest) => (least + v, rest)
  | none => .error .corrupt

/-- Repeats bytes that stand `distance` back. Before the first byte all is zero. -/
def copyBack (distance : Nat) : (length : Nat) → Array UInt8 → Array UInt8
  | 0, out => out
  | n + 1, out =>
    copyBack distance n (out.push (if distance ≤ out.size then out.getD (out.size - distance) 0 else 0))

/-! ## Blocks -/

/-- How the reading of a block or of a stream ended. -/
structure Progress where
  out : Array UInt8
  bits : Bits

/-- What stops the reading early. `enough` carries the bytes when the window is full. -/
inductive Stop where
  | enough (out : Array UInt8)
  | failed (out : Array UInt8) (e : Error)

/-- Reads symbols up to the end of the block or until `window` bytes are there. Every symbol takes a bit, so
`fuel` need not exceed the number of bits. -/
def readSymbols (literals distances : Code) (window : Nat) : (fuel : Nat) → Progress → Except Stop Progress
  | 0, p => .error (.failed p.out .incomplete)
  | fuel + 1, p =>
    if window ≤ p.out.size then .error (.enough p.out)
    else
      let fail {α : Type} (e : Error) : Except Stop α := .error (.failed p.out e)
      match literals.read p.bits with
      | .error e => fail e
      | .ok (symbol, bits) =>
        if symbol < 256 then
          readSymbols literals distances window fuel ⟨p.out.push (UInt8.ofNat symbol), bits⟩
        else if symbol = 256 then .ok ⟨p.out, bits⟩
        else
          match takeFromTable copyLengths (symbol - 257) bits with
          | .error e => fail e
          | .ok (length, bits) =>
            match distances.read bits with
            | .error e => fail e
            | .ok (symbol, bits) =>
              match takeFromTable copyDistances symbol bits with
              | .error e => fail e
              | .ok (distance, bits) =>
                readSymbols literals distances window fuel ⟨copyBack distance length p.out, bits⟩

/-- Copies `n` stored bytes. -/
def readStored (window : Nat) : (n : Nat) → Progress → Except Stop Progress
  | 0, p => .ok p
  | n + 1, p =>
    if window ≤ p.out.size then .error (.enough p.out)
    else
      match takeNumber 8 p.bits with
      | .ok (b, bits) => readStored window n ⟨p.out.push (UInt8.ofNat b), bits⟩
      | .error e => .error (.failed p.out e)

def fixedLiterals : List Nat :=
  List.replicate 144 8 ++ List.replicate 112 9 ++ List.replicate 24 7 ++ List.replicate 8 8

def fixedDistances : List Nat := List.replicate 32 5

/-- The order in which the lengths of the length code are written. -/
def lengthOrder : List Nat := [16, 17, 18, 0, 8, 7, 9, 6, 10, 5, 11, 4, 12, 3, 13, 2, 14, 1, 15]

/-- Lengths of three bits each. -/
def takeLengthCode : (n : Nat) → Bits → Except Error (List Nat × Bits)
  | 0, bits => .ok ([], bits)
  | n + 1, bits => do
    let (v, bits) ← takeNumber 3 bits
    let (rest, bits) ← takeLengthCode n bits
    return (v :: rest, bits)

/-- Reads `wanted` codeword lengths; the newest is at the head of `done`. A run may not go past the end. -/
def takeLengths (code : Code) (wanted : Nat) : (fuel : Nat) → (done : List Nat) → Bits →
    Except Error (List Nat × Bits)
  | 0, _, _ => .error .incomplete
  | fuel + 1, done, bits =>
    if wanted < done.length then .error .corrupt
    else if done.length = wanted then .ok (done.reverse, bits)
    else do
      let (symbol, bits) ← code.read bits
      if symbol < 16 then takeLengths code wanted fuel (symbol :: done) bits
      else if symbol = 16 then
        match done with
        | [] => .error .corrupt
        | last :: _ =>
          let (n, bits) ← takeNumber 2 bits
          takeLengths code wanted fuel (List.replicate (3 + n) last ++ done) bits
      else if symbol = 17 then
        let (n, bits) ← takeNumber 3 bits
        takeLengths code wanted fuel (List.replicate (3 + n) 0 ++ done) bits
      else
        let (n, bits) ← takeNumber 7 bits
        takeLengths code wanted fuel (List.replicate (11 + n) 0 ++ done) bits

/-- The two codes that a block describes before its data. -/
def takeCodes (bits : Bits) : Except Error (Code × Code × Bits) := do
  let (literals, bits) ← takeNumber 5 bits
  let (distances, bits) ← takeNumber 5 bits
  let (lengths, bits) ← takeNumber 4 bits
  let (literals, distances) := (literals + 257, distances + 1)
  if 286 < literals ∨ 30 < distances then .error .corrupt
  else
    let (written, bits) ← takeLengthCode (lengths + 4) bits
    let lengthOf (symbol : Nat) : Nat := written.getD (lengthOrder.idxOf symbol) 0
    let code ← Code.ofLengths ((List.range 19).map lengthOf)
    let (all, bits) ← takeLengths code (literals + distances) (bits.length + 1) [] bits
    let literalCode ← Code.ofLengths (all.take literals)
    let distanceCode ← Code.ofLengths (all.drop literals)
    return (literalCode, distanceCode, bits)

/-- Drops the bits up to the next whole byte. -/
def toByte (bits : Bits) : Bits := bits.drop (bits.length % 8)

/-- One block; `kind` is its type. -/
def readBlock (window kind : Nat) (p : Progress) : Except Stop Progress :=
  let lift {α : Type} (r : Except Error α) : Except Stop α := r.mapError (.failed p.out)
  if kind = 0 then do
    let (n, bits) ← lift (takeNumber 16 (toByte p.bits))
    let (check, bits) ← lift (takeNumber 16 bits)
    if n + check ≠ 65535 then .error (.failed p.out .corrupt)
    else readStored window n ⟨p.out, bits⟩
  else if kind = 1 then do
    let literals ← lift (Code.ofLengths fixedLiterals)
    let distances ← lift (Code.ofLengths fixedDistances)
    readSymbols literals distances window (p.bits.length + 1) p
  else if kind = 2 then do
    let (literals, distances, bits) ← lift (takeCodes p.bits)
    readSymbols literals distances window (bits.length + 1) ⟨p.out, bits⟩
  else .error (.failed p.out .corrupt)

/-- Blocks up to the last one. A block takes three bits at least. -/
def readBlocks (window : Nat) : (fuel : Nat) → Progress → Except Stop Progress
  | 0, p => .error (.failed p.out .incomplete)
  | fuel + 1, p => do
    let lift {α : Type} (r : Except Error α) : Except Stop α := r.mapError (.failed p.out)
    let (last, bits) ← lift (takeNumber 1 p.bits)
    let (kind, bits) ← lift (takeNumber 2 bits)
    let p ← readBlock window kind ⟨p.out, bits⟩
    if last = 1 then return p else readBlocks window fuel p

/-! ## Streams -/

/-- The two sums of the checksum, modulo 65521. -/
def adler32 (bytes : Array UInt8) : Nat :=
  let (a, b) := bytes.foldl (fun (a, b) x =>
    let a := (a + x.toNat) % 65521
    (a, (b + a) % 65521)) (1, 0)
  65536 * b + a

/-- The checksum at the end of a stream is written with its highest byte first. -/
def takeChecksum (bits : Bits) : Except Error Nat := do
  let (a, bits) ← takeNumber 8 bits
  let (b, bits) ← takeNumber 8 bits
  let (c, bits) ← takeNumber 8 bits
  let (d, _) ← takeNumber 8 bits
  return ((a * 256 + b) * 256 + c) * 256 + d

/-- A stream is in order if its method is deflate with a window of at most 32768 bytes, it needs no preset
dictionary, and its two header bytes are a multiple of 31. -/
def goodHeader (method flags : Nat) : Bool :=
  method % 16 == 8 && method / 16 ≤ 7 && !flags.testBit 5 && (256 * method + flags) % 31 == 0

def readStream (window : Nat) (bits : Bits) : Except Stop Progress := do
  let lift {α : Type} (out : Array UInt8) (r : Except Error α) : Except Stop α := r.mapError (.failed out)
  let (method, bits) ← lift #[] (takeNumber 8 bits)
  let (flags, bits) ← lift #[] (takeNumber 8 bits)
  if !goodHeader method flags then .error (.failed #[] .corrupt)
  else
    let p ← readBlocks window (bits.length + 1) ⟨#[], bits⟩
    if window ≤ p.out.size then return p
    else
      let sum ← lift p.out (takeChecksum (toByte p.bits))
      if sum = adler32 p.out then return p else .error (.failed p.out .corrupt)

/-- The bytes of a window. -/
def windowSize : Nat := 32768

/-- The first `limit` bytes of a stream, or all of them if there are fewer. A stream that breaks off is good
enough when it has brought `limit` bytes. -/
def inflate (limit : Nat) (data : List UInt8) : Except Error (List UInt8) :=
  if limit = 0 then .ok []
  else
    let window := (limit + windowSize - 1) / windowSize * windowSize
    match readStream window (data.flatMap byteBits) with
    | .ok p => .ok (p.out.toList.take limit)
    | .error (.enough out) => .ok (out.toList.take limit)
    | .error (.failed out .incomplete) =>
      if limit ≤ out.size then .ok (out.toList.take limit) else .error .incomplete
    | .error (.failed _ .corrupt) => .error .corrupt

end LabelPreview.Inflate
