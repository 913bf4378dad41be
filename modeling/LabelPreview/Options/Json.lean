import LabelPreview.Options.Basic

/-! # Options from JSON

The options are an object with a member for each setting, or an array with the settings in order. What is left
out has its default, and members of other names are passed over.
-/

namespace LabelPreview

/-! ## Values -/

/-- A number as written: sign, digits, digits behind the point, and exponent. -/
structure JsonNumber where
  negative : Bool
  whole : Text
  fraction : Option Text
  exponent : Option Int

/-- Strings that are not text, because half of a surrogate pair is missing, are `none`. -/
inductive JsonValue where
  | null
  | bool (b : Bool)
  | number (n : JsonNumber)
  | string (s : Option Text)
  | array (items : List JsonValue)
  | object (members : List (Option Text × JsonValue))

namespace JsonValue

def isSpace (c : Char) : Bool := c == ' ' || c == '\n' || c == '\t' || c == '\r'

def skipSpace (s : Text) : Text := s.dropWhile isSpace

/-! ## Strings -/

/-- Four hexadecimal digits. -/
def takeUnit : Text → Option (Nat × Text)
  | a :: b :: c :: d :: rest => do
    let a ← Text.hexDigit? a
    let b ← Text.hexDigit? b
    let c ← Text.hexDigit? c
    let d ← Text.hexDigit? d
    return (((a * 16 + b) * 16 + c) * 16 + d, rest)
  | _ => none

/-- The character of an escape letter. -/
def escapeLetter? : Char → Option Char
  | '"' => some '"'
  | '\\' => some '\\'
  | '/' => some '/'
  | 'b' => some '\x08'
  | 'f' => some '\x0c'
  | 'n' => some '\n'
  | 'r' => some '\r'
  | 't' => some '\t'
  | _ => none

/-- One piece of a string: a character, or a 16-bit unit that was written as an escape. -/
inductive Piece where
  | char (c : Char)
  | unit (n : Nat)

/-- The pieces up to the closing quote. -/
def takePieces : (fuel : Nat) → Text → Option (List Piece × Text)
  | 0, _ => none
  | _ + 1, [] => none
  | fuel + 1, c :: rest =>
    if c = '"' then some ([], rest)
    else if c = '\\' then
      match rest with
      | 'u' :: rest => do
        let (n, rest) ← takeUnit rest
        let (pieces, rest) ← takePieces fuel rest
        return (.unit n :: pieces, rest)
      | e :: rest => do
        let c ← escapeLetter? e
        let (pieces, rest) ← takePieces fuel rest
        return (.char c :: pieces, rest)
      | [] => none
    else if c.toNat < 32 then none
    else do
      let (pieces, rest) ← takePieces fuel rest
      return (.char c :: pieces, rest)

def isHighSurrogate (n : Nat) : Bool := 0xD800 ≤ n && n < 0xDC00

def isLowSurrogate (n : Nat) : Bool := 0xDC00 ≤ n && n < 0xE000

/-- The text of the pieces; two units that follow each other may be one character. -/
def pieceText : List Piece → Option Text
  | [] => some []
  | .char c :: rest => (pieceText rest).map (c :: ·)
  | .unit high :: .unit low :: rest =>
    if isHighSurrogate high then
      if isLowSurrogate low then
        (pieceText rest).map (Char.ofNat (0x10000 + (high - 0xD800) * 1024 + (low - 0xDC00)) :: ·)
      else none
    else if isLowSurrogate high then none
    else (pieceText (.unit low :: rest)).map (Char.ofNat high :: ·)
  | .unit n :: rest =>
    if isHighSurrogate n || isLowSurrogate n then none else (pieceText rest).map (Char.ofNat n :: ·)

/-! ## Numbers -/

/-- Digits without a needless leading zero. -/
def takeWhole (s : Text) : Option (Text × Text) :=
  match s.takeWhile Char.isDigit with
  | [] => none
  | '0' :: _ :: _ => none
  | run => some (run, s.dropWhile Char.isDigit)

def takeFraction : Text → Option (Option Text × Text)
  | '.' :: rest =>
    let run := rest.takeWhile Char.isDigit
    if run.isEmpty then none else some (some run, rest.dropWhile Char.isDigit)
  | s => some (none, s)

def takeExponentPart (s : Text) : Option (Option Int × Text) :=
  match s with
  | 'e' :: _ | 'E' :: _ => (Text.takeExponent s).map fun (n, rest) => (some n, rest)
  | _ => some (none, s)

def takeNumber (s : Text) : Option (JsonNumber × Text) := do
  let (negative, s) := match s with
    | '-' :: rest => (true, rest)
    | _ => (false, s)
  let (whole, s) ← takeWhole s
  let (fraction, s) ← takeFraction s
  let (exponent, s) ← takeExponentPart s
  return (⟨negative, whole, fraction, exponent⟩, s)

/-! ## Reading -/

mutual

/-- A value and the rest of the text. Every value and every member takes a character, so `fuel` need not
exceed the length of the text. -/
def take : (fuel : Nat) → Text → Option (JsonValue × Text)
  | 0, _ => none
  | fuel + 1, s =>
    match skipSpace s with
    | 'n' :: 'u' :: 'l' :: 'l' :: rest => some (.null, rest)
    | 't' :: 'r' :: 'u' :: 'e' :: rest => some (.bool true, rest)
    | 'f' :: 'a' :: 'l' :: 's' :: 'e' :: rest => some (.bool false, rest)
    | '"' :: rest => (takePieces (rest.length + 1) rest).map fun (p, rest) => (.string (pieceText p), rest)
    | '[' :: rest =>
      match skipSpace rest with
      | ']' :: rest => some (.array [], rest)
      | rest => (takeItems fuel rest).map fun (items, rest) => (.array items, rest)
    | '\x7b' :: rest =>
      match skipSpace rest with
      | '\x7d' :: rest => some (.object [], rest)
      | rest => (takeMembers fuel rest).map fun (members, rest) => (.object members, rest)
    | s => (takeNumber s).map fun (n, rest) => (.number n, rest)

/-- Values up to the closing bracket; at least one. -/
def takeItems : (fuel : Nat) → Text → Option (List JsonValue × Text)
  | 0, _ => none
  | fuel + 1, s => do
    let (item, rest) ← take fuel s
    match skipSpace rest with
    | ',' :: rest =>
      let (items, rest) ← takeItems fuel rest
      return (item :: items, rest)
    | ']' :: rest => return ([item], rest)
    | _ => none

/-- Members up to the closing brace; at least one. -/
def takeMembers : (fuel : Nat) → Text → Option (List (Option Text × JsonValue) × Text)
  | 0, _ => none
  | fuel + 1, s =>
    match skipSpace s with
    | '"' :: rest => do
      let (pieces, rest) ← takePieces (rest.length + 1) rest
      match skipSpace rest with
      | ':' :: rest =>
        let (value, rest) ← take fuel rest
        let member := (pieceText pieces, value)
        match skipSpace rest with
        | ',' :: rest =>
          let (members, rest) ← takeMembers fuel rest
          return (member :: members, rest)
        | '\x7d' :: rest => return ([member], rest)
        | _ => none
      | _ => none
    | _ => none

end

/-- A text that holds one value and nothing else. -/
def read? (s : Text) : Option JsonValue :=
  match take (2 * s.length + 2) s with
  | some (v, rest) => if (skipSpace rest).isEmpty then some v else none
  | none => none

end JsonValue

/-! ## Numbers as sizes -/

namespace JsonNumber

/-- The digits taken into a 64-bit number, and how many are left over. -/
def takeDigits (n : Nat) : Text → Nat × Nat
  | [] => (n, 0)
  | c :: rest =>
    let next := 10 * n + (c.toNat - 48)
    if next < 0x10000000000000000 then takeDigits next rest else (n, rest.length + 1)

/-- A whole number that fits in 64 bits. -/
def whole? (n : JsonNumber) : Option Nat :=
  match n.fraction, n.exponent, takeDigits 0 n.whole with
  | none, none, (value, 0) => some value
  | _, _, _ => none

def powerOfTen (n : Nat) : Float := Decimal.toFloat ⟨false, 1, n⟩

/-- The value of `x` times a power of ten, computed with one multiplication or division where the power is
a number of double precision. Out of range is `none`. -/
def scaled (x : Float) (exponent : Int) : Option Float :=
  if x == 0.0 then some x
  else if 308 < exponent then none
  else if 0 ≤ exponent then
    let y := x * powerOfTen exponent.toNat
    if y.isFinite then some y else none
  else if -308 ≤ exponent then some (x / powerOfTen (-exponent).toNat)
  else
    let y := x / powerOfTen 308
    if -616 ≤ exponent then some (y / powerOfTen (-exponent - 308).toNat) else some 0.0

/-- The number in double precision. Digits past the first nineteen or so only count for its size. -/
def toFloat? (n : JsonNumber) : Option Float := do
  let (value, left) := takeDigits 0 n.whole
  let fraction := n.fraction.getD []
  let (value, unused) := takeDigits value fraction
  let places := fraction.length - unused
  let exponent := (n.exponent.getD 0) + (left : Int) - (places : Int)
  let x ← scaled (Float.ofNat value) exponent
  return if n.negative then -x else x

/-- The number in single precision. A whole number is rounded once. -/
def toFloat32? (n : JsonNumber) : Option Float32 :=
  match n.whole? with
  | some value => some (Decimal.toFloat32 ⟨n.negative, value, 0⟩)
  | none => n.toFloat?.map Float.toFloat32

end JsonNumber

/-! ## Settings -/

namespace Options

/-- The settings in their order. -/
inductive Setting where
  | dpi
  | dimensions
  | orientation
  | scale
  | devicePixelRatio
  | foreground
  | background
  deriving DecidableEq, Repr

namespace Setting

def all : List Setting :=
  [.dpi, .dimensions, .orientation, .scale, .devicePixelRatio, .foreground, .background]

/-- The setting of a member name. -/
def ofName? (name : String) : Option Setting :=
  [("dpi", dpi), ("dimensions", dimensions), ("orientation", orientation), ("scale", scale),
    ("devicePixelRatio", devicePixelRatio), ("device_pixel_ratio", devicePixelRatio),
    ("foreground", foreground), ("foregroundColor", foreground),
    ("background", background), ("backgroundColor", background)].lookup name

end Setting

def orientationOfName? : Text → Option LabelOrientation
  | ['p', 'o', 'r', 't', 'r', 'a', 'i', 't'] => some .portrait
  | ['l', 'a', 'n', 'd', 's', 'c', 'a', 'p', 'e'] => some .landscape
  | _ => none

/-- Sets a setting from a value of its type. -/
def set? (o : Options) : Setting → JsonValue → Option Options
  | .dpi, .number n =>
    match n.negative, n.whole? with
    | false, some value => if value < 0x100000000 then some { o with dpi := value } else none
    | _, _ => none
  | .dimensions, .string (some s) => some { o with dimensions := s }
  | .orientation, .string (some s)
  | .orientation, .object [(some s, .null)] =>
    (orientationOfName? s).map fun orientation => { o with orientation }
  | .scale, .number n => n.toFloat32?.map fun scale => { o with scale }
  | .devicePixelRatio, .number n => n.toFloat32?.map fun devicePixelRatio => { o with devicePixelRatio }
  | .foreground, .string (some s) => some { o with foreground := s }
  | .background, .string (some s) => some { o with background := s }
  | _, _ => none

/-- Sets the settings in order. There may be fewer values than settings but not more. -/
def setItems (o : Options) : List Setting → List JsonValue → Option Options
  | _, [] => some o
  | [], _ :: _ => none
  | setting :: settings, v :: rest => do
    let o ← o.set? setting v
    setItems o settings rest

/-- Sets the settings by name. A setting may be given once. -/
def setMembers (o : Options) (given : List Setting) : List (Option Text × JsonValue) → Option Options
  | [] => some o
  | (none, _) :: _ => none
  | (some name, v) :: rest =>
    match Setting.ofName? (String.ofList name) with
    | none => setMembers o given rest
    | some setting => do
      if given.contains setting then none
      let o ← o.set? setting v
      setMembers o (setting :: given) rest

/-- The options that a JSON text holds, before they are checked. -/
def ofValue? : JsonValue → Option Options
  | .object members => setMembers {} [] members
  | .array items => setItems {} Setting.all items
  | _ => none

/-- Reads options and checks them. -/
def ofJson (s : Text) : Except OptionsError Options :=
  match (JsonValue.read? s).bind ofValue? with
  | none => .error .json
  | some o => o.validate.map fun _ => o

end Options

end LabelPreview
