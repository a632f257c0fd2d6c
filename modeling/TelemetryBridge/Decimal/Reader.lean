import TelemetryBridge.Decimal.Binary
import TelemetryBridge.Text.Bytes

/-!
# Reading number text

Number text in requests, documents, configuration and SQL literals is read by one reader, with
the grammar of floating-point literals of common programming languages:

* an optional sign, then decimal digits with at most one point and an optional exponent
  `e[+-]digits`, or `0x` followed by hexadecimal digits with at most one point and a mandatory
  binary exponent `p[+-]digits`;
* underscores may separate digits (also from a `0x` prefix), never lead, trail or double;
* `inf`, `infinity` (with an optional sign) and `nan`, in any case.

The value is the double nearest to the exact value of the text, ties to even. A text whose value
rounds past the largest double is refused as out of range; one too small for the smallest
subnormal reads as zero of its sign.

Main definition: `readFloat`.
-/

namespace TelemetryBridge

/-- Why a number text was refused. -/
inductive ReadError where
  /-- The text is not a number. -/
  | malformed
  /-- The text is a number too large for a double. -/
  | range
  deriving Repr, DecidableEq, Inhabited

namespace NumberText

/-- The pieces of a number text: sign, all mantissa digits as one whole number, the count of
digits after the point, the base (10 or 16), and the written exponent. -/
structure Parts where
  neg : Bool
  mant : Nat
  fracDigits : Nat
  hex : Bool
  exp : Int
  deriving Repr

/-- Whether a byte is a digit in the given base (10 or 16). -/
def isBaseDigit (hex : Bool) (b : UInt8) : Bool :=
  Bytes.isDigit b || (hex && (Bytes.hexValue? b).isSome)

/-- The class of a character for the underscore rule: a digit (or base prefix), an
underscore, or anything else. -/
inductive Seen where
  | start
  | digit
  | underscore
  | other
  deriving DecidableEq

/-- Underscores may stand only between digits, or between a base prefix and a digit. -/
def underscoresFit (s : Bytes) : Bool :=
  let s := match s with
    | 45 :: r => r
    | 43 :: r => r
    | r => r
  let (hex, first, body) := match s with
    | 48 :: x :: r =>
      if Bytes.lowerAscii x = 120 then (true, Seen.digit, r)
      else if Bytes.lowerAscii x = 98 ∨ Bytes.lowerAscii x = 111 then (false, Seen.digit, r)
      else (false, Seen.start, s)
    | _ => (false, Seen.start, s)
  let final := body.foldl (fun (acc : Option Seen) b =>
    match acc with
    | none => none
    | some seen =>
      if isBaseDigit hex b then some .digit
      else if b = 95 then (if seen = .digit then some .underscore else none)
      else if seen = .underscore then none
      else some .other) (some first)
  match final with
  | some .underscore => false
  | some _ => true
  | none => false

/-- Reads the digits of a mantissa: the whole-number value of all digits, the count of digits
after the point, whether any digit occurred, whether an underscore occurred, and the rest. -/
def mantissa (hex : Bool) : Bytes → Nat → Nat → Bool → Bool → Bool →
    Nat × Nat × Bool × Bool × Bytes
  | [], m, f, _, any, u => (m, f, any, u, [])
  | b :: rest, m, f, dot, any, u =>
    if b = 95 then mantissa hex rest m f dot any true
    else if b = 46 then
      if dot then (m, f, any, u, b :: rest) else mantissa hex rest m f true any u
    else if isBaseDigit hex b then
      let v := (Bytes.hexValue? b).getD 0
      mantissa hex rest (m * (if hex then 16 else 10) + v) (if dot then f + 1 else f) dot true u
    else (m, f, any, u, b :: rest)

/-- Reads exponent digits (underscores allowed), saturating the value beyond ten thousand as
a reader does that only needs to know the exponent is huge. -/
def expDigits : Bytes → Nat → Bool → Nat × Bool × Bytes
  | [], e, u => (e, u, [])
  | b :: rest, e, u =>
    if b = 95 then expDigits rest e true
    else if Bytes.isDigit b then
      expDigits rest (if e < 10000 then e * 10 + Bytes.digitValue b else e) u
    else (e, u, b :: rest)

/-- The sign of a number text and the body after it. -/
def signSplit (s : Bytes) : Bool × Bytes :=
  match s with
  | 45 :: r => (true, r)
  | 43 :: r => (false, r)
  | r => (false, r)

/-- Whether a body is hexadecimal (`0x` and at least one more byte), and its digits. -/
def baseSplit (body : Bytes) : Bool × Bytes :=
  match body with
  | 48 :: x :: r@(_ :: _) => if Bytes.lowerAscii x = 120 then (true, r) else (false, body)
  | _ => (false, body)

/-- The exponent after a mantissa: its signed value, whether an underscore occurred in it, and
the bytes after it; `none` when it is malformed or, for hexadecimal, missing. -/
def exponent? (hex : Bool) (rest : Bytes) : Option (Int × Bool × Bytes) :=
  let expMark : UInt8 := if hex then 112 else 101
  match rest with
  | x :: r =>
    if Bytes.lowerAscii x = expMark then
      let (esign, r') := match r with
        | 43 :: t => (1, t)
        | 45 :: t => (-1, t)
        | t => ((1 : Int), t)
      match r' with
      | d :: _ =>
        if Bytes.isDigit d then
          let (e, u2, tail) := expDigits r' 0 false
          some (esign * e, u2, tail)
        else none
      | [] => none
    else if hex then none else some (0, false, rest)
  | [] => if hex then none else some (0, false, [])

/-- Splits a whole number text into its parts; `none` when it does not follow the grammar. -/
def parts? (s : Bytes) : Option Parts :=
  let (neg, body) := signSplit s
  let (hex, digits) := baseSplit body
  let (m, f, any, u1, rest) := mantissa hex digits 0 0 false false false
  if !any then none
  else
    match exponent? hex rest with
    | none => none
    | some (e, u2, r) =>
      if !r.isEmpty then none
      else if (u1 || u2) && !underscoresFit s then none
      else some ⟨neg, m, f, hex, e⟩

/-- Number of decimal digits of a positive number. -/
def decimalWidth (n : Nat) : Nat := (toString n).length

/-- The double of number parts: exact value `mant · 10^(exp - fracDigits)` (decimal) or
`mant · 2^(exp - 4 · fracDigits)` (hexadecimal), rounded to nearest. -/
def Parts.value (p : Parts) : Except ReadError Binary :=
  if p.mant = 0 then .ok (.finite p.neg 0)
  else if p.hex then
    let e : Int := p.exp - 4 * (p.fracDigits : Int)
    let size : Int := (Nat.log2 p.mant : Int) + e
    if size > 1100 then .error .range
    else if size < -1200 then .ok (.finite p.neg 0)
    else
      let (n, d) := if 0 ≤ e then (p.mant * 2 ^ e.toNat, 1) else (p.mant, 2 ^ (-e).toNat)
      match Binary.nearest n d with
      | some mag => .ok (.finite p.neg mag)
      | none => .error .range
  else
    let e : Int := p.exp - (p.fracDigits : Int)
    let size : Int := (decimalWidth p.mant : Int) + e
    if size > 330 then .error .range
    else if size < -400 then .ok (.finite p.neg 0)
    else
      let (n, d) := if 0 ≤ e then (p.mant * 10 ^ e.toNat, 1) else (p.mant, 10 ^ (-e).toNat)
      match Binary.nearest n d with
      | some mag => .ok (.finite p.neg mag)
      | none => .error .range

/-- Length of the common prefix of a text with a word, ignoring ASCII case. -/
def commonPrefixIgnoreCase (s w : Bytes) : Nat :=
  ((s.zip w).takeWhile fun (a, b) => Bytes.lowerAscii a = Bytes.lowerAscii b).length

/-- The special texts: an optionally signed `inf` or `infinity`, or `nan`, each in any case
and filling the whole text. -/
def special? (s : Bytes) : Option Binary :=
  let word (t : Bytes) : Option Nat :=
    let n := commonPrefixIgnoreCase t (Bytes.ofString "infinity")
    let n := if 3 < n ∧ n < 8 then 3 else n
    if (n = 3 ∨ n = 8) ∧ n = t.length then some n else none
  match s with
  | 43 :: t => (word t).map fun _ => .inf false
  | 45 :: t => (word t).map fun _ => .inf true
  | t =>
    if commonPrefixIgnoreCase t (Bytes.ofString "nan") = 3 ∧ t.length = 3 then some .nan
    else (word t).map fun _ => .inf false

end NumberText

/-- Reads a number text as the nearest double. -/
def readBinary (s : Bytes) : Except ReadError Binary :=
  match NumberText.special? s with
  | some x => .ok x
  | none =>
    match NumberText.parts? s with
    | some p => p.value
    | none => .error .malformed

/-- Reads a number text as the nearest `Float`. -/
def readFloat (s : Bytes) : Except ReadError Float := (readBinary s).map Binary.toFloat

/-- Reads decimal integer text, with an optional sign, as a signed 64-bit integer. -/
def readInt64 (s : Bytes) : Except ReadError Int :=
  let (neg, ds) := NumberText.signSplit s
  if ds.isEmpty || !ds.all Bytes.isDigit then .error .malformed
  else
    let n : Int := if neg then -(Bytes.digitsValue ds : Int) else Bytes.digitsValue ds
    if -(2 ^ 63 : Int) ≤ n ∧ n < 2 ^ 63 then .ok n else .error .range

end TelemetryBridge
