import TelemetryBridge.Decimal.Reader
import TelemetryBridge.Decimal.Layout
import TelemetryBridge.Decimal.Shortest
import TelemetryBridge.Text.Utf8

/-!
# SQL values, number text and column affinity

A value of the embedded database is null, a 64-bit integer, a double, a text or a blob.

## Numbers in text

Text is read as a number by the longest prefix of the form `[sign] digits [. digits]
[e [sign] digits]` after blanks (at least one digit in the mantissa). Reading gives a double and
one of these verdicts (`NumberText.kind`):

* `pureInteger`: the whole text (blanks around it allowed) is digits with an optional sign;
* `pureReal`: the whole text is a number with a point or an exponent;
* `realPrefix`: only a prefix is a number, and that prefix has a point or a complete exponent;
* `noNumber`: anything else (a prefix without point or exponent counts here, as does a text
  without digits).

Only the first nineteen or so significant digits take part in the double: digits past the
point where the significand would leave 64 bits are dropped. The *leading integer* of a text is
read apart, by its digits before any other character, saturating at the ends of the 64-bit range.

## Affinity

Every column has an *affinity*, read off its declared type: a type naming `INT` is integer; one
naming `CHAR`, `CLOB` or `TEXT` is text; one naming `BLOB`, or no type, is blob; one naming
`REAL`, `FLOA` or `DOUB` is real; any other is numeric (checked in that order, ASCII letters in
any case).

Storing a value converts it by the column's affinity:

* numeric, integer and real columns read a text that is a number as that number; an
  integer-valued double strictly inside the 64-bit range becomes an integer in numeric and
  integer columns, while a real column keeps every number a double;
* a text column writes numbers as text: integers in decimal, doubles with fifteen significant
  digits and at least one digit after the point (`2.0`, `1.0e+308`), zero without a sign;
* a blob column keeps what it is given.

Main definitions: `Sql.Value`, `Sql.NumberText.read`, `Sql.Affinity`, `Sql.Affinity.apply`,
`Sql.realText`.
-/

namespace TelemetryBridge

namespace Sql

/-- A value stored in the database. -/
inductive Value where
  | null
  | integer (n : Int)
  | real (x : Float)
  | text (s : String)
  | blob (b : Bytes)
  deriving Inhabited

/-- ASCII upper case of a name, the case names are compared in. -/
def nameKey (n : String) : String := String.ofList (n.toList.map Char.toUpper)

/-- Whether two names are the same, without regard to ASCII case. -/
def sameName (a b : String) : Bool := nameKey a == nameKey b

/-- The smallest 64-bit integer. -/
def minInt : Int := -(2 ^ 63)

/-- The largest 64-bit integer. -/
def maxInt : Int := 2 ^ 63 - 1

/-- Whether a whole number lies in the 64-bit range. -/
def inRange (n : Int) : Bool := minInt ≤ n && n ≤ maxInt

/-- A whole number brought into the 64-bit range by wrapping, as machine arithmetic does. -/
def wrap64 (n : Int) : Int := (n + 2 ^ 63) % 2 ^ 64 - 2 ^ 63

/-- The blanks that may surround a number in text. -/
def isSpaceChar (c : Char) : Bool :=
  c == ' ' || c == '\t' || c == '\n' || c == '\r' || c == Char.ofNat 12 || c == Char.ofNat 11

/-- A decimal digit. -/
def isDigitChar (c : Char) : Bool := '0' ≤ c && c ≤ '9'

/-- The value of decimal digits. -/
def digitsNat (ds : List Char) : Nat := ds.foldl (fun acc c => 10 * acc + (c.toNat - 48)) 0

/-- How much of a text reads as a number. -/
inductive NumberKind where
  | noNumber
  | realPrefix
  | pureInteger
  | pureReal
  deriving Repr, DecidableEq, Inhabited

/-- A text read as a number: its double and its verdict. -/
structure NumberText where
  value : Float
  kind : NumberKind
  deriving Inhabited

/-- The largest significand that still takes another digit. -/
def significandLimit : Nat := (2 ^ 64 - 1 - 9) / 10

/-- Takes integer digits into a significand; once it reaches the limit, the remaining digits
only raise the exponent. Gives the significand, the digits counted, the exponent shift and the
rest of the text. -/
def integerDigits : List Char → Nat → Nat → Int → Nat × Nat × Int × List Char
  | c :: rest, s, n, d =>
    if isDigitChar c then
      if s ≥ significandLimit then integerDigits rest s n (d + 1)
      else integerDigits rest (10 * s + (c.toNat - 48)) (n + 1) d
    else (s, n, d, c :: rest)
  | [], s, n, d => (s, n, d, [])

/-- Takes fraction digits into a significand while it is below the limit, the others being
dropped. -/
def fractionDigits : List Char → Nat → Nat → Int → Nat × Nat × Int × List Char
  | c :: rest, s, n, d =>
    if isDigitChar c then
      if s < significandLimit then fractionDigits rest (10 * s + (c.toNat - 48)) (n + 1) (d - 1)
      else fractionDigits rest s n d
    else (s, n, d, c :: rest)
  | [], s, n, d => (s, n, d, [])

/-- The double nearest to `s · 10^e`. -/
def scaledDouble (s : Nat) (e : Int) : Float :=
  if s = 0 then 0
  else
    match readFloat (Bytes.ofString (toString s ++ "e" ++ toString e)) with
    | .ok x => x
    | .error _ => if e > 0 then 1 / 0 else 0

/-- Reads the number at the start of a text. -/
def NumberText.read (text : String) : NumberText :=
  let cs := text.toList.dropWhile isSpaceChar
  let (negative, cs) := match cs with
    | '-' :: r => (true, r)
    | '+' :: r => (false, r)
    | r => (false, r)
  let (s, n, d, r) := integerDigits cs 0 0 0
  let (s, n, d, r, point) := match r with
    | '.' :: r' =>
      let (s, n, d, r) := fractionDigits r' s n d
      (s, n, d, r, true)
    | r' => (s, n, d, r', false)
  let (e, r, hasExp, expValid) : Int × List Char × Bool × Bool := match r with
    | c :: r' =>
      if c == 'e' || c == 'E' then
        let (esign, r'') : Int × List Char := match r' with
          | '-' :: t => (-1, t)
          | '+' :: t => (1, t)
          | t => (1, t)
        let ds := r''.takeWhile isDigitChar
        (esign * (min (digitsNat ds) 10000 : Nat), r''.drop ds.length, true, !ds.isEmpty)
      else (0, c :: r', false, true)
    | [] => (0, [], false, true)
  let r := r.dropWhile isSpaceChar
  let magnitude := scaledDouble s (e + d)
  let value := if negative then -magnitude else magnitude
  let kindNum : Nat := 1 + (if point then 1 else 0) + (if hasExp then 1 else 0)
  let kind :=
    if r.isEmpty && n > 0 && expValid then
      if kindNum == 1 then NumberKind.pureInteger else NumberKind.pureReal
    else if kindNum ≥ 2 && (kindNum == 3 || expValid) && n > 0 then NumberKind.realPrefix
    else NumberKind.noNumber
  ⟨value, kind⟩

/-- How the leading integer of a text was read. -/
inductive IntegerKind where
  /-- No digit leads. -/
  | noDigits
  /-- The digits are the whole text, blanks aside, and fit 64 bits. -/
  | exact
  /-- Other text follows the digits, which fit 64 bits. -/
  | extraText
  /-- The digits leave the 64-bit range (the value saturates). -/
  | overflow
  /-- The digits are exactly `2^63`, which fits only after a minus sign. -/
  | edge
  deriving Repr, DecidableEq, Inhabited

/-- The leading integer of a text: blanks, a sign, then digits, saturating at the ends of the
64-bit range; with how it was read. -/
def leadingInteger (text : String) : Int × IntegerKind :=
  let cs := text.toList.dropWhile isSpaceChar
  let (negative, cs) := match cs with
    | '-' :: r => (true, r)
    | '+' :: r => (false, r)
    | r => (false, r)
  let zeros := cs.takeWhile (· == '0')
  let body := cs.drop zeros.length
  let ds := body.takeWhile isDigitChar
  let rest := body.drop ds.length
  let u : Nat := digitsNat ds
  let value : Int :=
    if u > 2 ^ 63 - 1 then (if negative then minInt else maxInt)
    else if negative then -(u : Int) else u
  let base : IntegerKind :=
    if ds.isEmpty && zeros.isEmpty then .noDigits
    else if rest.all isSpaceChar then .exact
    else .extraText
  if ds.length < 19 then (value, base)
  else if u < 2 ^ 63 then (value, base)
  else if u > 2 ^ 63 then ((if negative then minInt else maxInt), .overflow)
  else if negative then (minInt, base)
  else (maxInt, .edge)

/-- The whole number a double stands for when cut toward zero, saturating at the ends of the
64-bit range. -/
def realToInt (x : Float) : Int :=
  match Binary.ofFloat x with
  | .finite neg mag =>
    let q : Int := mag / 2 ^ 1074
    let v := if neg then -q else q
    if v < minInt then minInt else if v > maxInt then maxInt else v
  | .inf neg => if neg then minInt else maxInt
  | .nan => minInt

/-- The integer a double equals exactly, strictly inside the 64-bit range. -/
def exactInteger (x : Float) : Option Int :=
  match Binary.ofFloat x with
  | .finite neg mag =>
    if mag % 2 ^ 1074 = 0 then
      let q : Int := mag / 2 ^ 1074
      let v := if neg then -q else q
      if minInt < v ∧ v < maxInt then some v else none
    else none
  | _ => none

/-- Whether a double equals an integer that is small enough (below `2^51` in magnitude) to
stand for it; zero always does. -/
def sameAsSmallInt (x : Float) (i : Int) : Bool :=
  x == 0 || (Float.ofInt i == x && -(2 ^ 51 : Int) ≤ i && i < 2 ^ 51)

/-- A double clamped to the 64-bit range as the database does before comparing it with an
integer. -/
def clampToInt (x : Float) : Int :=
  if x < -9223372036854774784.0 then minInt
  else if x > 9223372036854774784.0 then maxInt
  else realToInt x

/-- A text read as a number when all of it is one: an integer when it is written as one and fits
64 bits (or when its double is a small whole number), else a double; `none` when it is not a
number. -/
def numberOfText (s : String) : Option Value :=
  let r := NumberText.read s
  match r.kind with
  | .pureInteger =>
    let i := clampToInt r.value
    if sameAsSmallInt r.value i then some (.integer i)
    else
      match leadingInteger s with
      | (n, .exact) => some (.integer n)
      | _ => some (.real r.value)
  | .pureReal => some (.real r.value)
  | _ => none

/-- Decimal digits of a positive magnitude rounded to `n` significant digits (a half rounds
up), with the decimal exponent of the first digit. -/
def significant (mag : Nat) (n : Nat) : Nat × Int :=
  let e := Decimal.floorLog10 mag (2 ^ 1074)
  let shift := e - (n : Int) + 1
  let (num, den) := if shift ≥ 0 then (mag, 2 ^ 1074 * 10 ^ shift.toNat)
    else (mag * 10 ^ (-shift).toNat, 2 ^ 1074)
  let d := num / den + (if 2 * (num % den) ≥ den then 1 else 0)
  if d ≥ 10 ^ n then (d / 10, e + 1) else (d, e)

/-- Trailing zeros dropped from fraction digits, one digit kept. -/
def trimFraction (fr : List Char) : String :=
  let fr := (fr.reverse.dropWhile (· == '0')).reverse
  String.ofList (if fr.isEmpty then ['0'] else fr)

/-- The text of a double with fifteen significant digits in general layout, trailing zeros
dropped but one digit kept after the point. Zero has no sign: a negative zero is not below
zero. -/
def realText (x : Float) : String :=
  match Binary.ofFloat x with
  | .nan => ""
  | .inf neg => if neg then "-Inf" else "Inf"
  | .finite neg mag =>
    let sign := if neg then "-" else ""
    if mag = 0 then "0.0"
    else
      let (d, e) := significant mag 15
      let ds := (toString d).toList
      if e < -4 ∨ e ≥ 15 then
        let ex := e.natAbs
        let exText := (if ex < 10 then "0" else "") ++ toString ex
        sign ++ String.ofList (ds.take 1) ++ "." ++ trimFraction (ds.drop 1) ++ "e" ++
          (if e < 0 then "-" else "+") ++ exText
      else if e ≥ 0 then
        let k := e.toNat + 1
        sign ++ String.ofList (ds.take k) ++ "." ++ trimFraction (ds.drop k)
      else
        let zeros := List.replicate ((-e).toNat - 1) '0'
        sign ++ "0." ++ trimFraction (zeros ++ ds)

/-- How a column converts the values stored in it. -/
inductive Affinity where
  | integer
  | real
  | numeric
  | text
  | blob
  deriving Repr, DecidableEq, Inhabited

/-- Whether `part` occurs in `s`. -/
def occursIn (part s : List Char) : Bool :=
  match s with
  | [] => part.isEmpty
  | _ :: rest => part.isPrefixOf s || occursIn part rest

/-- The affinity of a declared column type. -/
def Affinity.ofType (declared : String) : Affinity :=
  let u := (nameKey declared).toList
  let has (w : String) := occursIn w.toList u
  if has "INT" then .integer
  else if has "CHAR" || has "CLOB" || has "TEXT" then .text
  else if has "BLOB" || u.isEmpty then .blob
  else if has "REAL" || has "FLOA" || has "DOUB" then .real
  else .numeric

/-- Whether an affinity is one of the numeric ones. -/
def Affinity.isNumeric : Affinity → Bool
  | .integer | .real | .numeric => true
  | _ => false

namespace Value

/-- A blob's bytes as text, each invalid byte standing for the replacement character. -/
def bytesText (b : Bytes) : String := String.fromUTF8! ⟨(Utf8.repair b).toArray⟩

/-- Text of a value: integers in decimal, doubles with fifteen digits, blobs as their bytes. -/
def asText : Value → String
  | .null => ""
  | .integer n => toString n
  | .real x => realText x
  | .text s => s
  | .blob b => bytesText b

/-- Whether a value is null. -/
def isNull : Value → Bool
  | .null => true
  | _ => false

/-- Whether a value is a text. -/
def isText : Value → Bool
  | .text _ => true
  | _ => false

/-- Whether a value is a number. -/
def isNumber : Value → Bool
  | .integer _ | .real _ => true
  | _ => false

/-- A value converted to a number by reading a text (or blob) that is all a number; other
values are kept. When `preferInt`, an integer-valued double strictly inside the 64-bit range
becomes an integer. -/
def numericForm (preferInt : Bool) (v : Value) : Value :=
  let fromText (s : String) : Value :=
    match numberOfText s with
    | some (.real x) =>
      if preferInt then
        match exactInteger x with
        | some n => .integer n
        | none => .real x
      else .real x
    | some w => w
    | none => v
  match v with
  | .text s => fromText s
  | _ => v

/-- The integer of a value as machine conversions give it: a double cut toward zero and
saturated, a text or blob by its leading integer, null as `0`. -/
def intValue : Value → Int
  | .null => 0
  | .integer n => n
  | .real x => realToInt x
  | .text s => (leadingInteger s).1
  | .blob b => (leadingInteger (bytesText b)).1

/-- The double of a value: an integer converted, a text or blob by its leading number, null as
`0`. -/
def realValue : Value → Float
  | .null => 0
  | .integer n => Float.ofInt n
  | .real x => x
  | .text s => (NumberText.read s).value
  | .blob b => (NumberText.read (bytesText b)).value

/-- The number a text stands for in arithmetic: an integer when its number has neither point nor
complete exponent and fits 64 bits, else the double of its leading number. -/
def textNumber (s : String) : Value :=
  let r := NumberText.read s
  match r.kind with
  | .pureReal | .realPrefix => .real r.value
  | .pureInteger =>
    match leadingInteger s with
    | (n, .exact) => .integer n
    | _ => .real r.value
  | .noNumber =>
    match leadingInteger s with
    | (_, .overflow) | (_, .edge) => .real r.value
    | (n, _) => .integer n

/-- A value as an operand of arithmetic: null, an integer or a double. -/
def numeric : Value → Value
  | .text s => textNumber s
  | .blob b => textNumber (bytesText b)
  | v => v

end Value

namespace Affinity

/-- A value converted for storage in a column of this affinity. -/
def apply (a : Affinity) (v : Value) : Value :=
  match a, v with
  | .text, .integer n => .text (toString n)
  | .text, .real x => .text (realText x)
  | .text, v => v
  | .blob, v => v
  | .real, .integer n => .real (Float.ofInt n)
  | .real, .text s =>
    match numberOfText s with
    | some (.integer n) => .real (Float.ofInt n)
    | some w => w
    | none => .text s
  | .real, v => v
  | _, .text s => v.numericForm true
  | _, .real x =>
    match exactInteger x with
    | some n => .integer n
    | none => .real x
  | _, v => v

end Affinity

end Sql

end TelemetryBridge
