import TelemetryBridge.Yaml.Token
import TelemetryBridge.Decimal.Reader
import TelemetryBridge.Text.Utf8
import TelemetryBridge.Time.Stamp

/-!
# What a YAML scalar means

A quoted or block scalar, and one tagged `!!str`, is text. A plain scalar is read by its form:

* `~`, `null`, `Null`, `NULL` and the empty scalar are null;
* `true`, `True`, `TRUE` and `false`, `False`, `FALSE` are booleans;
* `.inf`, `-.inf`, `.nan` in their three spellings are the special doubles;
* a scalar that starts with a digit or a sign is a timestamp when it has one of the layouts
  `Y-M-DTh:m:s[.f]Z`, with `t` for `T`, `Y-M-D h:m:s[.f]` or `Y-M-D` (`Y` four digits, `M`, `D`,
  `h`, `m`, `s` one or two, `Z` the letter or an offset `±hh:mm`) and a valid date and time;
  else, underscores removed, an integer when it is one in Go-style notation (decimal, `0x`,
  `0o`, `0b`, or a leading `0` for octal) within the signed or unsigned 64-bit range, else a
  double when it has the form `[-+]?(\.[0-9]+|[0-9]+(\.[0-9]*)?)([eE][-+]?[0-9]+)?` and is
  within range;
* a scalar that starts with a point is a double when it reads as one;
* anything else is text.

A scalar tagged with a type of the core schema (`!!null`, `!!bool`, `!!int`, `!!float`,
`!!timestamp`) must read as that type, an integer counting as a double. A scalar tagged
`!!binary` holds base64 data, which is decoded. Any other tag makes it text.

Main definitions: `Yaml.Scalar`, `Yaml.resolvePlain`, `Yaml.implicitTag`, `Yaml.meaning`.
-/

namespace TelemetryBridge

namespace Yaml

/-- The meaning of a scalar. -/
inductive Scalar where
  | null
  | bool (b : Bool)
  | int (n : Int)
  | float (x : Float)
  | text (s : String)
  /-- A timestamp; its text is the scalar's own. -/
  | stamp
  /-- Binary data, decoded, with every byte that is not UTF-8 read as `U+FFFD`. -/
  | bytes (s : String)
  deriving Inhabited

/-- The value of a digit in a base, if it is one. -/
def digitIn (base : Nat) (c : Char) : Option Nat :=
  let d := if '0' ≤ c ∧ c ≤ '9' then some (c.toNat - 48)
    else if 'a' ≤ c ∧ c ≤ 'z' then some (c.toNat - 87)
    else if 'A' ≤ c ∧ c ≤ 'Z' then some (c.toNat - 55) else none
  d.bind fun d => if d < base then some d else none

/-- The value of digits in a base; `none` when empty or when a character is no digit. -/
def digitsIn (base : Nat) (cs : List Char) : Option Nat :=
  if cs.isEmpty then none
  else cs.foldl (fun acc c => acc.bind fun v => (digitIn base c).map (v * base + ·)) (some 0)

/-- An unsigned number with an optional base prefix (`0x`, `0o`, `0b`, or `0` for octal). -/
def unsignedWithPrefix (cs : List Char) : Option Nat :=
  match cs with
  | '0' :: p :: rest =>
    if p == 'x' || p == 'X' then digitsIn 16 rest
    else if p == 'o' || p == 'O' then digitsIn 8 rest
    else if p == 'b' || p == 'B' then digitsIn 2 rest
    else digitsIn 8 (p :: rest)
  | _ => digitsIn 10 cs

/-- A Go-style integer: a sign, then an unsigned number with an optional base prefix; within
the signed 64-bit range, or without a sign within the unsigned one. -/
def readInteger (cs : List Char) : Option Int :=
  match cs with
  | '-' :: rest => (unsignedWithPrefix rest).bind fun n =>
      if n ≤ 2 ^ 63 then some (-(n : Int)) else none
  | '+' :: rest => (unsignedWithPrefix rest).bind fun n =>
      if n < 2 ^ 63 then some (n : Int) else none
  | _ => (unsignedWithPrefix cs).bind fun n => if n < 2 ^ 64 then some (n : Int) else none

/-- Whether the text has the form of a YAML float:
`[-+]?(\.[0-9]+|[0-9]+(\.[0-9]*)?)([eE][-+]?[0-9]+)?`. -/
def floatForm (cs : List Char) : Bool :=
  let isD (c : Char) := '0' ≤ c && c ≤ '9'
  let cs := match cs with
    | '-' :: r | '+' :: r => r
    | r => r
  let (mantissaOk, rest) := match cs with
    | '.' :: r =>
      let ds := r.takeWhile isD
      (!ds.isEmpty, r.drop ds.length)
    | r =>
      let ds := r.takeWhile isD
      let r := r.drop ds.length
      match r with
      | '.' :: r' => (!ds.isEmpty, r'.dropWhile isD)
      | _ => (!ds.isEmpty, r)
  let expOk := match rest with
    | [] => true
    | e :: r =>
      if e == 'e' || e == 'E' then
        let r := match r with
          | '-' :: t | '+' :: t => t
          | t => t
        !r.isEmpty && r.all isD
      else false
  mantissaOk && expOk

/-- A double read from text, if it reads within range. -/
def readDouble (s : String) : Option Float := (readFloat (Bytes.ofString s)).toOption

/-- Reads one or two decimal digits. -/
def oneOrTwo : List Char → Option (Nat × List Char)
  | a :: b :: rest =>
    if !a.isDigit then none
    else if b.isDigit then some ((a.toNat - 48) * 10 + (b.toNat - 48), rest)
    else some (a.toNat - 48, b :: rest)
  | [a] => if a.isDigit then some (a.toNat - 48, []) else none
  | [] => none

/-- Reads a character that must come next. -/
def expect (c : Char) : List Char → Option (List Char)
  | d :: rest => if c == d then some rest else none
  | [] => none

/-- Reads the date `Y-M-D` of a timestamp: a valid date, and what follows it. -/
def stampDate (cs : List Char) : Option (List Char) := do
  let year := cs.take 4
  if year.length != 4 || !year.all Char.isDigit then none
  let r ← expect '-' (cs.drop 4)
  let (month, r) ← oneOrTwo r
  if month == 0 || month > 12 then none
  let r ← expect '-' r
  let (day, r) ← oneOrTwo r
  let y : Int := (year.foldl (fun n c => 10 * n + (c.toNat - 48)) 0 : Nat)
  if day == 0 || day > Stamp.daysIn y month then none
  return r

/-- Reads the time `h:m:s` of a timestamp with an optional fraction of a second: what follows
it. -/
def stampClock (cs : List Char) : Option (List Char) := do
  let (hour, r) ← oneOrTwo cs
  let r ← expect ':' r
  let (minute, r) ← oneOrTwo r
  let r ← expect ':' r
  let (second, r) ← oneOrTwo r
  if hour ≥ 24 || minute ≥ 60 || second ≥ 60 then none
  match r with
  | p :: d :: more =>
    if (p == '.' || p == ',') && d.isDigit then some (more.dropWhile Char.isDigit) else some r
  | _ => some r

/-- Reads the zone of a timestamp, `Z` or `±hh:mm`: what follows it. -/
def stampZone : List Char → Option (List Char)
  | 'Z' :: rest => some rest
  | s :: h1 :: h2 :: ':' :: m1 :: m2 :: rest =>
    if (s == '+' || s == '-') && [h1, h2, m1, m2].all Char.isDigit &&
        (h1.toNat - 48) * 10 + (h2.toNat - 48) ≤ 24 && (m1.toNat - 48) * 10 + (m2.toNat - 48) ≤ 60 then
      some rest
    else none
  | _ => none

/-- Whether a text is a timestamp in one of the layouts `Y-M-DTh:m:s[.f]Z` (or with `t`),
`Y-M-D h:m:s[.f]` (any run of spaces) and `Y-M-D`. -/
def isTimestamp (s : String) : Bool :=
  match stampDate s.toList with
  | none => false
  | some [] => true
  | some (sep :: r) =>
    if sep == 'T' || sep == 't' then
      ((stampClock r).bind stampZone) == some []
    else if sep == ' ' then stampClock (r.dropWhile (· == ' ')) == some []
    else false

/-- The meaning of a plain scalar without a tag; timestamps are recognised when `stamps`. -/
def plainMeaning (s : String) (stamps : Bool) : Scalar :=
  if s == "" || s == "~" || s == "null" || s == "Null" || s == "NULL" then .null
  else if s == "true" || s == "True" || s == "TRUE" then .bool true
  else if s == "false" || s == "False" || s == "FALSE" then .bool false
  else if s == ".nan" || s == ".NaN" || s == ".NAN" then .float (0 / 0)
  else if s == ".inf" || s == ".Inf" || s == ".INF" || s == "+.inf" || s == "+.Inf" ||
    s == "+.INF" then .float (1 / 0)
  else if s == "-.inf" || s == "-.Inf" || s == "-.INF" then .float (-1 / 0)
  else
    match s.toList with
    | '.' :: _ =>
      match readDouble s with
      | some x => .float x
      | none => .text s
    | c :: _ =>
      if stamps && ('0' ≤ c ∧ c ≤ '9') && isTimestamp s then .stamp
      else if ('0' ≤ c ∧ c ≤ '9') ∨ c == '-' ∨ c == '+' then
        let plain := s.toList.filter (· != '_')
        match readInteger plain with
        | some n => .int n
        | none =>
          if floatForm plain then
            match readDouble (String.ofList plain) with
            | some x => .float x
            | none => .text s
          else .text s
      else .text s
    | [] => .text s

/-- The meaning of a plain scalar without a tag. -/
def resolvePlain (s : String) : Scalar := plainMeaning s true

/-- The tag of the type a meaning belongs to. -/
def Scalar.tag : Scalar → String
  | .null => "!!null"
  | .bool _ => "!!bool"
  | .int _ => "!!int"
  | .float _ => "!!float"
  | .text _ => "!!str"
  | .stamp => "!!timestamp"
  | .bytes _ => "!!binary"

/-- The tag a plain scalar without a tag is given by its text. -/
def implicitTag (s : String) : String := (resolvePlain s).tag

/-- The value of a base64 digit. -/
def base64Digit (c : Char) : Option Nat :=
  if 'A' ≤ c ∧ c ≤ 'Z' then some (c.toNat - 65)
  else if 'a' ≤ c ∧ c ≤ 'z' then some (c.toNat - 71)
  else if '0' ≤ c ∧ c ≤ '9' then some (c.toNat + 4)
  else if c == '+' then some 62
  else if c == '/' then some 63
  else none

/-- Decodes groups of four base64 digits, the last of which may end in `=` or `==`. -/
def base64Groups : List Char → List UInt8 → Option (List UInt8)
  | [], acc => some acc
  | a :: b :: c :: d :: rest, acc =>
    match base64Digit a, base64Digit b with
    | some va, some vb =>
      let b1 := (va * 4 + vb / 16).toUInt8
      if c == '=' then
        if d == '=' && rest.isEmpty then some (acc ++ [b1]) else none
      else
        match base64Digit c with
        | none => none
        | some vc =>
          let b2 := ((vb % 16) * 16 + vc / 4).toUInt8
          if d == '=' then (if rest.isEmpty then some (acc ++ [b1, b2]) else none)
          else
            match base64Digit d with
            | none => none
            | some vd => base64Groups rest (acc ++ [b1, b2, ((vc % 4) * 64 + vd).toUInt8])
    | _, _ => none
  | _, _ => none

/-- Decodes base64 text with padding; line breaks are ignored. -/
def base64Decode (s : String) : Option (List UInt8) :=
  base64Groups (s.toList.filter fun c => c != '\n' && c != '\r') []

/-- The types a tag may demand of a scalar. -/
def resolvable (tag : String) : Bool :=
  ["", "!!str", "!!bool", "!!int", "!!float", "!!null", "!!timestamp"].contains tag

/-- The meaning of a scalar under a tag in short form (empty for none): a tag outside the core
schema leaves it text, and a tag of the core schema must fit the plain reading (an integer
fits `!!float`, as a double, when it is within the signed 64-bit range). -/
def resolve (tag value : String) : Except String Scalar :=
  if !resolvable tag || tag == "!!str" then .ok (.text value)
  else
    let r := plainMeaning value (tag == "" || tag == "!!timestamp")
    if tag == "" || tag == r.tag then .ok r
    else
      match tag, r with
      | "!!float", .int n =>
        if n < 2 ^ 63 then .ok (.float (Float.ofInt n))
        else .error ("cannot decode " ++ r.tag ++ " as a " ++ tag)
      | _, _ => .error ("cannot decode " ++ r.tag ++ " as a " ++ tag)

/-- Whether a scalar is text by the way it is written: quoted or block style without a tag
(or with the non-specific `!`), or tagged `!!str`. -/
def isText (tag : String) (style : Style) : Bool :=
  tag == "!!str" || ((tag == "" || tag == "!") && style != .plain)

/-- The meaning of a scalar node from its tag, style and text; an error when its tag demands a
type it does not read as, or binary data that is not base64. -/
def meaning (tag : String) (style : Style) (value : String) : Except String Scalar :=
  if isText tag style then .ok (.text value)
  else do
    let r ← resolve tag value
    if tag == "!!binary" then
      match base64Decode value with
      | some bs => .ok (.bytes (String.ofList (Utf8.chars bs)))
      | none => .error "!!binary value contains invalid base64 data"
    else .ok r

end Yaml

end TelemetryBridge
