import TelemetryBridge.Json.Reader
import TelemetryBridge.Failure

/-!
# Decoding documents into fields

A document of the bridge (controller reading, device identity, alarms) is the first JSON value
of a text. Decoding it fails in three ways: the text holds nothing but whitespace (the end of
the input), the first value is not JSON (a syntax error), or a value has the wrong type for
where it stands (a type error).

An object's member sets the field whose name equals its key up to case. Field names are ASCII,
so the comparison is ASCII letter case, byte for byte, with two exceptions: the letters `s` and
`k` of a name also match `ſ` (U+017F) and the Kelvin sign (U+212A), the only characters outside
ASCII whose case class holds an ASCII letter. Other characters such as `ı` (U+0131) match
nothing but themselves.

Main definitions: `Json.DecodeError`, `Json.firstValue`, `Json.keyMatches`, `Json.isNumberText`.
-/

namespace TelemetryBridge

namespace Json

/-- Why a document cannot be decoded. -/
inductive DecodeError where
  /-- The text holds nothing but whitespace. -/
  | endOfInput
  /-- The first value is not JSON. -/
  | notJson
  /-- A value has the wrong type for where it stands. -/
  | mismatch
  deriving Repr, DecidableEq, Inhabited

/-- The failure a decoding error stands for. -/
def DecodeError.failure : DecodeError → Failure
  | .endOfInput => .endOfInput
  | .notJson => .say "json syntax error"
  | .mismatch => .say "json type error"

/-- The first value of a text and what follows it. -/
def firstValue (s : Bytes) : Except DecodeError (Value × Bytes) :=
  if (skipSpace s).isEmpty then .error .endOfInput
  else
    match readValue s with
    | .ok r => .ok r
    | .error _ => .error .notJson

/-- The upper case of an ASCII byte. -/
def asciiUpper (b : UInt8) : UInt8 := if 97 ≤ b ∧ b ≤ 122 then b - 32 else b

/-- Whether an ASCII byte is a letter. -/
def isAsciiLetter (b : UInt8) : Bool := 65 ≤ asciiUpper b ∧ asciiUpper b ≤ 90

/-- Whether two ASCII bytes are equal up to letter case. -/
def sameLetter (b c : UInt8) : Bool := b == c || (isAsciiLetter b && asciiUpper b == asciiUpper c)

/-- Whether a key matches the bytes of a name up to case, where the `s` and `k` of the name
also match the long s (`C5 BF`) and the Kelvin sign (`E2 84 AA`). -/
def foldsTo : Bytes → Bytes → Bool
  | [], key => key.isEmpty
  | _ :: _, [] => false
  | b :: name, c :: key =>
    if c < 0x80 then sameLetter b c && foldsTo name key
    else if asciiUpper b == 83 then
      match c :: key with
      | 0xC5 :: 0xBF :: rest => foldsTo name rest
      | _ => false
    else if asciiUpper b == 75 then
      match c :: key with
      | 0xE2 :: 0x84 :: 0xAA :: rest => foldsTo name rest
      | _ => false
    else false

/-- Whether an object key names the field `name` up to case. -/
def keyMatches (key : Bytes) (name : String) : Bool := foldsTo (Bytes.ofString name) key

/-- Whether a text is exactly one JSON number literal. -/
def isNumberText (s : Bytes) : Bool :=
  match s with
  | b :: _ =>
    if b = 45 ∨ Bytes.isDigit b then
      match number s with
      | .ok (_, []) => true
      | _ => false
    else false
  | [] => false

end Json

end TelemetryBridge
