import TelemetryBridge.Json.Value
import TelemetryBridge.Text.Utf8

/-!
# Writing JSON text

String literals are written from byte strings: the quote and the backslash are escaped, the
control characters below `0x20` are written `\b`, `\f`, `\n`, `\r`, `\t` or `\u00XX`, a byte that
starts no well-formed UTF-8 sequence is replaced by the character U+FFFD, the separators U+2028
and U+2029 are always escaped, and in *embedded* mode `<`, `>` and `&` are escaped too, so that
the text can sit inside HTML. Every other character is written as its own UTF-8 bytes.
Hexadecimal digits of escapes are lowercase.

Values are written compactly, with no whitespace, members and items in their order.

Main definitions: `Json.quote`, `Json.Value.render`.
-/

namespace TelemetryBridge

namespace Json

/-- Whether a byte below `0x80` is written as itself inside a string literal. -/
def plainByte (embedded : Bool) (b : UInt8) : Bool :=
  b ≥ 0x20 && b != 34 && b != 92 && !(embedded && (b == 60 || b == 62 || b == 38))

/-- The escape of a byte below `0x80` that is not written as itself. -/
def escapeAscii (b : UInt8) : Bytes :=
  if b = 34 then [92, 34]
  else if b = 92 then [92, 92]
  else if b = 8 then [92, 98]
  else if b = 12 then [92, 102]
  else if b = 10 then [92, 110]
  else if b = 13 then [92, 114]
  else if b = 9 then [92, 116]
  else Bytes.ofString "\\u00" ++ Bytes.hexOfByte b

/-- The text of one unit inside a string literal. -/
def quoteUnit (embedded : Bool) : Utf8.Unit → Bytes
  | .char c _ =>
    if c.toNat < 0x80 then
      let b := c.toNat.toUInt8
      if plainByte embedded b then [b] else escapeAscii b
    else if c.toNat = 0x2028 then Bytes.ofString "\\u2028"
    else if c.toNat = 0x2029 then Bytes.ofString "\\u2029"
    else Utf8.encode c
  | .stray _ => Utf8.encode '�'

/-- A byte string as a JSON string literal. -/
def quote (embedded : Bool) (s : Bytes) : Bytes :=
  34 :: (Utf8.units s).flatMap (quoteUnit embedded) ++ [34]

namespace Value

/-- Writes a value compactly; string literals in the given mode, numbers as their text. -/
def render (embedded : Bool) : Value → Bytes
  | .null => Bytes.ofString "null"
  | .bool true => Bytes.ofString "true"
  | .bool false => Bytes.ofString "false"
  | .number t => t
  | .string s => quote embedded s
  | .array xs => 91 :: renderItems embedded xs ++ [93]
  | .object ms => 123 :: renderMembers embedded ms ++ [125]
where
  /-- Items separated by commas. -/
  renderItems (embedded : Bool) : List Value → Bytes
    | [] => []
    | [x] => render embedded x
    | x :: rest => render embedded x ++ 44 :: renderItems embedded rest
  /-- Members separated by commas. -/
  renderMembers (embedded : Bool) : List (Bytes × Value) → Bytes
    | [] => []
    | [(k, v)] => quote embedded k ++ 58 :: render embedded v
    | (k, v) :: rest => quote embedded k ++ 58 :: render embedded v ++ 44 :: renderMembers embedded rest

end Value

/-- Sorts object members by the bytes of their keys. -/
def sortMembers (ms : List (Bytes × Value)) : List (Bytes × Value) :=
  ms.mergeSort fun a b => decide (a.1 ≤ b.1)

end Json

end TelemetryBridge
