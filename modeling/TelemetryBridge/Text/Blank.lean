import TelemetryBridge.Text.Bytes

/-!
# Blank characters

A character is *blank* when it has the Unicode White_Space property: the ASCII tab, line feed,
vertical tab, form feed, carriage return and space, and U+0085, U+00A0, U+1680, U+2000 to
U+200A, U+2028, U+2029, U+202F, U+205F and U+3000.

Trimming a byte string drops blank characters from both ends. A blank character counts only
when its whole UTF-8 encoding is present, so a stray byte stops the trimming; on well-formed
text, matching the encodings byte by byte is the same as decoding characters, because each
encoding is a complete sequence that no other sequence ends or starts inside.

Main definitions: `Blank.isBlank`, `Blank.trim`.
-/

namespace TelemetryBridge

namespace Blank

/-- The Unicode White_Space property. -/
def isBlank (c : Char) : Bool :=
  let n := c.toNat
  (9 ≤ n && n ≤ 13) || n == 32 || n == 0x85 || n == 0xA0 || n == 0x1680 ||
    (0x2000 ≤ n && n ≤ 0x200A) || n == 0x2028 || n == 0x2029 || n == 0x202F ||
    n == 0x205F || n == 0x3000

/-- An ASCII blank byte. -/
def asciiBlank (b : UInt8) : Bool := (9 ≤ b && b ≤ 13) || b == 32

/-- The third byte of a blank character encoded as `E2 80 x`: U+2000 to U+200A, U+2028,
U+2029 and U+202F. -/
def blankAfterE280 (c : UInt8) : Bool :=
  (0x80 ≤ c && c ≤ 0x8A) || c == 0xA8 || c == 0xA9 || c == 0xAF

/-- Drops blank characters from the front. -/
def dropFront : Bytes → Bytes
  | [] => []
  | b :: rest =>
    if asciiBlank b then dropFront rest
    else
      match b, rest with
      | 0xC2, 0x85 :: r => dropFront r
      | 0xC2, 0xA0 :: r => dropFront r
      | 0xE1, 0x9A :: 0x80 :: r => dropFront r
      | 0xE2, 0x80 :: c :: r => if blankAfterE280 c then dropFront r else b :: rest
      | 0xE2, 0x81 :: 0x9F :: r => dropFront r
      | 0xE3, 0x80 :: 0x80 :: r => dropFront r
      | _, _ => b :: rest

/-- Drops blank characters from the front of a reversed byte string (encodings read
backwards). -/
def dropReversed : Bytes → Bytes
  | [] => []
  | b :: rest =>
    if asciiBlank b then dropReversed rest
    else
      match b, rest with
      | 0x85, 0xC2 :: r => dropReversed r
      | 0xA0, 0xC2 :: r => dropReversed r
      | 0x80, 0x9A :: 0xE1 :: r => dropReversed r
      | 0x9F, 0x81 :: 0xE2 :: r => dropReversed r
      | 0x80, 0x80 :: 0xE3 :: r => dropReversed r
      | c, 0x80 :: 0xE2 :: r => if blankAfterE280 c then dropReversed r else b :: rest
      | _, _ => b :: rest

/-- Drops blank characters from both ends. -/
def trim (s : Bytes) : Bytes := (dropReversed (dropFront s).reverse).reverse

end Blank

end TelemetryBridge
