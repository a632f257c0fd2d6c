import TelemetryBridge.Text.Bytes

/-!
# Base64

The standard base64 alphabet of RFC 4648 (`A–Z`, `a–z`, `0–9`, `+`, `/`) with `=` padding. It is
how byte strings that are not text reach the bridge in requests.

Main definition: `Base64.decode?`, which refuses a text with a byte outside the alphabet, a
length that is not a multiple of four, or padding anywhere but at the end.
-/

namespace TelemetryBridge

namespace Base64

/-- The six-bit value of an alphabet byte. -/
def sextet? (b : UInt8) : Option Nat :=
  if 65 ≤ b ∧ b ≤ 90 then some (b.toNat - 65)
  else if 97 ≤ b ∧ b ≤ 122 then some (b.toNat - 71)
  else if 48 ≤ b ∧ b ≤ 57 then some (b.toNat + 4)
  else if b = 43 then some 62
  else if b = 47 then some 63
  else none

/-- Decodes groups of four characters; the last group may end in one or two `=`. -/
def decodeGroups : Bytes → Option Bytes
  | [] => some []
  | [a, b, 61, 61] => do
    let x ← sextet? a
    let y ← sextet? b
    pure [(x * 4 + y / 16).toUInt8]
  | [a, b, c, 61] => do
    let x ← sextet? a
    let y ← sextet? b
    let z ← sextet? c
    pure [(x * 4 + y / 16).toUInt8, ((y % 16) * 16 + z / 4).toUInt8]
  | a :: b :: c :: d :: rest => do
    let x ← sextet? a
    let y ← sextet? b
    let z ← sextet? c
    let w ← sextet? d
    let tail ← decodeGroups rest
    pure ((x * 4 + y / 16).toUInt8 :: ((y % 16) * 16 + z / 4).toUInt8 ::
      ((z % 4) * 64 + w).toUInt8 :: tail)
  | _ => none

/-- The bytes a base64 text stands for. -/
def decode? (s : Bytes) : Option Bytes := decodeGroups s

end Base64

end TelemetryBridge
