/-!
# Byte strings

Identifiers, profiles, frames and file contents are byte strings: a device may hand the bridge
any bytes, valid UTF-8 or not, and every text the bridge writes is defined on bytes. A byte
string is a plain `List UInt8`, so that its lemmas are the list lemmas.

This module holds the conversions the rest of the library needs: the UTF-8 bytes of a
`String`, ASCII digits and hexadecimal digits, and ASCII case.
-/

namespace TelemetryBridge

/-- A byte string. -/
abbrev Bytes := List UInt8

namespace Bytes

/-- The UTF-8 encoding of a string. -/
def ofString (s : String) : Bytes := s.toUTF8.toList

/-- The bytes of an ASCII character. -/
def ofChar (c : Char) : Bytes := ofString (String.singleton c)

/-- The lowercase hexadecimal digit of a value below sixteen. -/
def hexDigit (n : Nat) : UInt8 :=
  if n < 10 then (48 + n).toUInt8 else (87 + n).toUInt8

/-- The lowercase hexadecimal digits of a number, most significant first; zero is one digit. -/
def hexDigits (n : Nat) : Bytes :=
  if n < 16 then [hexDigit n] else hexDigits (n / 16) ++ [hexDigit (n % 16)]
termination_by n
decreasing_by omega

/-- A number in lowercase hexadecimal, padded on the left with zeros to at least `width`
digits, as the verb `%0Nx` writes it (`N` the width). -/
def hexPadded (width n : Nat) : Bytes :=
  List.replicate (width - (hexDigits n).length) 48 ++ hexDigits n

/-- Two lowercase hexadecimal digits of a byte. -/
def hexOfByte (b : UInt8) : Bytes := [hexDigit (b.toNat / 16), hexDigit (b.toNat % 16)]

/-- Lowercase hexadecimal text of a byte string, two digits per byte. -/
def toHex (bs : Bytes) : Bytes := bs.flatMap hexOfByte

/-- The value of a hexadecimal digit, upper or lower case. -/
def hexValue? (b : UInt8) : Option Nat :=
  if 48 ≤ b ∧ b ≤ 57 then some (b.toNat - 48)
  else if 97 ≤ b ∧ b ≤ 102 then some (b.toNat - 87)
  else if 65 ≤ b ∧ b ≤ 70 then some (b.toNat - 55)
  else none

/-- Whether a byte is an ASCII decimal digit. -/
def isDigit (b : UInt8) : Bool := 48 ≤ b && b ≤ 57

/-- The value of an ASCII decimal digit. -/
def digitValue (b : UInt8) : Nat := b.toNat - 48

/-- The value of a run of decimal digits, most significant first. -/
def digitsValue (ds : Bytes) : Nat := ds.foldl (fun acc d => 10 * acc + digitValue d) 0

/-- Decimal text of a natural number. -/
def ofNat (n : Nat) : Bytes := ofString (toString n)

/-- Decimal text of an integer, with a minus sign when negative. -/
def ofInt (n : Int) : Bytes := ofString (toString n)

/-- ASCII lower case of a byte; other bytes stay. -/
def lowerAscii (b : UInt8) : UInt8 := if 65 ≤ b ∧ b ≤ 90 then b + 32 else b

/-- ASCII upper case of a byte; other bytes stay. -/
def upperAscii (b : UInt8) : UInt8 := if 97 ≤ b ∧ b ≤ 122 then b - 32 else b

/-- Equality up to ASCII case. -/
def eqIgnoreAsciiCase (a b : Bytes) : Bool := a.map lowerAscii == b.map lowerAscii

/-- Whether every byte is below `0x80`. -/
def isAscii (bs : Bytes) : Bool := bs.all (· < 0x80)

/-- Whether `p` is a prefix of `s`. -/
def startsWith (s p : Bytes) : Bool := p.isPrefixOf s

end Bytes

end TelemetryBridge
