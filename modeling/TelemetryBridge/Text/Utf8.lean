import TelemetryBridge.Text.Bytes

/-!
# Reading UTF-8 byte by byte

A byte string is read from the front as a sequence of *units*: a well-formed UTF-8 sequence
stands for its character, and any byte that does not start a well-formed sequence stands for
itself as a stray byte. Well-formed means the strict reading of RFC 3629: no overlong form, no
encoded surrogate, nothing past U+10FFFF, no missing continuation byte. A stray byte is always
a single byte, so reading resumes at the very next byte.

Main definitions: `Utf8.next?` takes one unit off the front, `Utf8.units` reads a whole string,
`Utf8.encode` writes a character, and `Utf8.isValid` says that no stray byte occurs. The
escapers of the library are maps over `Utf8.units`. `Utf8.decodeRune` gives the first unit as a
code point and a width, a stray byte as U+FFFD of width one, and `Utf16.encodeRune` splits a
code point beyond U+FFFF into its surrogates.
-/

namespace TelemetryBridge

namespace Utf8

/-- One unit of a byte string read as UTF-8: a character together with the number of bytes
that encode it, or a stray byte that starts no well-formed sequence. -/
inductive Unit where
  | char (c : Char) (width : Nat)
  | stray (b : UInt8)
  deriving Repr, DecidableEq, Inhabited

/-- Whether a byte is a continuation byte `10xxxxxx`. -/
def isCont (b : UInt8) : Bool := 0x80 ≤ b && b ≤ 0xBF

/-- The low six bits of a continuation byte. -/
def contBits (b : UInt8) : Nat := b.toNat % 64

/-- The character of a code point known to be a Unicode scalar value. -/
def charOf (n : Nat) : Char := Char.ofNat n

/-- The range allowed for the second byte of a sequence led by `b0`: it is narrower than the
continuation range after `E0`, `ED`, `F0` and `F4`, which is what excludes overlong forms,
surrogates and values past U+10FFFF. -/
def secondRange (b0 : UInt8) : UInt8 × UInt8 :=
  if b0 = 0xE0 then (0xA0, 0xBF)
  else if b0 = 0xED then (0x80, 0x9F)
  else if b0 = 0xF0 then (0x90, 0xBF)
  else if b0 = 0xF4 then (0x80, 0x8F)
  else (0x80, 0xBF)

/-- The unit that a byte `b0` starts when `rest` follows it, with the number of bytes of
`rest` that the unit takes. -/
def lead (b0 : UInt8) (rest : Bytes) : Unit × Nat :=
  if b0 < 0x80 then (.char (charOf b0.toNat) 1, 0)
  else if 0xC2 ≤ b0 ∧ b0 ≤ 0xDF then
    match rest with
    | b1 :: _ =>
      if isCont b1 then (.char (charOf ((b0.toNat % 32) * 64 + contBits b1)) 2, 1)
      else (.stray b0, 0)
    | [] => (.stray b0, 0)
  else if 0xE0 ≤ b0 ∧ b0 ≤ 0xEF then
    match rest with
    | b1 :: b2 :: _ =>
      if (secondRange b0).1 ≤ b1 ∧ b1 ≤ (secondRange b0).2 ∧ isCont b2 then
        (.char (charOf ((b0.toNat % 16) * 4096 + contBits b1 * 64 + contBits b2)) 3, 2)
      else (.stray b0, 0)
    | _ => (.stray b0, 0)
  else if 0xF0 ≤ b0 ∧ b0 ≤ 0xF4 then
    match rest with
    | b1 :: b2 :: b3 :: _ =>
      if (secondRange b0).1 ≤ b1 ∧ b1 ≤ (secondRange b0).2 ∧ isCont b2 ∧ isCont b3 then
        (.char (charOf ((b0.toNat % 8) * 262144 + contBits b1 * 4096 +
          contBits b2 * 64 + contBits b3)) 4, 3)
      else (.stray b0, 0)
    | _ => (.stray b0, 0)
  else (.stray b0, 0)

/-- Takes one unit off the front of a byte string, with the bytes that follow it; `none` on
the empty string. -/
def next? : Bytes → Option (Unit × Bytes)
  | [] => none
  | b0 :: rest => some ((lead b0 rest).1, rest.drop (lead b0 rest).2)

/-- What `next?` leaves is a proper suffix. -/
theorem next?_length {bs : Bytes} {u : Unit} {rest : Bytes} (h : next? bs = some (u, rest)) :
    rest.length < bs.length := by
  cases bs with
  | nil => simp [next?] at h
  | cons b0 tl =>
    simp only [next?, Option.some.injEq, Prod.mk.injEq] at h
    obtain ⟨_, rfl⟩ := h
    simp only [List.length_drop, List.length_cons]
    omega

/-- The replacement character U+FFFD, the code point a decoder gives for a stray byte. -/
def runeError : Nat := 0xFFFD

/-- The code point of the first unit of a byte string and the number of bytes the unit takes:
a stray byte decodes as `runeError` taking one byte, and the empty string as `runeError` taking
none. -/
def decodeRune : Bytes → Nat × Nat
  | [] => (runeError, 0)
  | b0 :: rest =>
    match (lead b0 rest).1 with
    | .char c _ => (c.toNat, (lead b0 rest).2 + 1)
    | .stray _ => (runeError, 1)

/-- A non-empty string decodes to a unit of at least one byte. -/
theorem decodeRune_size_pos (b0 : UInt8) (rest : Bytes) : 0 < (decodeRune (b0 :: rest)).2 := by
  simp only [decodeRune]
  split <;> simp

/-- Reads a whole byte string as units. -/
def units (bs : Bytes) : List Unit :=
  match h : next? bs with
  | none => []
  | some (u, rest) =>
    have : rest.length < bs.length := next?_length h
    u :: units rest
termination_by bs.length

/-- The UTF-8 encoding of a character. -/
def encode (c : Char) : Bytes := Bytes.ofChar c

/-- Whether a byte string is well-formed UTF-8 throughout. -/
def isValid (bs : Bytes) : Bool :=
  (units bs).all fun
    | .char _ _ => true
    | .stray _ => false

/-- The character a unit stands for: its own, or U+FFFD for a stray byte. -/
def Unit.toChar : Unit → Char
  | .char c _ => c
  | .stray _ => '�'

/-- The byte string with every stray byte replaced by U+FFFD, the way a decoder that must
produce valid text repairs it. -/
def repair (bs : Bytes) : Bytes := (units bs).flatMap fun u => encode u.toChar

/-- The characters of a byte string, stray bytes read as U+FFFD. -/
def chars (bs : Bytes) : List Char := (units bs).map Unit.toChar

end Utf8

namespace Utf16

/-- The two UTF-16 surrogates of a code point from U+10000 to U+10FFFF, high then low; any
other value gives the replacement character twice. -/
def encodeRune (r : Nat) : Nat × Nat :=
  if r < 0x10000 ∨ 0x10FFFF < r then (0xFFFD, 0xFFFD)
  else (0xD800 + (r - 0x10000) / 0x400 % 0x400, 0xDC00 + (r - 0x10000) % 0x400)

end Utf16

end TelemetryBridge
