import TelemetryBridge.Telemetry.Payload

/-!
# Frames

A frame is what the bridge writes to the serial line for a payload: its identifier, pressure,
mode, current, fault code and run cycles, the two measurements rounded to two places once more.

The text of a frame is a JSON object with the keys `type` (always `data`), `gmid`, `press`,
`mode`, `current`, `fault` and `cycles`, in that order, numbers in wire form. The line carries
ASCII only: after the object is written, every character from U+0080 up becomes a `\u` escape
with four lowercase hexadecimal digits, a character beyond U+FFFF becoming the escapes of its
two UTF-16 surrogates. A byte of the identifier that is not UTF-8 is written as the escape of
U+FFFD.

The escaper (`escapeNonAscii`) returns ASCII text as it is; otherwise it decodes the text code
point by code point, a stray byte as U+FFFD, and writes each one. `asciiOnly` states the same
rule unit by unit.

Main definitions: `Frame`, `Frame.ofPayload`, `Frame.text`, `escapeNonAscii`, `asciiOnly`.
-/

namespace TelemetryBridge

/-- The escape of a UTF-16 code unit: a backslash, `u` and four lowercase hexadecimal digits. -/
def unitEscape (u : Nat) : Bytes :=
  Bytes.ofString "\\u" ++ [Bytes.hexDigit (u / 4096 % 16), Bytes.hexDigit (u / 256 % 16),
    Bytes.hexDigit (u / 16 % 16), Bytes.hexDigit (u % 16)]

/-- The ASCII text of one unit: ASCII stays, other characters become escapes of their UTF-16
code units, and a stray byte becomes the escape of U+FFFD. -/
def asciiUnit : Utf8.Unit → Bytes
  | .char c _ =>
    let n := c.toNat
    if n < 0x80 then [n.toUInt8]
    else if n < 0x10000 then unitEscape n
    else unitEscape (0xD800 + (n - 0x10000) / 0x400) ++ unitEscape (0xDC00 + (n - 0x10000) % 0x400)
  | .stray _ => unitEscape 0xFFFD

/-- A text with every character outside ASCII escaped: each unit written as `asciiUnit` says. -/
def asciiOnly (s : Bytes) : Bytes := (Utf8.units s).flatMap asciiUnit

/-- What the escaper writes for one decoded code point: the code point itself when it is ASCII,
the escapes of its two UTF-16 surrogates when it has them, and the escape of the code point
otherwise (`\u%04x`). The replacement character `Utf16.encodeRune` gives for a code point
without surrogates is what tells the last two apart. -/
def runeEscape (r : Nat) : Bytes :=
  if r < 0x80 then [r.toUInt8]
  else
    let units := Utf16.encodeRune r
    if units.1 ≠ Utf8.runeError then
      Bytes.ofString "\\u" ++ Bytes.hexPadded 4 units.1 ++ Bytes.ofString "\\u" ++
        Bytes.hexPadded 4 units.2
    else Bytes.ofString "\\u" ++ Bytes.hexPadded 4 r

/-- The escaping loop: decodes a code point off the front of `data`, appends its text to `out`,
and goes on after the bytes it took. -/
def escapeLoop (out : Bytes) : Bytes → Bytes
  | [] => out
  | b :: rest =>
    let r := Utf8.decodeRune (b :: rest)
    escapeLoop (out ++ runeEscape r.1) ((b :: rest).drop r.2)
termination_by data => data.length
decreasing_by
  have := Utf8.decodeRune_size_pos b rest
  simp only [List.length_drop, List.length_cons]
  omega

/-- A text made ASCII: a text that is ASCII already is returned as it is, any other goes through
the escaping loop. -/
def escapeNonAscii (data : Bytes) : Bytes :=
  if Bytes.isAscii data then data else escapeLoop [] data

/-- What the bridge writes to the serial line for one payload. -/
structure Frame where
  gmid : Bytes
  press : Float
  mode : Int
  current : Float
  fault : Int
  cycles : Int
  deriving Inhabited

namespace Frame

/-- The frame of a payload: pressure and current rounded to two places. -/
def ofPayload (p : Payload) : Frame :=
  { gmid := p.id, press := roundPlaces2 p.pressure, mode := p.mode,
    current := roundPlaces2 p.current, fault := p.faults, cycles := p.runcycles }

/-- The text of a frame on the serial line. -/
def text (f : Frame) : Bytes :=
  escapeNonAscii <|
    Bytes.ofString "\x7b\"type\":\"data\",\"gmid\":" ++ Json.quote false f.gmid ++
      Payload.member "press" (wireNumber f.press) ++ Payload.member "mode" (Bytes.ofInt f.mode) ++
      Payload.member "current" (wireNumber f.current) ++
      Payload.member "fault" (Bytes.ofInt f.fault) ++
      Payload.member "cycles" (Bytes.ofInt f.cycles) ++ [125]

end Frame

/-- The frame text of a payload. -/
def Payload.frameText (p : Payload) : Bytes := (Frame.ofPayload p).text

end TelemetryBridge
