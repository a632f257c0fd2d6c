import TelemetryBridge.Text.Bytes

/-!
# The characters of a YAML text

A YAML text arrives as bytes: UTF-8, or UTF-16 in either byte order when a byte order mark says
so (a UTF-8 byte order mark is dropped as well). The bytes are decoded in blocks of 512, counted
from the start of the text with the mark: a character cut by the end of a block is completed
from the next one.

A block is refused as a whole when it holds a byte sequence that is no character, or a character
that YAML does not allow: a control character other than tab, line feed, carriage return and
next line, a surrogate, `U+FFFE` or `U+FFFF`. An unfinished character at the end of the text is
refused in the same way. Only the characters of the blocks before a refused one can be read, and
asking for any character past them fails.

Main definitions: `Yaml.Source`, `Yaml.Source.ofBytes`.
-/

namespace TelemetryBridge

namespace Yaml

/-- The characters of a YAML text that can be read, and whether they are the whole text. -/
structure Source where
  chars : Array Char
  /-- False when a block after `chars` is refused. -/
  whole : Bool
  deriving Inhabited

/-- Whether YAML allows a code point in a text. -/
def allowed (n : Nat) : Bool :=
  n == 0x09 || n == 0x0A || n == 0x0D || (0x20 ≤ n && n ≤ 0x7E) || n == 0x85 ||
    (0xA0 ≤ n && n ≤ 0xD7FF) || (0xE000 ≤ n && n ≤ 0xFFFD) || (0x10000 ≤ n && n ≤ 0x10FFFF)

/-- What the bytes at a position of a block hold. -/
inductive Step where
  /-- A character, with the number of bytes it takes. -/
  | char (c : Char) (width : Nat)
  /-- The start of a character that the block ends inside. -/
  | cut
  /-- No character that a text may hold. -/
  | refused
  deriving Inhabited

/-- Decodes the UTF-8 character at byte `i` of a block ending at byte `e`. -/
def utf8Step (b : Array UInt8) (i e : Nat) : Step :=
  let o := (b.getD i 0).toNat
  let width := if o < 0x80 then 1 else if o / 32 == 6 then 2 else if o / 16 == 14 then 3
    else if o / 8 == 30 then 4 else 0
  if width == 0 then .refused
  else if i + width > e then .cut
  else
    let lead := if width == 1 then o else if width == 2 then o % 32 else if width == 3 then o % 16
      else o % 8
    let trail := (List.range (width - 1)).map fun k => (b.getD (i + 1 + k) 0).toNat
    if trail.any (fun t => t / 64 != 2) then .refused
    else
      let v := trail.foldl (fun v t => v * 64 + t % 64) lead
      let shortest := width == 1 || (width == 2 && v ≥ 0x80) || (width == 3 && v ≥ 0x800) ||
        (width == 4 && v ≥ 0x10000)
      if !shortest || (0xD800 ≤ v && v ≤ 0xDFFF) || v > 0x10FFFF || !allowed v then .refused
      else .char (Char.ofNat v) width

/-- Decodes the UTF-16 character at byte `i` of a block ending at byte `e`, in little-endian
order when `little`. -/
def utf16Step (little : Bool) (b : Array UInt8) (i e : Nat) : Step :=
  let unit (j : Nat) : Nat :=
    let lo := (b.getD (if little then j else j + 1) 0).toNat
    let hi := (b.getD (if little then j + 1 else j) 0).toNat
    lo + 256 * hi
  if i + 2 > e then .cut
  else
    let v := unit i
    -- 0xDC00 to 0xDFFF: a low surrogate cannot come first.
    if v / 1024 == 0x37 then .refused
    else if v / 1024 == 0x36 then
      if i + 4 > e then .cut
      else
        let w := unit (i + 2)
        if w / 1024 != 0x37 then .refused
        else
          let c := 0x10000 + (v % 1024) * 1024 + w % 1024
          if allowed c then .char (Char.ofNat c) 4 else .refused
    else if allowed v then .char (Char.ofNat v) 2 else .refused

/-- Decodes the characters of one block, from byte `pos` to byte `e`: the byte after the last
whole character, the characters, and whether the block is refused. -/
def block (step : Array UInt8 → Nat → Nat → Step) (b : Array UInt8) (e : Nat) :
    Nat → Nat → Array Char → Nat × Array Char × Bool
  | 0, pos, acc => (pos, acc, false)
  | fuel + 1, pos, acc =>
    if pos ≥ e then (pos, acc, false)
    else
      match step b pos e with
      | .char c w => block step b e fuel (pos + w) (acc.push c)
      | .cut => (pos, acc, false)
      | .refused => (pos, acc, true)

/-- Decodes block after block, the current one starting at byte `pos` and ending at byte `e`. -/
def blocks (step : Array UInt8 → Nat → Nat → Step) (b : Array UInt8) :
    Nat → Nat → Nat → Array Char → Source
  | 0, _, _, acc => { chars := acc, whole := false }
  | fuel + 1, pos, e, acc =>
    let (next, acc', refused) := block step b e (e - pos + 1) pos acc
    if refused then { chars := acc, whole := false }
    else if e ≥ b.size then { chars := acc', whole := next ≥ b.size }
    else blocks step b fuel next (min (next + 512) b.size) acc'

/-- The characters of a YAML text given as bytes. -/
def Source.ofBytes (bs : Bytes) : Source :=
  let b := bs.toArray
  let first := min 512 b.size
  let run (step : Array UInt8 → Nat → Nat → Step) (start : Nat) :=
    blocks step b (b.size + 2) start first #[]
  if bs.take 2 == [0xFF, 0xFE] then run (utf16Step true) 2
  else if bs.take 2 == [0xFE, 0xFF] then run (utf16Step false) 2
  else if bs.take 3 == [0xEF, 0xBB, 0xBF] then run utf8Step 3
  else run utf8Step 0

end Yaml

end TelemetryBridge
