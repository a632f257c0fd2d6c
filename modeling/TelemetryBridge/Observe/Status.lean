import TelemetryBridge.Json.Writer

/-!
# The status board

The status board is the bridge's state as the status page shows it: a dictionary from names to
values, shared between the loop that writes it and the page that reads it. A value is a counter,
a JSON value, or a JSON document kept as its text.

A counter is incremented in place; incrementing any other value, or a name that holds nothing,
sets a counter of one. The board is written as one JSON object, names in byte order, strings
safe to embed in HTML.

A bridge may run without a board; such a missing board records nothing, finds nothing and is
written as an empty object.

Main definitions: `StatusBoard`, `StatusBoard.set`, `StatusBoard.increment`,
`StatusBoard.text`.
-/

namespace TelemetryBridge

open Json

/-- A value on the status board. -/
inductive Slot where
  /-- A counter. -/
  | count (n : Int)
  /-- A JSON value. -/
  | value (v : Value)
  /-- A JSON document, written as its text. -/
  | document (text : Bytes)
  deriving Inhabited

/-- The text of a slot. -/
def Slot.text : Slot → Bytes
  | .count n => Bytes.ofInt n
  | .value v => v.render true
  | .document d => d

/-- One more than the largest counter, `2^63`: counting past the largest wraps to `-2^63`. -/
def countLimit : Int := 2 ^ 63

/-- A counter one higher, within the signed 64-bit range. -/
def Slot.successor (n : Int) : Int := if n + 1 = countLimit then -countLimit else n + 1

/-- The status board: each name once, with its value. -/
structure StatusBoard where
  slots : List (Bytes × Slot) := []
  deriving Inhabited

namespace StatusBoard

/-- The value under a name. -/
def get? (b : StatusBoard) (key : Bytes) : Option Slot :=
  (b.slots.find? (·.1 == key)).map (·.2)

/-- Puts a value under a name, replacing what was there. -/
def set (b : StatusBoard) (key : Bytes) (s : Slot) : StatusBoard :=
  { slots := b.slots.filter (·.1 != key) ++ [(key, s)] }

/-- Adds one to the counter under a name; any other value, or none, becomes a counter of one. -/
def increment (b : StatusBoard) (key : Bytes) : StatusBoard :=
  match b.get? key with
  | some (.count n) => b.set key (.count (Slot.successor n))
  | _ => b.set key (.count 1)

/-- The board as a JSON object, names in byte order. -/
def text (b : StatusBoard) : Bytes :=
  let sorted := b.slots.mergeSort fun x y => decide (x.1 ≤ y.1)
  let members := sorted.map fun (k, s) => quote true k ++ 58 :: s.text
  123 :: (members.intersperse [44]).flatten ++ [125]

end StatusBoard

/-! A board that may be missing: the operations of the board, doing nothing without one. -/

namespace Board

/-- Puts a value under a name. -/
def set (b : Option StatusBoard) (key : String) (s : Slot) : Option StatusBoard :=
  b.map (·.set (Bytes.ofString key) s)

/-- Increments the counter under a name. -/
def increment (b : Option StatusBoard) (key : String) : Option StatusBoard :=
  b.map (·.increment (Bytes.ofString key))

/-- The value under a name; nothing without a board. -/
def get? (b : Option StatusBoard) (key : String) : Option Slot :=
  b.bind (·.get? (Bytes.ofString key))

/-- The text of a board; an empty object without one. -/
def text : Option StatusBoard → Bytes
  | some b => b.text
  | none => Bytes.ofString "\x7b\x7d"

end Board

end TelemetryBridge
