import TelemetryBridge.Json.Decode
import TelemetryBridge.Json.Writer
import TelemetryBridge.Text.Blank
import TelemetryBridge.Decimal.Reader
import TelemetryBridge.Decimal.Layout

/-!
# Alarms

Alarms are the controller's flags beside a reading: a JSON object of any values. The bridge
holds them as a dictionary: each key once, its last value kept, keys in byte order, every
number a double. Numbers are written back in document text and strings safe to embed in HTML.

An alarms document is read whole: a text of blanks only gives no alarms, as does `null`; any
other text must be one JSON object whose numbers are all within the doubles.

Main definitions: `Alarms`, `Alarms.read`, `Alarms.text`.
-/

namespace TelemetryBridge

open Json

/-- A JSON value in dictionary form: numbers as the document text of the nearest double,
objects with unique keys in byte order (the last of equal keys wins); `none` when a number is
beyond the doubles. -/
def Json.Value.settle : Value → Option Value
  | .number t =>
    match readFloat t with
    | .ok x => (jsonNumber? x).map .number
    | .error _ => none
  | .array xs => (settleItems xs).map .array
  | .object ms => (settleMembers ms).map fun ms => .object (sortMembers (lastOfEach ms))
  | v => some v
where
  /-- Settles each item. -/
  settleItems : List Value → Option (List Value)
    | [] => some []
    | x :: rest => do pure ((← x.settle) :: (← settleItems rest))
  /-- Settles each member's value. -/
  settleMembers : List (Bytes × Value) → Option (List (Bytes × Value))
    | [] => some []
    | (k, v) :: rest => do pure ((k, ← v.settle) :: (← settleMembers rest))
  /-- The last member of each key. -/
  lastOfEach (ms : List (Bytes × Value)) : List (Bytes × Value) :=
    (ms.reverse.foldl (fun acc m => if acc.any (·.1 == m.1) then acc else m :: acc) []).reverse

/-- A JSON value with its objects in dictionary form (unique keys in byte order, the last of
equal keys kept) and its numbers as written. -/
def Json.Value.ordered : Value → Value
  | .array xs => .array (orderedItems xs)
  | .object ms => .object (sortMembers (Value.settle.lastOfEach (orderedMembers ms)))
  | v => v
where
  /-- Orders each item. -/
  orderedItems : List Value → List Value
    | [] => []
    | x :: rest => x.ordered :: orderedItems rest
  /-- Orders each member's value. -/
  orderedMembers : List (Bytes × Value) → List (Bytes × Value)
    | [] => []
    | (k, v) :: rest => (k, v.ordered) :: orderedMembers rest

/-- Alarm flags: members of a JSON object in dictionary form. -/
structure Alarms where
  members : List (Bytes × Value) := []
  deriving Inhabited

namespace Alarms

/-- No alarms. -/
def empty : Alarms := {}

/-- The document text of alarms. -/
def text (a : Alarms) : Bytes := (Value.object a.members).render true

/-- Reads an alarms document. -/
def read (doc : Bytes) : Except DecodeError Alarms :=
  if (Blank.trim doc).isEmpty then .ok {}
  else
    match readWhole doc with
    | .error _ => .error .notJson
    | .ok .null => .ok {}
    | .ok (.object ms) =>
      match (Value.object ms).settle with
      | some (.object ms) => .ok { members := ms }
      | _ => .error .mismatch
    | .ok _ => .error .mismatch

end Alarms

end TelemetryBridge
