import TelemetryBridge.Telemetry.Record
import TelemetryBridge.Json.Decode
import TelemetryBridge.Decimal.Reader
import TelemetryBridge.Decimal.Places

/-!
# Controller documents

A store hands the bridge a reading as a JSON document: an object with the members `gmid` (a
string) and `seq`, `pressure`, `current`, `temp`, `runcycles`, `faults`, `mode` (numbers, or
strings holding number text). Keys match up to case, the last of equal keys wins, and a `null`
member counts as absent. A document that is `null` sets nothing.

A document is laid over a *base* record: absent members, and an empty `gmid`, keep the base's
values. Integer members are read as 64-bit integers, or else as doubles cut toward zero;
measurements are read as doubles. The document must be the only value of its text.

Reading fails, and gives no record, when the text is not such a document (empty, not JSON, a
member of the wrong type, more after the document) or a number is beyond the doubles. Of two
faults, the one of the earlier stage wins: decoding, then the rest of the text, then the members
in the order `seq`, `pressure`, `current`, `temp`, `runcycles`, `faults`, `mode`.

Main definitions: `Document`, `Document.ofValue`, `Record.read`.
-/

namespace TelemetryBridge

open Json

/-- The members a controller document gives; `none` when absent or `null`. Number members
hold their number text. -/
structure Document where
  gmid : Option Bytes := none
  seq : Option Bytes := none
  pressure : Option Bytes := none
  current : Option Bytes := none
  temp : Option Bytes := none
  runcycles : Option Bytes := none
  faults : Option Bytes := none
  mode : Option Bytes := none
  deriving Inhabited

/-- Why a controller document gives no record. -/
inductive DocumentError where
  /-- The document could not be decoded. -/
  | decode (e : DecodeError)
  /-- More than whitespace follows the document. -/
  | trailing
  /-- A number member could not be read as a number. -/
  | number (field : String) (e : ReadError)
  deriving Inhabited

/-- The failure a document error stands for. -/
def DocumentError.failure : DocumentError → Failure
  | .decode e => .within "decode controller document" e.failure
  | .trailing => .say "decode controller document: trailing data after object"
  | .number f .range => .within ("field " ++ f) (.say "number out of range")
  | .number f .malformed => .within ("field " ++ f) (.say "invalid number")

namespace Document

/-- A string member: `none` for `null`. -/
def textOf : Value → Except DecodeError (Option Bytes)
  | .null => .ok none
  | .string s => .ok (some s)
  | _ => .error .mismatch

/-- A number member: a number, or a string holding exactly one number literal; `none` for
`null`. -/
def numberOf : Value → Except DecodeError (Option Bytes)
  | .null => .ok none
  | .number t => .ok (some t)
  | .string s => if isNumberText s then .ok (some s) else .error .mismatch
  | _ => .error .mismatch

/-- Sets the member a key names; a key that names no member is ignored. -/
def set (d : Document) (key : Bytes) (v : Value) : Except DecodeError Document :=
  if keyMatches key "gmid" then (textOf v).map fun t => { d with gmid := t }
  else if keyMatches key "seq" then (numberOf v).map fun t => { d with seq := t }
  else if keyMatches key "pressure" then (numberOf v).map fun t => { d with pressure := t }
  else if keyMatches key "current" then (numberOf v).map fun t => { d with current := t }
  else if keyMatches key "temp" then (numberOf v).map fun t => { d with temp := t }
  else if keyMatches key "runcycles" then (numberOf v).map fun t => { d with runcycles := t }
  else if keyMatches key "faults" then (numberOf v).map fun t => { d with faults := t }
  else if keyMatches key "mode" then (numberOf v).map fun t => { d with mode := t }
  else .ok d

/-- The document a JSON value gives: `null` gives no members, an object its members in order. -/
def ofValue : Value → Except DecodeError Document
  | .null => .ok {}
  | .object ms => ms.foldlM (fun d (k, v) => d.set k v) {}
  | _ => .error .mismatch

/-- An integer member over a base value: a 64-bit integer, or else a double cut toward zero. -/
def intOf (t : Option Bytes) (base : Int) (name : String) : Except DocumentError Int :=
  match t with
  | none => .ok base
  | some t =>
    match readInt64 t with
    | .ok n => .ok n
    | .error _ =>
      match readFloat t with
      | .ok x => .ok (wholeInt64 x)
      | .error e => .error (.number name e)

/-- A measurement member over a base value. -/
def floatOf (t : Option Bytes) (base : Float) (name : String) : Except DocumentError Float :=
  match t with
  | none => .ok base
  | some t => (readFloat t).mapError (.number name)

/-- Lays the document over a base record. -/
def apply (d : Document) (base : Record) : Except DocumentError Record := do
  let seq ← intOf d.seq base.seq "seq"
  let pressure ← floatOf d.pressure base.pressure "pressure"
  let current ← floatOf d.current base.current "current"
  let temp ← floatOf d.temp base.temp "temp"
  let runcycles ← intOf d.runcycles base.runcycles "runcycles"
  let faults ← intOf d.faults base.faults "faults"
  let mode ← intOf d.mode base.mode "mode"
  let gmid := match d.gmid with
    | some g => if g.isEmpty then base.gmid else g
    | none => base.gmid
  pure { gmid, seq, pressure, current, temp, runcycles, faults, mode }

end Document

/-- Reads the controller document of a text over a base record. -/
def Record.read (text : Bytes) (base : Record) : Except DocumentError Record := do
  let (v, rest) ← (firstValue text).mapError .decode
  let d ← (Document.ofValue v).mapError .decode
  if !(skipSpace rest).isEmpty then throw .trailing
  d.apply base

end TelemetryBridge
