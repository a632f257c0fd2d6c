/-!
# Serial line states

A serial transport is *closed*, *opening* (only while the device is being opened), *open*, or
*failed* (a write failed; the port is still held and the next send tries again). States are
numbered 0 to 3 in that order; a number outside that range is named `state(N)`.

Main definitions: `LineState`, `LineState.name`, `LineState.describe`.
-/

namespace TelemetryBridge

/-- The lifecycle state of a serial transport. -/
inductive LineState where
  | closed
  | opening
  | open
  | failed
  deriving Repr, DecidableEq, Inhabited

namespace LineState

/-- The state with a given number. -/
def ofCode? (n : Int) : Option LineState :=
  if n = 0 then some .closed else if n = 1 then some .opening
  else if n = 2 then some .open else if n = 3 then some .failed else none

/-- The state's name. -/
def name : LineState → String
  | .closed => "closed"
  | .opening => "opening"
  | .open => "open"
  | .failed => "failed"

/-- The name of a state number: the state's name, or `state(N)` outside the range. -/
def describe (n : Int) : String :=
  match ofCode? n with
  | some s => s.name
  | none => "state(" ++ toString n ++ ")"

end LineState

end TelemetryBridge
