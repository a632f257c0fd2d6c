/-!
# Tick outcomes

Every tick of the scheduler ends in one of four outcomes: the record was only *polled* (no frame
was due), a frame was *sent*, sending it *failed*, or event monitoring *suppressed* a due frame
of an idle controller. Outcomes are numbered 0 to 3 in that order; a number outside that range
is named `outcome(N)`.

Main definitions: `Outcome`, `Outcome.name`, `Outcome.describe`.
-/

namespace TelemetryBridge

/-- How a tick ended. -/
inductive Outcome where
  | polled
  | sent
  | failed
  | suppressed
  deriving Repr, DecidableEq, Inhabited

namespace Outcome

/-- The outcome's number. -/
def code : Outcome → Int
  | .polled => 0
  | .sent => 1
  | .failed => 2
  | .suppressed => 3

/-- The outcome with a given number. -/
def ofCode? (n : Int) : Option Outcome :=
  if n = 0 then some .polled else if n = 1 then some .sent
  else if n = 2 then some .failed else if n = 3 then some .suppressed else none

/-- The outcome's name. -/
def name : Outcome → String
  | .polled => "polled"
  | .sent => "sent"
  | .failed => "failed"
  | .suppressed => "suppressed"

/-- The name of an outcome number: the outcome's name, or `outcome(N)` outside the range. -/
def describe (n : Int) : String :=
  match ofCode? n with
  | some o => o.name
  | none => "outcome(" ++ toString n ++ ")"

end Outcome

end TelemetryBridge
