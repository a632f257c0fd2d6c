import TelemetryBridge.Bench.Stores
import TelemetryBridge.Observe.Server
import TelemetryBridge.Telemetry.Alarms

/-!
# Bench operations on observation

`status_board` sets, increments and reads values of a status board, which may be missing, and
writes it after each step; `server` starts and stops the status server and asks whether it still
reports its configured address.
-/

namespace TelemetryBridge

namespace Bench

open Json

/-- The slot a `set` step gives. A number is a double, or a counter when asked for one; any
other value keeps the numbers inside it as written, its objects in dictionary form. -/
def slotOf (step : Value) : Slot :=
  match (step.field? "value").getD .null with
  | v@(.number _) =>
    if boolField step "as_int" false then .count ((intOf? v).getD 0)
    else .value (v.settle.getD .null)
  | v => .value v.ordered

/-- `status_board`: run steps on a status board. -/
def statusBoardOp (req : Value) : Value :=
  let board : Option StatusBoard := if boolField req "nil" false then none else some {}
  let (_, answers) := (listField req "steps").foldl (fun (b, acc) step =>
    let key := textField step "key" ""
    let (b, extra) : Option StatusBoard × List (String × Value) :=
      match stepName step with
      | "set" => (b.map (·.set key (slotOf step)), [])
      | "increment" => (b.map (·.increment key), [])
      | "get" =>
        let found := b.bind (·.get? key)
        (b, [("found", .bool found.isSome),
          ("value", bytesValue ((found.map Slot.text).getD (Bytes.ofString "null")))])
      | _ => (b, [])
    (b, Value.obj ([("json", bytesValue (Board.text b)), ("error", .null)] ++ extra) :: acc))
    (board, [])
  .obj [("steps", .array answers.reverse)]

/-- `server`: start and stop the status server. -/
def serverOp (req : Value) : Value :=
  let addr := textOf (textField req "addr" "127.0.0.1:0")
  let (_, answers) := (listField req "steps").foldl (fun (s, acc) step =>
    let result (r : StatusServer × Option Failure × List Log.Entry) :
        StatusServer × List Value :=
      (r.1, Value.obj [("error", failureValue r.2.1), ("logs", logsValue r.2.2)] :: acc)
    match stepName step with
    | "start" => result s.start
    | "stop" => result s.stop
    | "addr" => (s, Value.obj [("addr_is_configured", .bool s.keepsAddress), ("logs", .array [])] :: acc)
    | _ => (s, Value.obj [] :: acc)) (({ addr } : StatusServer), [])
  .obj [("steps", .array answers.reverse)]

end Bench

end TelemetryBridge
