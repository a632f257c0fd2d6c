import TelemetryBridge.Bench.Request
import TelemetryBridge.Files.Disk
import TelemetryBridge.KeyValue.Server

/-!
# Files a request sets up

Any request may list directories to create (`dirs`), text files to write (`files`, path to
text) and files of raw bytes (`files_b64`, path to base64). They are set up in that order,
before the operation runs, in an otherwise empty working directory.

Requests that read the live store set up its key-value server: string entries (`redis`, key to
text, or `redis_b64`, key to base64) and hashes (`redis_hash`, key to an object of fields), and
whether the server is up.
-/

namespace TelemetryBridge

namespace Bench

open Json

/-- The working directory a request sets up. -/
def diskOf (req : Value) : Disk :=
  let d := (listField req "dirs").foldl (fun d v =>
    match v.str? with
    | some p => d.makeDirs p
    | none => d) {}
  let d := (membersField req "files").foldl (fun d (p, v) =>
    match v.str? with
    | some c => d.write p c
    | none => d) d
  (membersField req "files_b64").foldl (fun d (p, v) =>
    match v.str?.bind Base64.decode? with
    | some c => d.write p c
    | none => d) d

/-- The key-value server a request sets up. -/
def serverOf (req : Value) (up : Bool) : KeyValue.Server :=
  let s : KeyValue.Server := { up }
  let s := (membersField req "redis").foldl (fun s (k, v) =>
    match v.str? with
    | some t => s.put k (.text t)
    | none => s) s
  let s := (membersField req "redis_b64").foldl (fun s (k, v) =>
    match v.str?.bind Base64.decode? with
    | some t => s.put k (.text t)
    | none => s) s
  (membersField req "redis_hash").foldl (fun s (k, v) =>
    match v with
    | .object fs =>
      fs.foldl (fun s (f, x) => s.hashSet k f ((x.str?).getD [])) (s.put k (.hash []))
    | _ => s) s

end Bench

end TelemetryBridge
