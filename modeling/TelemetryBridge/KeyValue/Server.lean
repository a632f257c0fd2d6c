import TelemetryBridge.Failure

/-!
# The key-value server

The live store is kept by the controller process in a key-value server. The server holds
entries under byte-string keys; an entry is a string value or a hash of fields. The bridge only
pings the server, reads string values and writes one; reading a key that holds a hash is refused
as an operation on the wrong kind of value. A server that is down refuses every connection. A
request whose time allowance has already run out fails before it is sent, whatever the server.

Main definitions: `KeyValue.Server`, `Server.ping`, `Server.get`, `Server.set`.
-/

namespace TelemetryBridge

namespace KeyValue

/-- An entry of the server. -/
inductive Entry where
  | text (value : Bytes)
  | hash (fields : List (Bytes × Bytes))
  deriving Repr, DecidableEq, Inhabited

/-- The failure of every request to a server that is down. -/
def refused : Failure := .say "connection refused"

/-- The failure of reading a string from a key that holds another kind of entry. -/
def wrongType : Failure := .say "WRONGTYPE Operation against a key holding the wrong kind of value"

/-- A key-value server: whether it accepts connections, and its entries. -/
structure Server where
  up : Bool := true
  entries : List (Bytes × Entry) := []
  deriving Inhabited

namespace Server

/-- The entry under a key. -/
def lookup (s : Server) (k : Bytes) : Option Entry :=
  (s.entries.find? (·.1 == k)).map (·.2)

/-- Stores an entry under a key, replacing what was there. -/
def put (s : Server) (k : Bytes) (e : Entry) : Server :=
  { s with entries := s.entries.filter (·.1 != k) ++ [(k, e)] }

/-- Removes the entry under a key. -/
def remove (s : Server) (k : Bytes) : Server :=
  { s with entries := s.entries.filter (·.1 != k) }

/-- Sets a field of the hash under a key; an entry of another kind is replaced by a new hash. -/
def hashSet (s : Server) (k field value : Bytes) : Server :=
  let fields := match s.lookup k with
    | some (.hash fs) => fs.filter (·.1 != field)
    | _ => []
  s.put k (.hash (fields ++ [(field, value)]))

/-- Checks that the server answers. -/
def ping (s : Server) (expired : Bool) : Option Failure :=
  if expired then some .deadlineExceeded else if s.up then none else some refused

/-- Reads the string under a key; `none` when the key holds nothing. -/
def get (s : Server) (expired : Bool) (k : Bytes) : Except Failure (Option Bytes) :=
  if expired then .error .deadlineExceeded
  else if !s.up then .error refused
  else
    match s.lookup k with
    | some (.text v) => .ok (some v)
    | some (.hash _) => .error wrongType
    | none => .ok none

/-- Writes a string under a key, replacing any entry there. -/
def set (s : Server) (expired : Bool) (k v : Bytes) : Except Failure Server :=
  if expired then .error .deadlineExceeded
  else if !s.up then .error refused else .ok (s.put k (.text v))

end Server

end KeyValue

end TelemetryBridge
