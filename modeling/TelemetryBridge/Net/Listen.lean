import TelemetryBridge.Failure

/-!
# Listening on a TCP address

A TCP listen address is written `host:port`, with an IPv6 host in brackets. Listening on it
goes through four steps, each of which can refuse the address:

1. *splitting* at the last colon: a colon is required, a bracketed host must be followed by the
   port's colon and nothing else, and an unbracketed host holds no colon;
2. *the port*: a decimal number with an optional sign (empty means zero), or one of a few
   well-known service names; the number must lie in `0 ..= 65535`;
3. *the host*: empty for every interface, an IPv4 or IPv6 literal, or `localhost`; other names
   are not known;
4. *binding*: the address must belong to this machine, here the loopback addresses and the
   wildcards.

The empty address skips the first two steps and listens on every interface at a port of the
system's choice, as does port zero anywhere.

The listener then reports its *bound address*: an IPv4 address as four decimal bytes, an IPv6
address in its shortest form in brackets, and a wildcard host as the IPv6 wildcard `[::]`, since
the socket listens on both families.

Main definitions: `Listen.splitHostPort`, `Listen.port`, `Listen.Host`, `Listen.bind`,
`Listen.Bound.keeps`.
-/

namespace TelemetryBridge

namespace Listen

/-- Refuses an address for a reason: `address <addr>: <why>`. -/
def refuse (addr : List Char) (why : String) : Failure :=
  .say ("listen tcp: address " ++ String.ofList addr ++ ": " ++ why)

/-- The position of the last occurrence of a character. -/
def lastIndex (c : Char) (s : List Char) : Option Nat :=
  (List.range s.length).reverse.find? fun i => s.getD i ' ' == c

/-- Splits an address into its host and its port, refusing it as the resolver does. -/
def splitHostPort (a : List Char) : Except Failure (List Char × List Char) := do
  let some i := lastIndex ':' a | .error (refuse a "missing port in address")
  let (host, j, k) ← if a.head? == some '[' then
      match a.idxOf? ']' with
      | none => .error (refuse a "missing ']' in address")
      | some e =>
        if e + 1 = a.length then .error (refuse a "missing port in address")
        else if e + 1 = i then pure ((a.take e).drop 1, 1, e + 1)
        else if a.getD (e + 1) ' ' == ':' then .error (refuse a "too many colons in address")
        else .error (refuse a "missing port in address")
    else
      let host := a.take i
      if host.contains ':' then .error (refuse a "too many colons in address")
      else pure (host, 0, 0)
  if (a.drop j).contains '[' then .error (refuse a "unexpected '[' in address")
  else if (a.drop k).contains ']' then .error (refuse a "unexpected ']' in address")
  else pure (host, a.drop (i + 1))

/-- The service names known without a services database, with their TCP ports. -/
def services : List (String × Int) :=
  [("ftp", 21), ("ftps", 990), ("gopher", 70), ("http", 80), ("https", 443), ("imap2", 143),
    ("imap3", 220), ("imaps", 993), ("pop3", 110), ("pop3s", 995), ("ssh", 22), ("telnet", 23)]

/-- The port a service text names: a decimal number after an optional sign, or a known service
name in any ASCII case. -/
def port (service : List Char) : Except Failure Int := do
  let (negative, digits) := match service with
    | '+' :: rest => (false, rest)
    | '-' :: rest => (true, rest)
    | s => (false, s)
  let n ← if digits.all Char.isDigit then
      pure (digits.foldl (fun n d => 10 * n + (d.toNat - 48 : Nat)) 0 : Int)
    else
      let name := String.ofList (service.map Char.toLower)
      match services.find? (·.1 == name) with
      | some (_, p) => pure p
      | none => .error (.say ("listen tcp: lookup tcp/" ++ String.ofList service ++ ": unknown port"))
  let n := if negative then -n else n
  if 0 ≤ n ∧ n ≤ 65535 then pure n else .error (refuse service "invalid port")

/-- Reads a decimal byte of at most three digits and no leading zero. -/
def decimalByte (s : List Char) : Option Nat :=
  if s.isEmpty || s.length > 3 || !s.all Char.isDigit then none
  else if s.length > 1 && s.head? == some '0' then none
  else
    let n := s.foldl (fun n d => 10 * n + (d.toNat - 48)) 0
    if n ≤ 255 then some n else none

/-- Reads an IPv4 address: four decimal bytes separated by dots. -/
def ipv4 (s : List Char) : Option (List Nat) :=
  let parts := s.splitOn '.'
  if parts.length != 4 then none else parts.mapM decimalByte

/-- The value of a hexadecimal digit. -/
def hexDigit (c : Char) : Option Nat :=
  if c.isDigit then some (c.toNat - 48)
  else if 'a' ≤ c ∧ c ≤ 'f' then some (c.toNat - 87)
  else if 'A' ≤ c ∧ c ≤ 'F' then some (c.toNat - 55)
  else none

/-- Reads a group of an IPv6 address: one to four hexadecimal digits. -/
def group (s : List Char) : Option Nat :=
  if s.isEmpty || s.length > 4 then none
  else (s.mapM hexDigit).map fun ds => ds.foldl (fun n d => 16 * n + d) 0

/-- Reads groups separated by colons, the last of which may be an IPv4 address standing for two
groups. -/
def groups (s : List Char) : Option (List Nat) :=
  if s.isEmpty then some []
  else
    let parts := s.splitOn ':'
    let front := parts.dropLast
    let last := parts.getLast?.getD []
    match front.mapM group with
    | none => none
    | some gs =>
      if last.contains '.' then
        (ipv4 last).map fun bs => gs ++ [256 * bs.getD 0 0 + bs.getD 1 0, 256 * bs.getD 2 0 + bs.getD 3 0]
      else (group last).map fun g => gs ++ [g]

/-- Reads an IPv6 address without its zone: eight groups, or fewer around one `::`. -/
def ipv6Groups (s : List Char) : Option (List Nat) :=
  match (List.range (s.length - 1)).find? fun i => s.getD i ' ' == ':' && s.getD (i + 1) ' ' == ':' with
  | none => (groups s).bind fun gs => if gs.length = 8 then some gs else none
  | some i =>
    let before := s.take i
    let after := s.drop (i + 2)
    -- A second `::` or a stray colon next to the first makes a group empty.
    match groups before, groups after with
    | some gs, some hs =>
      if gs.length + hs.length ≤ 7 then some (gs ++ List.replicate (8 - gs.length - hs.length) 0 ++ hs)
      else none
    | _, _ => none

/-- The host of an address, once read. -/
inductive Host where
  /-- Every interface. -/
  | any
  /-- An IPv4 address, by its four bytes. -/
  | v4 (bytes : List Nat)
  /-- An IPv6 address, by its eight groups, with its zone. -/
  | v6 (groups : List Nat) (zone : List Char)
  deriving Inhabited

/-- Reads a host: empty for every interface, an IP literal, or `localhost`. An IPv6 address
that holds an IPv4 one is that IPv4 address. -/
def host (h : List Char) : Except Failure Host :=
  let unknown : Failure := .say ("listen tcp: lookup " ++ String.ofList h ++ ": no such host")
  if h.isEmpty then .ok .any
  else
    match h.find? fun c => c == '.' || c == ':' || c == '%' with
    | some '.' => match ipv4 h with
      | some bs => .ok (.v4 bs)
      | none => .error unknown
    | some ':' =>
      let i := h.idxOf '%'
      let (addr, zone) := if i < h.length then (h.take i, h.drop (i + 1)) else (h, [])
      let zoneOk := !(h.contains '%') || !zone.isEmpty
      match ipv6Groups addr with
      | some gs =>
        if !zoneOk then .error unknown
        else if gs.take 6 == [0, 0, 0, 0, 0, 65535] then
          .ok (.v4 [gs.getD 6 0 / 256, gs.getD 6 0 % 256, gs.getD 7 0 / 256, gs.getD 7 0 % 256])
        else .ok (.v6 gs zone)
      | none => .error unknown
    | _ =>
      let name := (h.map Char.toLower)
      if name == "localhost".toList || name == "localhost.".toList then .ok (.v4 [127, 0, 0, 1])
      else .error unknown

/-- Writes a number in lower-case hexadecimal, without leading zeros. -/
def hexText (n : Nat) : String := String.ofList (Nat.toDigits 16 n)

/-- The start and length of the first longest run of zero groups. -/
def zeroRun (gs : List Nat) : Nat × Nat :=
  (List.range gs.length).foldl (fun (best : Nat × Nat) i =>
    let run := ((gs.drop i).takeWhile (· == 0)).length
    if run > best.2 then (i, run) else best) (0, 0)

/-- The shortest text of an IPv6 address: groups in hexadecimal without leading zeros, the
first longest run of two or more zero groups written `::`. -/
def v6Text (gs : List Nat) : String :=
  let (start, len) := zeroRun gs
  let joined (xs : List Nat) := ":".intercalate (xs.map hexText)
  if len < 2 then joined gs
  else joined (gs.take start) ++ "::" ++ joined (gs.drop (start + len))

/-- The text of a host as the listener reports it, an IPv6 host in brackets. -/
def Host.text : Host → String
  | .any => "[::]"
  | .v4 bs => ".".intercalate (bs.map toString)
  | .v6 gs zone => "[" ++ v6Text gs ++ (if zone.isEmpty then "" else "%" ++ String.ofList zone) ++ "]"

/-- Whether this machine holds a host's address: the loopback addresses and the wildcards. -/
def Host.onMachine : Host → Bool
  | .any => true
  | .v4 bs => bs.head? == some 127 || bs == [0, 0, 0, 0]
  | .v6 gs _ => gs == [0, 0, 0, 0, 0, 0, 0, 1] || gs == [0, 0, 0, 0, 0, 0, 0, 0]

/-- A host as it is bound: an unspecified address listens on every interface. -/
def Host.bound : Host → Host
  | .v4 [0, 0, 0, 0] => .any
  | .v6 [0, 0, 0, 0, 0, 0, 0, 0] _ => .any
  | h => h

/-- A listening socket: its host, and its port when one was asked for (none when the system
chooses it). -/
structure Bound where
  host : Host
  port : Option Nat
  deriving Inhabited

/-- Listens on an address: the bound socket, or why the address cannot be listened on. -/
def bind (addr : String) : Except Failure Bound := do
  if addr.isEmpty then return { host := .any, port := none }
  let (h, service) ← splitHostPort addr.toList
  let p ← port service
  let h ← host h
  if !h.onMachine then
    .error (.say ("listen tcp " ++ h.text ++ ":" ++ toString p ++ ": bind: cannot assign requested address"))
  else pure { host := h.bound, port := if p = 0 then none else some p.toNat }

/-- Whether the bound socket reports exactly the configured address. A port of the system's
choice is never the configured zero or empty one. -/
def Bound.keeps (b : Bound) (addr : String) : Bool :=
  match b.port with
  | none => false
  | some p => b.host.text ++ ":" ++ toString p == addr

end Listen

end TelemetryBridge
