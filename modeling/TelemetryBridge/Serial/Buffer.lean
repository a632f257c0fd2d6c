import TelemetryBridge.Serial.Device

/-!
# The write buffer

Frames go to the device through a buffer of 4096 bytes:

* a write that fits the free space is kept in the buffer;
* a larger write, while the buffer is empty, goes straight to the device, again while what is
  left does not fit (a device that takes fewer bytes without failing is offered the rest);
  while the buffer holds bytes, it is filled up and flushed first;
* flushing offers the buffer to the device; what the device did not take stays, and taking
  fewer bytes without failing is the failure `short write`;
* the first failure sticks: every later write and flush reports it until the buffer is reset.

Main definitions: `Serial.Buffer`, `Buffer.write`, `Buffer.flush`.
-/

namespace TelemetryBridge

namespace Serial

/-- The size of the write buffer. -/
def bufferSize : Nat := 4096

/-- The failure of a device that took fewer bytes without failing. -/
def shortWrite : Failure := .say "short write"

/-- The write buffer: the bytes held and the failure that sticks. -/
structure Buffer where
  held : Bytes := []
  failure : Option Failure := none
  deriving Inhabited

namespace Buffer

/-- The free space. -/
def free (b : Buffer) : Nat := bufferSize - b.held.length

/-- Offers the held bytes to the device. -/
def flush (b : Buffer) (d : Device) : Buffer × Device × Option Failure :=
  match b.failure with
  | some f => (b, d, some f)
  | none =>
    if b.held.isEmpty then (b, d, none)
    else
      let (d, n, f) := d.write b.held
      let f := match f with
        | some f => some f
        | none => if n < b.held.length then some shortWrite else none
      match f with
      | some f => ({ held := b.held.drop n, failure := some f }, d, some f)
      | none => ({ held := [] }, d, none)

/-- Writes bytes while they do not fit the free space; `fuel` bounds the rounds. -/
def spill (fuel : Nat) (b : Buffer) (d : Device) (p : Bytes) : Buffer × Device × Bytes :=
  match fuel with
  | 0 => (b, d, p)
  | fuel + 1 =>
    if p.length ≤ b.free || b.failure.isSome then (b, d, p)
    else if b.held.isEmpty then
      let (d, n, f) := d.write p
      spill fuel { b with failure := f } d (p.drop n)
    else
      let k := b.free
      let b := { b with held := b.held ++ p.take k }
      let (b, d, _) := b.flush d
      spill fuel b d (p.drop k)

/-- Writes bytes: the part that does not fit goes to the device, the rest is held. -/
def write (b : Buffer) (d : Device) (p : Bytes) : Buffer × Device × Option Failure :=
  let (b, d, rest) := spill (2 * (p.length + d.script.length) + 2) b d p
  match b.failure with
  | some f => (b, d, some f)
  | none => ({ b with held := b.held ++ rest.take b.free }, d, none)

end Buffer

end Serial

end TelemetryBridge
