import TelemetryBridge.Files.Disk
import TelemetryBridge.Time.Duration

/-!
# Serial devices

The bridge writes frames to a serial device. The line settings are the device path, the baud
rate and the read timeout; framing is fixed at eight data bits, no parity and one stop bit.

A device answers each write by taking some of the bytes offered and possibly failing; the
answers are given by a script, and once the script is used up the device takes every byte.
Closing the device answers the same way every time. The device keeps a trace of its writes
(the bytes it took and how many were offered) and counts the times it was closed.

Devices are opened by an *opener*. The system opener opens device files of the host: the
baud rate must be one of the standard rates, the path must open for reading and writing, and
it must be a terminal (no file of the working directory is one). A scripted opener answers
each attempt by its script, failing or succeeding; attempts beyond the script succeed. It keeps
the settings of every attempt.

Main definitions: `Serial.Settings`, `Serial.Device`, `Device.write`, `Device.close`, `Serial.Opener`,
`Serial.Opener.attempt`.
-/

namespace TelemetryBridge

namespace Serial

/-- The line settings of a serial port. -/
structure Settings where
  name : Bytes
  baud : Int
  readTimeout : Duration
  deriving Inhabited

/-- What a device answers to one write: how many bytes it takes (all when not given) and the
failure it reports. -/
structure WriteAnswer where
  accepted : Option Nat := none
  failure : Option Failure := none
  deriving Inhabited

/-- A serial device: its answers to writes, its answer to closing, the trace of writes as
pairs of the bytes taken and the number of bytes offered, and the number of times it was
closed. -/
structure Device where
  script : List WriteAnswer := []
  closeFailure : Option Failure := none
  written : List (Bytes × Nat) := []
  closes : Nat := 0
  deriving Inhabited

namespace Device

/-- One write: how many bytes the device took, and its failure. -/
def write (d : Device) (p : Bytes) : Device × Nat × Option Failure :=
  let (answer, rest) := match d.script with
    | a :: rest => (a, rest)
    | [] => (({} : WriteAnswer), [])
  let n := min (answer.accepted.getD p.length) p.length
  ({ d with script := rest, written := d.written ++ [(p.take n, p.length)] }, n, answer.failure)

/-- Closes the device: the device after it, and its failure. -/
def close (d : Device) : Device × Option Failure := ({ d with closes := d.closes + 1 }, d.closeFailure)

end Device

/-- The baud rates the system opener knows. -/
def standardBauds : List Int :=
  [50, 75, 110, 134, 150, 200, 300, 600, 1200, 1800, 2400, 4800, 9600, 19200, 38400, 57600,
    115200, 230400, 460800, 500000, 576000, 921600, 1000000, 1152000, 1500000, 2000000, 2500000,
    3000000, 3500000, 4000000]

/-- How devices are opened. -/
inductive Opener where
  /-- Opens device files of the host. -/
  | system
  /-- Answers attempts by a script, keeping the settings of each attempt. -/
  | scripted (answers : List (Option Failure)) (attempts : List Settings)
  deriving Inhabited

namespace Opener

/-- One attempt to open a device: the opener after it and the failure, if the attempt failed. -/
def attempt (o : Opener) (disk : Disk) (s : Settings) : Opener × Option Failure :=
  match o with
  | .system =>
    if !standardBauds.contains s.baud then (o, some (.say "Unrecognized baud rate"))
    else
      match disk.find s.name with
      | .error e => (o, some (.os "open" s.name e))
      | .ok .dir => (o, some (.os "open" s.name .isDirectory))
      | .ok _ => (o, some (.say OsError.notTerminal.message))
  | .scripted answers attempts =>
    match answers with
    | a :: rest => (.scripted rest (attempts ++ [s]), a)
    | [] => (.scripted [] (attempts ++ [s]), none)

/-- The settings of the attempts a scripted opener saw. -/
def attempts : Opener → List Settings
  | .system => []
  | .scripted _ xs => xs

end Opener

end Serial

end TelemetryBridge
