import TelemetryBridge.Decimal.Layout
import TelemetryBridge.Text.Bytes

/-!
# The bridge's metrics

The bridge counts its source reads, the frames it sent, the sends that failed, the
transmissions that event monitoring suppressed and, per kind of source, the reads that fell
back to the default record; a gauge holds the time of the last frame sent, in seconds after the
epoch.

Metrics are exposed in the plain-text exposition format: one family after another in the order
of their names, each with its help and type lines and then one sample per line, the samples of a
labelled family in the order of their label values. A labelled family with no sample yet is not
written. Sample values are written in the general layout of the shortest decimal.

A bridge may run without metrics; then nothing is counted and nothing is exposed.

Main definitions: `Metrics`, `Metrics.samples`, `Metrics.exposition`.
-/

namespace TelemetryBridge

/-- The bridge's counters and gauge. -/
structure Metrics where
  polls : Nat := 0
  framesSent : Nat := 0
  writeFailures : Nat := 0
  suppressed : Nat := 0
  /-- Reads that fell back to defaults, per kind of source, in order of first failure. -/
  degraded : List (String × Nat) := []
  lastTransmit : Float := 0
  deriving Inhabited

/-- A family of samples: its name, help text and type. -/
structure Family where
  name : String
  help : String
  type : String
  deriving Inhabited

/-- One sample: its family, its label (name and value) if any, and its value. -/
structure Sample where
  family : Family
  label : Option (String × String) := none
  value : Float
  deriving Inhabited

namespace Metrics

/-- The family of source reads. -/
def pollsFamily : Family :=
  ⟨"bridge_polls_total", "Source reads performed by the bridge loop.", "counter"⟩

/-- The family of frames sent. -/
def framesSentFamily : Family :=
  ⟨"bridge_frames_sent_total", "Frames written and flushed to the serial port.", "counter"⟩

/-- The family of failed sends. -/
def writeFailuresFamily : Family :=
  ⟨"bridge_write_failures_total", "Transmission attempts that failed to write or flush.",
    "counter"⟩

/-- The family of suppressed transmissions. -/
def suppressedFamily : Family :=
  ⟨"bridge_transmissions_suppressed_total", "Due transmissions skipped by event monitoring.",
    "counter"⟩

/-- The family of reads that fell back to defaults, labelled by the kind of source. -/
def degradedFamily : Family :=
  ⟨"bridge_source_degraded_total", "Source reads that fell back to the default record.",
    "counter"⟩

/-- The family of the time of the last frame sent. -/
def lastTransmitFamily : Family :=
  ⟨"bridge_last_transmit_timestamp_seconds", "Unix time of the last successful transmission.",
    "gauge"⟩

/-- Counts a source read. -/
def observePoll (m : Metrics) : Metrics := { m with polls := m.polls + 1 }

/-- Counts a frame sent at a time, given in seconds after the epoch. -/
def observeFrameSent (m : Metrics) (time : Float) : Metrics :=
  { m with framesSent := m.framesSent + 1, lastTransmit := time }

/-- Counts a failed send. -/
def observeWriteFailure (m : Metrics) : Metrics := { m with writeFailures := m.writeFailures + 1 }

/-- Counts a suppressed transmission. -/
def observeSuppressed (m : Metrics) : Metrics := { m with suppressed := m.suppressed + 1 }

/-- Counts a read of a kind of source that fell back to defaults. -/
def observeDegraded (m : Metrics) (kind : String) : Metrics :=
  if m.degraded.any (·.1 == kind) then
    { m with degraded := m.degraded.map fun (k, n) => if k == kind then (k, n + 1) else (k, n) }
  else { m with degraded := m.degraded ++ [(kind, 1)] }

/-- A count as a sample value. -/
def countValue (n : Nat) : Float := Float.ofNat n

/-- Every sample, families in the order of their names, labelled samples in the order of their
label values. -/
def samples (m : Metrics) : List Sample :=
  let degraded := (m.degraded.mergeSort fun a b => decide (a.1 ≤ b.1)).map fun (k, n) =>
    { family := degradedFamily, label := some ("backend", k), value := countValue n : Sample }
  [{ family := framesSentFamily, value := countValue m.framesSent },
    { family := lastTransmitFamily, value := m.lastTransmit },
    { family := pollsFamily, value := countValue m.polls }] ++ degraded ++
  [{ family := suppressedFamily, value := countValue m.suppressed },
    { family := writeFailuresFamily, value := countValue m.writeFailures }]

/-- A label value in the exposition: backslash, quote and line feed escaped. -/
def escapeLabel (s : String) : String :=
  String.join (s.toList.map fun c =>
    if c = '\\' then "\\\\" else if c = '"' then "\\\"" else if c = '\n' then "\\n"
    else String.singleton c)

/-- The line of a sample. -/
def sampleLine (s : Sample) : Bytes :=
  let label := match s.label with
    | some (k, v) => "\x7b" ++ k ++ "=\"" ++ escapeLabel v ++ "\"\x7d"
    | none => ""
  Bytes.ofString (s.family.name ++ label ++ " ") ++ gaugeNumber s.value ++ [10]

/-- The exposition text: each family's help and type lines before its first sample. -/
def exposition (m : Metrics) : Bytes :=
  let step (acc : Bytes × Option String) (s : Sample) : Bytes × Option String :=
    let head := if acc.2 == some s.family.name then []
      else Bytes.ofString ("# HELP " ++ s.family.name ++ " " ++ s.family.help ++ "\n# TYPE " ++
        s.family.name ++ " " ++ s.family.type ++ "\n")
    (acc.1 ++ head ++ sampleLine s, some s.family.name)
  (m.samples.foldl step ([], none)).1

end Metrics

end TelemetryBridge
