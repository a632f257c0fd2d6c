import TelemetryBridge.Time.Duration

/-!
# Bridge configuration

The configuration of the bridge, in seven sections: the serial line, the data sources, the
bridge loop, the device identity, logging, metrics and MQTT.

A configuration starts out empty (zeros, empty texts, false), except that sharing the payload
back to the live store is on unless a document turns it off. *Defaults* then fill every field
left at zero or empty; a boolean is never filled. *Validation* checks what the bridge needs: a
serial port, a positive baud rate and poll interval, a transmit interval no shorter than the
poll interval, a broker when MQTT is on, and a QoS of 0, 1 or 2. Its problems are reported
together, one per line.

Main definitions: `Config`, `Config.withDefaults`, `Config.problems`.
-/

namespace TelemetryBridge

/-- The serial line. -/
structure SerialConfig where
  port : String := ""
  baudRate : Int := 0
  readTimeout : Duration := ⟨0⟩
  deriving Inhabited

/-- Where readings come from and who else gets a copy of each payload. -/
structure SourcesConfig where
  redisAddr : String := ""
  redisDb : Int := 0
  contKey : String := ""
  alarmsKey : String := ""
  payloadKey : String := ""
  snapshotPath : String := ""
  backupPath : String := ""
  backupTable : String := ""
  probeTimeout : Duration := ⟨0⟩
  deriving Inhabited

/-- The bridge loop. -/
structure BridgeConfig where
  pollInterval : Duration := ⟨0⟩
  transmitInterval : Duration := ⟨0⟩
  eventMonitoring : Bool := false
  profilePath : String := ""
  sharePayload : Bool := false
  deriving Inhabited

/-- The device identity file. -/
structure IdentityConfig where
  deviceFile : String := ""
  deriving Inhabited

/-- Logging. -/
structure LoggingConfig where
  level : String := ""
  file : String := ""
  deriving Inhabited

/-- The metrics and status endpoint. -/
structure MetricsConfig where
  enabled : Bool := false
  addr : String := ""
  deriving Inhabited

/-- Publishing payloads over MQTT. -/
structure MqttConfig where
  enabled : Bool := false
  broker : String := ""
  clientId : String := ""
  topic : String := ""
  qos : Int := 0
  caCertificate : String := ""
  deriving Inhabited

/-- The configuration of the bridge. -/
structure Config where
  serial : SerialConfig := {}
  sources : SourcesConfig := {}
  bridge : BridgeConfig := {}
  identity : IdentityConfig := {}
  logging : LoggingConfig := {}
  metrics : MetricsConfig := {}
  mqtt : MqttConfig := {}
  deriving Inhabited

namespace Config

/-- The configuration before any document is read: empty, with payload sharing on. -/
def initial : Config := { bridge := { sharePayload := true } }

/-- A text, or its default when it is empty. -/
def orText (s d : String) : String := if s.isEmpty then d else s

/-- A number, or its default when it is zero. -/
def orInt (n d : Int) : Int := if n = 0 then d else n

/-- A duration, or its default when it is zero. -/
def orDuration (x d : Duration) : Duration := if x.ns = 0 then d else x

/-- Fills every field left at zero or empty with its default. -/
def withDefaults (c : Config) : Config :=
  { serial := { port := orText c.serial.port "/dev/ttyAMA0"
                baudRate := orInt c.serial.baudRate 9600
                readTimeout := orDuration c.serial.readTimeout Duration.second }
    sources := { c.sources with
                 redisAddr := orText c.sources.redisAddr "localhost:6379"
                 contKey := orText c.sources.contKey "cont"
                 alarmsKey := orText c.sources.alarmsKey "alarms"
                 payloadKey := orText c.sources.payloadKey "payload"
                 snapshotPath := orText c.sources.snapshotPath "cont2_data.json"
                 backupPath := orText c.sources.backupPath "rms.db"
                 backupTable := orText c.sources.backupTable "controller"
                 probeTimeout := orDuration c.sources.probeTimeout ⟨2000000000⟩ }
    bridge := { c.bridge with
                pollInterval := orDuration c.bridge.pollInterval Duration.second
                transmitInterval := orDuration c.bridge.transmitInterval ⟨15000000000⟩
                profilePath := orText c.bridge.profilePath "profile.json" }
    identity := c.identity
    logging := { level := orText c.logging.level "info"
                 file := orText c.logging.file "bridge.log" }
    metrics := { c.metrics with addr := orText c.metrics.addr ":9105" }
    mqtt := { c.mqtt with
              clientId := orText c.mqtt.clientId "telemetry-bridge"
              topic := orText c.mqtt.topic "bridge/payload" } }

/-- The configuration with every default. -/
def defaults : Config := initial.withDefaults

/-- What is wrong with a configuration, in a fixed order. -/
def problems (c : Config) : List String :=
  (if c.serial.port.isEmpty then ["serial.port is required"] else []) ++
  (if c.serial.baudRate ≤ 0 then
    ["serial.baud_rate must be positive, got " ++ toString c.serial.baudRate] else []) ++
  (if c.bridge.pollInterval.ns ≤ 0 then
    ["bridge.poll_interval must be positive, got " ++ c.bridge.pollInterval.text] else []) ++
  (if c.bridge.transmitInterval.ns < c.bridge.pollInterval.ns then
    ["bridge.transmit_interval (" ++ c.bridge.transmitInterval.text ++
      ") must not be shorter than poll_interval (" ++ c.bridge.pollInterval.text ++ ")"]
    else []) ++
  (if c.mqtt.enabled && c.mqtt.broker.isEmpty then
    ["mqtt.broker is required when mqtt is enabled"] else []) ++
  (if c.mqtt.qos < 0 || c.mqtt.qos > 2 then
    ["mqtt.qos must be 0, 1 or 2, got " ++ toString c.mqtt.qos] else [])

/-- The problems of a configuration as one text, one per line; `none` when it is valid. -/
def validate (c : Config) : Option String :=
  match c.problems with
  | [] => none
  | ps => some ("\n".intercalate ps)

end Config

end TelemetryBridge
