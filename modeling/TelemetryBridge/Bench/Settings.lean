import TelemetryBridge.Bench.Setup
import TelemetryBridge.Bench.Answer
import TelemetryBridge.Config.Load
import TelemetryBridge.Json.Decode

/-!
# Bench operations on the configuration

`load_config` loads a configuration file; `config_defaults` gives the default configuration,
or fills and validates one given in the request. Configurations are answered section by
section under the field names `Serial.BaudRate`, `MQTT.ClientID` and so on, durations in
nanoseconds.
-/

namespace TelemetryBridge

namespace Bench

open Json

/-- A text in an answer. -/
def textValue (s : String) : Value := bytesValue (Bytes.ofString s)

/-- A configuration in an answer. -/
def configValue (c : Config) : Value :=
  .obj [("Serial", .obj [("Port", textValue c.serial.port), ("BaudRate", .int c.serial.baudRate),
      ("ReadTimeout", .int c.serial.readTimeout.ns)]),
    ("Sources", .obj [("RedisAddr", textValue c.sources.redisAddr),
      ("RedisDB", .int c.sources.redisDb), ("ContKey", textValue c.sources.contKey),
      ("AlarmsKey", textValue c.sources.alarmsKey), ("PayloadKey", textValue c.sources.payloadKey),
      ("SnapshotPath", textValue c.sources.snapshotPath),
      ("BackupPath", textValue c.sources.backupPath),
      ("BackupTable", textValue c.sources.backupTable),
      ("ProbeTimeout", .int c.sources.probeTimeout.ns)]),
    ("Bridge", .obj [("PollInterval", .int c.bridge.pollInterval.ns),
      ("TransmitInterval", .int c.bridge.transmitInterval.ns),
      ("EventMonitoring", .bool c.bridge.eventMonitoring),
      ("ProfilePath", textValue c.bridge.profilePath),
      ("MirrorPayload", .bool c.bridge.sharePayload)]),
    ("Identity", .obj [("DeviceFile", textValue c.identity.deviceFile)]),
    ("Logging", .obj [("Level", textValue c.logging.level), ("File", textValue c.logging.file)]),
    ("Metrics", .obj [("Enabled", .bool c.metrics.enabled), ("Addr", textValue c.metrics.addr)]),
    ("MQTT", .obj [("Enabled", .bool c.mqtt.enabled), ("Broker", textValue c.mqtt.broker),
      ("ClientID", textValue c.mqtt.clientId), ("Topic", textValue c.mqtt.topic),
      ("QOS", .int c.mqtt.qos), ("CACertificate", textValue c.mqtt.caCertificate)])]

/-- `load_config`: loads the configuration file. -/
def loadConfigOp (req : Value) : Value :=
  match Config.load (diskOf req) (textField req "path" "config.yaml") with
  | .ok c => .obj [("config", configValue c), ("error", .null)]
  | .error f => .obj [("error", failureValue (some f))]

/-- The members of an object whose keys match a field name up to case. -/
def memberOf (v : Value) (name : String) : Option Value :=
  match v with
  | .object ms => (ms.reverse.find? fun (k, _) => keyMatches k name).map (·.2)
  | _ => none

/-- A text member of a partial configuration. -/
def textMember (v : Value) (name : String) (cur : String) : String :=
  match memberOf v name with
  | some (.string s) => String.fromUTF8? (ByteArray.mk s.toArray) |>.getD cur
  | _ => cur

/-- An integer member of a partial configuration. -/
def intMember (v : Value) (name : String) (cur : Int) : Int :=
  match memberOf v name with
  | some (.number t) => (intText? t).getD cur
  | _ => cur

/-- A boolean member of a partial configuration. -/
def flagMember (v : Value) (name : String) (cur : Bool) : Bool :=
  match memberOf v name with
  | some (.bool b) => b
  | _ => cur

/-- A configuration given section by section under the answer's field names; absent fields
are zero, empty or false. -/
def configOf (v : Value) : Config :=
  let sec (name : String) : Value := (memberOf v name).getD (.object [])
  let s := sec "Serial"
  let so := sec "Sources"
  let b := sec "Bridge"
  let i := sec "Identity"
  let l := sec "Logging"
  let me := sec "Metrics"
  let q := sec "MQTT"
  { serial := { port := textMember s "Port" "", baudRate := intMember s "BaudRate" 0,
                readTimeout := ⟨intMember s "ReadTimeout" 0⟩ }
    sources := { redisAddr := textMember so "RedisAddr" "", redisDb := intMember so "RedisDB" 0,
                 contKey := textMember so "ContKey" "", alarmsKey := textMember so "AlarmsKey" "",
                 payloadKey := textMember so "PayloadKey" "",
                 snapshotPath := textMember so "SnapshotPath" "",
                 backupPath := textMember so "BackupPath" "",
                 backupTable := textMember so "BackupTable" "",
                 probeTimeout := ⟨intMember so "ProbeTimeout" 0⟩ }
    bridge := { pollInterval := ⟨intMember b "PollInterval" 0⟩,
                transmitInterval := ⟨intMember b "TransmitInterval" 0⟩,
                eventMonitoring := flagMember b "EventMonitoring" false,
                profilePath := textMember b "ProfilePath" "",
                sharePayload := flagMember b "MirrorPayload" false }
    identity := { deviceFile := textMember i "DeviceFile" "" }
    logging := { level := textMember l "Level" "", file := textMember l "File" "" }
    metrics := { enabled := flagMember me "Enabled" false, addr := textMember me "Addr" "" }
    mqtt := { enabled := flagMember q "Enabled" false, broker := textMember q "Broker" "",
              clientId := textMember q "ClientID" "", topic := textMember q "Topic" "",
              qos := intMember q "QOS" 0, caCertificate := textMember q "CACertificate" "" } }

/-- `config_defaults`: the default configuration, or a given one with defaults filled in
(unless `apply_defaults` is false), with its validation. -/
def configDefaultsOp (req : Value) : Value :=
  let c := if boolField req "default" false then Config.defaults
    else
      let c := configOf ((req.given? "config").getD (.object []))
      if boolField req "apply_defaults" true then c.withDefaults else c
  .obj [("config", configValue c),
    ("validate", failureValue (c.validate.map fun p => .text (Bytes.ofString p)))]

end Bench

end TelemetryBridge
