import FoxessGateway.Protocol.Telemetry

/-! # The messages of the gateway

The topics and payloads of `mqtt.py`, and the messages by which Home Assistant discovers the
sensors of an inverter, in the order in which they are published. -/

namespace FoxessGateway.Mqtt

open Protocol

/-- The part of the MQTT configuration that decides what is published. -/
structure MqttConfig where
  host : Text
  topicPrefix : Text
  discoveryPrefix : Text
  retain : Bool
  debug : Bool

/-! ## Messages -/

/-- The device block of a discovery message. -/
structure DeviceInfo where
  serial : Text
  name : Text
  model : Text
  firmware : Text
  module : Text
  deriving DecidableEq, Repr

inductive Payload where
  | empty
  /-- The configuration of an entity of an inverter.  Its other fields follow from the topic. -/
  | entity (device : DeviceInfo)
  /-- The configuration of the gateway's own entity. -/
  | gateway
  /-- `json.dumps(self._state_dict(telemetry))` -/
  | state (telemetry : Telemetry)
  | text (value : Text)
  | number (value : Int)
  | reading (value : Reading)
  deriving DecidableEq, Repr

structure Message where
  topic : Text
  payload : Payload
  retain : Bool
  deriving DecidableEq, Repr

/-- The parts with slashes between them. -/
def path (parts : List Text) : Text := ['/'].intercalate parts

/-- `active_power_limit_command_topic` -/
def activePowerLimitCommandTopic (topicPrefix serial : Text) : Text :=
  topicPrefix ++ '/' :: (serial ++ "/active_power_limit/set".toList)

theorem activePowerLimitCommandTopic_inj {topicPrefix first second : Text} :
    activePowerLimitCommandTopic topicPrefix first =
      activePowerLimitCommandTopic topicPrefix second ↔
      first = second := by
  rw [activePowerLimitCommandTopic, activePowerLimitCommandTopic, List.append_cancel_left_eq,
    List.cons.injEq, List.append_cancel_right_eq]
  exact and_iff_right rfl

namespace MqttConfig

variable (config : MqttConfig)

def enabled : Bool := config.host ≠ []

def statusTopic : Text := path [config.topicPrefix, "status".toList]

def inverterTopic (serial : Text) (leaf : String) : Text :=
  path [config.topicPrefix, serial, leaf.toList]

def activePowerLimitStateTopic (serial : Text) : Text :=
  config.inverterTopic serial "active_power_limit/state"

def activePowerLimitResultTopic (serial : Text) : Text :=
  config.inverterTopic serial "active_power_limit/result"

/-- `f"{discovery_prefix}/{component}/foxess_{serial}/{field}/config"` -/
def entityTopic (component : String) (serial field : Text) : Text :=
  path [config.discoveryPrefix, component.toList, "foxess_".toList ++ serial, field,
    "config".toList]

/-- An entity is configured. -/
def configure (component : String) (device : DeviceInfo) (field : String) : Message :=
  ⟨config.entityTopic component device.serial field.toList, .entity device, true⟩

/-- The retained configuration of an entity is removed. -/
def unconfigure (component : String) (serial : Text) (field : String) : Message :=
  ⟨config.entityTopic component serial field.toList, .empty, true⟩

/-- The gateway is online. -/
def online : Message := ⟨config.statusTopic, .text "online".toList, true⟩

def availability (serial : Text) (status : Text) : Message :=
  ⟨config.inverterTopic serial "availability", .text status, true⟩

/-- `_publish_gateway_discovery` -/
def gatewayDiscovery : Message where
  topic := path [config.discoveryPrefix,
    "binary_sensor/foxess_local_gateway/connected/config".toList]
  payload := .gateway
  retain := true

end MqttConfig

/-! ## Telemetry -/

/-- A field that is in `as_dict` where its text is not empty. -/
def textField (field : String) (text : Text) : List String := if text = [] then [] else [field]

/-- The fields of the further strings of panels. -/
def stringFields : Option (PvString × PvString) → List String
  | some _ => ["pv3_power_w", "pv3_voltage_v", "pv3_current_a", "pv4_power_w", "pv4_voltage_v",
      "pv4_current_a"]
  | none => []

/-- The keys of `as_dict`, in the order of the fields of the class. -/
def asDict (telemetry : Telemetry) : List String :=
  textField "serial" telemetry.serial ++
    ["r_power_w", "export_power_w", "r_voltage_v", "r_current_a", "r_frequency_hz", "pv_power_w",
      "pv1_power_w", "pv1_voltage_v", "pv1_current_a", "pv2_power_w", "pv2_voltage_v",
      "pv2_current_a", "inverter_temperature_c", "generation_kwh", "export_total_kwh",
      "fault_active", "operating_state", "operating_state_code", "sequence", "raw_u16_000",
      "raw_u16_002", "raw_u16_096", "raw_u16_098", "raw_u16_100", "raw_u16_102", "raw_u16_104",
      "raw_u16_106", "raw_u16_154", "raw_u16_156"] ++
    textField "model" telemetry.model ++ textField "firmware" telemetry.firmware ++
    textField "module" telemetry.module ++ textField "last_fault_code" telemetry.lastFaultCode ++
    textField "last_fault_message" telemetry.lastFaultMessage ++
    (if telemetry.lastFaultTimestamp.isSome then ["last_fault_timestamp"] else []) ++
    textField "mesh_role" telemetry.meshRole ++
    textField "mesh_peer_serial" telemetry.meshPeerSerial ++ stringFields telemetry.pv34

def isDebugField (name : String) : Bool :=
  name ∈ ["sequence", "operating_state_code"] ∨ "raw_".toList <+: name.toList

/-- The keys of `_state_dict`. -/
def stateDict (config : MqttConfig) (telemetry : Telemetry) : List String :=
  if config.debug then asDict telemetry
  else (asDict telemetry).filter fun field => !isDebugField field

/-- The fields of a state that are no sensors of their own, or are announced apart. -/
def skippedFields : List String :=
  ["serial", "model", "firmware", "module", "fault_active", "last_fault_code",
    "last_fault_message", "last_fault_timestamp", "mesh_role", "mesh_peer_serial"]

/-! ## Discovery -/

section Discovery

variable (config : MqttConfig) (device : DeviceInfo)

/-- `_publish_fault_discovery` and `_publish_last_fault_discovery` -/
def faultDiscovery : List Message :=
  [config.configure "binary_sensor" device "fault",
    config.configure "sensor" device "last_fault_code",
    config.configure "sensor" device "last_fault_message",
    config.configure "sensor" device "last_fault_timestamp"]

/-- `_clear_fault_discovery` -/
def clearFaultDiscovery (serial : Text) : List Message :=
  [config.unconfigure "binary_sensor" serial "fault",
    config.unconfigure "sensor" serial "last_fault_code",
    config.unconfigure "sensor" serial "last_fault_message",
    config.unconfigure "sensor" serial "last_fault_timestamp"]

/-- `_publish_mesh_discovery` -/
def meshDiscovery : List Message :=
  [config.configure "sensor" device "mesh_role",
    config.configure "sensor" device "mesh_peer_serial"]

/-- `_clear_legacy_discovery` -/
def clearLegacyDiscovery (serial : Text) : List Message :=
  [config.unconfigure "sensor" serial "feedin_power_w"]

/-- `_clear_debug_discovery` -/
def clearDebugDiscovery (telemetry : Telemetry) : List Message :=
  ((asDict telemetry).filter isDebugField).map (config.unconfigure "sensor" telemetry.serial)

/-- `_publish_discovery` -/
def discoveryMessages (telemetry : Telemetry) : List Message :=
  [config.configure "binary_sensor" device "telemetry_connected"] ++
    ((stateDict config telemetry).filter (· ∉ skippedFields)).map
      (config.configure "sensor" device) ++
    [config.configure "binary_sensor" device "running"] ++
    (if supportsAcFaultHistory device.model then faultDiscovery config device
      else clearFaultDiscovery config telemetry.serial) ++
    meshDiscovery config device ++ clearLegacyDiscovery config telemetry.serial ++
    (if config.debug then [] else clearDebugDiscovery config telemetry)

/-- The slider of the ActivePowerLimit, and the result of its last write. -/
def activePowerLimitEntities : List Message :=
  [config.configure "number" device "active_power_limit",
    config.configure "sensor" device "active_power_limit_result"]

def activePowerLimitRemovals (serial : Text) : List Message :=
  [config.unconfigure "number" serial "active_power_limit",
    config.unconfigure "sensor" serial "active_power_limit_result"]

end Discovery

/-! ## Readings -/

def operatingStateText : OperatingState → Text
  | .standby => "standby".toList
  | .running => "running".toList
  | .unknown => "unknown".toList

/-- The topics and values of `_publish_scalar_topics` that every inverter has. -/
def scalarValues (telemetry : Telemetry) : List (String × Payload) :=
  [("0/power", .number telemetry.pvPowerW), ("0/ac/power", .number telemetry.rPowerW),
    ("0/ac/export_power", .number telemetry.exportPowerW),
    ("0/ac/voltage", .reading telemetry.rVoltageV), ("0/ac/current", .reading telemetry.rCurrentA),
    ("0/ac/frequency", .reading telemetry.rFrequencyHz),
    ("0/temperature", .reading telemetry.inverterTemperatureC),
    ("0/yieldtotal", .reading telemetry.generationKwh),
    ("0/status", .text (operatingStateText telemetry.operatingState)),
    ("1/power", .number telemetry.pv1.powerW), ("1/voltage", .reading telemetry.pv1.voltageV),
    ("1/current", .reading telemetry.pv1.currentA), ("2/power", .number telemetry.pv2.powerW),
    ("2/voltage", .reading telemetry.pv2.voltageV), ("2/current", .reading telemetry.pv2.currentA)]

/-- The topics of the further strings of panels. -/
def optionalValues : Option (PvString × PvString) → List (String × Payload)
  | some (pv3, pv4) =>
    [("3/power", .number pv3.powerW), ("3/voltage", .reading pv3.voltageV),
      ("3/current", .reading pv3.currentA), ("4/power", .number pv4.powerW),
      ("4/voltage", .reading pv4.voltageV), ("4/current", .reading pv4.currentA)]
  | none => []

/-- The topics of `DEBUG_SCALAR_TOPICS`, and their values when debugging. -/
def debugValues (telemetry : Telemetry) : List (String × Payload) :=
  [("0/sequence", .number telemetry.sequence),
    ("0/status_code", .number telemetry.operatingStateCode)]

/-- `_publish_scalar_topics` -/
def scalarMessages (config : MqttConfig) (telemetry : Telemetry) : List Message :=
  let scalar := fun (entry : String × Payload) =>
    (⟨config.inverterTopic telemetry.serial entry.1, entry.2, config.retain⟩ : Message)
  let values := scalarValues telemetry ++ optionalValues telemetry.pv34
  if config.debug then (values ++ debugValues telemetry).map scalar
  else values.map scalar ++ (debugValues telemetry).map fun entry =>
    ⟨config.inverterTopic telemetry.serial entry.1, .empty, true⟩

/-- What `publish` sends for every telemetry, after the discovery. -/
def telemetryMessages (config : MqttConfig) (telemetry : Telemetry) : List Message :=
  ⟨config.inverterTopic telemetry.serial "state", .state telemetry, config.retain⟩ ::
    config.availability telemetry.serial "online".toList :: scalarMessages config telemetry

end FoxessGateway.Mqtt
