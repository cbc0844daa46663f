import FoxessGateway.Mqtt.StatePayload
import FoxessGateway.Mqtt.Topics

/-! # The configurations of the entities

The JSON texts by which Home Assistant learns of the sensors of an inverter, of its slider and of
the gateway. -/

namespace FoxessGateway.Mqtt

open Protocol JsonText

structure DiscoveryConfig extends MqttConfig where
  expireAfterSeconds : Option Int

/-! ## Names and units -/

def explicitNames : List (String × String) :=
  [("r_power_w", "AC Power"), ("export_power_w", "Export Power"), ("r_voltage_v", "AC Voltage"),
    ("r_current_a", "AC Current"), ("r_frequency_hz", "AC Frequency"), ("pv_power_w", "PV Power"),
    ("pv1_power_w", "PV1 Power"), ("pv1_voltage_v", "PV1 Voltage"),
    ("pv1_current_a", "PV1 Current"), ("pv2_power_w", "PV2 Power"),
    ("pv2_voltage_v", "PV2 Voltage"), ("pv2_current_a", "PV2 Current"),
    ("pv3_power_w", "PV3 Power"), ("pv3_voltage_v", "PV3 Voltage"),
    ("pv3_current_a", "PV3 Current"), ("pv4_power_w", "PV4 Power"),
    ("pv4_voltage_v", "PV4 Voltage"), ("pv4_current_a", "PV4 Current"),
    ("inverter_temperature_c", "Inverter Temperature"), ("generation_kwh", "Total Generation"),
    ("export_total_kwh", "Total Grid Export"), ("operating_state", "Operating State"),
    ("operating_state_code", "Operating State Code"), ("sequence", "Sequence")]

/-- `text.title()` of an ASCII text; `inside` says that a letter stands before it. -/
def title (inside : Bool) : Text → Text
  | [] => []
  | char :: text =>
    (if inside then char.toLower else char.toUpper) :: title char.isAlpha text

def friendlyFieldName (name : String) : Text :=
  match explicitNames.lookup name with
  | some friendly => friendly.toList
  | none => title false (name.toList.map fun char => if char = '_' then ' ' else char)

/-- The unit, the device class and the state class of a sensor. -/
def metadataFor (name : String) : Option String × Option String × Option String :=
  let endsIn := fun (ending : String) => ending.toList <:+ name.toList
  if endsIn "_w" then ("W", "power", "measurement")
  else if endsIn "_v" then ("V", "voltage", "measurement")
  else if endsIn "_a" then ("A", "current", "measurement")
  else if endsIn "_hz" then ("Hz", "frequency", "measurement")
  else if endsIn "_c" then ("°C", "temperature", "measurement")
  else if endsIn "_kwh" then ("kWh", "energy", "total_increasing")
  else if name = "operating_state" then (none, "enum", none)
  else (none, none, none)

/-- A template of Home Assistant around an expression. -/
def template (expression : Text) : Text :=
  "\x7b\x7b ".toList ++ expression ++ " \x7d\x7d".toList

/-- The field of the state object, in a template. -/
def valueJson (field : String) : Text := "value_json.".toList ++ field.toList

def valueTemplateFor (field : String) (deviceClass : Option String) : Text :=
  if deviceClass = some "date" ∨ deviceClass = some "timestamp" then
    template (valueJson field ++ " if ".toList ++ valueJson field ++ " else 'None'".toList)
  else template (valueJson field)

/-! ## Blocks -/

def text (value : String) : Json := .text value.toList

/-- An entry that is there where it has a value. -/
def optional (key : String) : Option Json → List (String × Json)
  | some value => [(key, value)]
  | none => []

/-- The device block; what is not known of it is left out. -/
def deviceBlock (device : DeviceInfo) : Json :=
  toDict ([("identifiers", .list [.text ("foxess_".toList ++ device.serial)]),
      ("name", .text device.name), ("manufacturer", text "FoxESS"), ("model", .text device.model),
      ("serial_number", .text device.serial)] ++
    textEntry "sw_version" device.firmware ++ textEntry "hw_version" device.module)

def availableOn (topic : Text) : Json :=
  toDict [("topic", .text topic), ("payload_available", text "online"),
    ("payload_not_available", text "offline")]

section Blocks

variable (config : DiscoveryConfig) (serial : Text)

/-- `_availability_block` -/
def availabilityBlock : Json :=
  .list [availableOn config.statusTopic, availableOn (config.inverterTopic serial "availability")]

def stateTopic : Text := config.inverterTopic serial "state"

/-- `f"foxess_{serial}_{field}"` -/
def uniqueId (field : String) : Text := "foxess_".toList ++ serial ++ '_' :: field.toList

/-- What the configuration of every entity of an inverter begins with. -/
def identity (name : Text) (field : String) : List (String × Json) :=
  [("name", .text name), ("unique_id", .text (uniqueId serial field)),
    ("object_id", .text (uniqueId serial field))]

def expireAfter : List (String × Json) :=
  optional "expire_after" (config.expireAfterSeconds.map .int)

end Blocks

/-! ## Entities -/

/-- An entity of an inverter: its component, its field, and its configuration. -/
structure Entity where
  component : String
  field : String
  entries : List (String × Json)

section Entities

variable (config : DiscoveryConfig) (device : DeviceInfo)

def telemetryConnected : Entity where
  component := "binary_sensor"
  field := "telemetry_connected"
  entries := identity device.serial "Telemetry Connected".toList "telemetry_connected" ++
    [("state_topic", .text (config.inverterTopic device.serial "availability")),
      ("payload_on", text "online"), ("payload_off", text "offline"),
      ("device_class", text "connectivity"), ("entity_category", text "diagnostic"),
      ("availability", .list [availableOn config.statusTopic]), ("device", deviceBlock device)]

/-- A sensor for a field of the state object. -/
def fieldSensor (field : String) : Entity :=
  let (unit, deviceClass, stateClass) := metadataFor field
  { component := "sensor"
    field := field
    entries := identity device.serial (friendlyFieldName field) field ++
      [("state_topic", .text (stateTopic config device.serial)),
        ("value_template", .text (valueTemplateFor field deviceClass)),
        ("availability", availabilityBlock config device.serial),
        ("availability_mode", text "all"), ("device", deviceBlock device)] ++
      expireAfter config ++ optional "unit_of_measurement" (unit.map text) ++
      optional "device_class" (deviceClass.map text) ++
      (if field = "operating_state" then
        [("options", .list [text "standby", text "running", text "unknown"])] else []) ++
      optional "state_class" (stateClass.map text) }

def running : Entity where
  component := "binary_sensor"
  field := "running"
  entries := identity device.serial "Running".toList "running" ++
    [("state_topic", .text (stateTopic config device.serial)),
      ("value_template", .text (template ("'ON' if ".toList ++ valueJson "operating_state" ++
        " == 'running' else 'OFF'".toList))),
      ("payload_on", text "ON"), ("payload_off", text "OFF"),
      ("availability", availabilityBlock config device.serial), ("availability_mode", text "all"),
      ("device_class", text "running"), ("device", deviceBlock device)] ++ expireAfter config

/-- `_publish_fault_discovery` -/
def fault : Entity where
  component := "binary_sensor"
  field := "fault"
  entries := identity device.serial "Fault".toList "fault" ++
    [("state_topic", .text (stateTopic config device.serial)),
      ("value_template", .text (template ("'ON' if ".toList ++ valueJson "fault_active" ++
        " else 'OFF'".toList))),
      ("payload_on", text "ON"), ("payload_off", text "OFF"),
      ("availability", availabilityBlock config device.serial), ("availability_mode", text "all"),
      ("device_class", text "problem"), ("entity_category", text "diagnostic"),
      ("device", deviceBlock device)] ++ expireAfter config

/-- What the sensors of the last fault and of the mesh have in common. -/
def diagnosticSensor (name field : String) (valueTemplate : Text) (further : List (String × Json)) :
    Entity where
  component := "sensor"
  field := field
  entries := identity device.serial name.toList field ++
    [("value_template", .text valueTemplate)] ++ further ++
    [("state_topic", .text (stateTopic config device.serial)),
      ("availability", availabilityBlock config device.serial), ("availability_mode", text "all"),
      ("entity_category", text "diagnostic"), ("device", deviceBlock device)]

/-- `_publish_last_fault_discovery` -/
def lastFault : List Entity :=
  [diagnosticSensor config device "Last Fault Code" "last_fault_code"
      (template (valueJson "last_fault_code")) [],
    diagnosticSensor config device "Last Fault Message" "last_fault_message"
      (template (valueJson "last_fault_message")) [],
    diagnosticSensor config device "Last Fault Time" "last_fault_timestamp"
      (valueTemplateFor "last_fault_timestamp" (some "timestamp"))
      [("device_class", text "timestamp")]]

/-- `_publish_mesh_discovery` -/
def mesh : List Entity :=
  [diagnosticSensor config device "Mesh Role" "mesh_role"
      (template (valueJson "mesh_role" ++ " | default('')".toList)) [],
    diagnosticSensor config device "Mesh Peer Serial" "mesh_peer_serial"
      (template (valueJson "mesh_peer_serial" ++ " | default('')".toList)) []]

/-- `publish_active_power_limit_discovery` -/
def activePowerLimit : List Entity :=
  [{ component := "number"
     field := "active_power_limit"
     entries := identity device.serial "Active Power Limit".toList "active_power_limit" ++
       [("command_topic", .text (activePowerLimitCommandTopic config.topicPrefix device.serial)),
         ("state_topic", .text (config.activePowerLimitStateTopic device.serial)),
         ("min", .int 0), ("max", .int 100), ("step", .int 1), ("mode", text "slider"),
         ("unit_of_measurement", text "%"), ("entity_category", text "config"),
         ("availability", availabilityBlock config device.serial),
         ("availability_mode", text "all"), ("device", deviceBlock device)] },
    { component := "sensor"
      field := "active_power_limit_result"
      entries :=
        identity device.serial "Active Power Limit Result".toList "active_power_limit_result" ++
          [("state_topic", .text (config.activePowerLimitResultTopic device.serial)),
            ("entity_category", text "diagnostic"),
            ("availability", availabilityBlock config device.serial),
            ("availability_mode", text "all"), ("device", deviceBlock device)] }]

/-- The entities that `_publish_discovery` configures, in order. -/
def discoveryEntities (telemetry : Telemetry) : List Entity :=
  telemetryConnected config device ::
    ((stateDict config.toMqttConfig telemetry).filter (· ∉ skippedFields)).map
      (fieldSensor config device) ++
    running config device ::
      (if supportsAcFaultHistory device.model then fault config device :: lastFault config device
        else []) ++ mesh config device

end Entities

/-- `json.dumps(payload, separators=(",", ":"))` -/
def Entity.text (entity : Entity) : Text := dumps .compact false (toDict entity.entries)

/-- `_publish_gateway_discovery` -/
def gatewayEntries (config : DiscoveryConfig) : List (String × Json) :=
  [("name", text "Connected"), ("unique_id", text "foxess_local_gateway_connected"),
    ("object_id", text "foxess_local_gateway_connected"),
    ("state_topic", .text config.statusTopic), ("payload_on", text "online"),
    ("payload_off", text "offline"), ("device_class", text "connectivity"),
    ("entity_category", text "diagnostic"),
    ("device", toDict [("identifiers", .list [text "foxess_local_gateway"]),
      ("name", text "FoxESS Local Gateway"), ("manufacturer", text "FoxESS Local Gateway"),
      ("model", text "Local MQTT gateway")])]

end FoxessGateway.Mqtt
