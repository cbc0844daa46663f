import FoxessGateway.Library.Effectful
import FoxessGateway.Mqtt.Messages
import Mathlib.Data.Finset.Insert
import Mathlib.Data.Finset.SDiff

/-! # The publisher

`MqttPublisher` of `mqtt.py`.  Its operations and callbacks change what it remembers and call the
client; what a call returns changes nothing but the log. -/

namespace FoxessGateway.Mqtt

open Protocol Effectful Action

/-! ## State -/

structure MqttPublisher where
  /-- The client, by its number among those that were made. -/
  client : Option Nat
  mqttConnected : Bool
  announced : Finset Text
  modelBySerial : Dict Text Text
  /-- The model, the firmware and the module. -/
  deviceSignatureBySerial : Dict Text (Text × Text × Text)
  /-- The topics of `_command_handlers`, in their order. -/
  commandTopics : List Text
  activePowerLimitAnnounced : Finset Text
  activePowerLimitCleared : Finset Text

def MqttPublisher.fresh : MqttPublisher where
  client := none
  mqttConnected := false
  announced := ∅
  modelBySerial := .empty
  deviceSignatureBySerial := .empty
  commandTopics := []
  activePowerLimitAnnounced := ∅
  activePowerLimitCleared := ∅

/-- A call of a client. -/
inductive ClientCall where
  /-- `client_factory()`, with the callbacks set and the loop started -/
  | create
  | publish (message : Message)
  | subscribe (topic : Text)
  | unsubscribe (topic : Text)
  | loopStop
  | disconnect
  deriving DecidableEq, Repr

/-- A call of the client with the number. -/
structure MqttEffect where
  client : Nat
  call : ClientCall
  deriving DecidableEq, Repr

abbrev InMqtt := Action MqttPublisher MqttEffect PyError

namespace MqttPublisher

variable (publisher : MqttPublisher)

/-- `self.client is None`, or there is no broker, or no serial. -/
def Skips (config : MqttConfig) (serial : Text) : Prop :=
  config.enabled = false ∨ publisher.client = none ∨ serial = []

instance (config : MqttConfig) (serial : Text) : Decidable (publisher.Skips config serial) :=
  inferInstanceAs (Decidable (_ ∨ _ ∨ _))

/-- Whether the discovery of the inverter is published with the telemetry. -/
def shouldAnnounce (telemetry : Telemetry) : Bool :=
  telemetry.serial ∉ publisher.announced ∨
    (telemetry.model ≠ [] ∧ publisher.modelBySerial.get telemetry.serial ≠ some telemetry.model) ∨
    ∃ signature ∈ publisher.deviceSignatureBySerial.get telemetry.serial,
      (telemetry.model, telemetry.firmware, telemetry.module) ≠ signature

/-- The publisher remembers the model and the signature. -/
def note (telemetry : Telemetry) : MqttPublisher :=
  { publisher with
    modelBySerial :=
      if telemetry.model = [] then publisher.modelBySerial
      else publisher.modelBySerial.set telemetry.serial telemetry.model
    deviceSignatureBySerial := publisher.deviceSignatureBySerial.set telemetry.serial
      (telemetry.model, telemetry.firmware, telemetry.module) }

/-- The model of an inverter, where it is known. -/
def modelOf (serial : Text) : Text :=
  (publisher.modelBySerial.get serial).getD "FoxESS inverter".toList

/-- The device block of `_publish_discovery`. -/
def deviceOf (deviceNames : Dict Text Text) (telemetry : Telemetry) : DeviceInfo where
  serial := telemetry.serial
  name := (deviceNames.get telemetry.serial).getD telemetry.serial
  model := if telemetry.model = [] then publisher.modelOf telemetry.serial else telemetry.model
  firmware := telemetry.firmware
  module := telemetry.module

end MqttPublisher

/-! ## Calls -/

/-- A call of `self.client`.  Every caller has made sure that there is one. -/
def callClient (call : ClientCall) : InMqtt Unit := do
  let publisher ← get
  match publisher.client with
  | some client => perform ⟨client, call⟩
  | none => pure ()

/-- `_publish` -/
def sendMessage (message : Message) : InMqtt Unit := callClient (.publish message)

def sendMessages : List Message → InMqtt Unit
  | [] => pure ()
  | message :: messages => do
    sendMessage message
    sendMessages messages

/-! ## Connections -/

/-- `connect`, where `client` is the number of the client that it makes. -/
def connect (config : MqttConfig) (client : Nat) : InMqtt Unit :=
  doWhen (config.enabled = true) do
    modify fun publisher => { publisher with mqttConnected := false, client := some client }
    callClient .create

/-- `_teardown_client` -/
def teardownClient : InMqtt Unit := do
  let publisher ← get
  match publisher.client with
  | none => pure ()
  | some _ => do
    modify fun publisher => { publisher with mqttConnected := false }
    callClient .loopStop
    callClient .disconnect
    modify fun publisher => { publisher with
      client := none
      announced := ∅
      activePowerLimitAnnounced := ∅ }

/-- `ensure_connected`, where `running` says whether the thread of the loop is alive. -/
def ensureConnected (config : MqttConfig) (running : Bool) (client : Nat) : InMqtt Unit :=
  doWhen (config.enabled = true) do
    let publisher ← get
    if publisher.client.isSome = true ∧ running = true then
      doWhen (publisher.mqttConnected = true) (sendMessage config.online)
    else do
      teardownClient
      connect config client

def close : InMqtt Unit := teardownClient

/-- The topics of the commands are subscribed to. -/
def subscribeAll : List Text → InMqtt Unit
  | [] => pure ()
  | topic :: topics => do
    callClient (.subscribe topic)
    subscribeAll topics

/-- `_on_connect` of a client, with a reason that is a success or not. -/
def onConnect (config : MqttConfig) (client : Nat) (success : Bool) : InMqtt Unit := do
  let publisher ← get
  doWhen (publisher.client = some client) do
    modify fun publisher => { publisher with mqttConnected := success }
    doWhen (success = true) do
      sendMessage config.gatewayDiscovery
      sendMessage config.online
      subscribeAll publisher.commandTopics

/-- `_on_disconnect` of a client -/
def onDisconnect (client : Nat) : InMqtt Unit := do
  let publisher ← get
  doWhen (publisher.client = some client)
    (modify fun publisher => { publisher with
      mqttConnected := false
      announced := ∅
      activePowerLimitAnnounced := ∅ })

/-! ## Telemetry -/

/-- `publish` -/
def publish (config : MqttConfig) (deviceNames : Dict Text Text) (telemetry : Telemetry) :
    InMqtt Unit := do
  let before ← get
  doWhen (¬ before.Skips config telemetry.serial) do
    modify (·.note telemetry)
    doWhen (before.shouldAnnounce telemetry = true) do
      let noted ← get
      sendMessages (discoveryMessages config (noted.deviceOf deviceNames telemetry) telemetry)
      modify fun publisher => { publisher with
        announced := insert telemetry.serial publisher.announced }
    sendMessages (telemetryMessages config telemetry)

def publishInverterAvailability (config : MqttConfig) (serial status : Text) : InMqtt Unit := do
  let publisher ← get
  doWhen (¬ publisher.Skips config serial) (sendMessage (config.availability serial status))

/-! ## The ActivePowerLimit -/

def registerActivePowerLimitHandler (config : MqttConfig) (serial : Text) : InMqtt Unit := do
  let topic := activePowerLimitCommandTopic config.topicPrefix serial
  modify fun publisher => { publisher with
    commandTopics :=
      if topic ∈ publisher.commandTopics then publisher.commandTopics
      else publisher.commandTopics ++ [topic] }
  doWhen (config.enabled = true) (callClient (.subscribe topic))

def unregisterActivePowerLimitHandler (config : MqttConfig) (serial : Text) : InMqtt Unit := do
  let topic := activePowerLimitCommandTopic config.topicPrefix serial
  let publisher ← get
  doWhen (topic ∈ publisher.commandTopics) do
    modify fun publisher => { publisher with commandTopics := publisher.commandTopics.erase topic }
    doWhen (config.enabled = true) (callClient (.unsubscribe topic))

def publishActivePowerLimitDiscovery (config : MqttConfig) (deviceNames : Dict Text Text)
    (serial : Text) : InMqtt Unit := do
  let publisher ← get
  doWhen (¬ publisher.Skips config serial ∧ serial ∉ publisher.activePowerLimitAnnounced) do
    sendMessages (activePowerLimitEntities config
      ⟨serial, (deviceNames.get serial).getD serial, publisher.modelOf serial, [], []⟩)
    modify fun publisher => { publisher with
      activePowerLimitAnnounced := insert serial publisher.activePowerLimitAnnounced
      activePowerLimitCleared := publisher.activePowerLimitCleared \ {serial} }

def clearActivePowerLimitDiscovery (config : MqttConfig) (serial : Text) : InMqtt Unit := do
  modify fun publisher => { publisher with
    activePowerLimitAnnounced := publisher.activePowerLimitAnnounced \ {serial} }
  let publisher ← get
  doWhen (¬ publisher.Skips config serial ∧ serial ∉ publisher.activePowerLimitCleared) do
    sendMessages (activePowerLimitRemovals config serial)
    modify fun publisher => { publisher with
      activePowerLimitCleared := insert serial publisher.activePowerLimitCleared }

def publishActivePowerLimitState (config : MqttConfig) (serial : Text) (value : Nat) :
    InMqtt Unit := do
  let publisher ← get
  doWhen (¬ publisher.Skips config serial)
    (sendMessage ⟨config.activePowerLimitStateTopic serial, .number value, config.retain⟩)

def publishActivePowerLimitResult (config : MqttConfig) (serial status : Text) : InMqtt Unit := do
  let publisher ← get
  doWhen (¬ publisher.Skips config serial)
    (sendMessage ⟨config.activePowerLimitResultTopic serial, .text status, config.retain⟩)

end FoxessGateway.Mqtt
