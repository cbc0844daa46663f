import FoxessGateway.Firmware.Capture
import FoxessGateway.Firmware.Uploader
import FoxessGateway.Protocol.Bootstrap
import FoxessGateway.Protocol.Telemetry
import FoxessGateway.Server.LocalControl

/-! # A session

`Session` of `server.py`: the state kept for one inverter connection, what it shows to the
outside, and the handlers of client and upstream frames. -/

namespace FoxessGateway.Server

open ByteOrder Protocol Firmware Effectful Action

/-! ## State -/

inductive MeshRole where
  | unknown
  | root
  | follower
  deriving DecidableEq, Repr

/-- The text the source keeps. -/
def MeshRole.text : MeshRole → Text
  | .unknown => []
  | .root => "root".toList
  | .follower => "follower".toList

/-- Why an ActivePowerLimit request was made. -/
inductive RequestSource where
  | setpoint
  | reapply
  | startup
  deriving DecidableEq, Repr

structure Session where
  serial : Option Text
  model : Text
  firmware : Text
  module : Text
  lastFaultCode : Text
  lastFaultTimestamp : Option Nat
  meshRole : MeshRole
  meshPeerSerial : Text
  previousFaultActive : Bool
  bootstrap : BootstrapResponder
  buffer : Bytes
  upstreamBuffer : Bytes
  lastTelemetryAt : Option Nat
  /-- Address and count of the reads outstanding, by device key. -/
  pendingReads : Dict Bytes (Nat × Nat)
  /-- Value and source of the writes whose readback is outstanding, by device key. -/
  pendingActivePowerLimitReadbacks : Dict Bytes (Nat × RequestSource)
  /-- Address and value of the cloud's writes outstanding, by device key. -/
  pendingWrites : Dict Bytes (Nat × Nat)
  localControl : Option LocalControl
  inverterControlCommandRegistered : Bool
  inverterControlSettleScheduled : Bool
  clientDeviceTail : Bytes
  lastClientFunc : UInt8
  firmwareUploader : Option FirmwareUploader
  firmwareCapture : Option FirmwareCapture

/-- The parts of the configuration that a session reads. -/
structure SessionConfig where
  inverterControlEnabled : Bool
  activePowerLimitAddress : Nat
  captureEnabled : Bool
  captureDirectory : Text
  simulateProgress : Bool
  deriving DecidableEq, Repr

/-- Everything switched on, with the register of the source's default. -/
def SessionConfig.everything : SessionConfig where
  inverterControlEnabled := true
  activePowerLimitAddress := 0xCA5A
  captureEnabled := true
  captureDirectory := "captures".toList
  simulateProgress := true

/-- A session as `Session.__init__` leaves it. -/
def Session.fresh (config : SessionConfig) : Session where
  serial := none
  model := []
  firmware := []
  module := []
  lastFaultCode := []
  lastFaultTimestamp := none
  meshRole := .unknown
  meshPeerSerial := []
  previousFaultActive := false
  bootstrap := ⟨0⟩
  buffer := []
  upstreamBuffer := []
  lastTelemetryAt := none
  pendingReads := .empty
  pendingActivePowerLimitReadbacks := .empty
  pendingWrites := .empty
  localControl := if config.inverterControlEnabled then some .fresh else none
  inverterControlCommandRegistered := false
  inverterControlSettleScheduled := false
  clientDeviceTail := []
  lastClientFunc := 0
  firmwareUploader := none
  firmwareCapture :=
    if config.captureEnabled then some (.fresh config.captureDirectory config.simulateProgress)
    else none

/-- `self.serial or ""` -/
def Session.serialText (session : Session) : Text := session.serial.getD []

/-- `self.serial`, where an empty one counts as none. -/
def Session.knownSerial (session : Session) : Option Text := session.serial.filter (· ≠ [])

/-- `self.local_control is not None and self.local_control.is_our_frame(frame)` -/
def Session.isOurFrame (session : Session) (frame : Frame) : Bool :=
  session.localControl.any (·.isOurFrame frame)

/-! ## Events and effects -/

inductive ReadbackVerdict where
  | matched (readbackValue : Nat)
  | mismatch (readbackValue : Nat)
  | modbusException (code : UInt8)
  | noConnection
  | timeout
  deriving DecidableEq, Repr

structure ReadbackResult where
  serial : Text
  model : Text
  firmware : Text
  meshRole : MeshRole
  address : Nat
  requestedValue : Nat
  source : RequestSource
  verdict : ReadbackVerdict
  deriving DecidableEq, Repr

inductive SessionEvent where
  | frame (serial : Text) (frame : Frame)
  | invalidCrc (serial : Text) (bytes : Nat)
  | registration (serial : Text)
  | productInfo (serial : Text) (info : ProductInfo)
  | moduleInfo (serial module : Text)
  | meshRole (serial : Text) (role : MeshRole) (peerSerial : Text)
  | bootstrapAck (serial : Text) (raw : Bytes)
  | faultObserved (serial code : Text) (known : Bool) (words : List Nat) (at' : Nat)
  | faultCleared (serial code : Text) (at' : Nat)
  | commandResponse (serial : Text) (device : Bytes) (response : ModbusReadResponse)
      (pending : Option (Nat × Nat))
  | commandError (serial : Text) (device : Bytes) (error : ModbusReadException)
      (pending : Option (Nat × Nat))
  | activePowerLimitReadbackResult (result : ReadbackResult)
  | upstreamFrame (serial : Text) (frame : Frame) (sinceTelemetry : Option Int)
  | commandFrame (serial : Text) (device : Bytes) (command : ModbusCommand)
  | inverterControlCloudMarkerSeen (marker : UInt8)
  | relayDecrypted (fromClient : Bool) (data : Bytes)
  | injectedResponseFiltered (device : Bytes) (bytes : Nat)
  | firmwareUploadResponseFiltered (device : Bytes) (bytes : Nat)
  deriving DecidableEq, Repr

inductive MqttOperation where
  | registerActivePowerLimitHandler (serial : Text)
  | unregisterActivePowerLimitHandler (serial : Text)
  | publishActivePowerLimitDiscovery (serial : Text)
  | clearActivePowerLimitDiscovery (serial : Text)
  | publishActivePowerLimitState (serial : Text) (value : Nat)
  deriving DecidableEq, Repr

inductive SessionEffect where
  | emit (event : SessionEvent)
  /-- Write to the connection that the handler or relay loop was given. -/
  | write (raw : Bytes)
  /-- `self.app.sessions_by_serial[serial] = self` -/
  | registerSession (serial : Text)
  | mqtt (operation : MqttOperation)
  | publishTelemetry (telemetry : Telemetry) (rawNonzeroU16 : List (Nat × Nat))
  | createSettleTask
  | capture (effect : CaptureEffect)
  deriving DecidableEq, Repr

/-- The clocks while one frame is handled, and whether the drain of its connection fails. -/
structure SessionWorld where
  time : Nat
  monotonicNs : Nat
  drainFails : Option String
  deriving DecidableEq, Repr

abbrev InSession := Action Session SessionEffect PyError

def emit (event : SessionEvent) : InSession Unit := perform (.emit event)

def mqtt (operation : MqttOperation) : InSession Unit := perform (.mqtt operation)

/-- `writer.write(raw); await writer.drain()` -/
def writeAndDrain (world : SessionWorld) (raw : Bytes) : InSession Unit := do
  perform (.write raw)
  attempt (match world.drainFails with
    | some message => .error (.osError message)
    | none => .ok ())

/-! ## Local control -/

/-- `(\d+)\.(\d+)` at the head of a text. -/
def versionDigits (text : Text) : Option (Text × Text) :=
  let major := text.takeWhile Char.isDigit
  match text.dropWhile Char.isDigit with
  | '.' :: rest =>
    let minor := rest.takeWhile Char.isDigit
    if major ≠ [] ∧ minor ≠ [] then some (major, minor) else none
  | _ => none

/-- `v?`, in either case. -/
def afterOptionalV : Text → Text
  | 'v' :: rest | 'V' :: rest => rest
  | text => text

def versionAt (text : Text) : Option (Text × Text) := versionDigits (afterOptionalV text)

/-- `re.search` with the pattern of `supports_active_power_limit`, after the start of the text. -/
def searchVersionLater : Text → Option (Text × Text)
  | [] => none
  | char :: text =>
    (if char.isDigit then none else versionAt text).or (searchVersionLater text)

def searchVersion (text : Text) : Option (Text × Text) :=
  (versionAt text).or (searchVersionLater text)

def supportsActivePowerLimit (model firmware : Text) : Except PyError Bool :=
  if ¬ ['M', '1'] <+: upper (strip model) then .ok false
  else
    match searchVersion (strip firmware) with
    | none => .ok false
    | some (majorText, minorText) => do
      let major ← pythonInt majorText
      let minor ← pythonInt minorText
      return major > 1 ∨ (major = 1 ∧ minor ≥ 80)

/-- `_maybe_wire_active_power_limit_mqtt`, where the caller has checked the version. -/
def maybeWireActivePowerLimitMqtt (serial : Text) : InSession Unit := do
  let session ← get
  doWhen (session.inverterControlCommandRegistered = false) do
    mqtt (.registerActivePowerLimitHandler serial)
    mqtt (.publishActivePowerLimitDiscovery serial)
    modify fun session => { session with inverterControlCommandRegistered := true }

/-- `_maybe_settle_inverter_control` -/
def maybeSettleInverterControl : InSession Unit := do
  let session ← get
  doWhen (session.inverterControlSettleScheduled = false ∧ session.lastTelemetryAt.isSome ∧
      session.localControl.isSome ∧ session.inverterControlCommandRegistered = true) do
    modify fun session => { session with inverterControlSettleScheduled := true }
    perform .createSettleTask

/-- `_sync_active_power_limit_mqtt` -/
def syncActivePowerLimitMqtt : InSession Unit := do
  let session ← get
  match session.knownSerial, session.localControl with
  | some serial, some _ => do
    let supported ← attempt (supportsActivePowerLimit session.model session.firmware)
    if supported = true then do
      maybeWireActivePowerLimitMqtt serial
      maybeSettleInverterControl
    else do
      mqtt (.unregisterActivePowerLimitHandler serial)
      mqtt (.clearActivePowerLimitDiscovery serial)
      modify fun session => { session with inverterControlCommandRegistered := false }
  | _, _ => pure ()

end FoxessGateway.Server
