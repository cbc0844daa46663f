import FoxessGateway.Server.Session

/-! # The frame handlers

`Session.handle_upstream_frame` and `Session.handle_frame`.  Each stage of a method is an
action of its own, in the order of the source. -/

namespace FoxessGateway.Server

open ByteOrder Protocol Firmware Effectful Action

/-! ## Frames from the cloud -/

/-- `pdu[key]` of the dictionary of a decoded command, which is empty for no command. -/
def commandKey {α : Type} (pdu : Option ModbusCommand) (key : String) (field : ModbusCommand → α) :
    Except PyError α :=
  match pdu with
  | some command => .ok (field command)
  | none => .error (.keyError key)

/-- `pdu["count"]` -/
def commandCount (command : ModbusCommand) : Except PyError Nat :=
  match command.body with
  | .count count | .multiple count _ _ => .ok count
  | .value _ => .error (.keyError "count")

/-- `pdu["value"]` -/
def commandValue (command : ModbusCommand) : Except PyError Nat :=
  match command.body with
  | .value value => .ok value
  | _ => .error (.keyError "value")

/-- A read command is remembered for its response. -/
def noteCloudRead (frame : Frame) (command : ModbusCommand) : InSession Unit :=
  doWhen (command.function ∈ [modbusFnReadHolding, modbusFnReadInput]) do
    let count ← attempt (commandCount command)
    modify fun session => { session with
      pendingReads := session.pendingReads.set (normalizeDevice frame.device)
        (command.address, count) }

/-- A write command that is not our own is remembered for its response. -/
def noteCloudWrite (frame : Frame) (command : ModbusCommand) : InSession Unit := do
  let session ← get
  doWhen (command.function = modbusFnWriteSingle ∧ session.localControl.isSome ∧
      session.isOurFrame frame = false) do
    let value ← attempt (commandValue command)
    modify fun session => { session with
      pendingWrites := session.pendingWrites.set (normalizeDevice frame.device)
        (command.address, value) }

/-- The cloud's session marker, in the last byte of the device field. -/
def observeCloudMarker (frame : Frame) : InSession Unit := do
  let session ← get
  match session.localControl, frame.device[3]? with
  | some control, some marker =>
    doWhen (session.isOurFrame frame = false) do
      let (observed, reported) := control.observeSessionMarker marker
      modify fun session => { session with localControl := some observed }
      match reported with
      | some marker => emit (.inverterControlCloudMarkerSeen marker)
      | none => pure ()
  | _, _ => pure ()

/-- What `handle_upstream_frame` does with a frame that is a Modbus command. -/
def noteCloudCommand (frame : Frame) : InSession Unit := do
  -- the test accepts frames that the parser does not, and then the dictionary is empty
  let pdu := parseModbusCommand frame
  let command ← attempt (commandKey pdu "function" id)
  noteCloudRead frame command
  noteCloudWrite frame command
  observeCloudMarker frame
  let session ← get
  emit (.commandFrame session.serialText frame.device command)

def Session.handleUpstreamFrame (world : SessionWorld) (frame : Frame) : InSession Unit := do
  let session ← get
  emit (.upstreamFrame session.serialText frame
    (session.lastTelemetryAt.map fun last => (world.time : Int) - last))
  doWhen (isModbusCommand frame = true) (noteCloudCommand frame)

/-! ## Frames from the inverter -/

/-- The echo of an injected write settles the future that waits for it. -/
def confirmInjectedWrite (frame : Frame) : InSession Unit :=
  modify fun session =>
    match session.localControl with
    | some control =>
      if control.isOurFrame frame then
        -- any answer settles the future, and only a write's own confirms it
        let resolved := control.resolveResponse frame.device (isModbusWriteSuccessResponse frame)
        { session with localControl := some resolved }
      else session
    | none => session

/-- A write of the cloud that succeeded is published when it set the ActivePowerLimit. -/
def confirmCloudWrite (config : SessionConfig) (frame : Frame) : InSession Unit :=
  doWhen (isModbusWriteSuccessResponse frame = true) do
    let session ← get
    let key := normalizeDevice frame.device
    -- the entry goes whatever it was for
    modify fun session => { session with pendingWrites := session.pendingWrites.pop key }
    match session.pendingWrites.get key, session.knownSerial with
    | some (address, value), some serial =>
      doWhen (address = config.activePowerLimitAddress)
        (mqtt (.publishActivePowerLimitState serial value))
    | _, _ => pure ()

/-- What a registration that names a serial sets up. -/
def adoptSerial (world : SessionWorld) (serial : Text) : InSession Unit := do
  perform (.registerSession serial)
  -- no commands until product information proves the inverter compatible
  mqtt (.unregisterActivePowerLimitHandler serial)
  mqtt (.clearActivePowerLimitDiscovery serial)
  modify fun session => { session with
    firmwareUploader := some (.fresh serial world.monotonicNs) }

def adoptKnownSerial (world : SessionWorld) : InSession Unit := do
  let session ← get
  match session.knownSerial with
  | some serial => adoptSerial world serial
  | none => pure ()

def register (world : SessionWorld) (frame : Frame) : InSession Unit := do
  -- a registration without a serial takes the session's serial away
  modify fun session => { session with
    serial := registrationSerial frame
    clientDeviceTail := frame.device.drop 1
    lastClientFunc := frame.func }
  adoptKnownSerial world
  let session ← get
  emit (.registration session.serialText)

/-- A frame with the device tail of the registration gives the client's last function byte. -/
def noteClientFunc (frame : Frame) : InSession Unit :=
  modify fun session =>
    if session.clientDeviceTail ≠ [] ∧ frame.device.drop 1 = session.clientDeviceTail then
      { session with lastClientFunc := frame.func }
    else session

def noteRegistration (world : SessionWorld) (frame : Frame) : InSession Unit :=
  if isRegistration frame then register world frame else noteClientFunc frame

/-- `text or other` -/
def textOr (text other : Text) : Text := if text = [] then other else text

def noteProductInfo (frame : Frame) : InSession Unit :=
  match productInfo frame with
  | none => pure ()
  | some info => do
    modify fun session => { session with
      model := textOr info.model session.model
      firmware := textOr info.firmware session.firmware }
    let session ← get
    emit (.productInfo session.serialText info)
    syncActivePowerLimitMqtt

def noteModuleInfo (frame : Frame) : InSession Unit :=
  doWhen (isModuleInfo frame = true ∧ moduleInfo frame ≠ []) do
    modify fun session => { session with module := moduleInfo frame }
    let session ← get
    emit (.moduleInfo session.serialText (moduleInfo frame))

/-- The mesh role a frame declares, and the serial of the root it names. -/
def declaredMeshRole (frame : Frame) : Option (MeshRole × Text) :=
  if isMeshRootFrame frame then some (.root, [])
  else if isMeshFollowerFrame frame then some (.follower, meshPeerSerial frame)
  else none

def noteMeshRole (frame : Frame) : InSession Unit :=
  match declaredMeshRole frame with
  | none => pure ()
  | some (role, peer) => do
    let session ← get
    doWhen (session.meshRole ≠ role ∨ session.meshPeerSerial ≠ peer) do
      modify fun session => { session with meshRole := role, meshPeerSerial := peer }
      emit (.meshRole session.serialText role peer)

def answerBootstrap (world : SessionWorld) (frame : Frame) (sendBootstrap : Bool) :
    InSession Unit :=
  doWhen (sendBootstrap = true) do
    let session ← get
    let (bootstrap, reply) := session.bootstrap.responseFor frame
    modify fun session => { session with bootstrap := bootstrap }
    let response ← attempt reply
    match response with
    | none => pure ()
    | some raw => do
      writeAndDrain world raw
      emit (.bootstrapAck session.serialText raw)

/-! ### Telemetry -/

/-- The fault words of a telemetry payload, the newest last, after the word at offset 98. -/
def faultWords (payload : Bytes) : List Nat :=
  [u16 payload 100, u16 payload 102, u16 payload 104, u16 payload 106]

/-- `_update_fault_state` for a model whose fault words are understood. -/
def updateKnownFaultState (world : SessionWorld) (payload : Bytes) : InSession Unit := do
  let session ← get
  let offset98 := u16 payload 98
  let offsets := faultWords payload
  let faultActive := offsets.any (· ≠ 0) || offset98 ≠ 0
  let code := if faultActive then faultCodeFor offsets offset98 else []
  -- a fault counts when it begins, or when its code changes
  if code ≠ [] ∧ (session.previousFaultActive = false ∨ code ≠ session.lastFaultCode) then do
    modify fun session => { session with
      lastFaultCode := code
      lastFaultTimestamp := some world.time
      previousFaultActive := faultActive }
    emit (.faultObserved session.serialText code (isKnownFaultCode code) (offset98 :: offsets)
      world.time)
  else do
    doWhen (faultActive = false ∧ session.previousFaultActive = true)
      (emit (.faultCleared session.serialText session.lastFaultCode world.time))
    modify fun session => { session with previousFaultActive := faultActive }

def updateFaultState (world : SessionWorld) (payload : Bytes) : InSession Unit := do
  let session ← get
  if supportsAcFaultHistory session.model then updateKnownFaultState world payload
  else modify fun session => { session with previousFaultActive := false }

def Session.telemetrySource (session : Session) : TelemetrySource where
  serial := session.serialText
  model := session.model
  firmware := session.firmware
  module := session.module
  lastFaultCode := session.lastFaultCode
  lastFaultTimestamp := session.lastFaultTimestamp
  meshRole := session.meshRole.text
  meshPeerSerial := session.meshPeerSerial

def noteTelemetry (world : SessionWorld) (frame : Frame) : InSession Unit :=
  doWhen (isTelemetry frame = true) do
    updateFaultState world frame.payload
    let session ← get
    let telemetry ← attempt (decodeTelemetry frame.payload session.telemetrySource)
    perform (.publishTelemetry telemetry (nonzeroU16Words frame.payload))
    modify fun session => { session with lastTelemetryAt := some world.time }
    maybeSettleInverterControl

/-! ### Responses to reads -/

def Session.readbackResult (session : Session) (config : SessionConfig) (requestedValue : Nat)
    (source : RequestSource) (verdict : ReadbackVerdict) : ReadbackResult where
  serial := session.serialText
  model := session.model
  firmware := session.firmware
  meshRole := session.meshRole
  address := config.activePowerLimitAddress
  requestedValue := requestedValue
  source := source
  verdict := verdict

/-- Forget the read and the readback that wait under the key. -/
def forgetRead (key : Bytes) : InSession Unit :=
  modify fun session => { session with
    pendingReads := session.pendingReads.pop key
    pendingActivePowerLimitReadbacks := session.pendingActivePowerLimitReadbacks.pop key }

/-- The value of a read of the ActivePowerLimit is published, and compared where it is a
readback. -/
def publishReadValue (config : SessionConfig) (before : Session) (key : Bytes) (serial : Text)
    (actualValue : Nat) : InSession Unit := do
  mqtt (.publishActivePowerLimitState serial actualValue)
  match before.pendingActivePowerLimitReadbacks.get key with
  | some (requestedValue, source) =>
    emit (.activePowerLimitReadbackResult (before.readbackResult config requestedValue source
      (if actualValue = requestedValue then .matched actualValue else .mismatch actualValue)))
  | none => pure ()

def noteReadResponse (config : SessionConfig) (frame : Frame) : InSession Unit :=
  match parseModbusReadResponse frame with
  | none => pure ()
  | some response => do
    let before ← get
    let key := normalizeDevice frame.device
    -- both entries go, also where the value is not of the ActivePowerLimit
    forgetRead key
    let pending := before.pendingReads.get key
    emit (.commandResponse before.serialText frame.device response pending)
    match pending, before.localControl, before.knownSerial, response.values with
    | some (address, _), some _, some serial, actualValue :: _ =>
      doWhen (address = config.activePowerLimitAddress)
        (publishReadValue config before key serial actualValue)
    | _, _, _, _ => pure ()

def noteReadException (config : SessionConfig) (frame : Frame) : InSession Unit :=
  match parseModbusReadException frame with
  | none => pure ()
  | some error => do
    let before ← get
    let key := normalizeDevice frame.device
    forgetRead key
    emit (.commandError before.serialText frame.device error (before.pendingReads.get key))
    match before.pendingActivePowerLimitReadbacks.get key with
    | some (requestedValue, source) =>
      emit (.activePowerLimitReadbackResult (before.readbackResult config requestedValue source
        (.modbusException error.exceptionCode)))
    | none => pure ()

/-! ### The handler -/

/-- What `handle_frame` does with a frame whose CRC is right. -/
def handleValidFrame (config : SessionConfig) (world : SessionWorld) (frame : Frame)
    (sendBootstrap : Bool) : InSession Unit := do
  confirmInjectedWrite frame
  confirmCloudWrite config frame
  noteRegistration world frame
  noteProductInfo frame
  noteModuleInfo frame
  noteMeshRole frame
  answerBootstrap world frame sendBootstrap
  noteTelemetry world frame
  noteReadResponse config frame
  noteReadException config frame

def Session.handleFrame (config : SessionConfig) (world : SessionWorld) (frame : Frame)
    (sendBootstrap : Bool) : InSession Unit := do
  let session ← get
  emit (.frame session.serialText frame)
  if frame.validCrc = false then emit (.invalidCrc session.serialText frame.raw.length)
  else handleValidFrame config world frame sendBootstrap

/-- `_handle_firmware_upload_frame`: whether the frame answers a local firmware upload. -/
def handleFirmwareUploadFrame (frame : Frame) : InSession Bool := do
  let session ← get
  match session.firmwareUploader with
  | none => pure false
  | some uploader => do
    modify fun session => { session with
      firmwareUploader := some (uploader.handleClientFrame frame).2 }
    pure (uploader.handleClientFrame frame).1

end FoxessGateway.Server
