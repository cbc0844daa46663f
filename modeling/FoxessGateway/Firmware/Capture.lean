import FoxessGateway.Firmware.Image
import FoxessGateway.PurePath
import FoxessGateway.Library.Effectful

/-! # The firmware capture

`FirmwareCapture.handle_upstream_frame`: the state machine that takes a firmware transfer
in the inverter's place.  Each stage of the method is an action of its own. -/

namespace FoxessGateway.Firmware

open ByteOrder Protocol Effectful Action

/-! ## State, events and effects -/

structure FirmwareCapture where
  directory : Text
  simulateProgress : Bool
  metadata : Option FirmwareMetadata
  variant : Option FirmwareVariant
  data : Bytes
  expectedChunk : Nat
  /-- `_progress_task is not None` -/
  progressStarted : Bool

/-- A capture as `FirmwareCapture.__init__` leaves it. -/
def FirmwareCapture.fresh (directory : Text) (simulateProgress : Bool) : FirmwareCapture where
  directory := directory
  simulateProgress := simulateProgress
  metadata := none
  variant := none
  data := []
  expectedChunk := 0
  progressStarted := false

/-- A transfer announced and nothing received. -/
def FirmwareCapture.begun (capture : FirmwareCapture) (variant : FirmwareVariant)
    (metadata : FirmwareMetadata) : FirmwareCapture :=
  { capture with
    metadata := some metadata, variant := some variant, data := [], expectedChunk := 0 }

/-- One more chunk received. -/
def FirmwareCapture.extended (capture : FirmwareCapture) (chunk : Bytes) : FirmwareCapture :=
  { capture with data := capture.data ++ chunk, expectedChunk := capture.expectedChunk + 1 }

/-- No transfer in progress. -/
def FirmwareCapture.cleared (capture : FirmwareCapture) : FirmwareCapture :=
  { capture with metadata := none, variant := none, data := [], expectedChunk := 0 }

inductive CaptureFailure where
  | invalidFrameCrc (protocol : String)
  | imageTooLarge (expectedSize receivedSize : Nat)
  | crcMismatch (expectedCrc16 actualCrc16 protocolCrcField : Bytes)
  | saveFailed (error : String) (directory : Text)
  deriving DecidableEq, Repr

inductive CaptureRejection where
  | serialMismatch (targetSerial : Text)
  | chunkWithoutMetadata
  | protocolChangedMidTransfer (expectedProtocol receivedProtocol : String)
  deriving DecidableEq, Repr

inductive CaptureEvent where
  | firmwareCaptureFailed (serial : Text) (reason : CaptureFailure)
  | firmwareCaptureRejected (serial : Text) (reason : CaptureRejection)
  | firmwareCaptureStarted (serial filename : Text) (size : Nat) (crc16 : Bytes)
      (timeoutSeconds : Nat) (protocol : String)
  | firmwareCaptureChunkError (serial : Text) (expectedChunk receivedChunk : Nat)
  | firmwareCaptureAck (device payload : Bytes)
  | firmwareCaptureComplete (serial filename path manifestPath : Text) (size : Nat) (crc16 : Bytes)
      (chunks : Nat)
  deriving DecidableEq, Repr

/-- The files `_save_capture` writes.  The manifest's time stamp is left out. -/
structure SavedCapture where
  imagePath : Text
  manifestPath : Text
  image : Bytes
  serial : Text
  crc16 : Bytes
  protocolCrcField : Bytes
  chunks : Nat
  protocol : String
  deriving DecidableEq, Repr

inductive CaptureEffect where
  | emit (event : CaptureEvent)
  | writeUpstream (raw : Bytes)
  | saveCapture (saved : SavedCapture)
  | createProgressTask (serial : Text) (deviceTail : Bytes) (startingFunc : UInt8)
      (variant : FirmwareVariant)
  deriving DecidableEq, Repr

/-- What the world answers while one frame is handled: whether the drain of the cloud
connection and the writes to the directory fail, and with what message, and whether an
earlier progress task is done. -/
structure CaptureWorld where
  drainFails : Option String
  saveFails : Option String
  progressDone : Bool
  deriving DecidableEq, Repr

/-- The arguments of one call of `handle_upstream_frame`. -/
structure CaptureCall where
  frame : Frame
  serial : Text
  clientDeviceTail : Bytes
  lastClientFunc : UInt8
  world : CaptureWorld
  deriving DecidableEq, Repr

/-- The chunk data of a frame, after the transfer id and the chunk index. -/
def CaptureCall.chunk (call : CaptureCall) : Bytes := call.frame.payload.drop 7

abbrev Capturing := Action FirmwareCapture CaptureEffect PyError

def emitCapture (event : CaptureEvent) : Capturing Unit := perform (.emit event)

def drainUpstream (world : CaptureWorld) : Capturing Unit :=
  match world.drainFails with
  | some message => raise (.osError message)
  | none => pure ()

/-! ## Acknowledging and saving -/

/-- `_send_ack` -/
def sendAck (world : CaptureWorld) (request : Frame) (payload : Bytes) (firstDeviceByte : UInt8)
    (variant : FirmwareVariant) : Capturing Unit := do
  let device := firstDeviceByte :: request.device.drop 1
  let raw ← attempt (makeFrame variant.start device request.func payload variant.endMarker)
  perform (.writeUpstream raw)
  drainUpstream world
  emitCapture (.firmwareCaptureAck device payload)

/-- `str(Path(directory) / name)` -/
def joinPath (directory name : Text) : Text := ((PurePath.parse directory).join name).text

/-- `path.with_suffix(path.suffix + ".json")` on the last component of the path. -/
def manifestName (filename : Text) : Text := filename ++ ".json".toList

/-- The record `_save_capture` writes for an image of the transfer `metadata` announced. -/
def savedCapture (capture : FirmwareCapture) (metadata : FirmwareMetadata) (filename : Text)
    (image : Bytes) (serial : Text) : SavedCapture where
  imagePath := joinPath capture.directory filename
  manifestPath := joinPath capture.directory (manifestName filename)
  image := image
  serial := serial
  crc16 := crc16Le image
  protocolCrcField := metadata.crc
  chunks := capture.expectedChunk
  protocol := metadata.variant.name

/-- `_save_capture`: the paths written, or the message of the `OSError`. -/
def saveCapture (world : CaptureWorld) (metadata : FirmwareMetadata) (image : Bytes)
    (serial : Text) : Capturing (Except String SavedCapture) := do
  let capture ← get
  let filename ← attempt (safeFirmwareFilename metadata.filename)
  let saved := savedCapture capture metadata filename image serial
  perform (.saveCapture saved)
  match world.saveFails with
  | some message => pure (.error message)
  | none => pure (.ok saved)

/-! ## The stages of `handle_upstream_frame` -/

/-- A metadata frame: reject it for another target, or start a transfer. -/
def handleMetadata (call : CaptureCall) (variant : FirmwareVariant) (metadata : FirmwareMetadata) :
    Capturing Bool :=
  -- a transfer under way is kept: only a `begun` replaces it
  if call.serial = [] ∨ metadata.serial ≠ call.serial then do
    emitCapture (.firmwareCaptureRejected call.serial (.serialMismatch metadata.serial))
    pure true
  else do
    modify fun capture => capture.begun variant metadata
    emitCapture (.firmwareCaptureStarted call.serial metadata.filename metadata.size metadata.crc
      metadata.timeoutSeconds variant.name)
    sendAck call.world call.frame (variant.magic ++ [0x00, 0x00, 0x05]) 0xA1 variant
    pure true

/-- Ask for the next chunk. -/
def requestChunk (call : CaptureCall) (variant : FirmwareVariant) (expectedChunk : Nat) :
    Capturing Unit := do
  let index ← attempt (toBytes expectedChunk 2)
  sendAck call.world call.frame (variant.magic ++ index ++ [0x05]) 0xA1 variant

/-- The image is complete and saved. -/
def finishCapture (call : CaptureCall) (variant : FirmwareVariant) (metadata : FirmwareMetadata)
    (saved : SavedCapture) : Capturing Bool := do
  sendAck call.world call.frame (variant.magic ++ variant.finalAckSuffix) 0xA2 variant
  let capture ← get
  emitCapture (.firmwareCaptureComplete call.serial metadata.filename saved.imagePath
    saved.manifestPath saved.image.length saved.crc16 capture.expectedChunk)
  if capture.simulateProgress = true ∧
      (capture.progressStarted = false ∨ call.world.progressDone = true) then do
    modify fun capture => { capture with progressStarted := true }
    perform (.createProgressTask call.serial call.clientDeviceTail call.lastClientFunc variant)
  else pure ()
  modify FirmwareCapture.cleared
  pure true

/-- All the bytes announced are there: check and save them. -/
def completeImage (call : CaptureCall) (variant : FirmwareVariant) (metadata : FirmwareMetadata)
    (image : Bytes) : Capturing Bool :=
  let actualCrc := crc16Le image
  if variant.crcField actualCrc ≠ metadata.crc then do
    -- no acknowledgement, and the state stays
    emitCapture (.firmwareCaptureFailed call.serial
      (.crcMismatch metadata.crc actualCrc (variant.crcField actualCrc)))
    pure true
  else do
    let outcome ← saveCapture call.world metadata image call.serial
    match outcome with
    | .error message => do
      let capture ← get
      emitCapture (.firmwareCaptureFailed call.serial (.saveFailed message capture.directory))
      pure true
    | .ok saved => finishCapture call variant metadata saved

/-- The chunk that was expected: append it, then ask for the next or complete the image. -/
def acceptChunk (call : CaptureCall) (variant : FirmwareVariant) (metadata : FirmwareMetadata) :
    Capturing Bool := do
  modify fun capture => capture.extended call.chunk
  let capture ← get
  if capture.data.length > metadata.size then do
    emitCapture (.firmwareCaptureFailed call.serial
      (.imageTooLarge metadata.size capture.data.length))
    pure true
  else if capture.data.length < metadata.size then do
    requestChunk call variant capture.expectedChunk
    pure true
  else completeImage call variant metadata capture.data

/-- A frame of a transfer that is not metadata. -/
def handleChunk (call : CaptureCall) (variant : FirmwareVariant) : Capturing Bool := do
  let capture ← get
  match capture.metadata, capture.variant with
  | some metadata, some current =>
    if call.frame.payload.length < 7 then do
      emitCapture (.firmwareCaptureRejected call.serial .chunkWithoutMetadata)
      pure true
    else if variant ≠ current then do
      emitCapture (.firmwareCaptureRejected call.serial
        (.protocolChangedMidTransfer current.name variant.name))
      pure true
    else
      let chunkIndex := fromBig (slice call.frame.payload 5 7)
      if chunkIndex ≠ capture.expectedChunk then do
        -- ask again for the chunk that is due
        emitCapture (.firmwareCaptureChunkError call.serial capture.expectedChunk chunkIndex)
        requestChunk call variant capture.expectedChunk
        pure true
      else acceptChunk call variant metadata
  | _, _ => do
    emitCapture (.firmwareCaptureRejected call.serial .chunkWithoutMetadata)
    pure true

/-- `handle_upstream_frame`: whether the frame is withheld from the inverter. -/
def FirmwareCapture.handleUpstreamFrame (call : CaptureCall) : Capturing Bool :=
  match firmwareVariantForFrame call.frame with
  | none => pure false
  | some variant =>
    if call.frame.validCrc = false then do
      emitCapture (.firmwareCaptureFailed call.serial (.invalidFrameCrc variant.name))
      pure true
    else
      match parseFirmwareMetadata call.frame.payload (some variant) with
      | .ok metadata => handleMetadata call variant metadata
      -- what is no metadata is taken for a chunk; other exceptions are not caught
      | .error (.firmwareProtocolError _) => handleChunk call variant
      | .error raised => raise raised

end FoxessGateway.Firmware
