import FoxessGateway.Firmware.Image
import FoxessGateway.Library.Runs

/-! # The firmware uploader

`FirmwareUploader` of `firmware.py`.  `handle_client_frame` is a function on the shared
fields; the `upload` coroutine is a machine that moves from one `await` to the next while
client frames are delivered in between. -/

namespace FoxessGateway.Firmware

open ByteOrder Protocol Runs

structure FirmwareUploader where
  serial : Text
  active : Bool
  expectedTail : Option Bytes
  ackFuture : Option (Future Bytes)
  progressQueue : List UInt8
  counter : Nat
  variant : Option FirmwareVariant
  deriving DecidableEq, Repr

/-- An uploader as `FirmwareUploader.__init__` leaves it, with the clock's counter. -/
def FirmwareUploader.fresh (serial : Text) (monotonicNs : Nat) : FirmwareUploader where
  serial := serial
  active := false
  expectedTail := none
  ackFuture := none
  progressQueue := []
  counter := monotonicNs &&& 0xFFFFFF
  variant := none

/-! ## Client frames -/

/-- The percentage of a progress frame: seven bytes of payload, the sixth of them zero. -/
def progressPercent (frame : Frame) : Option UInt8 :=
  if frame.family = .family7f then
    match frame.payload with
    | [_, _, _, _, _, 0x00, percent] => some percent
    | _ => none
  else none

/-- `handle_client_frame`: whether the frame belongs to the upload, and the fields after. -/
def FirmwareUploader.handleClientFrame (uploader : FirmwareUploader) (frame : Frame) :
    Bool × FirmwareUploader :=
  match uploader.variant with
  | none => (false, uploader)
  | some variant =>
    if uploader.active = false ∨ ¬ variant.magic <+: frame.payload then (false, uploader)
    else
      match progressPercent frame with
      | some percent =>
        (true, { uploader with progressQueue := uploader.progressQueue ++ [percent] })
      | none =>
        if frame.family ∈ [variant.family, Family.family7f] ∧ frame.func = variant.func then
          if uploader.expectedTail ≠ some (frame.device.drop 1) then (false, uploader)
          else
            (true, { uploader with
              ackFuture := uploader.ackFuture.map (Future.settle frame.payload) })
        else (false, uploader)

/-! ## The requests of a transfer -/

/-- The choice of `upload` among the variants.  The function byte and the two bytes of the
transfer id are those drawn from `secrets`. -/
def selectVariant (protocol : String) (randomFunc idHigh idLow : UInt8) :
    Except PyError FirmwareVariant :=
  let protocol := if protocol = "foxess-7f-func-99" then firmwareVariant7f99.name else protocol
  if protocol = firmwareVariant7eA2.name then .ok firmwareVariant7eA2
  else if protocol = firmwareVariant7fA2.name then .ok firmwareVariant7fA2
  else if protocol = firmwareVariant7f99.name then
    .ok (dynamicVariant randomFunc ([idHigh, idLow] ++ transferSignature))
  else .error (.firmwareProtocolError "unsupported firmware upload protocol")

/-- `[image.data[i:i + FIRMWARE_CHUNK_SIZE] for i in range(0, image.size, FIRMWARE_CHUNK_SIZE)]` -/
def FirmwareImage.chunks (image : FirmwareImage) : List Bytes :=
  (List.range ((image.size + (firmwareChunkSize - 1)) / firmwareChunkSize)).map fun index =>
    slice image.data (index * firmwareChunkSize) (index * firmwareChunkSize + firmwareChunkSize)

structure Transfer where
  image : FirmwareImage
  serial : Text
  variant : FirmwareVariant

/-- The arguments of one `_send_and_expect`. -/
structure UploadRequest where
  firstDeviceByte : UInt8
  payload : Bytes
  expected : Bytes
  deriving DecidableEq, Repr

def metadataRequest (transfer : Transfer) : Except PyError UploadRequest := do
  let metadata ← buildFirmwareMetadata transfer.image transfer.serial transfer.variant
  return {
    firstDeviceByte := 0x21
    payload := metadata
    expected := transfer.variant.magic ++ [0x00, 0x00, 0x05] }

/-- The acknowledgement expected for a chunk: the final one, or a request for the next. -/
def expectedChunkAck (transfer : Transfer) (index : Nat) : Except PyError Bytes :=
  if index = transfer.image.chunks.length - 1 then
    .ok (transfer.variant.magic ++ transfer.variant.finalAckSuffix)
  else do
    let next ← toBytes (index + 1) 2
    return transfer.variant.magic ++ next ++ [0x05]

def chunkRequest (transfer : Transfer) (index : Nat) (chunk : Bytes) :
    Except PyError UploadRequest := do
  let number ← toBytes index 2
  let expected ← expectedChunkAck transfer index
  return {
    firstDeviceByte := 0x22
    payload := transfer.variant.magic ++ number ++ chunk
    expected := expected }

/-- Request 0 is the metadata, request `index + 1` the chunk `index`. -/
def uploadRequest (transfer : Transfer) : Nat → Option (Except PyError UploadRequest)
  | 0 => some (metadataRequest transfer)
  | index + 1 => transfer.image.chunks[index]?.map (chunkRequest transfer index)

/-! ## The coroutine -/

inductive UploadEvent where
  | delivered (frame : Frame)
  | wrote (device payload raw : Bytes)
  | chunkAcknowledged (chunk chunks : Nat)
  | imageAccepted (chunks : Nat)
  | progress (percent : UInt8)
  | flashed (progress : List UInt8)
  | raised (error : PyError)
  deriving DecidableEq, Repr

/-- Where `upload` stands. -/
inductive UploadPhase where
  /-- Request `index` is written, `await writer.drain()`. -/
  | draining (index : Nat) (request : UploadRequest)
  /-- Request `index` is drained, `await asyncio.wait_for(self._ack_future, ..)`. -/
  | awaiting (index : Nat) (request : UploadRequest)
  /-- The image is accepted, `await asyncio.wait_for(self._progress_queue.get(), ..)`. -/
  | flashing (progress : List UInt8)
  | returned (progress : List UInt8)
  | failed (error : PyError)
  deriving DecidableEq, Repr

structure UploadState where
  uploader : FirmwareUploader
  phase : UploadPhase
  deriving DecidableEq, Repr

/-- The `finally` block of `upload`. -/
def FirmwareUploader.released (uploader : FirmwareUploader) : FirmwareUploader :=
  { uploader with active := false, expectedTail := none, ackFuture := none, variant := none }

def abort (uploader : FirmwareUploader) (error : PyError) : UploadState × List UploadEvent :=
  (⟨uploader.released, .failed error⟩, [.raised error])

/-- `_send_and_expect` up to `writer.write`: the fields after it, and the device and the bytes
written. -/
def FirmwareUploader.send (uploader : FirmwareUploader) (request : UploadRequest) :
    FirmwareUploader × Except PyError (Bytes × Bytes) :=
  let counter := (uploader.counter + 1) &&& 0xFFFFFF
  -- the future is there before the request is written
  match toBytes counter 3 with
  | .error raised => ({ uploader with counter := counter }, .error raised)
  | .ok tail =>
    let device := request.firstDeviceByte :: tail
    let sent := { uploader with
      counter := counter, expectedTail := some tail, ackFuture := some .pending }
    match sent.variant with
    | none =>
      (sent, .error (.firmwareProtocolError "firmware upload protocol is not initialized"))
    | some variant =>
      match makeFrame variant.start device variant.func request.payload variant.endMarker with
      | .error raised => (sent, .error raised)
      | .ok raw => (sent, .ok (device, raw))

/-- Write request `index`, or begin to wait for the flash when there are no more. -/
def writeRequest (transfer : Transfer) (uploader : FirmwareUploader) (index : Nat) :
    UploadState × List UploadEvent :=
  match uploadRequest transfer index with
  | none => (⟨uploader, .flashing []⟩, [.imageAccepted transfer.image.chunks.length])
  | some (.error raised) => abort uploader raised
  | some (.ok request) =>
    match uploader.send request with
    | (sent, .error raised) => abort sent raised
    | (sent, .ok (device, raw)) =>
      (⟨sent, .draining index request⟩, [.wrote device request.payload raw])

/-- The chunk that an acknowledgement of request `index` acknowledges. -/
def acknowledged (transfer : Transfer) : Nat → List UploadEvent
  | 0 => []
  | index + 1 => [.chunkAcknowledged index transfer.image.chunks.length]

/-- The future of request `index` has a result: compare it, and go on. -/
def receiveAck (transfer : Transfer) (uploader : FirmwareUploader) (index : Nat)
    (request : UploadRequest) (received : Bytes) : UploadState × List UploadEvent :=
  if received ≠ request.expected then
    abort uploader (.firmwareProtocolError "unexpected firmware acknowledgement")
  else
    let next := writeRequest transfer uploader (index + 1)
    (next.1, acknowledged transfer index ++ next.2)

/-- `upload` up to its first `await`. -/
def FirmwareUploader.upload (uploader : FirmwareUploader) (image : FirmwareImage)
    (protocol : String) (randomFunc idHigh idLow : UInt8) : UploadState × List UploadEvent :=
  if uploader.active then
    -- raised before the `try`, so the transfer under way keeps its fields
    let error := .firmwareProtocolError "a firmware upload is already active"
    (⟨uploader, .failed error⟩, [.raised error])
  else
    let started := { uploader with active := true, progressQueue := [] }
    match selectVariant protocol randomFunc idHigh idLow with
    | .error raised => abort started raised
    | .ok variant =>
      writeRequest ⟨image, uploader.serial, variant⟩ { started with variant := some variant } 0

inductive UploadAction where
  | deliver (frame : Frame)
  | drained
  | receive
  | takeProgress
  /-- The pending `await` raises: a failed drain, a timeout, a cancellation. -/
  | interrupt (error : PyError)
  deriving DecidableEq, Repr

def uploadMachine (transfer : Transfer) : Machine UploadState UploadAction UploadEvent :=
  fun state action =>
  match action, state.phase with
  | .deliver frame, _ =>
    some (⟨(state.uploader.handleClientFrame frame).2, state.phase⟩, [.delivered frame])
  | .drained, .draining index request => some (⟨state.uploader, .awaiting index request⟩, [])
  | .receive, .awaiting index request =>
    match state.uploader.ackFuture with
    | some (.result received) => some (receiveAck transfer state.uploader index request received)
    | _ => none
  | .takeProgress, .flashing progress =>
    match state.uploader.progressQueue with
    | [] => none
    | percent :: queue =>
      -- the first report of 100 or more ends the wait
      let progress := progress ++ [percent]
      let uploader := { state.uploader with progressQueue := queue }
      if percent < 100 then some (⟨uploader, .flashing progress⟩, [.progress percent])
      else some (⟨uploader.released, .returned progress⟩, [.progress percent, .flashed progress])
  | .interrupt error, .draining _ _ => some (abort state.uploader error)
  | .interrupt error, .awaiting _ _ => some (abort state.uploader error)
  | .interrupt error, .flashing _ => some (abort state.uploader error)
  | _, _ => none

/-! ### Steps -/

/-- The upload has returned or raised. -/
def UploadPhase.ended : UploadPhase → Bool
  | returned _ | failed _ => true
  | draining _ _ | awaiting _ _ | flashing _ => false

/-- What a step of an upload does. -/
inductive UploadStep (transfer : Transfer) :
    UploadState → UploadAction → UploadState → List UploadEvent → Prop where
  | deliver (uploader : FirmwareUploader) (phase : UploadPhase) (frame : Frame) :
      UploadStep transfer ⟨uploader, phase⟩ (.deliver frame)
        ⟨(uploader.handleClientFrame frame).2, phase⟩ [.delivered frame]
  | drained (uploader : FirmwareUploader) (index : Nat) (request : UploadRequest) :
      UploadStep transfer ⟨uploader, .draining index request⟩ .drained
        ⟨uploader, .awaiting index request⟩ []
  | receive {uploader : FirmwareUploader} {index : Nat} {request : UploadRequest}
      {received : Bytes} (settled : uploader.ackFuture = some (.result received)) :
      UploadStep transfer ⟨uploader, .awaiting index request⟩ .receive
        (receiveAck transfer uploader index request received).1
        (receiveAck transfer uploader index request received).2
  | progress {uploader : FirmwareUploader} {progress : List UInt8} {percent : UInt8}
      {queue : List UInt8} (waiting : uploader.progressQueue = percent :: queue)
      (low : percent < 100) :
      UploadStep transfer ⟨uploader, .flashing progress⟩ .takeProgress
        ⟨{ uploader with progressQueue := queue }, .flashing (progress ++ [percent])⟩
        [.progress percent]
  | flashed {uploader : FirmwareUploader} {progress : List UInt8} {percent : UInt8}
      {queue : List UInt8} (waiting : uploader.progressQueue = percent :: queue)
      (high : ¬ percent < 100) :
      UploadStep transfer ⟨uploader, .flashing progress⟩ .takeProgress
        ⟨{ uploader with progressQueue := queue }.released, .returned (progress ++ [percent])⟩
        [.progress percent, .flashed (progress ++ [percent])]
  | interrupt (uploader : FirmwareUploader) {phase : UploadPhase} (error : PyError)
      (going : phase.ended = false) :
      UploadStep transfer ⟨uploader, phase⟩ (.interrupt error) (abort uploader error).1
        (abort uploader error).2

theorem UploadStep.of_machine {transfer : Transfer} {state next : UploadState}
    {action : UploadAction} {shown : List UploadEvent}
    (stepped : uploadMachine transfer state action = some (next, shown)) :
    UploadStep transfer state action next shown := by
  obtain ⟨uploader, phase⟩ := state
  cases action with
  | deliver frame =>
    cases stepped
    exact .deliver uploader phase frame
  | drained =>
    cases phase with
    | draining index request =>
      cases stepped
      exact .drained uploader index request
    | _ => cases stepped
  | receive =>
    cases phase with
    | awaiting index request =>
      unfold uploadMachine at stepped
      dsimp only at stepped
      split at stepped
      · rename_i received settled
        obtain ⟨rfl, rfl⟩ := Prod.mk.inj (Option.some.inj stepped)
        exact .receive settled
      · cases stepped
    | _ => cases stepped
  | takeProgress =>
    cases phase with
    | flashing progress =>
      unfold uploadMachine at stepped
      dsimp only at stepped
      split at stepped
      · cases stepped
      · rename_i percent queue waiting
        split at stepped
        · rename_i low
          cases stepped
          exact .progress waiting low
        · rename_i high
          cases stepped
          exact .flashed waiting high
    | _ => cases stepped
  | interrupt error =>
    cases phase with
    | draining index request => cases stepped; exact .interrupt uploader error rfl
    | awaiting index request => cases stepped; exact .interrupt uploader error rfl
    | flashing progress => cases stepped; exact .interrupt uploader error rfl
    | _ => cases stepped

end FoxessGateway.Firmware
