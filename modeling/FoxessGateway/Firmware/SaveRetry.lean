import FoxessGateway.Firmware.FirstChunk

/-! # A failed save

The capture appends and counts the last chunk before it saves the image.  Where the save fails
neither is undone, so the chunk sent again is not the one expected. -/

namespace FoxessGateway.Firmware

open ByteOrder Protocol Effectful Action

/-! ## The last chunk -/

/-- The call brings the chunk expected, and with it the image has the size and the CRC announced. -/
structure FinalChunk (variant : FirmwareVariant) (metadata : FirmwareMetadata) (call : CaptureCall)
    (capture : FirmwareCapture) : Prop where
  known : capture.metadata = some metadata
  inUse : capture.variant = some variant
  carries : Carries call variant capture.expectedChunk
  unannounced : ∃ message, parseFirmwareMetadata call.frame.payload (some variant) =
    .error (.firmwareProtocolError message)
  complete : (capture.data ++ call.chunk).length = metadata.size
  checked : variant.crcField (crc16Le (capture.data ++ call.chunk)) = metadata.crc
  /-- What the parser of the metadata has checked. -/
  safe : ∃ filename, safeFirmwareFilename metadata.filename = .ok filename

/-- After `call` the capture is as before it, and `retry` completes the transfer. -/
structure Retryable (variant : FirmwareVariant) (call retry : CaptureCall)
    (capture : FirmwareCapture) : Prop where
  data : ((FirmwareCapture.handleUpstreamFrame call).run capture).state.data = capture.data
  expectedChunk : ((FirmwareCapture.handleUpstreamFrame call).run capture).state.expectedChunk =
    capture.expectedChunk
  saved : (saves ((FirmwareCapture.handleUpstreamFrame retry).run
    ((FirmwareCapture.handleUpstreamFrame call).run capture).state).effects).map
      SavedCapture.image = [capture.data ++ call.chunk]
  acknowledged :
    (captureAck variant retry.frame 0xA2 (variant.magic ++ variant.finalAckSuffix)).raw ∈
      upstreamWrites ((FirmwareCapture.handleUpstreamFrame retry).run
        ((FirmwareCapture.handleUpstreamFrame call).run capture).state).effects

variable {variant : FirmwareVariant} {metadata : FirmwareMetadata} {call retry : CaptureCall}
  {capture : FirmwareCapture}

/-- Where the save fails the chunk stays appended and counted. -/
theorem FinalChunk.failedSave {message : String} (final : FinalChunk variant metadata call capture)
    (fails : call.world.saveFails = some message) :
    ((FirmwareCapture.handleUpstreamFrame call).run capture).state =
      capture.extended call.chunk := by
  obtain ⟨filename, safe⟩ := final.safe
  have complete : (capture.extended call.chunk).data.length = metadata.size := final.complete
  have saved := saveCapture_run metadata (capture.extended call.chunk) call.world
    (capture.extended call.chunk).data call.serial filename safe
  rw [fails] at saved
  rw [handleUpstreamFrame_accepts final.carries final.unannounced final.known final.inUse,
    acceptChunk, run_modify_bind, run_get_bind, if_neg (by omega), if_neg (by omega)]
  have agrees : ¬ variant.crcField (crc16Le (capture.extended call.chunk).data) ≠ metadata.crc :=
    not_not.mpr final.checked
  unfold completeImage
  dsimp only
  rw [if_neg agrees, run_bind_ok (congrArg Outcome.value saved), saved]
  rfl

/-- A chunk with another index than the one expected is answered with a request for that. -/
theorem handleUpstreamFrame_otherChunk {index : Nat} (carries : Carries call variant index)
    (unannounced : ∃ message, parseFirmwareMetadata call.frame.payload (some variant) =
      .error (.firmwareProtocolError message))
    (known : capture.metadata = some metadata) (inUse : capture.variant = some variant)
    (other : index ≠ capture.expectedChunk) :
    ∃ event, (FirmwareCapture.handleUpstreamFrame call).run capture =
      (emitCapture event >>= fun _ => requestChunk call variant capture.expectedChunk >>= fun _ =>
        Pure.pure true).run capture := by
  obtain ⟨message, unannounced⟩ := unannounced
  have long := carries.long
  unfold FirmwareCapture.handleUpstreamFrame handleChunk emitCapture
  rw [carries.transfer]
  dsimp only
  rw [if_neg (by simp [carries.valid]), unannounced]
  dsimp only
  rw [run_get_bind, known, inUse]
  dsimp only
  rw [if_neg (by omega), if_neg (not_not.mpr rfl), carries.numbered, if_pos other]
  exact ⟨_, rfl⟩

/-- Acknowledgements with different first device bytes differ. -/
theorem captureAck_raw_ne (request : Frame) {first other : UInt8} (differ : first ≠ other)
    (payload otherPayload : Bytes) :
    (captureAck variant request first payload).raw ≠
      (captureAck variant request other otherPayload).raw := by
  unfold captureAck builtFrame
  simp only [List.append_assoc, List.cons_append]
  intro same
  exact differ (List.cons.inj (List.append_cancel_left same)).1

/-- A request for a chunk is not the final acknowledgement. -/
theorem requestChunk_not_finalAck (call : CaptureCall) (capture : FirmwareCapture)
    (magicWidth : variant.magic.length = 5) (expectedChunk : Nat) (payload : Bytes) :
    (captureAck variant call.frame 0xA2 payload).raw ∉
      upstreamWrites ((requestChunk call variant expectedChunk).run capture).effects := by
  rcases Nat.lt_or_ge expectedChunk (256 ^ 2) with few | many
  · rw [(requestChunk_asks call capture magicWidth few).2, List.mem_singleton]
    exact captureAck_raw_ne call.frame (by decide) _ _
  · -- an index of three bytes cannot be asked for
    rw [requestChunk]
    rw [toBytes, if_neg (by omega), run_attempt_error_bind]
    exact List.not_mem_nil

/-- The chunk sent again after the failure is refused. -/
theorem FinalChunk.refused (final : FinalChunk variant metadata call capture)
    (again : retry.frame = call.frame) :
    let retried := (FirmwareCapture.handleUpstreamFrame retry).run (capture.extended call.chunk)
    saves retried.effects = [] ∧
      (captureAck variant retry.frame 0xA2 (variant.magic ++ variant.finalAckSuffix)).raw ∉
        upstreamWrites retried.effects := by
  have magicWidth := (firmwareVariantForFrame_fields final.carries.transfer).2.1
  have carries : Carries retry variant capture.expectedChunk := {
    transfer := again ▸ final.carries.transfer
    valid := again ▸ final.carries.valid
    long := again ▸ final.carries.long
    numbered := again ▸ final.carries.numbered }
  -- the index expected is one more than that of the chunk
  have other : capture.expectedChunk ≠ (capture.extended call.chunk).expectedChunk :=
    (Nat.succ_ne_self _).symm
  obtain ⟨event, ran⟩ := handleUpstreamFrame_otherChunk carries
    (again ▸ final.unannounced) (show (capture.extended call.chunk).metadata = _ from final.known)
    final.inUse other
  rw [emitCapture, run_perform_bind] at ran
  have asked := (run_bind_const (requestChunk retry variant
    (capture.extended call.chunk).expectedChunk) true (capture.extended call.chunk)).2
  have nothing := (requestChunk_keeps retry variant (capture.extended call.chunk)
    (capture.extended call.chunk).expectedChunk).2
  have unacknowledged := requestChunk_not_finalAck retry (capture.extended call.chunk) magicWidth
    (capture.extended call.chunk).expectedChunk (variant.magic ++ variant.finalAckSuffix)
  dsimp only
  rw [ran, asked]
  exact ⟨nothing, unacknowledged⟩

/-- **A failed save is never retryable.**  The chunk that completed the image stays appended and
counted, so the same chunk sent again is refused, even where the directory has become writable:
nothing is saved, and the final acknowledgement is not sent. -/
theorem failedSave_not_retryable (variant : FirmwareVariant) (metadata : FirmwareMetadata)
    (capture : FirmwareCapture) (call retry : CaptureCall) (message : String)
    (final : FinalChunk variant metadata call capture)
    (fails : call.world.saveFails = some message) (again : retry.frame = call.frame) :
    let after := ((FirmwareCapture.handleUpstreamFrame call).run capture).state
    let retried := (FirmwareCapture.handleUpstreamFrame retry).run after
    after.data = capture.data ++ call.chunk ∧
      after.expectedChunk = capture.expectedChunk + 1 ∧ saves retried.effects = [] ∧
      (captureAck variant retry.frame 0xA2 (variant.magic ++ variant.finalAckSuffix)).raw ∉
        upstreamWrites retried.effects ∧
      ¬ Retryable variant call retry capture := by
  have state := final.failedSave fails
  obtain ⟨nothing, unacknowledged⟩ := final.refused again
  dsimp only
  rw [state]
  refine ⟨rfl, rfl, nothing, unacknowledged, fun retryable => ?_⟩
  have restored := retryable.expectedChunk
  rw [state] at restored
  exact Nat.succ_ne_self _ restored

/-- The transfer of an image of three bytes, announced. -/
def threeBytesMetadata : FirmwareMetadata where
  size := 3
  crc := crc16Le [1, 2, 3]
  filename := ['f']
  serial := ['S']
  timeoutSeconds := 300
  variant := firmwareVariant7eA2

def threeBytesBegun : FirmwareCapture :=
  (FirmwareCapture.fresh [] false).begun firmwareVariant7eA2 threeBytesMetadata

/-- The only chunk of that image, while the disk is full. -/
def fullDiskCall : CaptureCall :=
  { firstChunkCall [1, 2, 3] with world := ⟨none, some "No space left on device", true⟩ }

theorem fullDiskCall_final :
    FinalChunk firmwareVariant7eA2 threeBytesMetadata fullDiskCall threeBytesBegun where
  known := rfl
  inUse := rfl
  carries := ⟨rfl, rfl, by decide, by decide⟩
  unannounced := ⟨"not a firmware start payload", by decide +kernel⟩
  complete := rfl
  checked := rfl
  safe := ⟨['f'], shortName_safe⟩

theorem failedSave_not_retryable_threeBytes :
    ¬ Retryable firmwareVariant7eA2 fullDiskCall (firstChunkCall [1, 2, 3]) threeBytesBegun :=
  (failedSave_not_retryable _ _ _ _ (firstChunkCall [1, 2, 3]) _ fullDiskCall_final rfl
    rfl).2.2.2.2

/-- The chunk sent again once the disk has room completes nothing. -/
theorem fullDiskCall_not_retryable :
    ¬ ∀ (variant : FirmwareVariant) (metadata : FirmwareMetadata) (capture : FirmwareCapture)
      (call retry : CaptureCall) (message : String), FinalChunk variant metadata call capture →
      call.world.saveFails = some message → retry.frame = call.frame →
      retry.world.saveFails = none → retry.world.drainFails = none →
        Retryable variant call retry capture := by
  intro claim
  have retryable := claim _ _ _ _ (firstChunkCall [1, 2, 3]) _ fullDiskCall_final rfl rfl rfl rfl
  have restored := retryable.expectedChunk
  rw [fullDiskCall_final.failedSave rfl] at restored
  exact Nat.succ_ne_self _ restored

end FoxessGateway.Firmware
