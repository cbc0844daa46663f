import FoxessGateway.Firmware.Capture

/-! # What one upstream frame does to the capture

`handleUpstreamFrame_cases` lists the three things a call can do: leave the transfer as it
is, begin one, or take the chunk that was expected. -/

namespace FoxessGateway.Firmware

open ByteOrder Protocol Effectful Action

/-! ## Reading a call -/

/-- The call brings valid metadata for the session's own serial. -/
structure Announces (call : CaptureCall) (variant : FirmwareVariant) (metadata : FirmwareMetadata) :
    Prop where
  transfer : firmwareVariantForFrame call.frame = some variant
  valid : call.frame.validCrc = true
  parsed : parseFirmwareMetadata call.frame.payload (some variant) = .ok metadata
  known : call.serial ≠ []
  addressed : metadata.serial = call.serial

/-- The call brings a valid chunk number `index` of a transfer in `variant`. -/
structure Carries (call : CaptureCall) (variant : FirmwareVariant) (index : Nat) : Prop where
  transfer : firmwareVariantForFrame call.frame = some variant
  valid : call.frame.validCrc = true
  long : 7 ≤ call.frame.payload.length
  numbered : fromBig (slice call.frame.payload 5 7) = index

/-- The images handed to `_save_capture`, with the record of each. -/
def saves (effects : List CaptureEffect) : List SavedCapture :=
  effects.filterMap fun effect => match effect with
    | .saveCapture saved => some saved
    | _ => none

/-- What is written to the cloud. -/
def upstreamWrites (effects : List CaptureEffect) : List Bytes :=
  effects.filterMap fun effect => match effect with
    | .writeUpstream raw => some raw
    | _ => none

@[simp] theorem saves_nil : saves [] = [] := rfl

@[simp] theorem saves_append (first later : List CaptureEffect) :
    saves (first ++ later) = saves first ++ saves later := by
  simp [saves]

@[simp] theorem saves_emit (event : CaptureEvent) (effects : List CaptureEffect) :
    saves (.emit event :: effects) = saves effects := rfl

@[simp] theorem saves_saveCapture (saved : SavedCapture) (effects : List CaptureEffect) :
    saves (.saveCapture saved :: effects) = saved :: saves effects := rfl

/-! ## The stages -/

variable (call : CaptureCall) (variant : FirmwareVariant) (metadata : FirmwareMetadata)
  (capture : FirmwareCapture)

theorem sendAck_keeps (world : CaptureWorld) (request : Frame) (payload : Bytes) (first : UInt8) :
    ((sendAck world request payload first variant).run capture).state = capture ∧
      saves ((sendAck world request payload first variant).run capture).effects = [] := by
  rw [sendAck, emitCapture, drainUpstream]
  cases made : makeFrame variant.start (first :: request.device.drop 1) request.func payload
    variant.endMarker with
  | error raised =>
    simp only [run_attempt_error_bind]
    exact ⟨trivial, rfl⟩
  | ok raw =>
    simp only [run_attempt_ok_bind, run_perform_bind]
    cases world.drainFails with
    | some message => exact ⟨rfl, rfl⟩
    | none => exact ⟨rfl, rfl⟩

theorem requestChunk_keeps (expectedChunk : Nat) :
    ((requestChunk call variant expectedChunk).run capture).state = capture ∧
      saves ((requestChunk call variant expectedChunk).run capture).effects = [] := by
  rw [requestChunk]
  cases toBytes expectedChunk 2 with
  | error raised => simp
  | ok index =>
    rw [run_attempt_ok_bind]
    exact sendAck_keeps variant capture _ _ _ _

/-- After an action that keeps the state and saves nothing, `pure` changes nothing. -/
theorem keeps_then_pure {action : Capturing Unit} (value : Bool)
    (keeps : (action.run capture).state = capture ∧ saves (action.run capture).effects = []) :
    ((action >>= fun _ => Pure.pure value).run capture).state = capture ∧
      saves ((action >>= fun _ => Pure.pure value).run capture).effects = [] := by
  obtain ⟨state, effects⟩ := run_bind_const action value capture
  rw [state, effects]
  exact keeps

theorem handleMetadata_cases :
    (((handleMetadata call variant metadata).run capture).state = capture ∧
        (call.serial = [] ∨ metadata.serial ≠ call.serial) ∨
      ((handleMetadata call variant metadata).run capture).state = capture.begun variant metadata ∧
        call.serial ≠ [] ∧ metadata.serial = call.serial) ∧
    saves ((handleMetadata call variant metadata).run capture).effects = [] := by
  unfold handleMetadata emitCapture
  by_cases mismatch : call.serial = [] ∨ metadata.serial ≠ call.serial
  · rw [if_pos mismatch]
    exact ⟨.inl ⟨rfl, mismatch⟩, rfl⟩
  · rw [if_neg mismatch, run_modify_bind, run_perform_bind]
    obtain ⟨state, nothing⟩ := keeps_then_pure _ true
      (sendAck_keeps variant (capture.begun variant metadata) call.world call.frame
        (variant.magic ++ [0x00, 0x00, 0x05]) 0xA1)
    refine ⟨.inr ⟨state, fun empty => mismatch (.inl empty), ?_⟩, nothing⟩
    by_contra other
    exact mismatch (.inr other)

theorem finishCapture_cases (saved : SavedCapture) :
    (((finishCapture call variant metadata saved).run capture).state = capture ∨
      ∃ started, ((finishCapture call variant metadata saved).run capture).state =
        { capture with progressStarted := started }.cleared) ∧
    saves ((finishCapture call variant metadata saved).run capture).effects = [] := by
  unfold finishCapture emitCapture
  obtain ⟨state, nothing⟩ := sendAck_keeps variant capture call.world call.frame
    (variant.magic ++ variant.finalAckSuffix) 0xA2
  obtain ⟨raised, ran⟩ | ⟨returned, _, ran⟩ := run_bind_cases
    (sendAck call.world call.frame (variant.magic ++ variant.finalAckSuffix) 0xA2 variant)
    _ capture
  · rw [ran]
    exact ⟨.inl state, nothing⟩
  · rw [ran, state]
    simp only [run_get_bind, run_perform_bind, saves_append, nothing, List.nil_append, saves_emit]
    split
    · exact ⟨.inr ⟨true, rfl⟩, rfl⟩
    · exact ⟨.inr ⟨_, rfl⟩, rfl⟩

theorem saveCapture_run (world : CaptureWorld) (image : Bytes) (serial filename : Text)
    (safe : safeFirmwareFilename metadata.filename = .ok filename) :
    (saveCapture world metadata image serial).run capture =
      ⟨capture, [.saveCapture (savedCapture capture metadata filename image serial)],
        .ok (match world.saveFails with
          | some message => .error message
          | none => .ok (savedCapture capture metadata filename image serial))⟩ := by
  rw [saveCapture]
  rw [safe]
  cases world.saveFails <;> rfl

theorem completeImage_cases (image : Bytes) :
    (((completeImage call variant metadata image).run capture).state = capture ∨
      ∃ started, ((completeImage call variant metadata image).run capture).state =
        { capture with progressStarted := started }.cleared) ∧
    ∀ saved ∈ saves ((completeImage call variant metadata image).run capture).effects,
      saved.image = image ∧ variant.crcField (crc16Le image) = metadata.crc := by
  unfold completeImage emitCapture
  by_cases mismatch : variant.crcField (crc16Le image) ≠ metadata.crc
  · rw [if_pos mismatch]
    exact ⟨.inl rfl, by simp⟩
  have match' : variant.crcField (crc16Le image) = metadata.crc := not_not.mp mismatch
  rw [if_neg mismatch]
  cases safe : safeFirmwareFilename metadata.filename with
  | error raised =>
    unfold saveCapture
    rw [safe]
    exact ⟨.inl rfl, by simp [run_bind_error]⟩
  | ok filename =>
    have ran := saveCapture_run metadata capture call.world image call.serial filename safe
    cases failed : call.world.saveFails with
    | some message =>
      rw [failed] at ran
      rw [run_bind_ok (congrArg Outcome.value ran), ran]
      -- the image was handed over, but could not be written
      exact ⟨.inl rfl, by simp [savedCapture, match']⟩
    | none =>
      rw [failed] at ran
      rw [run_bind_ok (congrArg Outcome.value ran), ran]
      obtain ⟨state, nothing⟩ := finishCapture_cases call variant metadata capture
        (savedCapture capture metadata filename image call.serial)
      refine ⟨state, ?_⟩
      simp only [saves_append, saves_saveCapture, saves_nil, nothing, List.append_nil,
        List.mem_singleton]
      rintro saved rfl
      exact ⟨rfl, match'⟩

theorem acceptChunk_cases :
    (((acceptChunk call variant metadata).run capture).state = capture.extended call.chunk ∨
      ∃ started, ((acceptChunk call variant metadata).run capture).state =
        { capture with progressStarted := started }.cleared) ∧
    ∀ saved ∈ saves ((acceptChunk call variant metadata).run capture).effects,
      saved.image = capture.data ++ call.chunk ∧ saved.image.length = metadata.size ∧
        variant.crcField (crc16Le saved.image) = metadata.crc := by
  unfold acceptChunk emitCapture
  rw [run_modify_bind, run_get_bind]
  by_cases large : (capture.extended call.chunk).data.length > metadata.size
  · rw [if_pos large]
    exact ⟨.inl rfl, by simp⟩
  rw [if_neg large]
  by_cases small : (capture.extended call.chunk).data.length < metadata.size
  · rw [if_pos small]
    obtain ⟨state, nothing⟩ := keeps_then_pure _ true
      (requestChunk_keeps call variant (capture.extended call.chunk)
        (capture.extended call.chunk).expectedChunk)
    refine ⟨.inl state, ?_⟩
    rw [show saves _ = [] from nothing]
    simp
  rw [if_neg small]
  obtain ⟨state, images⟩ := completeImage_cases call variant metadata
    (capture.extended call.chunk) (capture.extended call.chunk).data
  refine ⟨state, fun saved member => ?_⟩
  obtain ⟨same, checked⟩ := images saved member
  rw [same]
  exact ⟨rfl, by omega, checked⟩

/-! ## The call -/

theorem handleChunk_cases :
    ((handleChunk call variant).run capture).state = capture ∧
        saves ((handleChunk call variant).run capture).effects = [] ∨
      ∃ metadata, capture.metadata = some metadata ∧ capture.variant = some variant ∧
        7 ≤ call.frame.payload.length ∧
        fromBig (slice call.frame.payload 5 7) = capture.expectedChunk ∧
        (((handleChunk call variant).run capture).state = capture.extended call.chunk ∨
          ∃ started, ((handleChunk call variant).run capture).state =
            { capture with progressStarted := started }.cleared) ∧
        ∀ saved ∈ saves ((handleChunk call variant).run capture).effects,
          saved.image = capture.data ++ call.chunk ∧ saved.image.length = metadata.size ∧
            variant.crcField (crc16Le saved.image) = metadata.crc := by
  unfold handleChunk emitCapture
  rw [run_get_bind]
  split
  · rename_i metadata current known inUse
    by_cases short : call.frame.payload.length < 7
    · rw [if_pos short]
      exact .inl ⟨rfl, rfl⟩
    rw [if_neg short]
    by_cases changed : variant ≠ current
    · rw [if_pos changed]
      exact .inl ⟨rfl, rfl⟩
    rw [if_neg changed]
    by_cases other : fromBig (slice call.frame.payload 5 7) ≠ capture.expectedChunk
    · -- another chunk than the expected: it is asked for again
      rw [if_pos other, run_perform_bind]
      exact .inl (keeps_then_pure _ true (requestChunk_keeps call variant capture _))
    rw [if_neg other]
    obtain rfl : variant = current := not_not.mp changed
    exact .inr ⟨metadata, known, inUse, by omega, not_not.mp other,
      acceptChunk_cases call variant metadata capture⟩
  · exact .inl ⟨rfl, rfl⟩

/-- **One call.**  The transfer stays as it is, or a transfer is announced, or the chunk
expected arrives; only the last saves an image, and only a complete and correct one. -/
theorem handleUpstreamFrame_cases :
    let outcome := (FirmwareCapture.handleUpstreamFrame call).run capture
    (outcome.state = capture ∧ saves outcome.effects = [] ∧
      ∀ variant metadata, ¬ Announces call variant metadata) ∨
    (∃ variant metadata, Announces call variant metadata ∧
      outcome.state = capture.begun variant metadata ∧ saves outcome.effects = []) ∨
    (∃ variant metadata, capture.metadata = some metadata ∧ capture.variant = some variant ∧
      Carries call variant capture.expectedChunk ∧
      (∀ variant metadata, ¬ Announces call variant metadata) ∧
      (outcome.state = capture.extended call.chunk ∨
        ∃ started, outcome.state = { capture with progressStarted := started }.cleared) ∧
      ∀ saved ∈ saves outcome.effects, saved.image = capture.data ++ call.chunk ∧
        saved.image.length = metadata.size ∧
        variant.crcField (crc16Le saved.image) = metadata.crc) := by
  unfold FirmwareCapture.handleUpstreamFrame emitCapture
  cases transfer : firmwareVariantForFrame call.frame with
  | none =>
    refine .inl ⟨rfl, rfl, fun variant metadata announces => ?_⟩
    rw [announces.transfer] at transfer
    cases transfer
  | some variant =>
    dsimp only
    by_cases invalid : call.frame.validCrc = false
    · rw [if_pos invalid]
      refine .inl ⟨rfl, rfl, fun variant metadata announces => ?_⟩
      rw [announces.valid] at invalid
      cases invalid
    rw [if_neg invalid]
    have valid : call.frame.validCrc = true := by simpa using invalid
    have only : ∀ {other metadata}, Announces call other metadata →
        parseFirmwareMetadata call.frame.payload (some variant) = .ok metadata := by
      intro other metadata announces
      have same := announces.transfer.symm.trans transfer
      cases same
      exact announces.parsed
    cases parsed : parseFirmwareMetadata call.frame.payload (some variant) with
    | ok metadata =>
      obtain ⟨⟨state, refused⟩ | ⟨state, known, addressed⟩, nothing⟩ :=
        handleMetadata_cases call variant metadata capture
      · -- metadata for another inverter is refused
        refine .inl ⟨state, nothing, fun other announced announces => ?_⟩
        obtain rfl : announced = metadata := by
          have same := (only announces).symm.trans parsed
          cases same
          rfl
        exact refused.elim announces.known fun other => other announces.addressed
      · exact .inr (.inl ⟨variant, metadata, ⟨transfer, valid, parsed, known, addressed⟩, state,
          nothing⟩)
    | error raised =>
      have unannounced : ∀ variant metadata, ¬ Announces call variant metadata := by
        intro other metadata announces
        cases (only announces).symm.trans parsed
      -- a payload that is not metadata may be a chunk
      cases raised with
      | firmwareProtocolError message =>
        obtain ⟨state, nothing⟩ | ⟨metadata, known, inUse, long, numbered, moved⟩ :=
          handleChunk_cases call variant capture
        · exact .inl ⟨state, nothing, unannounced⟩
        · exact .inr (.inr ⟨variant, metadata, known, inUse, ⟨transfer, valid, long, numbered⟩,
            unannounced, moved⟩)
      | _ => exact .inl ⟨rfl, rfl, unannounced⟩

/-- A frame whose CRC is wrong leaves the capture as it is. -/
theorem handleUpstreamFrame_corrupt (corrupt : call.frame.validCrc = false) :
    ((FirmwareCapture.handleUpstreamFrame call).run capture).state = capture := by
  rw [FirmwareCapture.handleUpstreamFrame]
  cases firmwareVariantForFrame call.frame with
  | none => rfl
  | some variant =>
    dsimp only
    rw [if_pos corrupt]
    rfl

/-! ## Which frames are withheld -/

theorem acceptChunk_withholds : Returns (· = true) (acceptChunk call variant metadata) := by
  refine Returns.bind fun _ => Returns.bind fun capture => Returns.ite ?_ (Returns.ite ?_ ?_)
  · exact Returns.bind fun _ => Returns.pure rfl
  · exact Returns.bind fun _ => Returns.pure rfl
  · refine Returns.ite (Returns.bind fun _ => Returns.pure rfl) (Returns.bind fun outcome => ?_)
    cases outcome with
    | error message => exact Returns.bind fun _ => Returns.bind fun _ => Returns.pure rfl
    | ok saved =>
      refine Returns.bind fun _ => Returns.bind fun _ => Returns.bind fun _ => Returns.ite ?_ ?_
      · exact Returns.bind fun _ => Returns.bind fun _ => Returns.bind fun _ => Returns.pure rfl
      · exact Returns.bind fun _ => Returns.pure rfl

theorem handleChunk_withholds : Returns (· = true) (handleChunk call variant) := by
  refine Returns.bind fun capture => ?_
  split
  · refine Returns.ite (Returns.bind fun _ => Returns.pure rfl) (Returns.ite ?_ ?_)
    · exact Returns.bind fun _ => Returns.pure rfl
    · refine Returns.ite ?_ (acceptChunk_withholds call variant _)
      exact Returns.bind fun _ => Returns.bind fun _ => Returns.pure rfl
  · exact Returns.bind fun _ => Returns.pure rfl

theorem handleMetadata_withholds : Returns (· = true) (handleMetadata call variant metadata) := by
  refine Returns.ite (Returns.bind fun _ => Returns.pure rfl) ?_
  exact Returns.bind fun _ => Returns.bind fun _ => Returns.bind fun _ => Returns.pure rfl

/-- Where the capture returns, it withholds the frames of a transfer and no others. -/
theorem handleUpstreamFrame_withholds :
    Returns (· = isFirmwareTransferFrame call.frame)
      (FirmwareCapture.handleUpstreamFrame call) := by
  rw [FirmwareCapture.handleUpstreamFrame, isFirmwareTransferFrame]
  cases firmwareVariantForFrame call.frame with
  | none => exact Returns.pure rfl
  | some variant =>
    refine Returns.ite (Returns.bind fun _ => Returns.pure rfl) ?_
    split
    · exact handleMetadata_withholds call variant _
    · exact handleChunk_withholds call variant
    · exact Returns.raise

end FoxessGateway.Firmware
