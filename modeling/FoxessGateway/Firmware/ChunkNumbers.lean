import FoxessGateway.Firmware.SaveRetry

/-! # Chunk numbers

The index of a chunk has two bytes.  The capture counts every chunk it accepts, also an empty one,
and encodes the count when it asks for the next chunk. -/

namespace FoxessGateway.Firmware

open ByteOrder Protocol Effectful Action Runs

/-! ## The calls that ask for a chunk -/

/-- The call brings chunk `index` of a transfer in `variant`, and no metadata. -/
structure BringsChunk (call : CaptureCall) (variant : FirmwareVariant) (index : Nat) : Prop where
  carries : Carries call variant index
  unannounced : ∃ message, parseFirmwareMetadata call.frame.payload (some variant) =
    .error (.firmwareProtocolError message)

/-- If the call brings a chunk of the transfer in progress, the number that is encoded to ask for
the next one has two bytes. -/
def FirmwareCapture.CanAsk (capture : FirmwareCapture) (call : CaptureCall) : Prop :=
  ∀ metadata variant index, capture.metadata = some metadata → capture.variant = some variant →
    BringsChunk call variant index →
      if index = capture.expectedChunk then
        (capture.data ++ call.chunk).length < metadata.size → capture.expectedChunk + 1 < 256 ^ 2
      else capture.expectedChunk < 256 ^ 2

/-- The call returns. -/
def FirmwareCapture.Handles (capture : FirmwareCapture) (call : CaptureCall) : Prop :=
  ∃ withheld, ((FirmwareCapture.handleUpstreamFrame call).run capture).value = .ok withheld

/-- The filename of the transfer in progress has been checked. -/
def FirmwareCapture.Checked (capture : FirmwareCapture) : Prop :=
  ∀ metadata, capture.metadata = some metadata →
    ∃ filename, safeFirmwareFilename metadata.filename = .ok filename

variable {call : CaptureCall} {variant : FirmwareVariant} {metadata : FirmwareMetadata}
  {capture : FirmwareCapture}

/-- A number is encoded exactly where it has two bytes. -/
theorem requestChunk_returns_iff (drains : call.world.drainFails = none)
    (width : variant.magic.length = 5) (expectedChunk : Nat) :
    (∃ withheld, ((requestChunk call variant expectedChunk >>= fun _ => Pure.pure true).run
      capture).value = .ok withheld) ↔ expectedChunk < 256 ^ 2 := by
  constructor
  · rintro ⟨withheld, returned⟩
    by_contra many
    rw [requestChunk] at returned
    rw [toBytes, if_neg many] at returned
    cases returned
  · intro few
    have asked : (requestChunk call variant expectedChunk).run capture = _ :=
      requestChunk_run drains width few
    rw [run_bind_ok (congrArg Outcome.value asked)]
    exact ⟨true, rfl⟩

/-! ## One call -/

/-- A call that brings no chunk of the transfer in progress returns. -/
theorem FirmwareCapture.handles_of_other (drains : call.world.drainFails = none)
    (other : ∀ metadata variant index, capture.metadata = some metadata →
      capture.variant = some variant → ¬ BringsChunk call variant index) :
    capture.Handles call := by
  rw [Handles]
  unfold FirmwareCapture.handleUpstreamFrame
  cases transfer : firmwareVariantForFrame call.frame with
  | none => exact ⟨false, rfl⟩
  | some variant =>
    obtain ⟨prefixed, width, _⟩ := firmwareVariantForFrame_fields transfer
    dsimp only
    by_cases invalid : call.frame.validCrc = false
    · rw [if_pos invalid]
      exact ⟨true, rfl⟩
    rw [if_neg invalid]
    cases parsed : parseFirmwareMetadata call.frame.payload (some variant) with
    | ok metadata =>
      dsimp only
      unfold handleMetadata emitCapture
      by_cases mismatch : call.serial = [] ∨ metadata.serial ≠ call.serial
      · rw [if_pos mismatch]
        exact ⟨true, rfl⟩
      · have small : (variant.magic ++ [0x00, 0x00, 0x05]).length < 256 ^ 2 := by simp [width]
        have acked : (sendAck call.world call.frame (variant.magic ++ [0x00, 0x00, 0x05]) 0xA1
            variant).run (capture.begun variant metadata) = _ :=
          sendAck_run drains call.frame small 0xA1
        rw [if_neg mismatch, run_modify_bind, run_perform_bind,
          run_bind_ok (congrArg Outcome.value acked)]
        exact ⟨true, rfl⟩
    | error raised =>
      obtain ⟨message, rfl⟩ := parseFirmwareMetadata_error parsed
      dsimp only
      unfold handleChunk emitCapture
      rw [run_get_bind]
      split
      · rename_i metadata current known inUse
        by_cases short : call.frame.payload.length < 7
        · rw [if_pos short]
          exact ⟨true, rfl⟩
        rw [if_neg short]
        by_cases changed : variant ≠ current
        · rw [if_pos changed]
          exact ⟨true, rfl⟩
        obtain rfl : variant = current := not_not.mp changed
        refine absurd ⟨⟨transfer, ?_, by omega, rfl⟩, message, parsed⟩ (other _ _ _ known inUse)
        exact Bool.not_eq_false _ ▸ invalid
      · exact ⟨true, rfl⟩

/-- Once the chunks that have arrived are the image announced, no number is encoded. -/
theorem completeImage_returns (drains : call.world.drainFails = none)
    (suffix : variant.finalAckSuffix.length ≤ 1) (width : variant.magic.length = 5)
    {filename : Text} (safe : safeFirmwareFilename metadata.filename = .ok filename)
    (image : Bytes) :
    ∃ withheld, ((completeImage call variant metadata image).run capture).value = .ok withheld := by
  unfold completeImage
  dsimp only
  by_cases differs : variant.crcField (crc16Le image) ≠ metadata.crc
  · rw [if_pos differs]
    exact ⟨true, rfl⟩
  have saved := saveCapture_run metadata capture call.world image call.serial filename safe
  rw [if_neg differs, run_bind_ok (congrArg Outcome.value saved), saved]
  cases call.world.saveFails with
  | some message => exact ⟨true, rfl⟩
  | none =>
    have small : (variant.magic ++ variant.finalAckSuffix).length < 256 ^ 2 := by
      rw [List.length_append]
      omega
    have acked : (sendAck call.world call.frame (variant.magic ++ variant.finalAckSuffix) 0xA2
      variant).run capture = _ := sendAck_run drains call.frame small 0xA2
    dsimp only
    unfold finishCapture emitCapture
    rw [run_bind_ok (congrArg Outcome.value acked), acked, run_get_bind, run_perform_bind]
    split
    · exact ⟨true, rfl⟩
    · exact ⟨true, rfl⟩

/-- **A call returns exactly where the number it asks for can be encoded.** -/
theorem FirmwareCapture.handles_iff (checked : capture.Checked)
    (drains : call.world.drainFails = none) : capture.Handles call ↔ capture.CanAsk call := by
  by_cases other : ∀ metadata variant index, capture.metadata = some metadata →
      capture.variant = some variant → ¬ BringsChunk call variant index
  · refine iff_of_true (capture.handles_of_other drains other) ?_
    intro metadata variant index known inUse brings
    exact absurd brings (other metadata variant index known inUse)
  push Not at other
  obtain ⟨metadata, variant, index, known, inUse, brings⟩ := other
  obtain ⟨_, width, suffix⟩ := firmwareVariantForFrame_fields brings.carries.transfer
  -- the chunk is the only one that the call brings
  have canAsk : capture.CanAsk call ↔ if index = capture.expectedChunk then
      (capture.data ++ call.chunk).length < metadata.size → capture.expectedChunk + 1 < 256 ^ 2
      else capture.expectedChunk < 256 ^ 2 := by
    constructor
    · exact fun canAsk => canAsk metadata variant index known inUse brings
    · intro fits other current number knownToo _ bringsToo
      obtain rfl : metadata = other := Option.some.inj (known.symm.trans knownToo)
      obtain rfl : index = number := brings.carries.numbered.symm.trans bringsToo.carries.numbered
      exact fits
  rw [canAsk]
  by_cases isNext : index = capture.expectedChunk
  · subst isNext
    obtain ⟨filename, safe⟩ := checked metadata known
    rw [if_pos rfl, Handles, handleUpstreamFrame_accepts brings.carries brings.unannounced known
      inUse, acceptChunk, run_modify_bind, run_get_bind]
    by_cases large : (capture.extended call.chunk).data.length > metadata.size
    · rw [if_pos large]
      exact iff_of_true ⟨true, rfl⟩ fun small => absurd small (Nat.not_lt.mpr (Nat.le_of_lt large))
    rw [if_neg large]
    by_cases small : (capture.extended call.chunk).data.length < metadata.size
    · rw [if_pos small, requestChunk_returns_iff drains width]
      exact ⟨fun fits _ => fits, fun fits => fits small⟩
    · rw [if_neg small]
      exact iff_of_true (completeImage_returns drains suffix width safe _)
        fun isSmall => absurd isSmall small
  · -- any other chunk is answered with the number that is still waited for
    obtain ⟨event, ran⟩ := handleUpstreamFrame_otherChunk brings.carries brings.unannounced known
      inUse isNext
    rw [if_neg isNext, Handles, ran, emitCapture, run_perform_bind]
    exact requestChunk_returns_iff drains width capture.expectedChunk

/-! ## Runs -/

/-- The filename of every transfer that is announced passes the filter. -/
theorem FirmwareCapture.Checked.step {next : FirmwareCapture} {shown : List CaptureRecord}
    (checked : capture.Checked) (stepped : captureMachine capture call = some (next, shown)) :
    next.Checked := by
  cases stepped
  obtain ⟨state, _⟩ | ⟨variant, metadata, announces, state, _⟩ |
      ⟨_, _, _, _, _, _, state, _⟩ := handleUpstreamFrame_cases call capture
  · rw [state]
    exact checked
  · rw [state]
    intro announced known
    obtain rfl : metadata = announced := Option.some.inj known
    rcases parseFirmwareMetadata_cases call.frame.payload (some variant) with
      ⟨message, refused⟩ | ⟨accepted, _, _, _, parsed, _, read⟩
    · cases announces.parsed.symm.trans refused
    · cases announces.parsed.symm.trans parsed
      exact read.safe
  · rcases state with extended | ⟨started, cleared⟩
    · rw [extended]
      exact checked
    · rw [cleared]
      rintro announced ⟨⟩

/-- A call counts one chunk at most. -/
theorem expectedChunk_le (call : CaptureCall) (capture : FirmwareCapture) :
    ((FirmwareCapture.handleUpstreamFrame call).run capture).state.expectedChunk ≤
      capture.expectedChunk + 1 := by
  obtain ⟨state, _⟩ | ⟨_, _, _, state, _⟩ | ⟨_, _, _, _, _, _, state, _⟩ :=
    handleUpstreamFrame_cases call capture
  · rw [state]
    exact Nat.le_succ _
  · rw [state]
    exact Nat.zero_le _
  · rcases state with extended | ⟨started, cleared⟩
    · rw [extended]
      exact Nat.le_refl _
    · rw [cleared]
      exact Nat.zero_le _

/-- It takes as many calls as there are numbers of two bytes to come to one that has three. -/
theorem canAsk_of_few {calls : List CaptureCall}
    (few : capture.expectedChunk + calls.length < 256 ^ 2) :
    Along captureMachine FirmwareCapture.CanAsk capture calls := by
  induction calls generalizing capture with
  | nil => trivial
  | cons call calls inductionHypothesis =>
    rw [List.length_cons] at few
    constructor
    · intro metadata variant index known inUse brings
      split
      · exact fun _ => by omega
      · omega
    · rintro next shown ⟨⟩
      have counted := expectedChunk_le call capture
      exact inductionHypothesis (by omega)

/-- **Chunk numbers in range.**  In every run whose acknowledgements can be written, every call
returns exactly where every number that is encoded has two bytes: no chunk is accepted as number
65535 while the image is short of its size, and none comes once 65536 have been accepted. -/
theorem chunkNumbers_inRange (directory : Text) (simulateProgress : Bool)
    (calls : List CaptureCall) (drains : ∀ call ∈ calls, call.world.drainFails = none) :
    Along captureMachine FirmwareCapture.Handles (.fresh directory simulateProgress) calls ↔
      Along captureMachine FirmwareCapture.CanAsk (.fresh directory simulateProgress) calls := by
  have initially : (FirmwareCapture.fresh directory simulateProgress).Checked := by
    rintro metadata ⟨⟩
  have writable : Along captureMachine (fun _ call => call.world.drainFails = none)
      (.fresh directory simulateProgress) calls := .of_forall fun _ => drains
  -- call by call, along the filenames that the filter has passed
  constructor
  · intro handles
    refine (handles.and writable).of_invariant FirmwareCapture.Checked ?_ ?_ initially
    · exact fun checked _ stepped => checked.step stepped
    · exact fun checked both => (FirmwareCapture.handles_iff checked both.2).mp both.1
  · intro canAsk
    refine (canAsk.and writable).of_invariant FirmwareCapture.Checked ?_ ?_ initially
    · exact fun checked _ stepped => checked.step stepped
    · exact fun checked both => (FirmwareCapture.handles_iff checked both.2).mpr both.1

theorem chunkNumbers_inRange_threeBytes :
    Along captureMachine FirmwareCapture.Handles (.fresh [] false) threeByteTransfer := by
  have drains : ∀ call ∈ threeByteTransfer, call.world.drainFails = none := by
    intro call member
    rcases List.mem_cons.mp member with rfl | later
    · rfl
    · rw [List.mem_singleton.mp later]
      rfl
  exact (chunkNumbers_inRange [] false threeByteTransfer drains).mpr (canAsk_of_few (by decide))

/-! ## Empty chunks -/

/-- A chunk that brings no data. -/
def emptyChunkCall (index : Nat) : CaptureCall :=
  transferCall7e (firmwareMagic ++ toBig 2 index)

theorem emptyChunkCall_brings {index : Nat} (few : index < 256 ^ 2) :
    BringsChunk (emptyChunkCall index) firmwareVariant7eA2 index ∧
      (emptyChunkCall index).chunk = [] := by
  have width : (firmwareMagic ++ toBig 2 index).length = 7 := by
    rw [List.length_append, toBig_length]
    rfl
  refine ⟨⟨⟨rfl, rfl, Nat.le_of_eq width.symm, ?_⟩, ?_⟩, List.drop_of_length_le width.le⟩
  · have field := slice_middle firmwareMagic (toBig 2 index) [] (show 5 = _ from rfl)
      (show 7 = _ by rw [toBig_length]; rfl)
    rw [List.append_nil] at field
    change fromBig (slice (firmwareMagic ++ toBig 2 index) 5 7) = index
    rw [field, fromBig_toBig few]
  · refine ⟨"not a firmware start payload", ?_⟩
    change parseFirmwareMetadata (firmwareMagic ++ toBig 2 index) _ = _
    rw [parseFirmwareMetadata]
    rw [Option.some_or]
    dsimp only
    rw [if_pos (.inl (by omega))]

/-- A transfer of which nothing has come but empty chunks. -/
def FirmwareCapture.counted (capture : FirmwareCapture) (metadata : FirmwareMetadata)
    (count : Nat) : FirmwareCapture :=
  { capture.begun firmwareVariant7eA2 metadata with expectedChunk := count }

/-- Empty chunks are counted, and the image stays short. -/
theorem emptyChunks_run (capture : FirmwareCapture) {metadata : FirmwareMetadata}
    (positive : 0 < metadata.size) {count : Nat} (few : count < 256 ^ 2) :
    ∃ trace, run captureMachine (capture.counted metadata 0)
      ((List.range count).map emptyChunkCall) = some (capture.counted metadata count, trace) := by
  induction count with
  | zero => exact ⟨[], rfl⟩
  | succ count inductionHypothesis =>
    obtain ⟨trace, ran⟩ := inductionHypothesis (by omega)
    obtain ⟨brings, nothing⟩ := emptyChunkCall_brings (show count < 256 ^ 2 by omega)
    have acknowledges : Acknowledges (emptyChunkCall count) (capture.counted metadata count)
        _ _ _ :=
      handleUpstreamFrame_middleChunk brings.carries brings.unannounced rfl rfl rfl rfl few
        (by rw [nothing]; exact positive)
    have state := acknowledges.state
    rw [nothing] at state
    have stepped : captureMachine (capture.counted metadata count) (emptyChunkCall count) =
        some (capture.counted metadata (count + 1), [⟨emptyChunkCall count, []⟩]) := by
      rw [captureMachine, state, acknowledges.saved]
      rfl
    rw [List.range_succ, List.map_append]
    exact ⟨_, run_trans ran (run_step stepped rfl)⟩

theorem emptyChunkCall_wellFormed (index : Nat) : (emptyChunkCall index).frame.WellFormed :=
  builtFrame_wellFormed (.inl ⟨rfl, rfl⟩) rfl (by
    rw [List.length_append, toBig_length]
    decide)

/-- The number after the last one of two bytes is not encoded. -/
theorem emptyChunk_raises (capture : FirmwareCapture) {metadata : FirmwareMetadata}
    (positive : 0 < metadata.size)
    (safe : ∃ filename, safeFirmwareFilename metadata.filename = .ok filename) :
    ¬ (capture.counted metadata 65535).Handles (emptyChunkCall 65535) := by
  have checked : (capture.counted metadata 65535).Checked := by
    rintro announced ⟨⟩
    exact safe
  rw [FirmwareCapture.handles_iff checked rfl]
  intro canAsk
  obtain ⟨brings, nothing⟩ := emptyChunkCall_brings (show 65535 < 256 ^ 2 by decide)
  have fits := canAsk metadata _ _ rfl rfl brings
  have inOrder : 65535 = (capture.counted metadata 65535).expectedChunk := rfl
  rw [if_pos inOrder, nothing] at fits
  exact absurd (fits positive) (Nat.lt_irrefl _)

/-- A transfer in empty chunks comes to a number that cannot be encoded. -/
theorem chunkNumbers_overflow :
    ¬ ∀ (directory : Text) (simulateProgress : Bool) (calls : List CaptureCall),
      (∀ call ∈ calls, call.frame.WellFormed ∧ call.world.drainFails = none) →
      Along captureMachine FirmwareCapture.Handles (.fresh directory simulateProgress) calls := by
  intro claim
  obtain ⟨metadata, size, _, filename, state⟩ : ∃ metadata, _ ∧ _ ∧ _ ∧
      ((FirmwareCapture.handleUpstreamFrame (metadataCall [1, 2, 3])).run
        (.fresh [] false)).state = _ := (metadataCall_brings threeBytes).begun
  have positive : 0 < metadata.size := by
    rw [size]
    decide
  obtain ⟨trace, ran⟩ := emptyChunks_run (.fresh [] false) positive
    (show 65535 < 256 ^ 2 by decide)
  have along := claim [] false ([metadataCall [1, 2, 3]] ++
    (List.range 65535).map emptyChunkCall ++ [emptyChunkCall 65535]) ?_
  · have announced : captureMachine (.fresh [] false) (metadataCall [1, 2, 3]) = some
        ((FirmwareCapture.fresh [] false).counted metadata 0, [⟨metadataCall [1, 2, 3],
          saves ((FirmwareCapture.handleUpstreamFrame (metadataCall [1, 2, 3])).run
            (.fresh [] false)).effects⟩]) := by
      rw [captureMachine, state]
      rfl
    have last := Along.after_run along (run_trans (run_step announced rfl) ran)
    exact emptyChunk_raises (.fresh [] false) positive ⟨['f'], filename ▸ shortName_safe⟩ last.1
  · intro call member
    rcases List.mem_append.mp member with earlier | last
    · rcases List.mem_append.mp earlier with announcing | chunk
      · rw [List.mem_singleton.mp announcing]
        exact ⟨builtFrame_wellFormed (.inl ⟨rfl, rfl⟩) rfl (by decide), rfl⟩
      obtain ⟨index, _, rfl⟩ := List.mem_map.mp chunk
      exact ⟨emptyChunkCall_wellFormed index, rfl⟩
    · rw [List.mem_singleton.mp last]
      exact ⟨emptyChunkCall_wellFormed 65535, rfl⟩

end FoxessGateway.Firmware
