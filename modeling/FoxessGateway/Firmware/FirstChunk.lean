import FoxessGateway.Firmware.CaptureIntegrity
import FoxessGateway.Firmware.TransferAgreement

/-! # The first chunk of a transfer

Metadata and chunk 0 open alike: the transfer id, then two zeros.  The capture tries the metadata
parser on both, so a first chunk with the layout of metadata is taken for an announcement. -/

namespace FoxessGateway.Firmware

open ByteOrder Protocol Effectful Action

/-! ## The two frames -/

/-- The call brings the metadata of the image, in a session of the inverter it is for. -/
structure BringsMetadata (image : FirmwareImage) (serial : Text) (variant : FirmwareVariant)
    (call : CaptureCall) : Prop where
  transfer : firmwareVariantForFrame call.frame = some variant
  valid : call.frame.validCrc = true
  built : buildFirmwareMetadata image serial variant = .ok call.frame.payload
  addressed : call.serial = serial

/-- The call brings chunk 0 of the image. -/
structure BringsFirstChunk (image : FirmwareImage) (variant : FirmwareVariant)
    (call : CaptureCall) : Prop where
  transfer : firmwareVariantForFrame call.frame = some variant
  valid : call.frame.validCrc = true
  payload : call.frame.payload =
    variant.magic ++ [0x00, 0x00] ++ image.data.take firmwareChunkSize

/-- The events of a frame handled as metadata, and of a frame refused. -/
def CaptureEvent.IsAnnouncement : CaptureEvent → Prop
  | .firmwareCaptureStarted .. => True
  | .firmwareCaptureRejected .. => True
  | _ => False

/-- No such event is shown. -/
def Unannounced (effect : CaptureEffect) : Prop :=
  ∀ event, effect = .emit event → ¬ event.IsAnnouncement

/-- The call is handled as a chunk of the image: its data is appended and the next chunk asked for,
or the image it completes is saved; the transfer announced is kept until it is finished. -/
structure TakenAsChunk (image : FirmwareImage) (variant : FirmwareVariant) (call : CaptureCall)
    (capture : FirmwareCapture) : Prop where
  unannounced : ∀ effect ∈ ((FirmwareCapture.handleUpstreamFrame call).run capture).effects,
    Unannounced effect
  kept : ((FirmwareCapture.handleUpstreamFrame call).run capture).state.metadata =
      capture.metadata ∨
    ((FirmwareCapture.handleUpstreamFrame call).run capture).state.metadata = none
  taken :
    ((FirmwareCapture.handleUpstreamFrame call).run capture).state =
        capture.extended (image.data.take firmwareChunkSize) ∧
      upstreamWrites ((FirmwareCapture.handleUpstreamFrame call).run capture).effects =
        [(captureAck variant call.frame 0xA1 (variant.magic ++ [0x00, 0x01] ++ [0x05])).raw] ∨
    (saves ((FirmwareCapture.handleUpstreamFrame call).run capture).effects).map
      SavedCapture.image = [image.data]

/-! ## What the metadata frame leaves -/

variable {image : FirmwareImage} {serial : Text} {variant : FirmwareVariant} {call : CaptureCall}
  {capture : FirmwareCapture}

/-- Every variant that a frame can be of has a length prefix and an id of five bytes. -/
theorem firmwareVariantForFrame_fields {frame : Frame}
    (transfer : firmwareVariantForFrame frame = some variant) :
    variant.filenameHasLength = true ∧ variant.magic.length = 5 ∧
      variant.finalAckSuffix.length ≤ 1 := by
  rw [firmwareVariantForFrame] at transfer
  split at transfer
  · cases transfer
    exact ⟨rfl, rfl, Nat.zero_le 1⟩
  split at transfer
  · cases transfer
    exact ⟨rfl, rfl, Nat.le_refl 1⟩
  split at transfer
  · rename_i dynamic
    cases transfer
    refine ⟨rfl, ?_, Nat.le_refl 1⟩
    change (frame.payload.take 5).length = 5
    rw [List.length_take]
    have long := dynamic.2.2.1
    omega
  · cases transfer

/-- The serial of metadata that could be built. -/
theorem buildFirmwareMetadata_serial {payload : Bytes}
    (built : buildFirmwareMetadata image serial variant = .ok payload) :
    ∃ serialBytes, encodeAscii serial = .ok serialBytes ∧ serialBytes ≠ [] ∧
      serialBytes.length ≤ 255 := by
  rw [buildFirmwareMetadata] at built
  cases encoded : encodeAscii serial with
  | error raised =>
    rw [encoded] at built
    cases built
  | ok serialBytes =>
    rw [encoded] at built
    simp only [bind, Except.bind] at built
    split at built
    · cases built
    · rename_i fits
      rw [not_or] at fits
      exact ⟨serialBytes, rfl, fits.1, by omega⟩

/-- The metadata frame of an image is accepted. -/
theorem BringsMetadata.announces (brings : BringsMetadata image serial variant call) :
    ∃ metadata, Announces call variant metadata ∧ metadata.size = image.size ∧
      metadata.crc = variant.crcField image.crc ∧ metadata.filename = image.filename := by
  obtain ⟨prefixed, magicWidth, _⟩ := firmwareVariantForFrame_fields brings.transfer
  obtain ⟨serialBytes, isSerial, known, serialFits⟩ := buildFirmwareMetadata_serial brings.built
  obtain ⟨name, isName, nameFits⟩ := encodeAscii_filename image.safe
  have crcWidth : (variant.crcField image.crc).length = 2 := by
    rw [image.checked]
    exact variant.crcField_length image.data
  have sizeFits : image.size < 256 ^ 2 := by
    have fits := image.fits
    rw [image.sized]
    omega
  have payload := brings.built.symm.trans
    (buildFirmwareMetadata_eq prefixed isName nameFits isSerial known serialFits)
  have parsed := parseFirmwareMetadata_metadataPayload prefixed magicWidth crcWidth sizeFits
    nameFits (decodeAscii_of_encodeAscii isName) image.safe serialFits
    (decodeAscii_of_encodeAscii isSerial)
  rw [← Except.ok.inj payload] at parsed
  refine ⟨_, {
    transfer := brings.transfer
    valid := brings.valid
    parsed := parsed
    known := ?_
    addressed := brings.addressed.symm }, rfl, rfl, rfl⟩
  rw [brings.addressed]
  rintro rfl
  cases isSerial
  exact known rfl

/-- After it the transfer of the image is announced and nothing received. -/
theorem BringsMetadata.begun (brings : BringsMetadata image serial variant call) :
    ∃ metadata, metadata.size = image.size ∧ metadata.crc = variant.crcField image.crc ∧
      metadata.filename = image.filename ∧
      ((FirmwareCapture.handleUpstreamFrame call).run capture).state =
        capture.begun variant metadata := by
  obtain ⟨metadata, announces, size, crc, filename⟩ := brings.announces
  refine ⟨metadata, size, crc, filename, ?_⟩
  obtain ⟨_, _, quiet⟩ | ⟨other, announced, announcesToo, state, _⟩ | ⟨_, _, _, _, _, quiet, _⟩ :=
    handleUpstreamFrame_cases call capture
  · exact absurd announces (quiet variant metadata)
  · obtain rfl : other = variant :=
      Option.some.inj (announcesToo.transfer.symm.trans announces.transfer)
    obtain rfl : announced = metadata :=
      Except.ok.inj (announcesToo.parsed.symm.trans announces.parsed)
    exact state
  · exact absurd announces (quiet variant metadata)

/-! ## A chunk shows no announcement -/

theorem sendAck_unannounced (world : CaptureWorld) (request : Frame) (payload : Bytes)
    (first : UInt8) : Shows Unannounced (sendAck world request payload first variant) := by
  refine Shows.bind Shows.attempt fun raw => Shows.bind (Shows.perform ?_) fun _ =>
    Shows.bind ?_ fun _ => Shows.perform ?_
  · rintro event ⟨⟩
  · rw [drainUpstream]
    split
    · intro state effect member
      cases member
    · exact Shows.pure
  · rintro event ⟨⟩
    exact id

theorem completeImage_unannounced (metadata : FirmwareMetadata) (received : Bytes) :
    Shows Unannounced (completeImage call variant metadata received) := by
  unfold completeImage
  dsimp only
  split
  · refine Shows.bind (Shows.perform ?_) fun _ => Shows.pure
    rintro event ⟨⟩
    exact id
  refine Shows.bind ?_ fun outcome => ?_
  · refine Shows.bind Shows.get fun _ => Shows.bind Shows.attempt fun filename =>
      Shows.bind (Shows.perform ?_) fun _ => ?_
    · rintro event ⟨⟩
    · split <;> exact Shows.pure
  · cases outcome with
    | error message =>
      refine Shows.bind Shows.get fun _ => Shows.bind (Shows.perform ?_) fun _ => Shows.pure
      rintro event ⟨⟩
      exact id
    | ok saved =>
      refine Shows.bind (sendAck_unannounced _ _ _ _) fun _ => Shows.bind Shows.get fun _ =>
        Shows.bind (Shows.perform ?_) fun _ => ?_
      · rintro event ⟨⟩
        exact id
      · -- the transfer is over, whether or not its progress is simulated
        dsimp only
        split
        · refine Shows.bind Shows.modify fun _ => Shows.bind (Shows.perform ?_) fun _ =>
            Shows.bind Shows.modify fun _ => Shows.pure
          rintro event ⟨⟩
        · exact Shows.bind Shows.modify fun _ => Shows.pure

theorem acceptChunk_unannounced (metadata : FirmwareMetadata) :
    Shows Unannounced (acceptChunk call variant metadata) := by
  refine Shows.bind Shows.modify fun _ => Shows.bind Shows.get fun capture => ?_
  split
  · refine Shows.bind (Shows.perform ?_) fun _ => Shows.pure
    rintro event ⟨⟩
    exact id
  split
  · refine Shows.bind (Shows.bind Shows.attempt fun index => ?_) fun _ => Shows.pure
    exact sendAck_unannounced _ _ _ _
  · exact completeImage_unannounced metadata _

/-! ## How chunk 0 is handled -/

/-- Whatever happens to the connection, one acknowledgement is written. -/
theorem sendAck_writes (world : CaptureWorld) (request : Frame) {payload : Bytes}
    (fits : payload.length < 256 ^ 2) (first : UInt8) :
    upstreamWrites ((sendAck world request payload first variant).run capture).effects =
      [(captureAck variant request first payload).raw] := by
  unfold sendAck drainUpstream emitCapture
  dsimp only
  rw [makeFrame_eq _ _ _ _ fits, run_attempt_ok_bind, run_perform_bind]
  cases world.drainFails <;> rfl

/-- An image that is complete and correct is handed to `_save_capture`. -/
theorem completeImage_saves (call : CaptureCall) (capture : FirmwareCapture)
    {metadata : FirmwareMetadata} {received : Bytes} {filename : Text}
    (safe : safeFirmwareFilename metadata.filename = .ok filename)
    (checked : variant.crcField (crc16Le received) = metadata.crc) :
    saves ((completeImage call variant metadata received).run capture).effects =
      [savedCapture capture metadata filename received call.serial] := by
  have saved := saveCapture_run metadata capture call.world received call.serial filename safe
  unfold completeImage
  dsimp only
  rw [if_neg (not_not.mpr checked), run_bind_ok (congrArg Outcome.value saved), saved]
  dsimp only
  rw [saves_append, saves_saveCapture, saves_nil]
  cases call.world.saveFails with
  | some message => rfl
  | none =>
    have nothing := (finishCapture_cases call variant metadata capture
      (savedCapture capture metadata filename received call.serial)).2
    dsimp only
    rw [nothing]
    rfl

/-- Asking for a chunk writes one acknowledgement and changes nothing. -/
theorem requestChunk_asks (call : CaptureCall) (capture : FirmwareCapture)
    (magicWidth : variant.magic.length = 5) {expectedChunk : Nat}
    (few : expectedChunk < 256 ^ 2) :
    ((requestChunk call variant expectedChunk).run capture).state = capture ∧
      upstreamWrites ((requestChunk call variant expectedChunk).run capture).effects =
        [(captureAck variant call.frame 0xA1
          (variant.magic ++ toBig 2 expectedChunk ++ [0x05])).raw] := by
  refine ⟨(requestChunk_keeps call variant capture expectedChunk).1, ?_⟩
  rw [requestChunk]
  rw [toBytes_eq_ok few, run_attempt_ok_bind]
  exact sendAck_writes call.world call.frame (by simp [magicWidth]) 0xA1

/-- A first chunk that the parser refuses is handled as a chunk. -/
theorem firstChunk_taken {metadata : FirmwareMetadata}
    (chunk : BringsFirstChunk image variant call) (size : metadata.size = image.size)
    (crc : metadata.crc = variant.crcField image.crc)
    (filename : metadata.filename = image.filename)
    (other : ¬ IsMetadata (image.data.take firmwareChunkSize)) :
    TakenAsChunk image variant call (capture.begun variant metadata) := by
  obtain ⟨prefixed, magicWidth, _⟩ := firmwareVariantForFrame_fields chunk.transfer
  have unannounced : ∃ message, parseFirmwareMetadata call.frame.payload (some variant) =
      .error (.firmwareProtocolError message) := by
    rw [chunk.payload]
    rcases parseFirmwareMetadata_isMetadata prefixed magicWidth with ⟨_, isMetadata, _⟩ | refused
    · exact absurd isMetadata other
    · exact refused.2
  have width : (variant.magic ++ [0x00, 0x00]).length = 7 := by simp [magicWidth]
  have isChunk : call.chunk = image.data.take firmwareChunkSize := by
    rw [CaptureCall.chunk, chunk.payload, List.drop_left' width]
  have carries : Carries call variant (capture.begun variant metadata).expectedChunk := {
    transfer := chunk.transfer
    valid := chunk.valid
    long := by rw [chunk.payload, List.length_append]; omega
    numbered := by
      rw [chunk.payload, List.append_assoc, slice_middle variant.magic [0x00, 0x00]
        (image.data.take firmwareChunkSize) magicWidth.symm (by rw [magicWidth]; rfl)]
      rfl }
  have ran := handleUpstreamFrame_accepts carries unannounced rfl rfl
  have state := (acceptChunk_cases call variant metadata (capture.begun variant metadata)).1
  have quiet : Shows Unannounced (acceptChunk call variant metadata) :=
    acceptChunk_unannounced metadata
  have sized := image.sized
  constructor
  · rw [ran]
    exact quiet _
  · rw [ran]
    rcases state with extended | ⟨started, cleared⟩
    · rw [extended]
      exact .inl rfl
    · rw [cleared]
      exact .inr rfl
  · rw [ran]
    unfold acceptChunk
    rw [run_modify_bind, run_get_bind, isChunk]
    have length : ((capture.begun variant metadata).extended
        (image.data.take firmwareChunkSize)).data.length = min firmwareChunkSize image.size := by
      rw [sized]
      exact List.length_take
    rw [length, size, if_neg (Nat.not_lt.mpr (Nat.min_le_right _ _))]
    by_cases more : min firmwareChunkSize image.size < image.size
    · -- the next chunk is asked for
      rw [if_pos more]
      obtain ⟨state, effects⟩ := run_bind_const (requestChunk call variant 1) true
        ((capture.begun variant metadata).extended (image.data.take firmwareChunkSize))
      obtain ⟨kept, asked⟩ := requestChunk_asks call
        ((capture.begun variant metadata).extended (image.data.take firmwareChunkSize)) magicWidth
        (show 1 < 256 ^ 2 by decide)
      exact .inl ⟨state.trans kept, (congrArg upstreamWrites effects).trans asked⟩
    · -- the first chunk is the whole image
      rw [if_neg more]
      have whole : image.data.take firmwareChunkSize = image.data :=
        List.take_of_length_le (by rw [← sized]; omega)
      have checked : variant.crcField (crc16Le image.data) = metadata.crc := by
        rw [crc, image.checked]
      have saved := completeImage_saves call
        ((capture.begun variant metadata).extended image.data) (filename.symm ▸ image.safe) checked
      rw [whole]
      exact .inr (congrArg (List.map SavedCapture.image) saved)

/-- A first chunk that the parser takes for metadata begins another transfer or is refused. -/
theorem firstChunk_misread (chunk : BringsFirstChunk image variant call)
    (isMetadata : IsMetadata (image.data.take firmwareChunkSize)) :
    ¬ TakenAsChunk image variant call capture := by
  obtain ⟨prefixed, magicWidth, _⟩ := firmwareVariantForFrame_fields chunk.transfer
  obtain ⟨metadata, _, parsed⟩ | ⟨other, _⟩ :=
    parseFirmwareMetadata_isMetadata prefixed magicWidth
  · rw [← chunk.payload] at parsed
    have ran : FirmwareCapture.handleUpstreamFrame call =
        handleMetadata call variant metadata := by
      rw [FirmwareCapture.handleUpstreamFrame]
      rw [chunk.transfer]
      dsimp only
      rw [if_neg (by simp [chunk.valid]), parsed]
    intro taken
    have quiet := taken.unannounced
    rw [ran] at quiet
    unfold handleMetadata emitCapture at quiet
    split at quiet
    · rw [run_perform_bind] at quiet
      exact quiet _ List.mem_cons_self _ rfl trivial
    · rw [run_modify_bind, run_perform_bind] at quiet
      exact quiet _ List.mem_cons_self _ rfl trivial
  · exact absurd isMetadata other

/-- **Chunk 0 is handled as a chunk exactly where the parser refuses it.**  It is taken for an
announcement when its data has the layout of metadata: two fields of two bytes, a filename with its
length before it and a zero after it, a serial with its length before it, and two bytes more. -/
theorem firstChunk_taken_iff (image : FirmwareImage) (serial : Text) (variant : FirmwareVariant)
    (capture : FirmwareCapture) (announce call : CaptureCall)
    (brings : BringsMetadata image serial variant announce)
    (chunk : BringsFirstChunk image variant call) :
    TakenAsChunk image variant call
        ((FirmwareCapture.handleUpstreamFrame announce).run capture).state ↔
      ¬ IsMetadata (image.data.take firmwareChunkSize) := by
  obtain ⟨metadata, size, crc, filename, begun⟩ := brings.begun
  rw [begun]
  constructor
  · intro taken isMetadata
    exact firstChunk_misread chunk isMetadata taken
  · exact firstChunk_taken chunk size crc filename

/-- A first chunk of more than 519 bytes is never taken for metadata. -/
theorem firstChunk_long_not_isMetadata (long : 519 < image.data.length) :
    ¬ IsMetadata (image.data.take firmwareChunkSize) := by
  intro isMetadata
  have bound := isMetadata.length_le.2
  rw [List.length_take, firmwareChunkSize] at bound
  omega

theorem shortName_safe : safeFirmwareFilename ['f'] = .ok ['f'] := by decide +kernel

/-- The data of an image. -/
abbrev ImageData := { data : Bytes // data ≠ [] ∧ data.length ≤ 0xFFFF }

/-- The image under the name `f`. -/
def imageOf (content : ImageData) : FirmwareImage where
  data := content.1
  filename := ['f']
  size := content.1.length
  crc := crc16Le content.1
  nonempty := content.2.1
  fits := content.2.2
  safe := shortName_safe
  sized := rfl
  checked := rfl

/-- The metadata of a one-chunk image `imageOf data` for the inverter `S`. -/
def metadataCall (data : Bytes) : CaptureCall :=
  transferCall7e (metadataPayload firmwareMagic data.length (crc16Le data) [0x66] [0x53])

def firstChunkCall (data : Bytes) : CaptureCall :=
  transferCall7e (firmwareMagic ++ [0x00, 0x00] ++ data)

theorem metadataCall_brings (content : ImageData) :
    BringsMetadata (imageOf content) ['S'] firmwareVariant7eA2 (metadataCall content.1) where
  transfer := rfl
  valid := rfl
  built := by
    have isName : encodeAscii ['f'] = .ok [0x66] := by decide
    have isSerial : encodeAscii ['S'] = .ok [0x53] := by decide
    exact buildFirmwareMetadata_eq rfl isName (by decide) isSerial (by decide) (by decide)
  addressed := rfl

theorem firstChunkCall_brings {content : ImageData} (short : content.1.length ≤ firmwareChunkSize) :
    BringsFirstChunk (imageOf content) firmwareVariant7eA2 (firstChunkCall content.1) where
  transfer := rfl
  valid := rfl
  payload := by
    have whole : (imageOf content).data.take firmwareChunkSize = content.1 :=
      List.take_of_length_le short
    rw [whole]
    rfl

def threeBytes : ImageData := ⟨[1, 2, 3], by decide⟩

theorem firstChunk_taken_iff_threeBytes :
    TakenAsChunk (imageOf threeBytes) firmwareVariant7eA2 (firstChunkCall [1, 2, 3])
      ((FirmwareCapture.handleUpstreamFrame (metadataCall [1, 2, 3])).run
        (.fresh [] false)).state := by
  refine (firstChunk_taken_iff _ ['S'] _ _ _ _ (metadataCall_brings threeBytes)
    (firstChunkCall_brings (by decide))).mpr fun isMetadata => ?_
  have long := isMetadata.length_le.1
  exact absurd long (by decide)

/-- The data of an image that reads like the metadata of another. -/
def metadataLikeData : ImageData :=
  ⟨metadataFields [0x00, 0x03] [0x00, 0x00] [0x66] [0x53] [0x01, 0x2c], by decide⟩

/-- Such an image is accepted, announced and then announced again by its own first chunk. -/
theorem firstChunk_taken_metadataLike :
    ¬ ∀ (image : FirmwareImage) (serial : Text) (variant : FirmwareVariant)
      (capture : FirmwareCapture) (announce call : CaptureCall),
      BringsMetadata image serial variant announce → BringsFirstChunk image variant call →
        TakenAsChunk image variant call
          ((FirmwareCapture.handleUpstreamFrame announce).run capture).state := by
  intro claim
  have short : metadataLikeData.1.length ≤ firmwareChunkSize := by decide
  have chunk := firstChunkCall_brings short
  have fit : FieldsFit [0x00, 0x03] [0x00, 0x00] [0x66] [0x53] [0x01, 0x2c] ['f'] ['S'] :=
    ⟨rfl, rfl, rfl, by decide, by decide, rfl, ⟨['f'], by decide +kernel⟩, rfl⟩
  exact firstChunk_misread chunk ⟨_, _, _, _, _, _, _, rfl, fit⟩
    (claim _ ['S'] _ (.fresh [] false) _ _ (metadataCall_brings metadataLikeData) chunk)

end FoxessGateway.Firmware
