import FoxessGateway.Firmware.CaptureSteps
import FoxessGateway.Library.Runs

/-! # Integrity of captured firmware

Every image handed to `_save_capture` is the image one accepted transfer announced. -/

namespace FoxessGateway.Firmware

open ByteOrder Protocol Effectful Runs

/-! ## Runs of the capture -/

/-- One call and the images it saved. -/
structure CaptureRecord where
  call : CaptureCall
  saved : List SavedCapture

/-- The capture as a machine: one action for each call of `handle_upstream_frame`.  A call
that raises leaves the state as far as it came. -/
def captureMachine : Machine FirmwareCapture CaptureCall CaptureRecord := fun capture call =>
  let outcome := (FirmwareCapture.handleUpstreamFrame call).run capture
  some (outcome.state, [⟨call, saves outcome.effects⟩])

/-! ## What a capture has received -/

def Announced (call : CaptureCall) : Prop := ∃ variant metadata, Announces call variant metadata

/-- Since the last metadata accepted among `calls`, that of a transfer in `variant`, the data
of chunks 0, 1, 2, ... has arrived, `count` chunks in all, and makes up `data`. -/
def Received (calls : List CaptureCall) (variant : FirmwareVariant) (metadata : FirmwareMetadata)
    (data : Bytes) (count : Nat) : Prop :=
  ∃ (earlier : List CaptureCall) (announce : CaptureCall) (later chunks : List CaptureCall),
    calls = earlier ++ announce :: later ∧ Announces announce variant metadata ∧
    (∀ call ∈ later, ¬ Announced call) ∧ chunks.Sublist later ∧ chunks.length = count ∧
    (∀ index call, chunks[index]? = some call → Carries call variant index) ∧
    data = (chunks.map CaptureCall.chunk).flatten

variable {calls : List CaptureCall} {variant : FirmwareVariant} {metadata : FirmwareMetadata}
  {data : Bytes} {count : Nat} {call : CaptureCall}

theorem Received.begin (calls : List CaptureCall) (announces : Announces call variant metadata) :
    Received (calls ++ [call]) variant metadata [] 0 :=
  ⟨calls, call, [], [], rfl, announces, by simp, by simp, rfl, by simp, rfl⟩

/-- A call that announces nothing leaves the transfer as it is. -/
theorem Received.skip (received : Received calls variant metadata data count)
    (unannounced : ¬ Announced call) : Received (calls ++ [call]) variant metadata data count := by
  obtain ⟨earlier, announce, later, chunks, rfl, announces, quiet, inside, rest⟩ := received
  refine ⟨earlier, announce, later ++ [call], chunks, by simp, announces, ?_, ?_, rest⟩
  · intro other member
    rcases List.mem_append.mp member with before | now
    · exact quiet other before
    · rwa [List.mem_singleton.mp now]
  · exact inside.trans (List.sublist_append_left _ _)

/-- The chunk that comes next extends the transfer. -/
theorem Received.extend (received : Received calls variant metadata data count)
    (unannounced : ¬ Announced call) (carries : Carries call variant count) :
    Received (calls ++ [call]) variant metadata (data ++ call.chunk) (count + 1) := by
  obtain ⟨earlier, announce, later, chunks, rfl, announces, quiet, inside, rfl, numbered, rfl⟩ :=
    received
  refine ⟨earlier, announce, later ++ [call], chunks ++ [call], by simp, announces, ?_, ?_,
    by simp, ?_, by simp⟩
  · intro other member
    rcases List.mem_append.mp member with before | now
    · exact quiet other before
    · rwa [List.mem_singleton.mp now]
  · exact inside.append (List.Sublist.refl _)
  · intro index other found
    rcases Nat.lt_or_ge index chunks.length with inner | last
    · rw [List.getElem?_append_left inner] at found
      exact numbered index other found
    · -- the new chunk has the number that was expected
      rw [List.getElem?_append_right last, List.getElem?_singleton] at found
      split at found
      · obtain rfl : call = other := by simpa using found
        obtain rfl : index = chunks.length := by omega
        exact carries
      · cases found

/-! ## The invariant -/

/-- A transfer in progress has received what the calls so far brought. -/
def CaptureInvariant (capture : FirmwareCapture) (calls : List CaptureCall) : Prop :=
  ∀ metadata variant, capture.metadata = some metadata → capture.variant = some variant →
    Received calls variant metadata capture.data capture.expectedChunk

/-- The image is that of a transfer the calls brought, complete and with the announced CRC. -/
def Transferred (calls : List CaptureCall) (image : Bytes) : Prop :=
  ∃ variant metadata count, Received calls variant metadata image count ∧
    image.length = metadata.size ∧ variant.crcField (crc16Le image) = metadata.crc

theorem captureStep_invariant (call : CaptureCall) {capture : FirmwareCapture}
    (invariant : CaptureInvariant capture calls) :
    CaptureInvariant ((FirmwareCapture.handleUpstreamFrame call).run capture).state
        (calls ++ [call]) ∧
      ∀ saved ∈ saves ((FirmwareCapture.handleUpstreamFrame call).run capture).effects,
        Transferred (calls ++ [call]) saved.image := by
  obtain ⟨state, nothing, quiet⟩ | ⟨variant, metadata, announces, state, nothing⟩ |
      ⟨variant, metadata, known, inUse, carries, quiet, state, images⟩ :=
    handleUpstreamFrame_cases call capture
  · rw [state, nothing]
    refine ⟨fun metadata variant known inUse => ?_, by simp⟩
    exact (invariant metadata variant known inUse).skip fun ⟨_, _, announces⟩ => quiet _ _ announces
  · rw [state, nothing]
    refine ⟨fun announced current known inUse => ?_, by simp⟩
    obtain rfl : metadata = announced := Option.some.inj known
    obtain rfl : variant = current := Option.some.inj inUse
    exact Received.begin calls announces
  · have received : Received (calls ++ [call]) variant metadata (capture.data ++ call.chunk)
        (capture.expectedChunk + 1) :=
      (invariant metadata variant known inUse).extend
        (fun ⟨_, _, announces⟩ => quiet _ _ announces) carries
    refine ⟨?_, fun saved member => ?_⟩
    · rcases state with extended | ⟨started, cleared⟩
      · rw [extended]
        intro announced current knownAfter inUseAfter
        obtain rfl : metadata = announced := Option.some.inj (known.symm.trans knownAfter)
        obtain rfl : variant = current := Option.some.inj (inUse.symm.trans inUseAfter)
        exact received
      · -- a finished transfer leaves no metadata behind
        rw [cleared]
        intro announced current knownAfter
        cases knownAfter
    · obtain ⟨image, size, crc⟩ := images saved member
      refine ⟨variant, metadata, capture.expectedChunk + 1, ?_, size, crc⟩
      rw [image]
      exact received

/-- The reason for every image saved: the calls up to and with its own brought it. -/
def SavesTransferred (before : List CaptureRecord) (record : CaptureRecord) : Prop :=
  ∀ saved ∈ record.saved,
    Transferred (before.map CaptureRecord.call ++ [record.call]) saved.image

/-- The invariant along a run: the state's, and a reason for every image saved so far. -/
def CaptureHistory (capture : FirmwareCapture) (history : List CaptureRecord) : Prop :=
  CaptureInvariant capture (history.map CaptureRecord.call) ∧ Justified SavesTransferred history

theorem captureHistory_step {capture next : FirmwareCapture} {history shown : List CaptureRecord}
    (holds : CaptureHistory capture history)
    (stepped : captureMachine capture call = some (next, shown)) :
    CaptureHistory next (history ++ shown) := by
  obtain ⟨invariant, justified⟩ := holds
  cases stepped
  obtain ⟨after, images⟩ := captureStep_invariant call invariant
  exact ⟨by simpa using after, justified_concat.mpr ⟨justified, images⟩⟩

theorem captureRun_calls {capture final : FirmwareCapture} {calls : List CaptureCall}
    {trace : List CaptureRecord} (ran : run captureMachine capture calls = some (final, trace)) :
    trace.map CaptureRecord.call = calls := by
  induction calls generalizing capture trace with
  | nil => cases ran; rfl
  | cons call calls inductionHypothesis =>
    obtain ⟨next, shown, later, stepped, continued, rfl⟩ := run_cons_eq_some.mp ran
    cases stepped
    rw [List.map_append, inductionHypothesis continued]
    rfl

/-- **Integrity of captured firmware.**  Whatever frames arrive, under whatever serials, and
whatever fails: each image saved is the announced one, received chunk by chunk since the
last accepted metadata. -/
theorem captureRun_savesTransferred (directory : Text) (simulateProgress : Bool)
    (calls : List CaptureCall) (final : FirmwareCapture) (trace : List CaptureRecord)
    (ran : run captureMachine (.fresh directory simulateProgress) calls = some (final, trace)) :
    trace.map CaptureRecord.call = calls ∧ Justified SavesTransferred trace := by
  have initially : CaptureHistory (.fresh directory simulateProgress) [] := by
    refine ⟨?_, justified_nil⟩
    intro metadata variant known
    cases known
  have holds : CaptureHistory final ([] ++ trace) := run_invariant captureHistory_step initially ran
  exact ⟨captureRun_calls ran, holds.2⟩

/-- A call with a frame of a transfer in the 7e dialect, in a session of serial `S`. -/
def transferCall7e (payload : Bytes) : CaptureCall :=
  let body := [0x21, 0x00, 0x00, 0x01, 0xA2] ++ toBig 2 payload.length ++ payload
  { frame := {
      start := marker7e, device := [0x21, 0x00, 0x00, 0x01], func := 0xA2, payload := payload,
      crc := crc16Le body, endMarker := endE7, raw := marker7e ++ body ++ crc16Le body ++ endE7,
      validCrc := true }
    serial := ['S'], clientDeviceTail := [], lastClientFunc := 0
    world := { drainFails := none, saveFails := none, progressDone := false } }

/-- The metadata of an image of three bytes, and its only chunk. -/
def threeByteTransfer : List CaptureCall :=
  [transferCall7e (firmwareMagic ++ [0x00, 0x00, 0x00, 0x03] ++ crc16Le [1, 2, 3] ++
      [0x01, 0x66, 0x00, 0x01, 0x53, 0x01, 0x2c]),
    transferCall7e (firmwareMagic ++ [0x00, 0x00, 1, 2, 3])]

theorem captureRun_savesTransferred_threeBytes :
    ∃ final trace,
      run captureMachine (.fresh [] false) threeByteTransfer = some (final, trace) ∧
      (trace.map fun record => record.saved.map SavedCapture.image) = [[], [[1, 2, 3]]] ∧
      Justified SavesTransferred trace := by
  have saved : ((run captureMachine (.fresh [] false) threeByteTransfer).map fun reached =>
      reached.2.map fun record => record.saved.map SavedCapture.image) =
        some [[], [[1, 2, 3]]] := by decide +kernel
  obtain ⟨⟨final, trace⟩, ran, images⟩ := Option.map_eq_some_iff.mp saved
  exact ⟨final, trace, ran, images, (captureRun_savesTransferred [] false _ final trace ran).2⟩

end FoxessGateway.Firmware
