import FoxessGateway.Firmware.CaptureSteps
import FoxessGateway.Firmware.MetadataCodec
import FoxessGateway.Firmware.StopAndWait

/-! # The uploader and the capture speak one protocol

`exchange` hands what the uploader writes to the capture and what the capture answers back
to the uploader, each as the bytes on the wire. -/

namespace FoxessGateway.Firmware

open ByteOrder Protocol Effectful Action Runs

/-! ## The exchange -/

structure ExchangeState where
  upload : UploadState
  shown : List UploadEvent
  capture : FirmwareCapture
  effects : List CaptureEffect
  acks : List Frame

/-- One request and its acknowledgement: the bytes last written are extracted and given to the
capture, and the bytes it writes are extracted and delivered to the uploader.  `call` says what
the session passes along with the frame. -/
def exchangeRound (transfer : Transfer) (call : CaptureCall) (state : ExchangeState) :
    Option ExchangeState :=
  match (writes state.shown).getLast? with
  | none => none
  | some written =>
    match extractFrames written.raw with
    | ([frame], []) =>
      let outcome :=
        (FirmwareCapture.handleUpstreamFrame { call with frame := frame }).run state.capture
      match outcome.value, upstreamWrites outcome.effects with
      | .ok true, [answer] =>
        match extractFrames answer with
        | ([ack], []) =>
          match run (uploadMachine transfer) state.upload [.drained, .deliver ack, .receive] with
          | some (upload, shown) => some {
              upload := upload
              shown := state.shown ++ shown
              capture := outcome.state
              effects := state.effects ++ outcome.effects
              acks := state.acks ++ [ack] }
          | none => none
        | _ => none
      | _, _ => none
    | _ => none

/-- One round for each call. -/
def exchange (transfer : Transfer) : List CaptureCall → ExchangeState → Option ExchangeState
  | [], state => some state
  | call :: calls, state =>
    match exchangeRound transfer call state with
    | none => none
    | some next => exchange transfer calls next

/-- An upload that has just begun, and a capture that has seen nothing. -/
def startExchange (started : UploadState × List UploadEvent) (capture : FirmwareCapture) :
    ExchangeState where
  upload := started.1
  shown := started.2
  capture := capture
  effects := []
  acks := []

/-! ## Which variant the capture sees -/

/-- The variant `firmwareVariantForFrame` gives the frames of an upload.  A dynamic transfer
that happens to draw the function byte and the id of `foxess-7f-func-a2` is taken for one. -/
def recognised (variant : FirmwareVariant) : FirmwareVariant :=
  if variant.family = .family7f ∧ variant.func = firmwareVariant7fA2.func ∧
      variant.magic = firmwareVariant7fA2.magic then firmwareVariant7fA2
  else variant

/-- It differs in nothing but the name. -/
theorem recognised_eq {variant : FirmwareVariant} (supported : Supported variant) :
    recognised variant = { variant with name := (recognised variant).name } := by
  rw [recognised]
  split
  · rename_i same
    obtain ⟨family, func, magic⟩ := same
    cases supported with
    | variant7eA2 => cases family
    | variant7fA2 => rfl
    | dynamic drawn idHigh idLow =>
      have drawnFunc : drawn = firmwareVariant7fA2.func := func
      have drawnId : [idHigh, idLow] ++ transferSignature = firmwareVariant7fA2.magic := magic
      rw [drawnFunc, drawnId]
      rfl
  · cases variant
    rfl

theorem firmwareVariantForFrame_of_supported {variant : FirmwareVariant}
    (supported : Supported variant) {frame : Frame} (family : frame.family = variant.family)
    (func : frame.func = variant.func) (magic : variant.magic <+: frame.payload)
    (first : frame.device.take 1 = [0x21] ∨ frame.device.take 1 = [0x22]) :
    firmwareVariantForFrame frame = some (recognised variant) := by
  rw [firmwareVariantForFrame]
  cases supported with
  | variant7eA2 => rw [if_pos ⟨family, func, magic⟩]; rfl
  | variant7fA2 =>
    rw [if_neg (by rintro ⟨other, _⟩; rw [family] at other; cases other),
      if_pos ⟨family, func, magic⟩]
    rfl
  | dynamic drawn idHigh idLow =>
    rw [if_neg (by rintro ⟨other, _⟩; rw [family] at other; cases other)]
    have opening : frame.payload.take 5 = [idHigh, idLow] ++ transferSignature :=
      (List.prefix_iff_eq_take.mp magic).symm
    have long : frame.payload.length ≥ 5 := magic.length_le
    have signature : slice frame.payload 2 5 = transferSignature := by
      rw [slice, opening]
      rfl
    by_cases same : drawn = firmwareVariant7fA2.func ∧
        [idHigh, idLow] ++ transferSignature = firmwareVariant7fA2.magic
    · rw [if_pos ⟨family, func.trans same.1, same.2 ▸ magic⟩, recognised, if_pos ⟨rfl, same⟩]
    · have notA2 : ¬ (frame.family = firmwareVariant7fA2.family ∧
          frame.func = firmwareVariant7fA2.func ∧ firmwareVariant7fA2.magic <+: frame.payload) := by
        rintro ⟨_, isA2, isMagic⟩
        refine same ⟨func.symm.trans isA2, ?_⟩
        rw [← opening]
        exact (List.prefix_iff_eq_take.mp isMagic).symm
      rw [if_neg notA2, if_pos ⟨family, first, long, signature⟩, opening, func, recognised,
        if_neg (fun both => same both.2)]
      rfl

/-! ## The capture's answers -/

section Capture

variable {call : CaptureCall} {variant : FirmwareVariant} {metadata : FirmwareMetadata}
  {capture : FirmwareCapture}

/-- The acknowledgement the capture sends for a frame. -/
def captureAck (variant : FirmwareVariant) (request : Frame) (first : UInt8) (payload : Bytes) :
    Frame :=
  builtFrame variant.start (first :: request.device.drop 1) request.func payload variant.endMarker

/-- What a call does when nothing fails: it withholds the frame, sends one acknowledgement and
saves `saved`. -/
structure Acknowledges (call : CaptureCall) (capture next : FirmwareCapture) (ack : Frame)
    (saved : List SavedCapture) : Prop where
  state : ((FirmwareCapture.handleUpstreamFrame call).run capture).state = next
  withheld : ((FirmwareCapture.handleUpstreamFrame call).run capture).value = .ok true
  written :
    upstreamWrites ((FirmwareCapture.handleUpstreamFrame call).run capture).effects = [ack.raw]
  saved : saves ((FirmwareCapture.handleUpstreamFrame call).run capture).effects = saved

theorem sendAck_run {world : CaptureWorld} (drains : world.drainFails = none) (request : Frame)
    {payload : Bytes} (fits : payload.length < 256 ^ 2) (first : UInt8) :
    (sendAck world request payload first variant).run capture =
      ⟨capture, [.writeUpstream (captureAck variant request first payload).raw,
        .emit (.firmwareCaptureAck (first :: request.device.drop 1) payload)], .ok ()⟩ := by
  unfold sendAck drainUpstream emitCapture
  dsimp only
  rw [makeFrame_eq _ _ _ _ fits, run_attempt_ok_bind, run_perform_bind, drains]
  rfl

theorem requestChunk_run (drains : call.world.drainFails = none) (width : variant.magic.length = 5)
    {expectedChunk : Nat} (few : expectedChunk < 256 ^ 2) :
    (requestChunk call variant expectedChunk).run capture =
      ⟨capture, [.writeUpstream (captureAck variant call.frame 0xA1
        (variant.magic ++ toBig 2 expectedChunk ++ [0x05])).raw,
        .emit (.firmwareCaptureAck (0xA1 :: call.frame.device.drop 1)
          (variant.magic ++ toBig 2 expectedChunk ++ [0x05]))], .ok ()⟩ := by
  rw [requestChunk]
  rw [toBytes_eq_ok few, run_attempt_ok_bind]
  exact sendAck_run drains call.frame (by simp [width]) 0xA1

theorem handleUpstreamFrame_metadata (announces : Announces call variant metadata)
    (drains : call.world.drainFails = none) (width : variant.magic.length = 5) :
    Acknowledges call capture (capture.begun variant metadata)
      (captureAck variant call.frame 0xA1 (variant.magic ++ [0x00, 0x00, 0x05])) [] := by
  have small : (variant.magic ++ [0x00, 0x00, 0x05]).length < 256 ^ 2 := by simp [width]
  have accepted : ¬ (call.serial = [] ∨ metadata.serial ≠ call.serial) := by
    rintro (empty | other)
    · exact announces.known empty
    · exact other announces.addressed
  have ran : (FirmwareCapture.handleUpstreamFrame call).run capture =
      (handleMetadata call variant metadata).run capture := by
    rw [FirmwareCapture.handleUpstreamFrame]
    rw [announces.transfer]
    dsimp only
    rw [if_neg (by simp [announces.valid]), announces.parsed]
  unfold handleMetadata emitCapture at ran
  rw [if_neg accepted, run_modify_bind, run_perform_bind,
    run_bind_ok (congrArg Outcome.value (sendAck_run drains call.frame small 0xA1)),
    sendAck_run drains call.frame small 0xA1] at ran
  constructor <;> rw [ran] <;> rfl

/-- A chunk that was expected, up to `acceptChunk`. -/
theorem handleUpstreamFrame_accepts (carries : Carries call variant capture.expectedChunk)
    (unannounced : ∃ message, parseFirmwareMetadata call.frame.payload (some variant) =
      .error (.firmwareProtocolError message))
    (known : capture.metadata = some metadata) (inUse : capture.variant = some variant) :
    (FirmwareCapture.handleUpstreamFrame call).run capture =
      (acceptChunk call variant metadata).run capture := by
  obtain ⟨message, unannounced⟩ := unannounced
  have long := carries.long
  unfold FirmwareCapture.handleUpstreamFrame handleChunk
  rw [carries.transfer]
  dsimp only
  rw [if_neg (by simp [carries.valid]), unannounced]
  dsimp only
  rw [run_get_bind, known, inUse]
  dsimp only
  rw [if_neg (by omega), if_neg (not_not.mpr rfl), if_neg (not_not.mpr carries.numbered)]

/-- A chunk in the middle is kept and the next one asked for. -/
theorem handleUpstreamFrame_middleChunk (carries : Carries call variant capture.expectedChunk)
    (unannounced : ∃ message, parseFirmwareMetadata call.frame.payload (some variant) =
      .error (.firmwareProtocolError message))
    (known : capture.metadata = some metadata) (inUse : capture.variant = some variant)
    (drains : call.world.drainFails = none) (width : variant.magic.length = 5)
    (few : capture.expectedChunk + 1 < 256 ^ 2)
    (incomplete : (capture.data ++ call.chunk).length < metadata.size) :
    Acknowledges call capture (capture.extended call.chunk)
      (captureAck variant call.frame 0xA1
        (variant.magic ++ toBig 2 (capture.expectedChunk + 1) ++ [0x05])) [] := by
  have notAll : (capture.extended call.chunk).data.length < metadata.size := incomplete
  have notLarge : ¬ (capture.extended call.chunk).data.length > metadata.size :=
    Nat.not_lt.mpr (Nat.le_of_lt incomplete)
  have asked : (requestChunk call variant (capture.extended call.chunk).expectedChunk).run
      (capture.extended call.chunk) = _ := requestChunk_run drains width few
  have ran := handleUpstreamFrame_accepts carries unannounced known inUse
  rw [acceptChunk] at ran
  rw [run_modify_bind, run_get_bind, if_neg notLarge, if_pos notAll,
    run_bind_ok (congrArg Outcome.value asked), asked] at ran
  constructor <;> rw [ran] <;> rfl

/-- The last chunk completes the image, which is saved. -/
theorem handleUpstreamFrame_lastChunk (carries : Carries call variant capture.expectedChunk)
    (unannounced : ∃ message, parseFirmwareMetadata call.frame.payload (some variant) =
      .error (.firmwareProtocolError message))
    (known : capture.metadata = some metadata) (inUse : capture.variant = some variant)
    (drains : call.world.drainFails = none) (writable : call.world.saveFails = none)
    (width : (variant.magic ++ variant.finalAckSuffix).length < 256 ^ 2)
    (complete : (capture.data ++ call.chunk).length = metadata.size)
    (checked : variant.crcField (crc16Le (capture.data ++ call.chunk)) = metadata.crc)
    (safe : safeFirmwareFilename metadata.filename = .ok metadata.filename) :
    ∃ next, Acknowledges call capture next
      (captureAck variant call.frame 0xA2 (variant.magic ++ variant.finalAckSuffix))
      [savedCapture (capture.extended call.chunk) metadata metadata.filename
        (capture.data ++ call.chunk) call.serial] := by
  have notAll : ¬ (capture.extended call.chunk).data.length < metadata.size :=
    Nat.not_lt.mpr (Nat.le_of_eq complete.symm)
  have notLarge : ¬ (capture.extended call.chunk).data.length > metadata.size :=
    Nat.not_lt.mpr (Nat.le_of_eq complete)
  have agrees : ¬ variant.crcField (crc16Le (capture.extended call.chunk).data) ≠ metadata.crc :=
    not_not.mpr checked
  have saved := saveCapture_run metadata (capture.extended call.chunk) call.world
    (capture.extended call.chunk).data call.serial metadata.filename safe
  rw [writable] at saved
  have acked : (sendAck call.world call.frame (variant.magic ++ variant.finalAckSuffix) 0xA2
      variant).run (capture.extended call.chunk) = _ := sendAck_run drains call.frame width 0xA2
  have ran := handleUpstreamFrame_accepts carries unannounced known inUse
  rw [acceptChunk] at ran
  rw [run_modify_bind, run_get_bind, if_neg notLarge, if_neg notAll] at ran
  unfold completeImage at ran
  dsimp only at ran
  rw [if_neg agrees, run_bind_ok (congrArg Outcome.value saved), saved] at ran
  dsimp only at ran
  unfold finishCapture emitCapture at ran
  rw [run_bind_ok (congrArg Outcome.value acked), acked] at ran
  dsimp only at ran
  rw [run_get_bind, run_perform_bind] at ran
  split at ran
  · exact ⟨_, by constructor <;> rw [ran] <;> rfl⟩
  · exact ⟨_, by constructor <;> rw [ran] <;> rfl⟩

end Capture

/-! ## The uploader's requests -/

section Upload

variable {transfer : Transfer} {counter index : Nat} {request : UploadRequest}

theorem Supported.marked {variant : FirmwareVariant} (supported : Supported variant) :
    (variant.start = marker7e ∧ variant.endMarker = endE7) ∨
      (variant.start = marker7f ∧ variant.endMarker = endF7) := by
  cases supported with
  | variant7eA2 => exact .inl ⟨rfl, rfl⟩
  | variant7fA2 => exact .inr ⟨rfl, rfl⟩
  | dynamic func idHigh idLow => exact .inr ⟨rfl, rfl⟩

theorem Supported.family_of_start {variant : FirmwareVariant} (supported : Supported variant)
    {frame : Frame} (start : frame.start = variant.start) : frame.family = variant.family := by
  rw [Frame.family, start]
  cases supported <;> rfl

theorem Supported.prefixed {variant : FirmwareVariant} (supported : Supported variant) :
    variant.filenameHasLength = true := by
  cases supported <;> rfl

theorem Supported.finalAckSuffix_length {variant : FirmwareVariant}
    (supported : Supported variant) : variant.finalAckSuffix.length ≤ 1 := by
  cases supported with
  | variant7eA2 => exact Nat.zero_le 1
  | variant7fA2 => exact Nat.le_refl 1
  | dynamic func idHigh idLow => exact Nat.le_refl 1

/-- What all requests of a transfer have in common. -/
structure Proper (variant : FirmwareVariant) (request : UploadRequest) : Prop where
  first : request.firstDeviceByte = 0x21 ∨ request.firstDeviceByte = 0x22
  opening : variant.magic <+: request.payload
  short : request.payload.length ≤ 4083
  answer : variant.magic <+: request.expected
  notProgress : request.expected.length ≠ 7
  answerShort : request.expected.length ≤ 8

/-- The frame of request `index`. -/
def requestFrame (transfer : Transfer) (counter index : Nat) (request : UploadRequest) : Frame :=
  builtFrame transfer.variant.start (request.firstDeviceByte :: requestTail counter index)
    transfer.variant.func request.payload transfer.variant.endMarker

/-- Request `index` is written and its acknowledgement has not come. -/
structure Waiting (transfer : Transfer) (counter index : Nat) (request : UploadRequest)
    (state : UploadState) (shown : List UploadEvent) : Prop where
  phase : state.phase = .draining index request
  written : ∃ written, (writes shown).getLast? = some written ∧
    written.raw = (requestFrame transfer counter index request).raw
  active : state.uploader.active = true
  inUse : state.uploader.variant = some transfer.variant
  tail : state.uploader.expectedTail = some (requestTail counter index)
  future : state.uploader.ackFuture = some .pending
  counted : state.uploader.counter % 0x1000000 = (counter + (index + 1)) % 0x1000000

theorem requestTail_length : (requestTail counter index).length = 3 := toBig_length _ _

theorem writeRequest_waiting {uploader : FirmwareUploader} (shown : List UploadEvent)
    (asked : uploadRequest transfer index = some (.ok request))
    (proper : Proper transfer.variant request) (active : uploader.active = true)
    (inUse : uploader.variant = some transfer.variant)
    (counted : uploader.counter % 0x1000000 = (counter + index) % 0x1000000) :
    Waiting transfer counter index request (writeRequest transfer uploader index).1
      (shown ++ (writeRequest transfer uploader index).2) := by
  have short := proper.short
  have framed := makeFrame_eq transfer.variant.start
    (request.firstDeviceByte :: requestTail counter index) transfer.variant.func
    transfer.variant.endMarker (show request.payload.length < 256 ^ 2 by omega)
  have masked : (uploader.counter + 1) &&& 0xFFFFFF = (counter + index + 1) % 0x1000000 := by
    rw [show 0xFFFFFF = 2 ^ 24 - 1 from rfl, Nat.and_two_pow_sub_one_eq_mod]
    omega
  have small : (counter + index + 1) % 0x1000000 < 256 ^ 3 := Nat.mod_lt _ (by decide)
  have sent : uploader.send request = ({ uploader with
      counter := (counter + index + 1) % 0x1000000
      expectedTail := some (requestTail counter index)
      ackFuture := some .pending },
      .ok (request.firstDeviceByte :: requestTail counter index,
        (requestFrame transfer counter index request).raw)) := by
    rw [FirmwareUploader.send]
    dsimp only
    rw [masked, toBytes_eq_ok small, inUse]
    dsimp only
    rw [show toBig 3 ((counter + index + 1) % 0x1000000) = requestTail counter index from rfl,
      framed]
    rfl
  rw [writeRequest]
  rw [asked]
  dsimp only
  rw [sent]
  exact {
    phase := rfl
    written := ⟨⟨request.firstDeviceByte :: requestTail counter index, request.payload,
      (requestFrame transfer counter index request).raw⟩, by simp [writes], rfl⟩
    active := active
    inUse := inUse
    tail := rfl
    future := rfl
    counted := Nat.mod_mod _ _ }

theorem progressPercent_none {frame : Frame} (width : frame.payload.length ≠ 7) :
    progressPercent frame = none := by
  rw [progressPercent]
  split
  · split
    · rename_i shape
      rw [shape] at width
      exact absurd rfl width
    · rfl
  · rfl

/-- The acknowledgement expected lets the upload write its next request. -/
theorem Waiting.acknowledge {state : UploadState} {shown : List UploadEvent} {ack : Frame}
    (waiting : Waiting transfer counter index request state shown)
    (proper : Proper transfer.variant request) (family : ack.family = transfer.variant.family)
    (func : ack.func = transfer.variant.func) (tail : ack.device.drop 1 = requestTail counter index)
    (payload : ack.payload = request.expected) :
    ∃ uploader : FirmwareUploader, uploader.active = true ∧
      uploader.variant = some transfer.variant ∧
      uploader.counter % 0x1000000 = (counter + (index + 1)) % 0x1000000 ∧
      run (uploadMachine transfer) state [.drained, .deliver ack, .receive] =
        some ((writeRequest transfer uploader (index + 1)).1,
          .delivered ack :: (acknowledged transfer index ++
            (writeRequest transfer uploader (index + 1)).2)) := by
  obtain ⟨uploader, phase⟩ := state
  obtain ⟨isPhase, _, active, inUse, isTail, pending, counted⟩ := waiting
  dsimp only at isPhase active inUse isTail pending counted
  subst isPhase
  -- it passes every check of `handleClientFrame` and settles the future
  have taken : uploader.handleClientFrame ack =
      (true, { uploader with ackFuture := some (.result request.expected) }) := by
    have opening : ¬ (uploader.active = false ∨ ¬ transfer.variant.magic <+: ack.payload) := by
      rw [active, payload, not_or, not_not]
      exact ⟨nofun, proper.answer⟩
    have notProgress : progressPercent ack = none :=
      progressPercent_none (by rw [payload]; exact proper.notProgress)
    rw [FirmwareUploader.handleClientFrame]
    rw [inUse]
    dsimp only
    rw [if_neg opening, notProgress]
    dsimp only
    rw [if_pos ⟨by rw [family]; exact List.mem_cons_self, func⟩, tail,
      if_neg (not_not.mpr isTail), pending, payload]
    rfl
  refine ⟨{ uploader with ackFuture := some (.result request.expected) }, active, inUse,
    counted, ?_⟩
  simp only [Runs.run, uploadMachine, taken, receiveAck, ne_eq, not_true_eq_false, if_false,
    List.nil_append, List.singleton_append, List.append_nil]

end Upload

/-! ## One round -/

section Round

variable {transfer : Transfer} {counter index : Nat} {request : UploadRequest} {call : CaptureCall}
  {state : ExchangeState}

/-- The acknowledgement of request `index`. -/
def ackFrame (transfer : Transfer) (counter index : Nat) (request : UploadRequest)
    (first : UInt8) : Frame :=
  captureAck transfer.variant (requestFrame transfer counter index request) first request.expected

theorem captureAck_recognised {variant : FirmwareVariant} (supported : Supported variant)
    (request : Frame) (first : UInt8) (payload : Bytes) :
    captureAck (recognised variant) request first payload =
      captureAck variant request first payload := by
  unfold captureAck
  rw [recognised_eq supported]

theorem requestFrame_extracted (supported : Supported transfer.variant)
    (proper : Proper transfer.variant request) :
    extractFrames (requestFrame transfer counter index request).raw =
      ([requestFrame transfer counter index request], []) := by
  apply Frame.WellFormed.extractFrames_raw
  exact builtFrame_wellFormed supported.marked (by simp [requestTail_length]) proper.short

theorem ackFrame_extracted (supported : Supported transfer.variant)
    (proper : Proper transfer.variant request) (first : UInt8) :
    extractFrames (ackFrame transfer counter index request first).raw =
      ([ackFrame transfer counter index request first], []) := by
  have short := proper.answerShort
  apply Frame.WellFormed.extractFrames_raw
  exact builtFrame_wellFormed supported.marked
    (by simp [requestFrame, builtFrame, requestTail_length])
    (by omega)

theorem ackFrame_answers (asked : uploadRequest transfer index = some (.ok request))
    (first : UInt8) :
    Answers transfer counter index (ackFrame transfer counter index request first) where
  tail := rfl
  func := rfl
  expected := ⟨request, asked, rfl⟩

/-- The capture acknowledges the request in flight, and the upload writes the next. -/
theorem exchangeRound_acknowledged (supported : Supported transfer.variant)
    (proper : Proper transfer.variant request)
    (waiting : Waiting transfer counter index request state.upload state.shown)
    {next : FirmwareCapture} {saved : List SavedCapture} {first : UInt8}
    (acknowledges : Acknowledges { call with frame := requestFrame transfer counter index request }
      state.capture next (ackFrame transfer counter index request first) saved) :
    ∃ (uploader : FirmwareUploader) (final : ExchangeState),
      uploader.active = true ∧ uploader.variant = some transfer.variant ∧
      uploader.counter % 0x1000000 = (counter + (index + 1)) % 0x1000000 ∧
      exchangeRound transfer call state = some final ∧
      final.upload = (writeRequest transfer uploader (index + 1)).1 ∧
      (∃ earlier, final.shown = earlier ++ (writeRequest transfer uploader (index + 1)).2) ∧
      final.capture = next ∧ saves final.effects = saves state.effects ++ saved ∧
      final.acks = state.acks ++ [ackFrame transfer counter index request first] := by
  have family : (ackFrame transfer counter index request first).family = transfer.variant.family :=
    supported.family_of_start rfl
  obtain ⟨uploader, active, inUse, counted, ran⟩ := waiting.acknowledge proper family rfl rfl rfl
  obtain ⟨written, last, raw⟩ := waiting.written
  obtain ⟨isNext, withheld, wrote, isSaved⟩ := acknowledges
  -- request to the capture, acknowledgement back, next request
  have round : exchangeRound transfer call state = some {
      upload := (writeRequest transfer uploader (index + 1)).1
      shown := state.shown ++ (.delivered (ackFrame transfer counter index request first) ::
        (acknowledged transfer index ++ (writeRequest transfer uploader (index + 1)).2))
      capture := next
      effects := state.effects ++ ((FirmwareCapture.handleUpstreamFrame
        { call with frame := requestFrame transfer counter index request }).run
          state.capture).effects
      acks := state.acks ++ [ackFrame transfer counter index request first] } := by
    rw [exchangeRound]
    rw [last]
    dsimp only
    rw [raw, requestFrame_extracted supported proper]
    dsimp only
    rw [withheld, wrote]
    dsimp only
    rw [ackFrame_extracted supported proper]
    dsimp only
    rw [ran, isNext]
  refine ⟨uploader, _, active, inUse, counted, round, rfl, ?_, rfl, ?_, rfl⟩
  · exact ⟨state.shown ++ .delivered (ackFrame transfer counter index request first) ::
      acknowledged transfer index, by simp⟩
  · dsimp only
    rw [saves_append, isSaved]

end Round

/-! ## The requests of a transfer -/

section Requests

variable {transfer : Transfer} {serialBytes : Bytes}

theorem FirmwareImage.chunk_length {image : FirmwareImage} {index : Nat} {chunk : Bytes}
    (found : image.chunks[index]? = some chunk) :
    chunk.length ≤ 1024 ∧ (index + 1 < image.chunks.length → chunk.length = 1024) := by
  have bound := (List.getElem?_eq_some_iff.mp found).1
  have total := image.chunks_length
  rw [FirmwareImage.chunks] at found bound
  rw [List.length_map, List.length_range] at bound
  rw [List.getElem?_map, List.getElem?_range bound, Option.map_some, Option.some_inj] at found
  rw [← found, slice, List.length_drop, List.length_take, firmwareChunkSize]
  constructor
  · omega
  · intro inner
    omega

/-- The chunk a transfer sends after `index` others. -/
theorem FirmwareImage.chunks_take_succ {image : FirmwareImage} {index : Nat} {chunk : Bytes}
    (found : image.chunks[index]? = some chunk) :
    (image.chunks.take index).flatten ++ chunk = (image.chunks.take (index + 1)).flatten := by
  rw [List.take_add_one, found, List.flatten_append]
  simp

theorem metadataRequest_eq (supported : Supported transfer.variant)
    (isSerial : encodeAscii transfer.serial = .ok serialBytes) (known : transfer.serial ≠ [])
    (short : transfer.serial.length ≤ 255) :
    ∃ name, encodeAscii transfer.image.filename = .ok name ∧ name.length ≤ 255 ∧
      metadataRequest transfer = .ok {
        firstDeviceByte := 0x21
        payload := metadataPayload transfer.variant.magic transfer.image.size
          (transfer.variant.crcField transfer.image.crc) name serialBytes
        expected := transfer.variant.magic ++ [0x00, 0x00, 0x05] } := by
  obtain ⟨name, isName, nameFits⟩ := encodeAscii_filename transfer.image.safe
  have width := encodeAscii_length isSerial
  have some : serialBytes ≠ [] := by
    rintro rfl
    exact known (List.eq_nil_of_length_eq_zero width.symm)
  refine ⟨name, isName, nameFits, ?_⟩
  rw [metadataRequest]
  rw [buildFirmwareMetadata_eq supported.prefixed isName nameFits isSerial some (by omega)]
  rfl

theorem metadataRequest_proper (supported : Supported transfer.variant) {crc name : Bytes}
    (crcWidth : crc.length = 2) (nameFits : name.length ≤ 255)
    (serialFits : serialBytes.length ≤ 255) :
    Proper transfer.variant {
      firstDeviceByte := 0x21
      payload := metadataPayload transfer.variant.magic transfer.image.size crc name serialBytes
      expected := transfer.variant.magic ++ [0x00, 0x00, 0x05] } := by
  have width := supported.magic_length
  have total := metadataPayload_length transfer.image.size name serialBytes width crcWidth
  exact {
    first := .inl rfl
    opening := List.prefix_append _ _
    short := by dsimp only; omega
    answer := List.prefix_append _ _
    notProgress := by simp [width]
    answerShort := by simp [width] }

/-- The request that carries a chunk. -/
def chunkUploadRequest (transfer : Transfer) (index : Nat) (chunk : Bytes) : UploadRequest where
  firstDeviceByte := 0x22
  payload := transfer.variant.magic ++ toBig 2 index ++ chunk
  expected :=
    if index = transfer.image.chunks.length - 1 then
      transfer.variant.magic ++ transfer.variant.finalAckSuffix
    else transfer.variant.magic ++ toBig 2 (index + 1) ++ [0x05]

theorem chunkUploadRequest_proper (supported : Supported transfer.variant) (index : Nat)
    {chunk : Bytes} (fits : chunk.length ≤ 1024) :
    Proper transfer.variant (chunkUploadRequest transfer index chunk) := by
  have width := supported.magic_length
  have suffix := supported.finalAckSuffix_length
  refine {
    first := .inr rfl
    opening := by rw [chunkUploadRequest, List.append_assoc]; exact List.prefix_append _ _
    short := by simp only [chunkUploadRequest, List.length_append, toBig_length]; omega
    answer := ?_
    notProgress := ?_
    answerShort := ?_ } <;> unfold chunkUploadRequest <;> dsimp only <;> split
  · exact List.prefix_append _ _
  · rw [List.append_assoc]
    exact List.prefix_append _ _
  · rw [List.length_append]
    omega
  · simp [width]
  · rw [List.length_append]
    omega
  · simp [width]

theorem uploadRequest_chunk {index : Nat} {chunk : Bytes}
    (found : transfer.image.chunks[index]? = some chunk) :
    uploadRequest transfer (index + 1) = some (.ok (chunkUploadRequest transfer index chunk)) := by
  have bound := (List.getElem?_eq_some_iff.mp found).1
  rw [uploadRequest, found, Option.map_some, chunkRequest_eq transfer chunk bound]
  rfl

/-- Every request of the transfer can be built, and is a proper one. -/
theorem uploadRequest_proper (supported : Supported transfer.variant)
    (isSerial : encodeAscii transfer.serial = .ok serialBytes) (known : transfer.serial ≠ [])
    (short : transfer.serial.length ≤ 255) {index : Nat}
    (within : index ≤ transfer.image.chunks.length) :
    ∃ request, uploadRequest transfer index = some (.ok request) ∧
      Proper transfer.variant request := by
  cases index with
  | zero =>
    obtain ⟨name, _, nameFits, built⟩ := metadataRequest_eq supported isSerial known short
    have width := encodeAscii_length isSerial
    have crcWidth : (transfer.variant.crcField transfer.image.crc).length = 2 := by
      rw [transfer.image.checked]
      exact transfer.variant.crcField_length _
    exact ⟨_, congrArg some built, metadataRequest_proper supported crcWidth nameFits (by omega)⟩
  | succ chunk =>
    have found := List.getElem?_eq_getElem (show chunk < transfer.image.chunks.length by omega)
    exact ⟨_, uploadRequest_chunk found, chunkUploadRequest_proper supported chunk
      (FirmwareImage.chunk_length found).1⟩

end Requests

/-! ## The whole exchange -/

section Exchange

variable {transfer : Transfer} {counter index : Nat} {serialBytes : Bytes} {call : CaptureCall}

/-- What the capture reads in the metadata of the transfer. -/
def announcedMetadata (transfer : Transfer) : FirmwareMetadata where
  size := transfer.image.size
  crc := transfer.variant.crcField transfer.image.crc
  filename := transfer.image.filename
  serial := transfer.serial
  timeoutSeconds := firmwareTimeoutSeconds
  variant := recognised transfer.variant

/-- What the capture holds when request `index` is in flight: the metadata once that is
answered, and every chunk answered. -/
def Held (transfer : Transfer) : Nat → FirmwareCapture → Prop
  | 0, _ => True
  | chunk + 1, capture =>
    capture.metadata = some (announcedMetadata transfer) ∧
    capture.variant = some (recognised transfer.variant) ∧
    capture.data = (transfer.image.chunks.take chunk).flatten ∧
    capture.expectedChunk = chunk

/-- The invariant of an exchange: request `index` is in flight, and every request before it has
been answered as the uploader expects. -/
structure Exchanging (transfer : Transfer) (counter index : Nat) (state : ExchangeState) :
    Prop where
  waiting : ∃ request, uploadRequest transfer index = some (.ok request) ∧
    Proper transfer.variant request ∧
    Waiting transfer counter index request state.upload state.shown
  answered : state.acks.length = index
  answers : ∀ place ack, state.acks[place]? = some ack → Answers transfer counter place ack
  received : Held transfer index state.capture
  unsaved : saves state.effects = []

/-- Everything was answered as expected, and the image saved. -/
structure Exchanged (transfer : Transfer) (counter : Nat) (state : ExchangeState) : Prop where
  accepted : state.upload.phase = .flashing []
  answered : state.acks.length = transfer.image.chunks.length + 1
  answers : ∀ place ack, state.acks[place]? = some ack → Answers transfer counter place ack
  saved : ∃ saved, saves state.effects = [saved] ∧ saved.image = transfer.image.data ∧
    saved.protocolCrcField = transfer.variant.crcField (crc16Le transfer.image.data)

/-- What a session passes along with a frame for the inverter `serial` while nothing fails. -/
structure Willing (serial : Text) (call : CaptureCall) : Prop where
  addressed : call.serial = serial
  drains : call.world.drainFails = none
  writable : call.world.saveFails = none

theorem answers_append {acks : List Frame} {ack : Frame}
    (earlier : ∀ place ack, acks[place]? = some ack → Answers transfer counter place ack)
    (last : Answers transfer counter acks.length ack) :
    ∀ place other, (acks ++ [ack])[place]? = some other → Answers transfer counter place other := by
  intro place other found
  rcases Nat.lt_or_ge place acks.length with inner | beyond
  · rw [List.getElem?_append_left inner] at found
    exact earlier place other found
  · rw [List.getElem?_append_right beyond, List.getElem?_singleton] at found
    split at found
    · obtain rfl : place = acks.length := by omega
      cases found
      exact last
    · cases found

/-- The frame of a proper request is one of a transfer in the variant recognised. -/
theorem requestFrame_variant (supported : Supported transfer.variant) {request : UploadRequest}
    (proper : Proper transfer.variant request) :
    firmwareVariantForFrame (requestFrame transfer counter index request) =
      some (recognised transfer.variant) := by
  apply firmwareVariantForFrame_of_supported supported (supported.family_of_start rfl) rfl
    proper.opening
  rcases proper.first with first | first
  · simp [requestFrame, builtFrame, first]
  · simp [requestFrame, builtFrame, first]

/-- The metadata frame announces the transfer. -/
theorem metadataFrame_announces (supported : Supported transfer.variant) {name : Bytes}
    (isName : encodeAscii transfer.image.filename = .ok name) (nameFits : name.length ≤ 255)
    (isSerial : encodeAscii transfer.serial = .ok serialBytes) (known : transfer.serial ≠ [])
    (short : transfer.serial.length ≤ 255) (willing : Willing transfer.serial call)
    {request : UploadRequest} (proper : Proper transfer.variant request)
    (isFrame : call.frame = requestFrame transfer counter 0 request)
    (payload : request.payload = metadataPayload transfer.variant.magic transfer.image.size
      (transfer.variant.crcField transfer.image.crc) name serialBytes) :
    Announces call (recognised transfer.variant) (announcedMetadata transfer) := by
  have width := encodeAscii_length isSerial
  have magic : (recognised transfer.variant).magic = transfer.variant.magic := by
    rw [recognised_eq supported]
  have prefixed : (recognised transfer.variant).filenameHasLength = true := by
    rw [recognised_eq supported]
    exact supported.prefixed
  have sizeFits : transfer.image.size < 256 ^ 2 := by
    have fits := transfer.image.fits
    rw [transfer.image.sized]
    omega
  have crcWidth : (transfer.variant.crcField transfer.image.crc).length = 2 := by
    rw [transfer.image.checked]
    exact transfer.variant.crcField_length _
  exact {
    transfer := isFrame ▸ requestFrame_variant supported proper
    valid := by rw [isFrame]; rfl
    parsed := by
      rw [isFrame]
      change parseFirmwareMetadata request.payload _ = _
      rw [payload, ← magic]
      exact parseFirmwareMetadata_metadataPayload prefixed (magic ▸ supported.magic_length) crcWidth
        sizeFits nameFits (decodeAscii_of_encodeAscii isName) transfer.image.safe (by omega)
        (decodeAscii_of_encodeAscii isSerial)
    known := willing.addressed ▸ known
    addressed := willing.addressed.symm }

/-- A chunk frame carries its chunk, and is not taken for metadata. -/
theorem chunkFrame_carries (supported : Supported transfer.variant) {chunk : Bytes}
    (found : transfer.image.chunks[index]? = some chunk)
    (multiChunk : 1 < transfer.image.chunks.length)
    (isFrame : call.frame =
      requestFrame transfer counter (index + 1) (chunkUploadRequest transfer index chunk)) :
    Carries call (recognised transfer.variant) index ∧ call.chunk = chunk ∧
      ∃ message, parseFirmwareMetadata call.frame.payload (some (recognised transfer.variant)) =
        .error (.firmwareProtocolError message) := by
  have bound := (List.getElem?_eq_some_iff.mp found).1
  have few := transfer.image.chunks_le
  have magicWidth := supported.magic_length
  obtain ⟨fits, full⟩ := FirmwareImage.chunk_length found
  have proper := chunkUploadRequest_proper supported index fits
  have front : (transfer.variant.magic ++ toBig 2 index).length = 7 := by
    rw [List.length_append, magicWidth, toBig_length]
  have payload : call.frame.payload = transfer.variant.magic ++ toBig 2 index ++ chunk := by
    rw [isFrame]
    rfl
  refine ⟨⟨isFrame ▸ requestFrame_variant supported proper, by rw [isFrame]; rfl, ?_, ?_⟩, ?_, ?_⟩
  · rw [payload, List.length_append]
    omega
  · rw [payload, List.append_assoc, slice_middle _ (toBig 2 index) _ magicWidth.symm
      (by rw [magicWidth, toBig_length]), fromBig_toBig (by omega)]
  · rw [CaptureCall.chunk, payload]
    exact List.drop_left' front
  · have magic : (recognised transfer.variant).magic = transfer.variant.magic := by
      rw [recognised_eq supported]
    cases index with
    | zero =>
      -- only the length of the first chunk tells it from metadata
      have prefixed : (recognised transfer.variant).filenameHasLength = true := by
        rw [recognised_eq supported]
        exact supported.prefixed
      apply parseFirmwareMetadata_long prefixed
      rw [payload, List.length_append, full multiChunk]
      omega
    | succ later =>
      -- a later chunk has a number other than 0 where metadata has zeros
      refine ⟨_, parseFirmwareMetadata_unopened ?_⟩
      rw [payload, magic, List.append_assoc, List.prefix_append_right_inj]
      intro opening
      have same := List.prefix_iff_eq_take.mp opening
      have number : (toBig 2 (later + 1) ++ chunk).take 2 = toBig 2 (later + 1) := by
        rw [List.take_left' (toBig_length _ _)]
      have zero : fromBig [0x00, 0x00] = fromBig (toBig 2 (later + 1)) :=
        congrArg fromBig (same.trans number)
      rw [fromBig_toBig (by omega), show fromBig [0x00, 0x00] = 0 from rfl] at zero
      omega

/-- The capture answers every request but the last as the uploader expects. -/
theorem capture_answers (supported : Supported transfer.variant)
    (isSerial : encodeAscii transfer.serial = .ok serialBytes) (known : transfer.serial ≠ [])
    (short : transfer.serial.length ≤ 255) (multiChunk : 1 < transfer.image.chunks.length)
    (willing : Willing transfer.serial call) {capture : FirmwareCapture} {request : UploadRequest}
    (received : Held transfer index capture)
    (asked : uploadRequest transfer index = some (.ok request))
    (proper : Proper transfer.variant request) (inner : index < transfer.image.chunks.length)
    (isFrame : call.frame = requestFrame transfer counter index request) :
    ∃ next, Acknowledges call capture next (ackFrame transfer counter index request 0xA1) [] ∧
      Held transfer (index + 1) next := by
  have magic : (recognised transfer.variant).magic = transfer.variant.magic := by
    rw [recognised_eq supported]
  have magicWidth : (recognised transfer.variant).magic.length = 5 := magic ▸ supported.magic_length
  cases index with
  | zero =>
    obtain ⟨name, isName, nameFits, built⟩ := metadataRequest_eq supported isSerial known short
    have same := asked.symm.trans (congrArg some built)
    cases same
    have announces := metadataFrame_announces supported isName nameFits isSerial known short willing
      proper isFrame rfl
    have acknowledges : Acknowledges call capture _ _ _ :=
      handleUpstreamFrame_metadata announces willing.drains magicWidth
    rw [captureAck_recognised supported, magic, isFrame] at acknowledges
    exact ⟨_, acknowledges, rfl, rfl, rfl, rfl⟩
  | succ chunk =>
    obtain ⟨metadata, inUse, data, expected⟩ := received
    have bound : chunk < transfer.image.chunks.length := by omega
    have found := List.getElem?_eq_getElem bound
    have same := asked.symm.trans (uploadRequest_chunk found)
    cases same
    obtain ⟨carries, isChunk, unannounced⟩ := chunkFrame_carries supported found multiChunk isFrame
    have total : capture.data ++ transfer.image.chunks[chunk] =
        transfer.image.data.take ((chunk + 1) * firmwareChunkSize) := by
      rw [data, FirmwareImage.chunks_take_succ found, transfer.image.chunks_take bound]
    -- at least one more chunk is to come
    have incomplete : (capture.data ++ transfer.image.chunks[chunk]).length <
        (announcedMetadata transfer).size := by
      have count := transfer.image.chunks_length
      have sized := transfer.image.sized
      change _ < transfer.image.size
      rw [total, List.length_take, firmwareChunkSize]
      omega
    have few := transfer.image.chunks_le
    have acknowledges := handleUpstreamFrame_middleChunk (expected.symm ▸ carries) unannounced
      metadata inUse willing.drains magicWidth (by omega) (isChunk.symm ▸ incomplete)
    rw [captureAck_recognised supported, magic, isChunk, expected, isFrame] at acknowledges
    have isAck : (chunkUploadRequest transfer chunk transfer.image.chunks[chunk]).expected =
        transfer.variant.magic ++ toBig 2 (chunk + 1) ++ [0x05] := if_neg (by omega)
    rw [← isAck] at acknowledges
    refine ⟨_, acknowledges, metadata, inUse, ?_, ?_⟩
    · rw [← FirmwareImage.chunks_take_succ found, ← data]
      rfl
    · change capture.expectedChunk + 1 = chunk + 1
      rw [expected]

/-- The last chunk completes the image. -/
theorem capture_completes (supported : Supported transfer.variant)
    (multiChunk : 1 < transfer.image.chunks.length) (willing : Willing transfer.serial call)
    {capture : FirmwareCapture} {request : UploadRequest}
    (received : Held transfer transfer.image.chunks.length capture)
    (asked : uploadRequest transfer transfer.image.chunks.length = some (.ok request))
    (isFrame : call.frame =
      requestFrame transfer counter transfer.image.chunks.length request) :
    ∃ next saved, Acknowledges call capture next
        (ackFrame transfer counter transfer.image.chunks.length request 0xA2) [saved] ∧
      saved.image = transfer.image.data ∧
      saved.protocolCrcField = transfer.variant.crcField (crc16Le transfer.image.data) := by
  obtain ⟨last, isLast⟩ : ∃ last, transfer.image.chunks.length = last + 1 :=
    ⟨transfer.image.chunks.length - 1, by omega⟩
  rw [isLast] at received asked isFrame ⊢
  have magic : (recognised transfer.variant).magic = transfer.variant.magic := by
    rw [recognised_eq supported]
  have suffix : (recognised transfer.variant).finalAckSuffix = transfer.variant.finalAckSuffix := by
    rw [recognised_eq supported]
  have field : ∀ crc,
      (recognised transfer.variant).crcField crc = transfer.variant.crcField crc := by
    intro crc
    rw [recognised_eq supported]
    rfl
  have suffixWidth := supported.finalAckSuffix_length
  have magicWidth := supported.magic_length
  obtain ⟨metadata, inUse, data, expected⟩ := received
  have bound : last < transfer.image.chunks.length := by omega
  have found := List.getElem?_eq_getElem bound
  have same := asked.symm.trans (uploadRequest_chunk found)
  cases same
  obtain ⟨carries, isChunk, unannounced⟩ := chunkFrame_carries supported found multiChunk isFrame
  have whole : capture.data ++ transfer.image.chunks[last] = transfer.image.data := by
    rw [data, FirmwareImage.chunks_take_succ found, ← isLast, List.take_length,
      transfer.image.chunks_flatten]
  have small : ((recognised transfer.variant).magic ++
      (recognised transfer.variant).finalAckSuffix).length < 256 ^ 2 := by
    rw [magic, suffix, List.length_append]
    omega
  have complete : (capture.data ++ transfer.image.chunks[last]).length =
      (announcedMetadata transfer).size := by
    rw [whole]
    exact transfer.image.sized.symm
  have checked : (recognised transfer.variant).crcField
      (crc16Le (capture.data ++ transfer.image.chunks[last])) =
        (announcedMetadata transfer).crc := by
    rw [field, whole, announcedMetadata, transfer.image.checked]
  obtain ⟨next, acknowledges⟩ := handleUpstreamFrame_lastChunk (expected.symm ▸ carries) unannounced
    metadata inUse willing.drains willing.writable small (isChunk.symm ▸ complete)
    (isChunk.symm ▸ checked) transfer.image.safe
  rw [captureAck_recognised supported, magic, suffix, isChunk, whole, isFrame] at acknowledges
  have isAck : (chunkUploadRequest transfer last transfer.image.chunks[last]).expected =
      transfer.variant.magic ++ transfer.variant.finalAckSuffix := if_pos (by omega)
  rw [← isAck] at acknowledges
  refine ⟨next, _, acknowledges, rfl, ?_⟩
  change transfer.variant.crcField transfer.image.crc = _
  rw [transfer.image.checked]

/-- One round, while there are chunks left. -/
theorem exchangeRound_exchanging (supported : Supported transfer.variant)
    (isSerial : encodeAscii transfer.serial = .ok serialBytes) (known : transfer.serial ≠ [])
    (short : transfer.serial.length ≤ 255) (multiChunk : 1 < transfer.image.chunks.length)
    (willing : Willing transfer.serial call) {state : ExchangeState}
    (exchanging : Exchanging transfer counter index state)
    (inner : index < transfer.image.chunks.length) :
    ∃ next, exchangeRound transfer call state = some next ∧
      Exchanging transfer counter (index + 1) next := by
  obtain ⟨⟨request, asked, proper, waiting⟩, answered, answers, received, unsaved⟩ := exchanging
  have stillWilling : Willing transfer.serial
      { call with frame := requestFrame transfer counter index request } :=
    ⟨willing.addressed, willing.drains, willing.writable⟩
  obtain ⟨capture, acknowledges, nowReceived⟩ := capture_answers supported isSerial known short
    multiChunk stillWilling received asked proper inner rfl
  obtain ⟨uploader, next, active, inUse, counted, round, upload, ⟨earlier, shown⟩, isCapture, saved,
    acks⟩ := exchangeRound_acknowledged supported proper waiting acknowledges
  obtain ⟨following, askedNext, properNext⟩ := uploadRequest_proper supported isSerial known short
    (show index + 1 ≤ transfer.image.chunks.length from inner)
  refine ⟨next, round, {
    waiting := ⟨following, askedNext, properNext, ?_⟩
    answered := by rw [acks, List.length_append, answered]; rfl
    answers := ?_
    received := by rw [isCapture]; exact nowReceived
    unsaved := by rw [saved, unsaved]; rfl }⟩
  · rw [upload, shown]
    exact writeRequest_waiting earlier askedNext properNext active inUse counted
  · rw [acks]
    exact answers_append answers (answered.symm ▸ ackFrame_answers asked 0xA1)

/-- The round of the last chunk. -/
theorem exchangeRound_exchanged (supported : Supported transfer.variant)
    (multiChunk : 1 < transfer.image.chunks.length) (willing : Willing transfer.serial call)
    {state : ExchangeState}
    (exchanging : Exchanging transfer counter transfer.image.chunks.length state) :
    ∃ final, exchangeRound transfer call state = some final ∧ Exchanged transfer counter final := by
  obtain ⟨⟨request, asked, proper, waiting⟩, answered, answers, received, unsaved⟩ := exchanging
  have stillWilling : Willing transfer.serial
      { call with frame := requestFrame transfer counter transfer.image.chunks.length request } :=
    ⟨willing.addressed, willing.drains, willing.writable⟩
  obtain ⟨capture, record, acknowledges, image, field⟩ := capture_completes supported multiChunk
    stillWilling received asked rfl
  obtain ⟨uploader, final, _, _, _, round, upload, _, _, saved, acks⟩ :=
    exchangeRound_acknowledged supported proper waiting acknowledges
  have finished : writeRequest transfer uploader (transfer.image.chunks.length + 1) =
      (⟨uploader, .flashing []⟩, [.imageAccepted transfer.image.chunks.length]) := by
    rw [writeRequest, uploadRequest, List.getElem?_eq_none (Nat.le_refl _)]
    rfl
  refine ⟨final, round, {
    accepted := by rw [upload, finished]
    answered := by rw [acks, List.length_append, answered]; rfl
    answers := ?_
    saved := ⟨record, by rw [saved, unsaved]; rfl, image, field⟩ }⟩
  rw [acks]
  exact answers_append answers (answered.symm ▸ ackFrame_answers asked 0xA2)

/-- The rounds that are left, by induction on the calls. -/
theorem exchange_exchanged (supported : Supported transfer.variant)
    (isSerial : encodeAscii transfer.serial = .ok serialBytes) (known : transfer.serial ≠ [])
    (short : transfer.serial.length ≤ 255) (multiChunk : 1 < transfer.image.chunks.length)
    {calls : List CaptureCall} (willing : ∀ call ∈ calls, Willing transfer.serial call)
    {state : ExchangeState} (exchanging : Exchanging transfer counter index state)
    (rounds : index + calls.length = transfer.image.chunks.length + 1)
    (within : index ≤ transfer.image.chunks.length) :
    ∃ final, exchange transfer calls state = some final ∧ Exchanged transfer counter final := by
  induction calls generalizing index state with
  | nil =>
    -- too few calls
    rw [List.length_nil] at rounds
    omega
  | cons call calls inductionHypothesis =>
    rw [List.length_cons] at rounds
    have isWilling := willing call List.mem_cons_self
    rcases Nat.lt_or_ge index transfer.image.chunks.length with inner | last
    · obtain ⟨next, round, exchangingNext⟩ :=
        exchangeRound_exchanging supported isSerial known short
        multiChunk isWilling exchanging inner
      rw [exchange, round]
      exact inductionHypothesis (fun other member => willing other (List.mem_cons_of_mem _ member))
        exchangingNext (by omega) inner
    · obtain rfl : index = transfer.image.chunks.length := by omega
      obtain rfl : calls = [] := List.eq_nil_of_length_eq_zero (by omega)
      obtain ⟨final, round, exchanged⟩ :=
        exchangeRound_exchanged supported multiChunk isWilling exchanging
      rw [exchange, round]
      exact ⟨final, rfl, exchanged⟩

end Exchange

/-- **The uploader and the capture agree.**  For an image of more than one chunk the exchange
completes: every acknowledgement is the one the uploader expects at that step, and the capture
saves the data of the image and accepts its CRC field. -/
theorem exchange_agrees (uploader : FirmwareUploader) (image : FirmwareImage)
    (protocol : String) (randomFunc idHigh idLow : UInt8) (variant : FirmwareVariant)
    (directory : Text) (simulateProgress : Bool) (calls : List CaptureCall)
    (inactive : uploader.active = false)
    (selected : selectVariant protocol randomFunc idHigh idLow = .ok variant)
    (multiChunk : 1025 ≤ image.data.length)
    (ascii : ∀ char ∈ uploader.serial, char.toNat < 128)
    (known : 1 ≤ uploader.serial.length) (short : uploader.serial.length ≤ 255)
    (willing : ∀ call ∈ calls, Willing uploader.serial call)
    (rounds : calls.length = image.chunks.length + 1) :
    ∃ final, exchange ⟨image, uploader.serial, variant⟩ calls
        (startExchange (uploader.upload image protocol randomFunc idHigh idLow)
          (.fresh directory simulateProgress)) = some final ∧
      Exchanged ⟨image, uploader.serial, variant⟩ uploader.counter final := by
  have supported : Supported (Transfer.mk image uploader.serial variant).variant :=
    selectVariant_supported selected
  obtain ⟨serialBytes, isSerial⟩ :
      ∃ serialBytes, encodeAscii uploader.serial = .ok serialBytes := by
    rw [encodeAscii, if_pos (by simpa using ascii)]
    exact ⟨_, rfl⟩
  have nonempty : uploader.serial ≠ [] := List.ne_nil_of_length_pos known
  have many : 1 < image.chunks.length := by
    rw [image.chunks_length]
    omega
  obtain ⟨request, asked, proper⟩ := uploadRequest_proper supported isSerial nonempty short
    (Nat.zero_le _)
  -- `upload` has written its first request
  have started : Exchanging ⟨image, uploader.serial, variant⟩ uploader.counter 0
      (startExchange (uploader.upload image protocol randomFunc idHigh idLow)
        (.fresh directory simulateProgress)) := {
    waiting := by
      refine ⟨request, asked, proper, ?_⟩
      rw [startExchange, FirmwareUploader.upload]
      rw [inactive, selected]
      exact writeRequest_waiting [] asked proper rfl rfl rfl
    answered := rfl
    answers := by
      intro place ack known
      cases known
    received := trivial
    unsaved := rfl }
  exact exchange_exchanged supported isSerial nonempty short many willing started
    (by rw [rounds]; exact Nat.zero_add _) (Nat.zero_le _)

/-- An image of two chunks, the second of one byte. -/
def twoChunkImage : FirmwareImage where
  data := List.replicate 1025 0x2a
  filename := ['t']
  size := 1025
  crc := crc16Le (List.replicate 1025 0x2a)
  nonempty := nofun
  fits := by rw [List.length_replicate]; decide
  safe := by decide +kernel
  sized := by rw [List.length_replicate]
  checked := rfl

/-- A call for the inverter `S`, while nothing fails. -/
def quietCall : CaptureCall where
  frame := answerFrame [] []
  serial := ['S']
  clientDeviceTail := []
  lastClientFunc := 0
  world := ⟨none, none, false⟩

theorem exchange_agrees_twoChunks :
    ∃ final, exchange ⟨twoChunkImage, ['S'], firmwareVariant7fA2⟩ [quietCall, quietCall, quietCall]
        (startExchange ((FirmwareUploader.fresh ['S'] 0).upload twoChunkImage "foxess-7f-func-a2"
          0 0 0) (.fresh [] true)) = some final ∧
      Exchanged ⟨twoChunkImage, ['S'], firmwareVariant7fA2⟩ 0 final := by
  have sized : twoChunkImage.data.length = 1025 := List.length_replicate
  have two : twoChunkImage.chunks.length = 2 := by
    rw [FirmwareImage.chunks_length, sized]
  have multiChunk : 1025 ≤ twoChunkImage.data.length := by rw [sized]
  have rounds : [quietCall, quietCall, quietCall].length = twoChunkImage.chunks.length + 1 := by
    rw [two]
    rfl
  have willing : ∀ call ∈ [quietCall, quietCall, quietCall], Willing ['S'] call := by
    intro call member
    obtain rfl : call = quietCall := by simpa using member
    exact ⟨rfl, rfl, rfl⟩
  have ascii : ∀ char ∈ ['S'], char.toNat < 128 := by
    intro char member
    obtain rfl : char = 'S' := by simpa using member
    decide
  exact exchange_agrees (.fresh ['S'] 0) twoChunkImage "foxess-7f-func-a2" 0 0 0 firmwareVariant7fA2
    [] true [quietCall, quietCall, quietCall] rfl rfl multiChunk ascii (by decide) (by decide)
    willing rounds

end FoxessGateway.Firmware
