import FoxessGateway.Firmware.CaptureSteps
import FoxessGateway.Server.Reachable
import FoxessGateway.Server.Relay

/-! # Frames whose CRC is wrong

`handle_frame` and the capture look at the CRC and leave the session alone where it is wrong.
The hook of the firmware uploader and `handle_upstream_frame` do not look at it. -/

namespace FoxessGateway.Server

open ByteOrder Protocol Firmware Effectful Action Splicing

/-! ## The state of the protocols -/

structure ProtocolState where
  serial : Option Text
  model : Text
  firmware : Text
  meshRole : MeshRole
  meshPeerSerial : Text
  bootstrap : BootstrapResponder
  pendingReads : Dict Bytes (Nat × Nat)
  pendingWrites : Dict Bytes (Nat × Nat)
  pendingActivePowerLimitReadbacks : Dict Bytes (Nat × RequestSource)
  /-- The futures of the injected writes, and which of them waits under which key. -/
  awaitedWrites : Option (Dict Bytes Nat × List (Future Bool))
  cloudMarkerSeen : Option (Option UInt8)
  firmwareCapture : Option FirmwareCapture
  /-- The uploader's awaited acknowledgement and its progress queue. -/
  firmwareUpload : Option (Option (Future Bytes) × List UInt8)

def LocalControl.awaited (control : LocalControl) : Dict Bytes Nat × List (Future Bool) :=
  (control.pendingWrites, control.futures)

def FirmwareUploader.awaited (uploader : FirmwareUploader) : Option (Future Bytes) × List UInt8 :=
  (uploader.ackFuture, uploader.progressQueue)

def Session.protocolState (session : Session) : ProtocolState where
  serial := session.serial
  model := session.model
  firmware := session.firmware
  meshRole := session.meshRole
  meshPeerSerial := session.meshPeerSerial
  bootstrap := session.bootstrap
  pendingReads := session.pendingReads
  pendingWrites := session.pendingWrites
  pendingActivePowerLimitReadbacks := session.pendingActivePowerLimitReadbacks
  awaitedWrites := session.localControl.map LocalControl.awaited
  cloudMarkerSeen := session.localControl.map LocalControl.cloudMarkerSeen
  firmwareCapture := session.firmwareCapture
  firmwareUpload := session.firmwareUploader.map FirmwareUploader.awaited

/-! ## Frames from the inverter -/

/-- The uploader takes the frame as progress, or as the acknowledgement it waits for. -/
def UploaderTakes (uploader : FirmwareUploader) (frame : Frame) : Prop :=
  uploader.active = true ∧ ∃ variant, uploader.variant = some variant ∧
    variant.magic <+: frame.payload ∧
    ((progressPercent frame).isSome = true ∨
      (frame.family ∈ [variant.family, Family.family7f] ∧ frame.func = variant.func ∧
        uploader.expectedTail = some (frame.device.drop 1) ∧ uploader.ackFuture = some .pending))

theorem settle_eq_self_iff {α : Type} (value : α) (future : Option (Future α)) :
    future.map (Future.settle value) = future ↔ future ≠ some .pending := by
  cases future with
  | none => simp
  | some state => cases state <;> simp [Future.settle]

/-- The hook changes what the upload waits for exactly where it takes the frame. -/
theorem handleClientFrame_awaited_iff (uploader : FirmwareUploader) (frame : Frame) :
    FirmwareUploader.awaited (uploader.handleClientFrame frame).2 =
      FirmwareUploader.awaited uploader ↔ ¬ UploaderTakes uploader frame := by
  rw [UploaderTakes, FirmwareUploader.handleClientFrame]
  cases known : uploader.variant with
  | none => simp
  | some variant =>
    dsimp only
    by_cases idle : uploader.active = false ∨ ¬ variant.magic <+: frame.payload
    · rw [if_pos idle]
      rcases idle with inactive | other
      · simp [inactive]
      · simp [other]
    rw [if_neg idle]
    rw [not_or, not_not, Bool.not_eq_false] at idle
    obtain ⟨active, prefixed⟩ := idle
    cases progress : progressPercent frame with
    | some percent => simp [FirmwareUploader.awaited, active, prefixed]
    | none =>
      dsimp only
      by_cases answers :
        frame.family ∈ [variant.family, Family.family7f] ∧ frame.func = variant.func
      · rw [if_pos answers]
        by_cases expected : uploader.expectedTail = some (frame.device.drop 1)
        · rw [if_neg (not_not.mpr expected)]
          have settled := settle_eq_self_iff frame.payload uploader.ackFuture
          simp only [FirmwareUploader.awaited, Prod.mk.injEq, and_true, settled, active, prefixed,
            answers.1, answers.2, expected, true_and, Option.some.injEq, exists_eq_left',
            Option.isSome_none, Bool.false_eq_true, false_or, ne_eq]
        · rw [if_pos expected]
          simp only [expected, false_and, and_false, or_false, true_iff]
          rintro ⟨_, _, _, _, progressed⟩
          cases progressed
      · rw [if_neg answers]
        simp only [true_iff]
        rintro ⟨_, same, found, _, progressed | ⟨family, func, _⟩⟩
        · cases progressed
        · cases found
          exact answers ⟨family, func⟩

theorem hooked_protocolState_iff (session : Session) (frame : Frame) :
    (session.hooked frame).protocolState = session.protocolState ↔
      ¬ ∃ uploader, session.firmwareUploader = some uploader ∧ UploaderTakes uploader frame := by
  have view : (session.hooked frame).protocolState = session.protocolState ↔
      (session.firmwareUploader.map fun uploader => (uploader.handleClientFrame frame).2).map
        FirmwareUploader.awaited = session.firmwareUploader.map FirmwareUploader.awaited := by
    simp [Session.protocolState, Session.hooked]
  rw [view]
  cases session.firmwareUploader with
  | none => simp
  | some uploader =>
    simp only [Option.map_some, Option.some.injEq, handleClientFrame_awaited_iff, exists_eq_left']

theorem localFrame_corrupt (config : SessionConfig) (world : SessionWorld) {frame : Frame}
    (corrupt : frame.validCrc = false) (session : Session) :
    ((localFrame config world frame).run session).state = session.hooked frame := by
  rw [localFrame]
  have hook := handleFirmwareUploadFrame_run frame session
  rw [run_bind_ok (by rw [hook]), hook]
  exact congrArg Outcome.state (handleFrame_corrupt config world true corrupt _)

theorem relayClientFrame_corrupt (config : SessionConfig) (world : SessionWorld) {frame : Frame}
    (corrupt : frame.validCrc = false) (forward : Bytes) (session : Session) :
    ((relayClientFrame config world frame forward).run session).state = session.hooked frame := by
  rw [relayClientFrame]
  have hook := handleFirmwareUploadFrame_run frame session
  have handled := handleFrame_corrupt config world false corrupt (session.hooked frame)
  rw [run_bind_ok (by rw [hook]), hook]
  dsimp only
  rw [run_bind_ok (by rw [handled]), handled, run_get_bind]
  obtain ⟨events, filtered⟩ := filterOwned_run frame ((session.hooked frame).isOurFrame frame)
    (session.firmwareUploader.any fun uploader => (uploader.handleClientFrame frame).1) forward
    (session.hooked frame)
  rw [filtered]

/-! ## Frames from the cloud -/

/-- Address and count of a read command. -/
def readEntry (command : ModbusCommand) : Option (Nat × Nat) :=
  if command.function ∈ [modbusFnReadHolding, modbusFnReadInput] then
    (commandCount command).toOption.map fun count => (command.address, count)
  else none

/-- Address and value of a command that writes one register. -/
def writeEntry (command : ModbusCommand) : Option (Nat × Nat) :=
  if command.function = modbusFnWriteSingle then
    (commandValue command).toOption.map fun value => (command.address, value)
  else none

/-- The table with an entry stored under the key, if there is one. -/
def storeEntry (key : Bytes) (entry : Option (Nat × Nat)) (table : Dict Bytes (Nat × Nat)) :
    Dict Bytes (Nat × Nat) :=
  match entry with
  | some entry => table.set key entry
  | none => table

theorem storeEntry_eq_self_iff (key : Bytes) (entry : Option (Nat × Nat))
    (table : Dict Bytes (Nat × Nat)) :
    storeEntry key entry table = table ↔
      ∀ stored, entry = some stored → table.get key = some stored := by
  cases entry with
  | none => simp [storeEntry]
  | some entry => simp [storeEntry, Dict.set_eq_self_iff]

/-- Local control is on and the frame is not one of its own. -/
def Session.isForeign (session : Session) (frame : Frame) : Bool :=
  session.localControl.isSome && !session.isOurFrame frame

theorem noteCloudRead_run {frame : Frame} {command : ModbusCommand}
    (parsed : parseModbusCommand frame = some command) (session : Session) :
    (noteCloudRead frame command).run session =
      ⟨{ session with
          pendingReads :=
            storeEntry (normalizeDevice frame.device) (readEntry command) session.pendingReads },
        [], .ok ()⟩ := by
  rw [noteCloudRead, doWhen, readEntry]
  by_cases reads : command.function ∈ [modbusFnReadHolding, modbusFnReadInput]
  · obtain ⟨count, isCount⟩ := (modbusBody_keys (parseModbusCommand_some parsed)).1 reads
    have counted : commandCount command = .ok count := by rw [commandCount, isCount]
    rw [if_pos reads, if_pos reads, counted]
    rfl
  · rw [if_neg reads, if_neg reads]
    rfl

theorem noteCloudWrite_run {frame : Frame} {command : ModbusCommand}
    (parsed : parseModbusCommand frame = some command) (session : Session) :
    (noteCloudWrite frame command).run session =
      ⟨{ session with
          pendingWrites := storeEntry (normalizeDevice frame.device)
            (if session.isForeign frame then writeEntry command else none) session.pendingWrites },
        [], .ok ()⟩ := by
  unfold noteCloudWrite doWhen writeEntry
  rw [run_get_bind]
  by_cases foreign : session.isForeign frame = true
  · have parts : session.localControl.isSome = true ∧ session.isOurFrame frame = false := by
      simpa [Session.isForeign] using foreign
    by_cases writes : command.function = modbusFnWriteSingle
    · obtain ⟨value, isValue⟩ := (modbusBody_keys (parseModbusCommand_some parsed)).2 writes
      have valued : commandValue command = .ok value := by rw [commandValue, isValue]
      rw [if_pos ⟨writes, parts⟩, if_pos foreign, if_pos writes, valued]
      rfl
    · rw [if_neg fun both => writes both.1, if_pos foreign, if_neg writes]
      rfl
  · rw [if_neg foreign, if_neg]
    · rfl
    · rintro ⟨_, enabled, other⟩
      exact foreign (by simp [Session.isForeign, enabled, other])

/-- The session after the marker of a command is observed. -/
def Session.observed (session : Session) (frame : Frame) : Session :=
  { session with
    localControl := session.localControl.map fun control =>
      match frame.device[3]? with
      | some marker =>
        if control.isOurFrame frame then control else (control.observeSessionMarker marker).1
      | none => control }

theorem Session.observed_eq {session : Session} {frame : Frame}
    (unseen : session.localControl = none ∨ frame.device[3]? = none ∨
      session.isOurFrame frame = true) : session.observed frame = session := by
  rw [Session.observed]
  suffices same : (session.localControl.map fun control =>
      match frame.device[3]? with
      | some marker =>
        if control.isOurFrame frame then control else (control.observeSessionMarker marker).1
      | none => control) = session.localControl by rw [same]
  cases known : session.localControl with
  | none => rfl
  | some control =>
    obtain nothing | noMarker | ours := unseen
    · cases nothing.symm.trans known
    · rw [noMarker]
      rfl
    · have isOurs : control.isOurFrame frame = true := by
        simpa [Session.isOurFrame, known] using ours
      rw [Option.map_some, isOurs]
      cases frame.device[3]? <;> rfl

theorem observeCloudMarker_run (frame : Frame) (session : Session) : ∃ events : List SessionEvent,
    (observeCloudMarker frame).run session =
      ⟨session.observed frame, events.map SessionEffect.emit, .ok ()⟩ := by
  rw [observeCloudMarker]
  rw [run_get_bind]
  cases known : session.localControl with
  | none =>
    rw [Session.observed_eq (.inl known)]
    exact ⟨[], rfl⟩
  | some control =>
    cases marked : frame.device[3]? with
    | none =>
      rw [Session.observed_eq (.inr (.inl marked))]
      exact ⟨[], rfl⟩
    | some marker =>
      dsimp only
      rw [doWhen]
      by_cases other : session.isOurFrame frame = false
      · have foreign : control.isOurFrame frame = false := by
          simpa [Session.isOurFrame, known] using other
        have seen : session.observed frame =
            { session with localControl := some (control.observeSessionMarker marker).1 } := by
          simp [Session.observed, known, marked, foreign]
        rw [if_pos other, run_modify_bind, seen]
        cases (control.observeSessionMarker marker).2 with
        | none => exact ⟨[], rfl⟩
        | some reported => exact ⟨[_], rfl⟩
      · rw [if_neg other, Session.observed_eq (.inr (.inr (Bool.not_eq_false _ ▸ other)))]
        exact ⟨[], rfl⟩

/-- The session after a command of the cloud is noted. -/
def Session.noted (session : Session) (frame : Frame) (command : ModbusCommand) : Session :=
  { session.observed frame with
    pendingReads := storeEntry (normalizeDevice frame.device) (readEntry command)
      session.pendingReads
    pendingWrites := storeEntry (normalizeDevice frame.device)
      (if session.isForeign frame then writeEntry command else none) session.pendingWrites }

theorem handleUpstreamFrame_noted (world : SessionWorld) {frame : Frame} {command : ModbusCommand}
    (parsed : parseModbusCommand frame = some command) (session : Session) :
    ∃ events : List SessionEvent,
      (Session.handleUpstreamFrame world frame).run session =
        ⟨session.noted frame command, events.map SessionEffect.emit, .ok ()⟩ := by
  have isCommand : isModbusCommand frame = true := by
    by_contra other
    rw [parseModbusCommand, if_neg other] at parsed
    cases parsed
  rw [Session.handleUpstreamFrame, noteCloudCommand, doWhen]
  rw [run_get_bind, emit, run_perform_bind, if_pos isCommand, parsed]
  dsimp only [commandKey, id]
  rw [run_attempt_ok_bind]
  have read := noteCloudRead_run parsed session
  rw [run_bind_ok (by rw [read]), read]
  dsimp only
  -- the entry of a read is stored first, then that of a foreign write
  let afterRead : Session := { session with
    pendingReads := storeEntry (normalizeDevice frame.device) (readEntry command)
      session.pendingReads }
  have write := noteCloudWrite_run parsed afterRead
  rw [run_bind_ok (by rw [write]), write]
  dsimp only
  let afterWrite : Session := { afterRead with
    pendingWrites := storeEntry (normalizeDevice frame.device)
      (if afterRead.isForeign frame then writeEntry command else none) afterRead.pendingWrites }
  obtain ⟨events, observe⟩ := observeCloudMarker_run frame afterWrite
  rw [run_bind_ok (by rw [observe]), observe]
  refine ⟨.upstreamFrame session.serialText frame
    (session.lastTelemetryAt.map fun last => (world.time : Int) - last) ::
    (events ++ [.commandFrame session.serialText frame.device command]), ?_⟩
  rw [List.map_cons, List.map_append]
  rfl

/-- A frame that decodes as no command leaves the session as it is, also where it ends it. -/
theorem handleUpstreamFrame_unnoted (world : SessionWorld) {frame : Frame}
    (unparsed : parseModbusCommand frame = none) (session : Session) :
    ((Session.handleUpstreamFrame world frame).run session).state = session := by
  by_cases isCommand : isModbusCommand frame = true
  · rw [handleUpstreamFrame_cut world ((parseModbusCommand_none_iff isCommand).mp unparsed)]
  · rw [Session.handleUpstreamFrame, doWhen]
    rw [if_neg isCommand]
    rfl

/-- The capture withholds a corrupt frame of a transfer and changes nothing. -/
theorem captureUpstreamFrame_corrupt (world : CaptureWorld) {frame : Frame}
    (corrupt : frame.validCrc = false) (session : Session) :
    ((captureUpstreamFrame world frame).run session).state = session := by
  cases known : session.firmwareCapture with
  | none => rw [captureUpstreamFrame_none world frame known]
  | some capture =>
    have inert := handleUpstreamFrame_corrupt (session.captureCall world frame) capture corrupt
    rw [captureUpstreamFrame_some world frame known]
    dsimp only
    rw [inert, ← known]

/-! ## What a corrupt frame of the cloud leaves behind -/

/-- The command would be stored as a read or a write that is outstanding, or its marker
remembered as the cloud's, and is not there already. -/
def Records (session : Session) (frame : Frame) (command : ModbusCommand) : Prop :=
  let key := normalizeDevice frame.device
  (∃ entry, readEntry command = some entry ∧ session.pendingReads.get key ≠ some entry) ∨
    (session.isForeign frame = true ∧
      ∃ entry, writeEntry command = some entry ∧ session.pendingWrites.get key ≠ some entry) ∨
    (session.isForeign frame = true ∧ ∃ control marker, session.localControl = some control ∧
      frame.device[3]? = some marker ∧ control.cloudMarkerSeen ≠ some marker)

theorem Session.isForeign_iff {session : Session} {control : LocalControl} (frame : Frame)
    (known : session.localControl = some control) :
    session.isForeign frame = true ↔ control.isOurFrame frame = false := by
  simp [Session.isForeign, Session.isOurFrame, known]

theorem observeSessionMarker_seen (control : LocalControl) (marker : UInt8) :
    (control.observeSessionMarker marker).1.cloudMarkerSeen = some marker := by
  rw [LocalControl.observeSessionMarker]
  split
  · assumption
  · rfl

theorem observeSessionMarker_awaited (control : LocalControl) (marker : UInt8) :
    (control.observeSessionMarker marker).1.awaited = control.awaited := by
  rw [LocalControl.observeSessionMarker]
  split
  · rfl
  · rfl

theorem observed_marker_iff (session : Session) (frame : Frame) :
    (session.observed frame).localControl.map LocalControl.cloudMarkerSeen =
        session.localControl.map LocalControl.cloudMarkerSeen ↔
      ¬ (session.isForeign frame = true ∧ ∃ control marker, session.localControl = some control ∧
        frame.device[3]? = some marker ∧ control.cloudMarkerSeen ≠ some marker) := by
  rw [Session.observed]
  cases known : session.localControl with
  | none => simp
  | some control =>
    rw [Session.isForeign_iff frame known]
    cases marked : frame.device[3]? with
    | none => simp
    | some marker =>
      cases ours : control.isOurFrame frame with
      | true => simp [ours]
      | false =>
        have seen := observeSessionMarker_seen control marker
        simp only [Option.map_some, ours, Bool.false_eq_true, if_false, seen, Option.some.injEq,
          true_and]
        constructor
        · rintro same ⟨_, _, rfl, rfl, differs⟩
          exact differs same.symm
        · intro same
          by_contra differs
          exact same ⟨control, marker, rfl, rfl, fun seen => differs seen.symm⟩

theorem observed_awaited (session : Session) (frame : Frame) :
    (session.observed frame).localControl.map LocalControl.awaited =
      session.localControl.map LocalControl.awaited := by
  rw [Session.observed]
  cases session.localControl with
  | none => rfl
  | some control =>
    rw [Option.map_some, Option.map_some, Option.map_some]
    split
    · split
      · rfl
      · rw [observeSessionMarker_awaited]
    · rfl

/-- A noted command changes only the two tables and the marker. -/
theorem noted_protocolState (session : Session) (frame : Frame) (command : ModbusCommand) :
    (session.noted frame command).protocolState =
      { session.protocolState with
        pendingReads :=
          storeEntry (normalizeDevice frame.device) (readEntry command) session.pendingReads
        pendingWrites := storeEntry (normalizeDevice frame.device)
          (if session.isForeign frame then writeEntry command else none) session.pendingWrites
        cloudMarkerSeen :=
          (session.observed frame).localControl.map LocalControl.cloudMarkerSeen } := by
  have awaited := observed_awaited session frame
  rw [Session.protocolState, Session.noted]
  dsimp only
  rw [awaited]
  rfl

theorem noted_protocolState_iff (session : Session) (frame : Frame) (command : ModbusCommand) :
    (session.noted frame command).protocolState = session.protocolState ↔
      ¬ Records session frame command := by
  have marker := observed_marker_iff session frame
  have reads := storeEntry_eq_self_iff (normalizeDevice frame.device) (readEntry command)
    session.pendingReads
  have writes := storeEntry_eq_self_iff (normalizeDevice frame.device)
    (if session.isForeign frame then writeEntry command else none) session.pendingWrites
  rw [noted_protocolState]
  rw [Session.protocolState, Records]
  simp only [ProtocolState.mk.injEq, true_and, and_true, marker, reads, writes]
  rw [not_or, not_or, and_assoc.symm, and_assoc.symm]
  -- reads, writes and the marker are compared one by one
  refine and_congr (and_congr ?_ ?_) Iff.rfl
  · simp only [not_exists, not_and, not_not]
  · cases session.isForeign frame with
    | true => simp only [if_true, true_and, not_exists, not_and, not_not]
    | false => simp

theorem relayUpstreamFrame_corrupt (world : UpstreamWorld) {frame : Frame}
    (corrupt : frame.validCrc = false) (forward : Bytes) (session : Session) :
    ((relayUpstreamFrame world frame forward).run session).state =
      ((Session.handleUpstreamFrame world.session frame).run session).state := by
  rw [relayUpstreamFrame]
  obtain ⟨_, ran⟩ | ⟨_, _, ran⟩ := run_bind_cases (Session.handleUpstreamFrame world.session frame)
    (fun _ => captureUpstreamFrame world.capture frame >>= fun captured =>
      pure (cutFrame captured frame.raw forward)) session
  · rw [ran]
  · rw [ran]
    have captured := captureUpstreamFrame_corrupt world.capture corrupt
      ((Session.handleUpstreamFrame world.session frame).run session).state
    obtain ⟨_, kept⟩ | ⟨_, _, kept⟩ := run_bind_cases (captureUpstreamFrame world.capture frame)
      (fun captured => (pure (cutFrame captured frame.raw forward) : InSession Bytes))
      ((Session.handleUpstreamFrame world.session frame).run session).state
    · rw [kept]
      exact captured
    · rw [kept]
      exact captured

theorem relayUpstreamFrame_corrupt_iff (world : UpstreamWorld) {frame : Frame}
    (corrupt : frame.validCrc = false) (forward : Bytes) (session : Session) :
    ((relayUpstreamFrame world frame forward).run session).state.protocolState =
        session.protocolState ↔
      ¬ ∃ command, parseModbusCommand frame = some command ∧ Records session frame command := by
  rw [relayUpstreamFrame_corrupt world corrupt]
  cases parsed : parseModbusCommand frame with
  | none =>
    rw [handleUpstreamFrame_unnoted world.session parsed]
    simp
  | some command =>
    obtain ⟨_, ran⟩ := handleUpstreamFrame_noted world.session parsed session
    rw [ran]
    simpa using noted_protocolState_iff session frame command

/-! ## Exactly which corrupt frames are inert -/

/-- **A corrupt frame is inert** exactly where the uploader does not take it (from the inverter)
and where it decodes to no command with something new to record (from the cloud). -/
theorem corruptFrame_inert_iff (config : SessionConfig) (world : SessionWorld)
    (upstreamWorld : UpstreamWorld) (session : Session) (forward : Bytes) {frame : Frame}
    (corrupt : frame.validCrc = false) :
    (((localFrame config world frame).run session).state.protocolState = session.protocolState ↔
      ¬ ∃ uploader, session.firmwareUploader = some uploader ∧ UploaderTakes uploader frame) ∧
    (((relayClientFrame config world frame forward).run session).state.protocolState =
        session.protocolState ↔
      ¬ ∃ uploader, session.firmwareUploader = some uploader ∧ UploaderTakes uploader frame) ∧
    (((relayUpstreamFrame upstreamWorld frame forward).run session).state.protocolState =
        session.protocolState ↔
      ¬ ∃ command, parseModbusCommand frame = some command ∧ Records session frame command) := by
  rw [localFrame_corrupt config world corrupt, relayClientFrame_corrupt config world corrupt]
  exact ⟨hooked_protocolState_iff session frame, hooked_protocolState_iff session frame,
    relayUpstreamFrame_corrupt_iff upstreamWorld corrupt forward session⟩

/-- A request of the cloud for one register, with a wrong CRC. -/
def corruptReadFrame : Frame where
  start := marker7f
  device := [0x11, 0x01, 0x00, 0x0b]
  func := commandEnvelopeFunc
  payload := [0x01, 0x03, 0xca, 0x5a, 0x00, 0x01]
  crc := [0x00, 0x00]
  endMarker := endF7
  raw := [0x7f, 0x7f, 0x11, 0x01, 0x00, 0x0b, 0xe2, 0x00, 0x06, 0x01, 0x03, 0xca, 0x5a, 0x00, 0x01,
    0x00, 0x00, 0xf7, 0xf7]
  validCrc := false

theorem corruptReadFrame_wellFormed : corruptReadFrame.WellFormed :=
  ⟨by decide +kernel, .inr ⟨rfl, rfl⟩, by decide⟩

theorem corruptReadFrame_parsed :
    parseModbusCommand corruptReadFrame = some ⟨0x01, 0x03, 0xca5a, .count 1⟩ := by decide +kernel

theorem corruptFrame_inert_iff_corruptReadFrame :
    (((localFrame .everything ⟨0, 0, none⟩ corruptReadFrame).run
          (.fresh .everything)).state.protocolState =
        Session.protocolState (.fresh .everything) ↔
      ¬ ∃ uploader, Session.firmwareUploader (.fresh .everything) =
        some uploader ∧ UploaderTakes uploader corruptReadFrame) ∧
    (((relayClientFrame .everything ⟨0, 0, none⟩ corruptReadFrame []).run
          (.fresh .everything)).state.protocolState =
        Session.protocolState (.fresh .everything) ↔
      ¬ ∃ uploader, Session.firmwareUploader (.fresh .everything) =
        some uploader ∧ UploaderTakes uploader corruptReadFrame) ∧
    (((relayUpstreamFrame .calm corruptReadFrame []).run
          (.fresh .everything)).state.protocolState =
        Session.protocolState (.fresh .everything) ↔
      ¬ ∃ command, parseModbusCommand corruptReadFrame = some command ∧
        Records (.fresh .everything) corruptReadFrame command) :=
  corruptFrame_inert_iff _ _ _ _ _ rfl

/-- A corrupt request of the cloud is stored by a fresh session. -/
theorem corruptReadFrame_not_inert :
    ¬ ∀ (config : SessionConfig) (world : SessionWorld) (upstreamWorld : UpstreamWorld)
      (session : Session) (forward : Bytes) (frame : Frame),
      Reachable config session → Extracted frame → frame.validCrc = false →
      ((localFrame config world frame).run session).state.protocolState = session.protocolState ∧
      ((relayClientFrame config world frame forward).run session).state.protocolState =
        session.protocolState ∧
      ((relayUpstreamFrame upstreamWorld frame forward).run session).state.protocolState =
        session.protocolState := by
  intro claimed
  obtain ⟨_, _, inert⟩ := claimed .everything ⟨0, 0, none⟩ .calm _ []
    corruptReadFrame .fresh (.of_wellFormed corruptReadFrame_wellFormed) rfl
  apply (relayUpstreamFrame_corrupt_iff .calm rfl [] _).mp inert
  refine ⟨_, corruptReadFrame_parsed, .inl ⟨(0xca5a, 1), by decide, ?_⟩⟩
  intro stored
  cases stored

end FoxessGateway.Server
