import FoxessGateway.Protocol.ReadBoundary
import FoxessGateway.Server.Stages
import FoxessGateway.Server.Totality

/-! # The sessions a peer can bring about

`Reachable` takes the handlers with every frame that extraction returns, and lets everything
else that runs on a session do what it likes but to its model and firmware texts. -/

namespace FoxessGateway.Server

open ByteOrder Protocol Firmware Effectful Action

/-- A frame that `extract_frames` returns for some buffer. -/
def Extracted (frame : Frame) : Prop := ∃ buffer, frame ∈ (extractFrames buffer).1

theorem Extracted.wellFormed {frame : Frame} (extracted : Extracted frame) : frame.WellFormed :=
  extractFrames_wellFormed extracted.choose_spec

theorem Extracted.of_wellFormed {frame : Frame} (wellFormed : frame.WellFormed) :
    Extracted frame :=
  ⟨frame.raw, by rw [wellFormed.extractFrames_raw]; exact List.mem_singleton_self frame⟩

/-- A well-formed frame has a whole device field and a payload within the length limit. -/
theorem wellFormed_sizes {frame : Frame} (wellFormed : frame.WellFormed) :
    frame.device.length = 4 ∧ frame.payload.length ≤ 4300 := by
  obtain ⟨long, total, _, _, device, _, payload, _⟩ := parseFrame_ok wellFormed.parsed
  have short := wellFormed.short
  rw [device, payload]
  simp only [slice, List.length_drop, List.length_take]
  omega

/-! ## Reachable sessions -/

inductive Reachable (config : SessionConfig) : Session → Prop
  | fresh : Reachable config (.fresh config)
  | clientFrame {session : Session} (world : SessionWorld) {frame : Frame} (sendBootstrap : Bool)
      (reachable : Reachable config session) (extracted : Extracted frame) :
      Reachable config ((Session.handleFrame config world frame sendBootstrap).run session).state
  | firmwareUploadFrame {session : Session} {frame : Frame} (reachable : Reachable config session)
      (extracted : Extracted frame) :
      Reachable config ((handleFirmwareUploadFrame frame).run session).state
  | upstreamFrame {session : Session} (world : SessionWorld) {frame : Frame}
      (reachable : Reachable config session) (extracted : Extracted frame) :
      Reachable config ((Session.handleUpstreamFrame world frame).run session).state
  /-- The relay loops, the capture, the tasks that write, read back and time out, and an upload:
  none of them assigns to `model` or `firmware`. -/
  | elsewhere {session next : Session} (reachable : Reachable config session)
      (sameModel : next.model = session.model) (sameFirmware : next.firmware = session.firmware) :
      Reachable config next

/-! ## The firmware text stays short -/

/-- An answer of the handshake changes only how far the handshake has come. -/
theorem answerBootstrap_keeps {α : Type} {view : Session → α}
    (ignores : ∀ session bootstrap, view { session with bootstrap := bootstrap } = view session)
    (world : SessionWorld) (frame : Frame) (sendBootstrap : Bool) :
    Keeps view (answerBootstrap world frame sendBootstrap) := by
  have leaves : Leaves view (fun _ => True) (answerBootstrap world frame sendBootstrap) :=
    answerBootstrap_leaves world frame sendBootstrap ignores (fun _ => trivial) fun _ _ => trivial
  exact leaves.keeps

/-- No frame makes the firmware text longer than a payload, whether the handler returns or its
writer fails. -/
theorem handleFrame_maintains (config : SessionConfig) (world : SessionWorld) {frame : Frame}
    (sendBootstrap : Bool) (short : frame.payload.length ≤ 4300) :
    Maintains Bounded (Session.handleFrame config world frame sendBootstrap) := by
  have sameFirmware : Keeps Session.firmware (answerBootstrap world frame sendBootstrap) :=
    answerBootstrap_keeps (fun _ _ => rfl) world frame sendBootstrap
  have kept : Maintains Bounded (answerBootstrap world frame sendBootstrap) :=
    sameFirmware.maintains (·.length ≤ 4300)
  refine Maintains.bind (fun _ bounded => bounded) fun session => ?_
  refine Maintains.bind (emit_survives _).maintains fun _ => ?_
  refine Maintains.ite (emit_survives _).maintains ?_
  refine Maintains.bind (confirmInjectedWrite_survives frame).maintains fun _ => ?_
  refine Maintains.bind (confirmCloudWrite_survives config frame).maintains fun _ => ?_
  refine Maintains.bind (noteRegistration_survives world frame).maintains fun _ => ?_
  refine Maintains.bind (noteProductInfo_survives short).maintains fun _ => ?_
  refine Maintains.bind (noteModuleInfo_survives frame).maintains fun _ => ?_
  refine Maintains.bind (noteMeshRole_survives frame).maintains fun _ => ?_
  refine Maintains.bind kept fun _ => ?_
  refine Maintains.bind (noteTelemetry_survives world frame).maintains fun _ => ?_
  refine Maintains.bind (noteReadResponse_survives config frame).maintains fun _ => ?_
  exact (noteReadException_survives config frame).maintains

theorem handleUpstreamFrame_maintains (world : SessionWorld) (frame : Frame) :
    Maintains Bounded (Session.handleUpstreamFrame world frame) := by
  by_cases cut : CutWriteMultiple frame
  · -- the handler raises before it changes the session
    intro session bounded
    rwa [handleUpstreamFrame_cut world cut]
  · exact (handleUpstreamFrame_survives world cut).maintains

theorem handleFirmwareUploadFrame_keeps_firmware (frame : Frame) :
    Keeps Session.firmware (handleFirmwareUploadFrame frame) := by
  refine Keeps.bind Keeps.get fun session => ?_
  cases session.firmwareUploader with
  | none => exact Keeps.pure
  | some uploader => exact Keeps.bind (Keeps.modify fun _ => rfl) fun _ => Keeps.pure

theorem Reachable.bounded {config : SessionConfig} {session : Session}
    (reachable : Reachable config session) : Bounded session := by
  induction reachable with
  | fresh => exact Nat.zero_le _
  | clientFrame world sendBootstrap _ extracted inductionHypothesis =>
    have sizes := wellFormed_sizes extracted.wellFormed
    exact handleFrame_maintains config world sendBootstrap sizes.2 _ inductionHypothesis
  | firmwareUploadFrame _ _ inductionHypothesis =>
    exact (handleFirmwareUploadFrame_keeps_firmware _).maintains (·.length ≤ 4300) _
      inductionHypothesis
  | upstreamFrame world _ _ inductionHypothesis =>
    exact handleUpstreamFrame_maintains world _ _ inductionHypothesis
  | elsewhere _ _ sameFirmware inductionHypothesis =>
    rw [Bounded]
    rwa [sameFirmware]

/-! ## The handlers return -/

theorem Survives.returns {action : InSession Unit} (survives : Survives action) {session : Session}
    (bounded : Bounded session) : (action.run session).value = .ok () :=
  (survives session bounded).choose_spec.1

/-- **A frame of a peer ends a session only if it is a cut write of several registers.**  The
inverter can send nothing that `handleFrame` does not survive, and the cloud nothing but such a
write that `handleUpstreamFrame` does not. -/
theorem handlers_return {config : SessionConfig} {world : SessionWorld} {session : Session}
    {frame : Frame} (reachable : Reachable config session) (extracted : Extracted frame)
    (drains : world.drainFails = none) :
    (∀ sendBootstrap,
      ((Session.handleFrame config world frame sendBootstrap).run session).value = .ok ()) ∧
      (((Session.handleUpstreamFrame world frame).run session).value = .ok () ↔
        ¬ CutWriteMultiple frame) := by
  obtain ⟨device, short⟩ := wellFormed_sizes extracted.wellFormed
  constructor
  · intro sendBootstrap
    exact (handleFrame_survives config sendBootstrap (fun _ => drains) device short).returns
      reachable.bounded
  constructor
  · intro returned cut
    rw [handleUpstreamFrame_raises world cut] at returned
    cases returned
  · intro uncut
    exact (handleUpstreamFrame_survives world uncut).returns reachable.bounded

/-- A registration under a serial of one letter. -/
def registration (letter : UInt8) : Frame :=
  builtFrame marker7e [0x00, 0x00, 0x00, 0x01] 0x00
    ([0x01, 0x00, 0x01, 0x31, 0x01, letter] ++ List.replicate 22 0x00) endE7

theorem registration_wellFormed (letter : UInt8) : (registration letter).WellFormed :=
  builtFrame_wellFormed (.inl ⟨rfl, rfl⟩) rfl (by simp)

/-- Telemetry of an inverter at rest. -/
def restingTelemetry : Frame :=
  builtFrame marker7e [0x02, 0x00, 0x00, 0x00] 0x00 (List.replicate 238 0x00) endE7

theorem restingTelemetry_wellFormed : restingTelemetry.WellFormed :=
  builtFrame_wellFormed (.inl ⟨rfl, rfl⟩) rfl (by rw [List.length_replicate]; decide)

/-- A write of one register with the function for several. -/
def wholeWriteFrame : Frame :=
  builtFrame marker7f [0x12, 0x01, 0x00, 0x0b] commandEnvelopeFunc
    [0x01, 0x10, 0xca, 0x5a, 0x00, 0x01, 0x02, 0x00, 0x32]
    endF7

theorem wholeWriteFrame_wellFormed : wholeWriteFrame.WellFormed :=
  builtFrame_wellFormed (by decide) (by decide) (by decide)

/-- The session of an inverter that has registered as A. -/
def registeredSession : Session :=
  ((Session.handleFrame .everything ⟨0, 0, none⟩ (registration 'A'.toUInt8) true).run
    (.fresh .everything)).state

theorem registeredSession_reachable : Reachable .everything registeredSession :=
  .clientFrame _ _ .fresh (.of_wellFormed (registration_wellFormed _))

/-- The session handles telemetry, and a write that the cloud has not cut. -/
theorem handlers_return_registered :
    registeredSession.serial = some ['A'] ∧ isTelemetry restingTelemetry = true ∧
      (∀ sendBootstrap, ((Session.handleFrame .everything ⟨0, 0, none⟩ restingTelemetry
        sendBootstrap).run registeredSession).value = .ok ()) ∧
      (parseModbusCommand wholeWriteFrame).isSome = true ∧
      ((Session.handleUpstreamFrame ⟨0, 0, none⟩ wholeWriteFrame).run registeredSession).value =
        .ok () := by
  have serial : registeredSession.serial = some ['A'] := by decide +kernel
  have telemetry : isTelemetry restingTelemetry = true := by decide +kernel
  have decoded : (parseModbusCommand wholeWriteFrame).isSome = true := by decide +kernel
  have uncut : ¬ CutWriteMultiple wholeWriteFrame := by decide
  refine ⟨serial, telemetry, ?_, decoded, ?_⟩
  · exact (handlers_return registeredSession_reachable
      (.of_wellFormed restingTelemetry_wellFormed) rfl).1
  · exact (handlers_return registeredSession_reachable
      (.of_wellFormed wholeWriteFrame_wellFormed) rfl).2.mpr uncut

/-- The same write without its byte count. -/
def cutWriteFrame : Frame :=
  builtFrame marker7f [0x12, 0x01, 0x00, 0x0b] commandEnvelopeFunc
    [0x01, 0x10, 0xca, 0x5a, 0x00, 0x01]
    endF7

theorem cutWriteFrame_wellFormed : cutWriteFrame.WellFormed :=
  builtFrame_wellFormed (by decide) (by decide) (by decide)

/-- The cloud ends a fresh session with one frame. -/
theorem handlers_return_cutWriteFrame :
    ¬ ∀ (config : SessionConfig) (world : SessionWorld) (session : Session) (frame : Frame),
      Reachable config session → Extracted frame → world.drainFails = none →
      (∀ sendBootstrap,
        ((Session.handleFrame config world frame sendBootstrap).run session).value = .ok ()) ∧
      ((Session.handleUpstreamFrame world frame).run session).value = .ok () := by
  intro claimed
  have cut : CutWriteMultiple cutWriteFrame := by decide
  obtain ⟨_, returned⟩ := claimed .everything ⟨0, 0, none⟩ _ cutWriteFrame .fresh
    (.of_wellFormed cutWriteFrame_wellFormed) rfl
  rw [handleUpstreamFrame_raises _ cut] at returned
  cases returned

end FoxessGateway.Server
