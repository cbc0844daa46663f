import FoxessGateway.Firmware.UploadSession
import FoxessGateway.Server.Registry
import FoxessGateway.Server.Relay

/-! # A session and its uploaders

What the handling of a frame does to the uploader of a session is what the uploads of a session
take from it: the uploader sees the frame, and a registration with a serial makes a new one. -/

namespace FoxessGateway.Server

open Protocol Effectful Action Firmware Runs

/-! ## What a frame does to the uploader -/

/-- No effect is looked at. -/
def unseen (_ : SessionEffect) : Bool := false

/-- A stage that leaves the uploader alone, whatever it shows. -/
abbrev Unuploaded {α : Type} (action : InSession α) : Prop :=
  Leaves Session.firmwareUploader (unseen · = false) action

theorem confirmInjectedWrite_unuploaded (frame : Frame) :
    Unuploaded (confirmInjectedWrite frame) :=
  confirmInjectedWrite_leaves frame fun _ _ _ _ => rfl

theorem confirmCloudWrite_unuploaded (config : SessionConfig) (frame : Frame) :
    Unuploaded (confirmCloudWrite config frame) :=
  confirmCloudWrite_leaves config frame (fun _ _ => rfl) fun _ _ => rfl

theorem noteClientFunc_unuploaded (frame : Frame) : Unuploaded (noteClientFunc frame) :=
  noteClientFunc_leaves frame fun _ _ => rfl

theorem settle_unuploaded : Unuploaded maybeSettleInverterControl :=
  maybeSettleInverterControl_leaves (fun _ _ => rfl) rfl

/-- Nothing that comes after the registration touches the uploader. -/
theorem laterStages_unuploaded (config : SessionConfig) (world : SessionWorld) (frame : Frame)
    (sendBootstrap : Bool) :
    Unuploaded (do
      noteProductInfo frame
      noteModuleInfo frame
      noteMeshRole frame
      answerBootstrap world frame sendBootstrap
      noteTelemetry world frame
      noteReadResponse config frame
      noteReadException config frame) := by
  refine Leaves.bind (noteProductInfo_leaves (fun _ _ => rfl) (by rfl) frame (fun _ _ _ => rfl)
    (fun _ _ => rfl) (fun _ => rfl) fun _ _ => rfl) fun _ => ?_
  refine Leaves.bind (noteModuleInfo_leaves frame (fun _ _ => rfl) fun _ _ => rfl) fun _ => ?_
  refine Leaves.bind (noteMeshRole_leaves frame (fun _ _ _ => rfl) fun _ _ _ => rfl) fun _ => ?_
  refine Leaves.bind (answerBootstrap_leaves world frame sendBootstrap (fun _ _ => rfl)
    (fun _ => rfl) fun _ _ => rfl) fun _ => ?_
  refine Leaves.bind (noteTelemetry_leaves world frame
    (updateFaultState_leaves world _ (fun _ _ _ _ => rfl) (fun _ _ => rfl)
      (fun _ _ _ _ _ => rfl) fun _ _ _ => rfl)
    (fun _ _ => rfl) (fun _ _ => rfl) settle_unuploaded) fun _ => ?_
  exact Leaves.bind (noteReadResponse_leaves (fun _ _ _ => rfl) (fun _ => rfl) config frame
    (fun _ _ => rfl) fun _ _ _ _ => rfl) fun _ =>
      noteReadException_leaves (fun _ _ _ => rfl) (fun _ => rfl) config frame fun _ _ _ _ => rfl

/-- The serial of a registration that has one. -/
def registeredSerial (frame : Frame) : Option Text :=
  if frame.validCrc = true ∧ isRegistration frame = true then
    (registrationSerial frame).filter (· ≠ [])
  else none

/-- The uploader after a frame was handled. -/
def uploaderAfter (world : SessionWorld) (frame : Frame) (uploader : Option FirmwareUploader) :
    Option FirmwareUploader :=
  match registeredSerial frame with
  | some serial => some (.fresh serial world.monotonicNs)
  | none => uploader

theorem noteRegistration_uploader (world : SessionWorld) {frame : Frame}
    (valid : frame.validCrc = true) :
    Action.Tracks Session.firmwareUploader unseen
      (fun uploader => (uploaderAfter world frame uploader, []))
      (noteRegistration world frame) := by
  cases registers : isRegistration frame with
  | false =>
    have same : ∀ uploader, uploaderAfter world frame uploader = uploader := fun uploader => by
      rw [uploaderAfter, registeredSerial, if_neg (by simp [registers])]
    simp only [same, noteRegistration, registers, Bool.false_eq_true, if_false]
    exact (noteClientFunc_unuploaded frame).tracks
  | true =>
    intro session
    simp only [noteRegistration, registers, if_true, uploaderAfter, registeredSerial, valid,
      and_self]
    rw [register]
    generalize registrationSerial frame = serial
    cases serial with
    | none => exact ⟨rfl, rfl⟩
    | some serial =>
      cases serial with
      | nil => exact ⟨rfl, rfl⟩
      | cons first rest => exact ⟨rfl, rfl⟩

theorem handleFrame_uploader (config : SessionConfig) (world : SessionWorld) (frame : Frame)
    (sendBootstrap : Bool) (session : Session) :
    ((Session.handleFrame config world frame sendBootstrap).run session).state.firmwareUploader =
      uploaderAfter world frame session.firmwareUploader := by
  rw [Session.handleFrame, run_get_bind, emit, run_perform_bind]
  dsimp only
  cases valid : frame.validCrc with
  | false =>
    rw [if_pos rfl, uploaderAfter, registeredSerial, if_neg (by simp [valid])]
    rfl
  | true =>
    rw [if_neg (by decide)]
    -- what comes before the registration returns, so that the registration is reached
    have tracks : Action.Tracks Session.firmwareUploader unseen
        (fun uploader => (uploaderAfter world frame uploader, []))
        (handleValidFrame config world frame sendBootstrap) := by
      rw [handleValidFrame]
      refine Action.Tracks.leavesThen (confirmInjectedWrite_unuploaded frame)
        Total.modify fun _ => ?_
      refine Action.Tracks.leavesThen (confirmCloudWrite_unuploaded config frame)
        (confirmCloudWrite_total config frame) fun _ => ?_
      exact Action.Tracks.thenLeaves (noteRegistration_uploader world valid) fun _ =>
        laterStages_unuploaded config world frame sendBootstrap
    exact (tracks session).1

/-! ## The uploads follow the session -/

/-- The session's own uploader is the last that was made. -/
def SharesUploader (session : Session) (uploads : UploadSession) : Prop :=
  uploads.uploaders.getLast? = session.firmwareUploader

/-- What the uploads of the session take from a frame. -/
def uploadActions (world : SessionWorld) (frame : Frame) : List UploadSessionAction :=
  .frame frame :: (registeredSerial frame).toList.map (.register · world.monotonicNs)

/-- **The handling of a frame is what the uploads take from it.** -/
theorem clientFrame_sharesUploader (config : SessionConfig) (world : SessionWorld) (frame : Frame)
    (sendBootstrap : Bool) {session : Session} {uploads : UploadSession}
    (shares : SharesUploader session uploads) :
    ∃ next shown, run uploadSessionMachine uploads (uploadActions world frame) =
        some (next, shown) ∧
      SharesUploader ((clientFrame config world frame sendBootstrap).run session).state next := by
  have handled : ((clientFrame config world frame sendBootstrap).run
      session).state.firmwareUploader =
        uploaderAfter world frame (session.hooked frame).firmwareUploader := by
    have hook := handleFirmwareUploadFrame_run frame session
    rw [clientFrame, run_bind_ok (by rw [hook]), hook]
    exact handleFrame_uploader config world frame sendBootstrap _
  have received : (uploads.receiveFrame frame).1.uploaders.getLast? =
      (session.hooked frame).firmwareUploader := by
    rw [UploadSession.receiveFrame]
    rw [Session.hooked, ← shares]
    cases last : uploads.uploaders.getLast? with
    | none => exact last
    | some uploader =>
      obtain ⟨before, isLast⟩ := List.getLast?_eq_some_iff.mp last
      simp [isLast]
  unfold SharesUploader
  rw [handled, uploaderAfter, uploadActions]
  cases registeredSerial frame with
  | none => exact ⟨_, _, rfl, received⟩
  | some serial => exact ⟨_, _, rfl, List.getLast?_concat⟩

/-- A frame of the inverter, the world in which it is handled, and whether the bootstrap is answered
locally. -/
structure HandledFrame where
  world : SessionWorld
  frame : Frame
  sendBootstrap : Bool

/-- The session after these frames. -/
def Session.after (config : SessionConfig) (session : Session) (handled : List HandledFrame) :
    Session :=
  handled.foldl (fun session handled => ((clientFrame config handled.world handled.frame
    handled.sendBootstrap).run session).state) session

/-- **A session's uploads follow its frames.**  Whatever frames are handled, and whatever fails on
the way, the session's uploader is the last one that its uploads have: it has seen every frame since
it was made, and a new one is made by each valid registration with a serial, and by nothing else. -/
theorem frames_sharesUploader (config : SessionConfig) (handled : List HandledFrame)
    {session : Session} {uploads : UploadSession} (shares : SharesUploader session uploads) :
    ∃ next shown,
      run uploadSessionMachine uploads
        (handled.flatMap fun each => uploadActions each.world each.frame) = some (next, shown) ∧
      SharesUploader (session.after config handled) next := by
  induction handled generalizing session uploads with
  | nil => exact ⟨uploads, [], rfl, shares⟩
  | cons first handled inductionHypothesis =>
    obtain ⟨middle, before, ran, stillShares⟩ :=
      clientFrame_sharesUploader config first.world first.frame first.sendBootstrap shares
    obtain ⟨next, after, continued, atLast⟩ := inductionHypothesis stillShares
    exact ⟨next, before ++ after, run_trans ran continued, atLast⟩

/-- An inverter registers, and a second time with another serial. -/
def twoRegistrations : List HandledFrame :=
  ['A', 'B'].map fun letter => ⟨⟨0, 7, none⟩, (registrationFrame letter.toUInt8).frame, true⟩

theorem frames_sharesUploader_twoRegistrations :
    SharesUploader (.fresh .everything) .fresh ∧ ∃ next shown,
      run uploadSessionMachine .fresh
        (twoRegistrations.flatMap fun each => uploadActions each.world each.frame) =
          some (next, shown) ∧
      next.uploaders.map FirmwareUploader.serial = ["A".toList, "B".toList] ∧
      (Session.after .everything (.fresh .everything) twoRegistrations).firmwareUploader.map
        FirmwareUploader.serial = some "B".toList := by
  have start : SharesUploader (.fresh .everything) .fresh := rfl
  have made : (run uploadSessionMachine .fresh
      (twoRegistrations.flatMap fun each => uploadActions each.world each.frame)).map
        (fun reached => reached.1.uploaders.map FirmwareUploader.serial) =
          some ["A".toList, "B".toList] := by decide +kernel
  obtain ⟨next, shown, ran, shares⟩ := frames_sharesUploader .everything twoRegistrations start
  rw [ran] at made
  have serials : next.uploaders.map FirmwareUploader.serial = ["A".toList, "B".toList] :=
    Option.some.inj made
  refine ⟨start, next, shown, ran, serials, ?_⟩
  rw [← shares, ← List.getLast?_map, serials]
  rfl

end FoxessGateway.Server
