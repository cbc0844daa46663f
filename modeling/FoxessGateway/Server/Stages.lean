import FoxessGateway.Server.Handlers

/-! # What each stage leaves alone

A stage of `handle_frame` leaves a part of the session alone where the part does not depend on the
fields that the stage sets, and shows no more than its own events.  The part and the effects that
are allowed are parameters. -/

namespace FoxessGateway.Server

open ByteOrder Protocol Effectful Action

variable {τ : Type} {view : Session → τ} {allowed : SessionEffect → Prop}

theorem confirmInjectedWrite_leaves (frame : Frame)
    (kept : ∀ (session : Session) control confirmed, session.localControl = some control →
      view { session with
        localControl := some (control.resolveResponse frame.device confirmed) } = view session) :
    Leaves view allowed (confirmInjectedWrite frame) := by
  apply Leaves.modify
  intro session
  cases known : session.localControl with
  | none => rfl
  | some control =>
    dsimp only
    split
    · exact kept session control _ known
    · rfl

theorem confirmCloudWrite_leaves (config : SessionConfig) (frame : Frame)
    (kept : ∀ (session : Session) writes,
      view { session with pendingWrites := writes } = view session)
    (published : ∀ serial value,
      allowed (.mqtt (.publishActivePowerLimitState serial value))) :
    Leaves view allowed (confirmCloudWrite config frame) := by
  refine Leaves.doWhen (Leaves.bind Leaves.get fun session => ?_)
  refine Leaves.bind (Leaves.modify fun _ => kept _ _) fun _ => ?_
  split
  · exact Leaves.doWhen (Leaves.perform (published _ _))
  · exact Leaves.pure

theorem noteClientFunc_leaves (frame : Frame)
    (kept : ∀ (session : Session) func,
      view { session with lastClientFunc := func } = view session) :
    Leaves view allowed (noteClientFunc frame) := by
  apply Leaves.modify
  intro session
  split
  · exact kept _ _
  · rfl

theorem noteRegistration_leaves (world : SessionWorld) (frame : Frame)
    (kept : ∀ (session : Session) serial tail func, view { session with
      serial := serial, clientDeviceTail := tail, lastClientFunc := func } = view session)
    (keptFunc : ∀ (session : Session) func,
      view { session with lastClientFunc := func } = view session)
    (keptUploader : ∀ (session : Session) uploader,
      view { session with firmwareUploader := uploader } = view session)
    (registered : ∀ serial, allowed (.registerSession serial))
    (published : ∀ operation, allowed (.mqtt operation))
    (shown : ∀ serial, allowed (.emit (.registration serial))) :
    Leaves view allowed (noteRegistration world frame) := by
  apply Leaves.ite
  · refine Leaves.bind (Leaves.modify fun _ => kept _ _ _ _) fun _ => ?_
    refine Leaves.bind (Leaves.bind Leaves.get fun session => ?_) fun _ => ?_
    · split
      · refine Leaves.bind (Leaves.perform (registered _)) fun _ => ?_
        refine Leaves.bind (Leaves.perform (published _)) fun _ => ?_
        refine Leaves.bind (Leaves.perform (published _)) fun _ => ?_
        exact Leaves.modify fun _ => keptUploader _ _
      · exact Leaves.pure
    · exact Leaves.bind Leaves.get fun _ => Leaves.perform (shown _)
  · exact noteClientFunc_leaves frame keptFunc

section Settle

variable
  (settleKept : ∀ (session : Session) scheduled,
    view { session with inverterControlSettleScheduled := scheduled } = view session)
  (settleShown : allowed .createSettleTask)

include settleKept settleShown

theorem maybeSettleInverterControl_leaves : Leaves view allowed maybeSettleInverterControl := by
  refine Leaves.bind Leaves.get fun _ => Leaves.doWhen ?_
  exact Leaves.bind (Leaves.modify fun _ => settleKept _ _) fun _ => Leaves.perform settleShown

theorem syncActivePowerLimitMqtt_leaves
    (kept : ∀ (session : Session) registered,
      view { session with inverterControlCommandRegistered := registered } = view session)
    (published : ∀ operation, allowed (.mqtt operation)) :
    Leaves view allowed syncActivePowerLimitMqtt := by
  refine Leaves.bind Leaves.get fun session => ?_
  split
  · refine Leaves.bind Leaves.attempt fun _ => Leaves.ite ?_ ?_
    · refine Leaves.bind (Leaves.bind Leaves.get fun _ => Leaves.doWhen ?_) fun _ =>
        maybeSettleInverterControl_leaves settleKept settleShown
      refine Leaves.bind (Leaves.perform (published _)) fun _ => ?_
      refine Leaves.bind (Leaves.perform (published _)) fun _ => ?_
      exact Leaves.modify fun _ => kept _ _
    · refine Leaves.bind (Leaves.perform (published _)) fun _ => ?_
      refine Leaves.bind (Leaves.perform (published _)) fun _ => ?_
      exact Leaves.modify fun _ => kept _ _
  · exact Leaves.pure

theorem noteProductInfo_leaves (frame : Frame)
    (kept : ∀ (session : Session) model firmware,
      view { session with model := model, firmware := firmware } = view session)
    (registeredKept : ∀ (session : Session) registered,
      view { session with inverterControlCommandRegistered := registered } = view session)
    (published : ∀ operation, allowed (.mqtt operation))
    (shown : ∀ serial info, allowed (.emit (.productInfo serial info))) :
    Leaves view allowed (noteProductInfo frame) := by
  rw [noteProductInfo]
  split
  · exact Leaves.pure
  · refine Leaves.bind (Leaves.modify fun _ => kept _ _ _) fun _ => ?_
    refine Leaves.bind Leaves.get fun _ => Leaves.bind (Leaves.perform (shown _ _)) fun _ => ?_
    exact syncActivePowerLimitMqtt_leaves settleKept settleShown registeredKept published

end Settle

theorem noteModuleInfo_leaves (frame : Frame)
    (kept : ∀ (session : Session) module, view { session with module := module } = view session)
    (shown : ∀ serial module, allowed (.emit (.moduleInfo serial module))) :
    Leaves view allowed (noteModuleInfo frame) := by
  refine Leaves.doWhen (Leaves.bind (Leaves.modify fun _ => kept _ _) fun _ => ?_)
  exact Leaves.bind Leaves.get fun _ => Leaves.perform (shown _ _)

theorem noteMeshRole_leaves (frame : Frame)
    (kept : ∀ (session : Session) role peer,
      view { session with meshRole := role, meshPeerSerial := peer } = view session)
    (shown : ∀ serial role peer, allowed (.emit (.meshRole serial role peer))) :
    Leaves view allowed (noteMeshRole frame) := by
  rw [noteMeshRole]
  split
  · exact Leaves.pure
  · refine Leaves.bind Leaves.get fun _ => Leaves.doWhen ?_
    exact Leaves.bind (Leaves.modify fun _ => kept _ _ _) fun _ => Leaves.perform (shown _ _ _)

theorem answerBootstrap_leaves (world : SessionWorld) (frame : Frame) (sendBootstrap : Bool)
    (kept : ∀ (session : Session) bootstrap,
      view { session with bootstrap := bootstrap } = view session)
    (written : ∀ raw, allowed (.write raw))
    (shown : ∀ serial raw, allowed (.emit (.bootstrapAck serial raw))) :
    Leaves view allowed (answerBootstrap world frame sendBootstrap) := by
  refine Leaves.doWhen (Leaves.bind Leaves.get fun session => ?_)
  refine Leaves.bind (Leaves.modify fun _ => kept _ _) fun _ => ?_
  refine Leaves.bind Leaves.attempt fun response => ?_
  cases response with
  | none => exact Leaves.pure
  | some raw =>
    refine Leaves.bind (Leaves.bind (Leaves.perform (written _)) fun _ => ?_) fun _ => ?_
    · exact Leaves.attempt
    exact Leaves.perform (shown _ _)

theorem updateFaultState_leaves (world : SessionWorld) (payload : Bytes)
    (kept : ∀ (session : Session) code timestamp active, view { session with
      lastFaultCode := code, lastFaultTimestamp := timestamp, previousFaultActive := active } =
        view session)
    (keptActive : ∀ (session : Session) active,
      view { session with previousFaultActive := active } = view session)
    (observed : ∀ serial code known words at',
      allowed (.emit (.faultObserved serial code known words at')))
    (cleared : ∀ serial code at', allowed (.emit (.faultCleared serial code at'))) :
    Leaves view allowed (updateFaultState world payload) := by
  refine Leaves.bind Leaves.get fun _ => Leaves.ite ?_ (Leaves.modify fun _ => keptActive _ _)
  refine Leaves.bind Leaves.get fun _ => Leaves.ite ?_ ?_
  · refine Leaves.bind (Leaves.modify fun _ => kept _ _ _ _) fun _ => ?_
    exact Leaves.perform (observed _ _ _ _ _)
  · refine Leaves.bind (Leaves.doWhen (Leaves.perform (cleared _ _ _))) fun _ => ?_
    exact Leaves.modify fun _ => keptActive _ _

theorem noteTelemetry_leaves (world : SessionWorld) (frame : Frame)
    (faults : Leaves view allowed (updateFaultState world frame.payload))
    (kept : ∀ (session : Session) time,
      view { session with lastTelemetryAt := time } = view session)
    (published : ∀ telemetry words, allowed (.publishTelemetry telemetry words))
    (settles : Leaves view allowed maybeSettleInverterControl) :
    Leaves view allowed (noteTelemetry world frame) := by
  refine Leaves.doWhen (Leaves.bind faults fun _ => Leaves.bind Leaves.get fun _ => ?_)
  refine Leaves.bind Leaves.attempt fun _ =>
    Leaves.bind (Leaves.perform (published _ _)) fun _ => ?_
  exact Leaves.bind (Leaves.modify fun _ => kept _ _) fun _ => settles

section Reads

variable
  (kept : ∀ (session : Session) reads readbacks, view { session with
    pendingReads := reads, pendingActivePowerLimitReadbacks := readbacks } = view session)
  (judged : ∀ result, allowed (.emit (.activePowerLimitReadbackResult result)))

include kept judged

theorem noteReadResponse_leaves (config : SessionConfig) (frame : Frame)
    (published : ∀ serial value,
      allowed (.mqtt (.publishActivePowerLimitState serial value)))
    (shown : ∀ serial device response pending,
      allowed (.emit (.commandResponse serial device response pending))) :
    Leaves view allowed (noteReadResponse config frame) := by
  rw [noteReadResponse]
  split
  · exact Leaves.pure
  · refine Leaves.bind Leaves.get fun _ =>
      Leaves.bind (Leaves.modify fun _ => kept _ _ _) fun _ => ?_
    refine Leaves.bind (Leaves.perform (shown _ _ _ _)) fun _ => ?_
    split
    · refine Leaves.doWhen (Leaves.bind (Leaves.perform (published _ _)) fun _ => ?_)
      split
      · exact Leaves.perform (judged _)
      · exact Leaves.pure
    · exact Leaves.pure

theorem noteReadException_leaves (config : SessionConfig) (frame : Frame)
    (shown : ∀ serial device error pending,
      allowed (.emit (.commandError serial device error pending))) :
    Leaves view allowed (noteReadException config frame) := by
  rw [noteReadException]
  split
  · exact Leaves.pure
  · refine Leaves.bind Leaves.get fun _ =>
      Leaves.bind (Leaves.modify fun _ => kept _ _ _) fun _ => ?_
    refine Leaves.bind (Leaves.perform (shown _ _ _ _)) fun _ => ?_
    split
    · exact Leaves.perform (judged _)
    · exact Leaves.pure

end Reads

/-- `handle_frame` shows a corrupt frame and leaves the session as it is. -/
theorem handleFrame_corrupt (config : SessionConfig) (world : SessionWorld) {frame : Frame}
    (sendBootstrap : Bool) (corrupt : frame.validCrc = false) (session : Session) :
    (Session.handleFrame config world frame sendBootstrap).run session =
      ⟨session, [.emit (.frame session.serialText frame),
        .emit (.invalidCrc session.serialText frame.raw.length)], .ok ()⟩ := by
  rw [Session.handleFrame]
  simp only [corrupt, if_true]
  rfl

end FoxessGateway.Server
