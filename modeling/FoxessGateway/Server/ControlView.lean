import FoxessGateway.Server.Reachable
import FoxessGateway.Server.Stages

/-! # What a frame does to local control

The parts of a session that decide whether setpoints are taken for it, and what one frame of
the inverter does to them and shows to the daemon.  Only registrations, product information and
telemetry do anything. -/

namespace FoxessGateway.Server

open ByteOrder Protocol Effectful Action

/-! ## The view -/

structure ControlView where
  serial : Option Text
  model : Text
  firmware : Text
  lastTelemetryAt : Option Nat
  hasControl : Bool
  registered : Bool
  settleScheduled : Bool
  deriving DecidableEq, Repr

def Session.control (session : Session) : ControlView where
  serial := session.serial
  model := session.model
  firmware := session.firmware
  lastTelemetryAt := session.lastTelemetryAt
  hasControl := session.localControl.isSome
  registered := session.inverterControlCommandRegistered
  settleScheduled := session.inverterControlSettleScheduled

/-- The effects by which a session joins the daemon's tables or hands it a task. -/
def isControlEffect : SessionEffect → Bool
  | .registerSession _ | .createSettleTask => true
  | .mqtt (.registerActivePowerLimitHandler _) => true
  | .mqtt (.unregisterActivePowerLimitHandler _) => true
  | _ => false

namespace ControlView

variable (view : ControlView)

def knownSerial : Option Text := view.serial.filter (· ≠ [])

/-- The version check of local control. -/
def Supported : Prop := supportsActivePowerLimit view.model view.firmware = .ok true

instance : Decidable view.Supported := inferInstanceAs (Decidable (_ = _))

/-- A registration. -/
def register (serial : Option Text) : ControlView × List SessionEffect :=
  ({ view with serial := serial },
    match serial.filter (· ≠ []) with
    | some serial => [.registerSession serial, .mqtt (.unregisterActivePowerLimitHandler serial)]
    | none => [])

/-- `_maybe_settle_inverter_control` -/
def settle : ControlView × List SessionEffect :=
  if view.settleScheduled = false ∧ view.lastTelemetryAt.isSome ∧ view.hasControl ∧
      view.registered = true then
    ({ view with settleScheduled := true }, [.createSettleTask])
  else (view, [])

/-- `_maybe_wire_active_power_limit_mqtt` -/
def wire (serial : Text) : ControlView × List SessionEffect :=
  if view.registered = false then
    ({ view with registered := true }, [.mqtt (.registerActivePowerLimitHandler serial)])
  else (view, [])

/-- The texts of a product information, where it has them. -/
def know (info : ProductInfo) : ControlView :=
  { view with
    model := textOr info.model view.model
    firmware := textOr info.firmware view.firmware }

/-- `_sync_active_power_limit_mqtt` -/
def sync : ControlView × List SessionEffect :=
  match view.knownSerial, view.hasControl with
  | some serial, true =>
    match supportsActivePowerLimit view.model view.firmware with
    | .error _ => (view, [])
    | .ok true =>
      let (wired, first) := view.wire serial
      let (settled, later) := wired.settle
      (settled, first ++ later)
    | .ok false =>
      ({ view with registered := false }, [.mqtt (.unregisterActivePowerLimitHandler serial)])
  | _, _ => (view, [])

def productInfo (info : ProductInfo) : ControlView × List SessionEffect := (view.know info).sync

def telemetry (time : Nat) : ControlView × List SessionEffect :=
  { view with lastTelemetryAt := some time }.settle

/-- What a frame of the inverter does. -/
def frame (time : Nat) (frame : Frame) : ControlView × List SessionEffect :=
  if frame.validCrc = false then (view, [])
  else if isRegistration frame then view.register (registrationSerial frame)
  else
    match Protocol.productInfo frame with
    | some info => view.productInfo info
    | none => if isTelemetry frame then view.telemetry time else (view, [])

end ControlView

/-! ## The stages that leave it alone -/

/-- The action does nothing to local control. -/
abbrev Uncontrolled {α : Type} (action : InSession α) : Prop :=
  Leaves Session.control (isControlEffect · = false) action

theorem emit_uncontrolled (event : SessionEvent) : Uncontrolled (emit event) := Leaves.perform rfl

theorem confirmInjectedWrite_uncontrolled (frame : Frame) :
    Uncontrolled (confirmInjectedWrite frame) := by
  refine confirmInjectedWrite_leaves frame fun session control confirmed known => ?_
  simp only [Session.control, known, Option.isSome_some]

theorem noteModuleInfo_uncontrolled (frame : Frame) : Uncontrolled (noteModuleInfo frame) :=
  noteModuleInfo_leaves frame (fun _ _ => rfl) fun _ _ => rfl

theorem confirmCloudWrite_uncontrolled (config : SessionConfig) (frame : Frame) :
    Uncontrolled (confirmCloudWrite config frame) :=
  confirmCloudWrite_leaves config frame (fun _ _ => rfl) fun _ _ => rfl

theorem confirmCloudWrite_total (config : SessionConfig) (frame : Frame) :
    Total (confirmCloudWrite config frame) := by
  apply Total.doWhen
  apply Total.bind Total.get
  intro session
  apply Total.bind Total.modify
  intro _
  split
  · exact Total.doWhen Total.perform
  · exact Total.pure

theorem noteClientFunc_uncontrolled (frame : Frame) : Uncontrolled (noteClientFunc frame) :=
  noteClientFunc_leaves frame fun _ _ => rfl

theorem noteMeshRole_uncontrolled (frame : Frame) : Uncontrolled (noteMeshRole frame) :=
  noteMeshRole_leaves frame (fun _ _ _ => rfl) fun _ _ _ => rfl

theorem answerBootstrap_uncontrolled (world : SessionWorld) (frame : Frame) (sendBootstrap : Bool) :
    Uncontrolled (answerBootstrap world frame sendBootstrap) :=
  answerBootstrap_leaves world frame sendBootstrap (fun _ _ => rfl) (fun _ => rfl) fun _ _ => rfl

theorem updateFaultState_uncontrolled (world : SessionWorld) (payload : Bytes) :
    Uncontrolled (updateFaultState world payload) :=
  updateFaultState_leaves world payload (fun _ _ _ _ => rfl) (fun _ _ => rfl)
    (fun _ _ _ _ _ => rfl) fun _ _ _ => rfl

theorem updateFaultState_total (world : SessionWorld) (payload : Bytes) :
    Total (updateFaultState world payload) := by
  refine Total.bind Total.get fun session => Total.ite ?_ Total.modify
  refine Total.bind Total.get fun session => Total.ite ?_ ?_
  · exact Total.bind Total.modify fun _ => Total.perform
  · exact Total.bind (Total.doWhen Total.perform) fun _ => Total.modify

theorem noteReadResponse_uncontrolled (config : SessionConfig) (frame : Frame) :
    Uncontrolled (noteReadResponse config frame) :=
  noteReadResponse_leaves (fun _ _ _ => rfl) (fun _ => rfl) config frame (fun _ _ => rfl)
    fun _ _ _ _ => rfl

theorem noteReadException_uncontrolled (config : SessionConfig) (frame : Frame) :
    Uncontrolled (noteReadException config frame) :=
  noteReadException_leaves (fun _ _ _ => rfl) (fun _ => rfl) config frame fun _ _ _ _ => rfl

/-! ## The stages that act on it -/

/-- The action does to local control what the step says. -/
abbrev Controls {α : Type} (step : ControlView → ControlView × List SessionEffect)
    (action : InSession α) : Prop :=
  Tracks Session.control isControlEffect step action

theorem register_controls (world : SessionWorld) (frame : Frame) :
    Controls (·.register (registrationSerial frame)) (register world frame) := by
  intro session
  rw [register]
  generalize registrationSerial frame = serial
  cases serial with
  | none => exact ⟨rfl, rfl⟩
  | some serial =>
    cases serial with
    | nil => exact ⟨rfl, rfl⟩
    | cons first rest => exact ⟨rfl, rfl⟩

theorem maybeSettleInverterControl_controls :
    Controls ControlView.settle maybeSettleInverterControl := by
  intro session
  rw [maybeSettleInverterControl, run_get_bind, doWhen, ControlView.settle]
  by_cases settles : session.inverterControlSettleScheduled = false ∧
      session.lastTelemetryAt.isSome ∧ session.localControl.isSome ∧
      session.inverterControlCommandRegistered = true
  · have same : session.control.settleScheduled = false ∧ session.control.lastTelemetryAt.isSome ∧
        session.control.hasControl ∧ session.control.registered = true := settles
    rw [if_pos settles, if_pos same]
    exact ⟨rfl, rfl⟩
  · have same : ¬ (session.control.settleScheduled = false ∧
        session.control.lastTelemetryAt.isSome ∧ session.control.hasControl ∧
        session.control.registered = true) := settles
    rw [if_neg settles, if_neg same]
    exact ⟨rfl, rfl⟩

theorem maybeWireActivePowerLimitMqtt_run (serial : Text) (session : Session) :
    ((maybeWireActivePowerLimitMqtt serial).run session).value = .ok () ∧
      ((maybeWireActivePowerLimitMqtt serial).run session).state.control =
        (session.control.wire serial).1 ∧
      ((maybeWireActivePowerLimitMqtt serial).run session).effects.filter isControlEffect =
        (session.control.wire serial).2 := by
  rw [maybeWireActivePowerLimitMqtt, run_get_bind, doWhen, ControlView.wire]
  by_cases unwired : session.inverterControlCommandRegistered = false
  · have same : session.control.registered = false := unwired
    rw [if_pos unwired, if_pos same]
    exact ⟨rfl, rfl, rfl⟩
  · have same : ¬ session.control.registered = false := unwired
    rw [if_neg unwired, if_neg same]
    exact ⟨rfl, rfl, rfl⟩

theorem syncActivePowerLimitMqtt_controls :
    Controls ControlView.sync syncActivePowerLimitMqtt := by
  intro session
  have sameSerial : session.control.knownSerial = session.knownSerial := rfl
  have sameControl : session.control.hasControl = session.localControl.isSome := rfl
  rw [syncActivePowerLimitMqtt, run_get_bind, ControlView.sync, sameSerial, sameControl]
  cases session.knownSerial with
  | none => exact ⟨rfl, rfl⟩
  | some serial =>
    cases known : session.localControl with
    | none => exact ⟨rfl, rfl⟩
    | some control =>
      dsimp only [Option.isSome_some]
      have sameCheck : supportsActivePowerLimit session.control.model session.control.firmware =
        supportsActivePowerLimit session.model session.firmware := rfl
      rw [sameCheck]
      cases supportsActivePowerLimit session.model session.firmware with
      | error raised => exact ⟨rfl, rfl⟩
      | ok supported =>
        cases supported with
        | false =>
          refine ⟨?_, rfl⟩
          change Session.control { session with inverterControlCommandRegistered := false } = _
          simp only [Session.control, known, Option.isSome_some]
        | true =>
          -- the handler is wired first, and the settle task may be due at once
          obtain ⟨returned, wiredView, wiredEffects⟩ :=
            maybeWireActivePowerLimitMqtt_run serial session
          rw [run_attempt_ok_bind, if_pos rfl, run_bind_ok returned, List.filter_append,
            wiredEffects]
          have settled := maybeSettleInverterControl_controls
            ((maybeWireActivePowerLimitMqtt serial).run session).state
          rw [wiredView] at settled
          exact ⟨settled.1, congrArg _ settled.2⟩

theorem noteProductInfo_controls {frame : Frame} {info : ProductInfo}
    (parsed : productInfo frame = some info) :
    Controls (·.productInfo info) (noteProductInfo frame) := by
  intro session
  rw [noteProductInfo, parsed]
  exact syncActivePowerLimitMqtt_controls _

theorem noteTelemetry_controls (world : SessionWorld) {frame : Frame}
    (telemetry : isTelemetry frame = true) :
    Controls (·.telemetry world.time) (noteTelemetry world frame) := by
  have whole : frame.payload.length = 238 := by
    simp only [isTelemetry, decide_eq_true_eq] at telemetry
    exact telemetry.2.2.2
  rw [noteTelemetry, doWhen, if_pos telemetry]
  apply Tracks.leavesThen (updateFaultState_uncontrolled world _) (updateFaultState_total world _)
  intro _ session
  obtain ⟨decoded, isDecoded⟩ := decodeTelemetry_ok session.telemetrySource whole
  rw [run_get_bind, isDecoded]
  exact maybeSettleInverterControl_controls _

/-! ## Frames -/

theorem noteProductInfo_uncontrolled {frame : Frame} (nothing : productInfo frame = none) :
    Uncontrolled (noteProductInfo frame) := by
  rw [noteProductInfo, nothing]
  exact Leaves.pure

theorem noteTelemetry_uncontrolled (world : SessionWorld) {frame : Frame}
    (other : isTelemetry frame = false) : Uncontrolled (noteTelemetry world frame) := by
  rw [noteTelemetry, doWhen, if_neg (by rw [other]; exact Bool.false_ne_true)]
  exact Leaves.pure

theorem productInfo_isSome {frame : Frame} {info : ProductInfo}
    (parsed : productInfo frame = some info) : isProductInfo frame = true := by
  rw [productInfo] at parsed
  split at parsed
  · assumption
  · cases parsed

theorem not_isTelemetry_of_isProductInfo {frame : Frame} (isInfo : isProductInfo frame = true) :
    isTelemetry frame = false := by
  rw [isProductInfo, decide_eq_true_eq] at isInfo
  rw [isTelemetry, decide_eq_false_iff_not]
  rintro ⟨_, device, _⟩
  rw [isInfo.2.1] at device
  exact absurd device (by decide)

/-- A registration has a payload of its own length. -/
theorem kinds_of_isRegistration {frame : Frame} (registers : isRegistration frame = true) :
    productInfo frame = none ∧ isTelemetry frame = false := by
  rw [isRegistration, decide_eq_true_eq] at registers
  have length := registers.2.1
  constructor
  · rw [productInfo, if_neg]
    rw [isProductInfo, decide_eq_true_eq]
    rintro ⟨_, _, _, long⟩
    omega
  · rw [isTelemetry, decide_eq_false_iff_not]
    rintro ⟨_, _, _, whole⟩
    omega

/-- A telemetry frame is no registration. -/
theorem isRegistration_of_isTelemetry {frame : Frame} (telemetry : isTelemetry frame = true) :
    isRegistration frame = false := by
  cases registers : isRegistration frame with
  | false => rfl
  | true => exact absurd telemetry (by rw [(kinds_of_isRegistration registers).2]; decide)

theorem productInfo_of_isTelemetry {frame : Frame} (telemetry : isTelemetry frame = true) :
    productInfo frame = none := by
  cases parsed : productInfo frame with
  | none => rfl
  | some info =>
    exact absurd telemetry
      (by rw [not_isTelemetry_of_isProductInfo (productInfo_isSome parsed)]; decide)

/-- What comes after the telemetry of a frame. -/
theorem noteReads_uncontrolled (config : SessionConfig) (frame : Frame) :
    Uncontrolled (do noteReadResponse config frame; noteReadException config frame) :=
  Leaves.bind (noteReadResponse_uncontrolled config frame) fun _ =>
    noteReadException_uncontrolled config frame

/-- What comes after the product information of a frame that is no telemetry. -/
theorem laterStages_uncontrolled (config : SessionConfig) (world : SessionWorld) {frame : Frame}
    (sendBootstrap : Bool) (other : isTelemetry frame = false) :
    Uncontrolled (do
      noteModuleInfo frame
      noteMeshRole frame
      answerBootstrap world frame sendBootstrap
      noteTelemetry world frame
      noteReadResponse config frame
      noteReadException config frame) :=
  Leaves.bind (noteModuleInfo_uncontrolled frame) fun _ =>
    Leaves.bind (noteMeshRole_uncontrolled frame) fun _ =>
      Leaves.bind (answerBootstrap_uncontrolled world frame sendBootstrap) fun _ =>
        Leaves.bind (noteTelemetry_uncontrolled world other) fun _ =>
          noteReads_uncontrolled config frame

/-- A telemetry frame is of no other kind, and gets no answer of the handshake. -/
theorem kinds_of_isTelemetry {frame : Frame} (wellFormed : frame.WellFormed)
    (telemetry : isTelemetry frame = true) :
    noteModuleInfo frame = pure () ∧ noteMeshRole frame = pure () ∧
      ∀ step, bootstrapAnswer step frame = none := by
  have notRegistered := isRegistration_of_isTelemetry telemetry
  simp only [isTelemetry, decide_eq_true_eq] at telemetry
  obtain ⟨start, device, _, length⟩ := telemetry
  have whole : frame.payload.length = 238 := length
  obtain ⟨_, total, _, _, _, _, payload, _⟩ := parseFrame_ok wellFormed.parsed
  have rawLength : frame.raw.length = 251 := by
    rw [payload, slice_length _ (by omega)] at whole
    omega
  refine ⟨?_, ?_, fun step => ?_⟩
  · have notModule : ¬ (isModuleInfo frame = true ∧ moduleInfo frame ≠ []) := by
      rintro ⟨isModule, _⟩
      simp only [isModuleInfo, decide_eq_true_eq, device] at isModule
      exact absurd isModule.2.1 (by decide)
    rw [noteModuleInfo, doWhen, if_neg notModule]
  · have other : frame.start ≠ marker7f := by rw [start]; decide
    simp only [noteMeshRole, declaredMeshRole, isMeshRootFrame, isMeshFollowerFrame, other,
      false_and,
      decide_false, ne_eq, not_false_eq_true, true_or, if_true, Bool.false_eq_true, if_false]
  · simp [bootstrapAnswer, notRegistered, rawLength]

theorem answerBootstrap_total {world : SessionWorld} {frame : Frame} {sendBootstrap : Bool}
    (silent : ∀ step, bootstrapAnswer step frame = none) :
    Total (answerBootstrap world frame sendBootstrap) := by
  apply Total.doWhen
  intro session
  rw [run_get_bind, BootstrapResponder.responseFor, silent]
  exact ⟨(), rfl⟩

/-- **What a frame does to local control.**  Where `handleFrame` raises, nothing that it would
have done after that concerns local control. -/
theorem handleFrame_controls (config : SessionConfig) (world : SessionWorld) {frame : Frame}
    (sendBootstrap : Bool) (wellFormed : frame.WellFormed) :
    Controls (·.frame world.time frame) (Session.handleFrame config world frame sendBootstrap) := by
  apply Tracks.leavesThen Leaves.get Total.get
  intro session
  apply Tracks.leavesThen (emit_uncontrolled _) Total.perform
  intro _
  cases valid : frame.validCrc with
  | false =>
    simp only [ControlView.frame, valid, if_true]
    exact (emit_uncontrolled _).tracks
  | true =>
    simp only [ControlView.frame, valid, Bool.true_eq_false, if_false]
    apply Tracks.leavesThen (confirmInjectedWrite_uncontrolled frame) Total.modify
    intro _
    apply Tracks.leavesThen (confirmCloudWrite_uncontrolled config frame)
      (confirmCloudWrite_total config frame)
    intro _
    cases registers : isRegistration frame with
    | true =>
      -- a registration is neither product information nor telemetry
      obtain ⟨noInfo, noTelemetry⟩ := kinds_of_isRegistration registers
      simp only [if_true, noteRegistration, registers]
      apply Tracks.thenLeaves (register_controls world frame)
      intro _
      exact Leaves.bind (noteProductInfo_uncontrolled noInfo) fun _ =>
        laterStages_uncontrolled config world sendBootstrap noTelemetry
    | false =>
      simp only [Bool.false_eq_true, if_false, noteRegistration, registers]
      apply Tracks.leavesThen (noteClientFunc_uncontrolled frame) Total.modify
      intro _
      cases parsed : productInfo frame with
      | some info =>
        have noTelemetry := not_isTelemetry_of_isProductInfo (productInfo_isSome parsed)
        apply Tracks.thenLeaves (noteProductInfo_controls parsed)
        intro _
        exact laterStages_uncontrolled config world sendBootstrap noTelemetry
      | none =>
        cases telemetry : isTelemetry frame with
        | false =>
          simp only [Bool.false_eq_true, if_false]
          exact (Leaves.bind (noteProductInfo_uncontrolled parsed) fun _ =>
            laterStages_uncontrolled config world sendBootstrap telemetry).tracks
        | true =>
          -- telemetry comes last, so the stages before it must do nothing to be left out
          obtain ⟨noModule, noMesh, silent⟩ := kinds_of_isTelemetry wellFormed telemetry
          simp only [if_true, noteProductInfo, parsed, noModule, noMesh]
          apply Tracks.leavesThen (answerBootstrap_uncontrolled world frame sendBootstrap)
            (answerBootstrap_total silent)
          intro _
          apply Tracks.thenLeaves (noteTelemetry_controls world telemetry)
          exact fun _ => noteReads_uncontrolled config frame

end FoxessGateway.Server
