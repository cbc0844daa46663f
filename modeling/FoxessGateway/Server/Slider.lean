import FoxessGateway.Mqtt.Retained
import FoxessGateway.Server.DaemonSteps

/-! # The retained slider

Sessions that announce and remove the slider of the ActivePowerLimit, with the broker and what it
retained from earlier runs of the daemon.  Whether the slider that is retained for an inverter
follows its firmware depends on the books that the publisher and the sessions keep of it. -/

namespace FoxessGateway.Server

open Protocol Effectful Action Runs Mqtt

/-! ## The operations of a frame -/

/-- The operation as the publisher runs it. -/
def MqttOperation.action : MqttOperation → MqttAction
  | registerActivePowerLimitHandler serial => .registerActivePowerLimitHandler serial
  | unregisterActivePowerLimitHandler serial => .unregisterActivePowerLimitHandler serial
  | publishActivePowerLimitDiscovery serial => .publishActivePowerLimitDiscovery serial
  | clearActivePowerLimitDiscovery serial => .clearActivePowerLimitDiscovery serial
  | publishActivePowerLimitState serial value => .publishActivePowerLimitState serial value

/-- The operations of the publisher among the effects of a session. -/
def SessionEffect.operation : SessionEffect → Option MqttOperation
  | mqtt operation => some operation
  | _ => none

/-- The operations on the slider among the effects of a session. -/
def sliderOperations (effects : List SessionEffect) : List MqttOperation :=
  (effects.filterMap SessionEffect.operation).filter (·.action.isSlider)

/-- What a session does with the slider when it does something with the handler. -/
def SessionEffect.sliderPartner : SessionEffect → Option MqttOperation
  | mqtt (.registerActivePowerLimitHandler serial) =>
    some (.publishActivePowerLimitDiscovery serial)
  | mqtt (.unregisterActivePowerLimitHandler serial) =>
    some (.clearActivePowerLimitDiscovery serial)
  | _ => none

/-- The slider goes with the handler. -/
def Paired (effects : List SessionEffect) : Prop :=
  sliderOperations effects = effects.filterMap SessionEffect.sliderPartner

theorem Paired.append {first later : List SessionEffect} (early : Paired first)
    (late : Paired later) : Paired (first ++ later) := by
  rw [Paired, sliderOperations, List.filterMap_append, List.filter_append, List.filterMap_append]
  exact congrArg₂ (· ++ ·) early late

/-- The effect is about no handler and no slider. -/
def SessionEffect.isUnpaired (effect : SessionEffect) : Bool :=
  effect.sliderPartner.isNone && effect.operation.all fun operation => !operation.action.isSlider

theorem Paired.of_unpaired {effects : List SessionEffect}
    (unpaired : ∀ effect ∈ effects, effect.isUnpaired = true) : Paired effects := by
  have parts : ∀ effect ∈ effects, effect.sliderPartner = none ∧
      ∀ operation, effect.operation = some operation → operation.action.isSlider = false := by
    intro effect member
    obtain ⟨noPartner, noSlider⟩ := Bool.and_eq_true_iff.mp (unpaired effect member)
    refine ⟨Option.isNone_iff_eq_none.mp noPartner, fun operation isOperation => ?_⟩
    rw [isOperation] at noSlider
    exact Bool.not_eq_true' _ ▸ noSlider
  have noPartner : effects.filterMap SessionEffect.sliderPartner = [] :=
    List.filterMap_eq_nil_iff.mpr fun effect member => (parts effect member).1
  rw [Paired, noPartner, sliderOperations, List.filter_eq_nil_iff]
  intro operation member
  obtain ⟨effect, isEffect, isOperation⟩ := List.mem_filterMap.mp member
  rw [(parts effect isEffect).2 operation isOperation]
  exact Bool.false_ne_true

/-- In whatever the action does, the slider goes with the handler. -/
def Pairs {α : Type} (action : InSession α) : Prop :=
  ∀ session, Paired (action.run session).effects

theorem Pairs.bind {α β : Type} {action : InSession α} {next : α → InSession β}
    (first : Pairs action) (later : ∀ value, Pairs (next value)) : Pairs (action >>= next) := by
  intro session
  obtain ⟨raised, ran⟩ | ⟨value, _, ran⟩ := run_bind_cases action next session
  · rw [ran]
    exact first session
  · rw [ran]
    exact (first session).append (later value _)

/-- The action is about no handler and no slider. -/
abbrev Unpaired {α : Type} (action : InSession α) : Prop :=
  Leaves (fun _ => ()) (·.isUnpaired = true) action

theorem Pairs.of_unpaired {α : Type} {action : InSession α} (unpaired : Unpaired action) :
    Pairs action :=
  fun session => Paired.of_unpaired (unpaired.shows session)

theorem adoptSerial_pairs (world : SessionWorld) (serial : Text) :
    Pairs (adoptSerial world serial) := fun _ => rfl

theorem register_pairs (world : SessionWorld) (frame : Frame) : Pairs (register world frame) := by
  refine Pairs.bind (fun _ => rfl) fun _ => Pairs.bind ?_ fun _ => Pairs.bind (fun _ => rfl)
    fun session => fun _ => rfl
  refine Pairs.bind (fun _ => rfl) fun session => ?_
  split
  · exact adoptSerial_pairs world _
  · exact fun _ => rfl

theorem maybeWireActivePowerLimitMqtt_pairs (serial : Text) :
    Pairs (maybeWireActivePowerLimitMqtt serial) := by
  refine Pairs.bind (fun _ => rfl) fun session => ?_
  rw [doWhen]
  split
  · exact fun _ => rfl
  · exact fun _ => rfl

theorem maybeSettleInverterControl_pairs : Pairs maybeSettleInverterControl := by
  refine Pairs.bind (fun _ => rfl) fun session => ?_
  rw [doWhen]
  split
  · exact fun _ => rfl
  · exact fun _ => rfl

theorem syncActivePowerLimitMqtt_pairs : Pairs syncActivePowerLimitMqtt := by
  refine Pairs.bind (fun _ => rfl) fun session => ?_
  split
  · refine Pairs.bind (fun _ => rfl) fun supported => ?_
    split
    · exact Pairs.bind (maybeWireActivePowerLimitMqtt_pairs _) fun _ =>
        maybeSettleInverterControl_pairs
    · exact fun _ => rfl
  · exact fun _ => rfl

theorem noteRegistration_pairs (world : SessionWorld) (frame : Frame) :
    Pairs (noteRegistration world frame) := by
  rw [noteRegistration]
  split
  · exact register_pairs world frame
  · exact .of_unpaired (noteClientFunc_leaves frame fun _ _ => rfl)

theorem noteProductInfo_pairs (frame : Frame) : Pairs (noteProductInfo frame) := by
  rw [noteProductInfo]
  split
  · exact fun _ => rfl
  · refine Pairs.bind (fun _ => rfl) fun _ => Pairs.bind (fun _ => rfl) fun _ => ?_
    exact Pairs.bind (fun _ => rfl) fun _ => syncActivePowerLimitMqtt_pairs

theorem confirmInjectedWrite_pairs (frame : Frame) : Pairs (confirmInjectedWrite frame) :=
  fun _ => rfl

theorem noteTelemetry_pairs (world : SessionWorld) (frame : Frame) :
    Pairs (noteTelemetry world frame) := by
  apply Pairs.of_unpaired
  apply noteTelemetry_leaves world frame
  · exact updateFaultState_leaves world _ (fun _ _ _ _ => rfl) (fun _ _ => rfl)
      (fun _ _ _ _ _ => rfl) fun _ _ _ => rfl
  · exact fun _ _ => rfl
  · exact fun _ _ => rfl
  · exact maybeSettleInverterControl_leaves (fun _ _ => rfl) rfl

theorem handleValidFrame_pairs (config : SessionConfig) (world : SessionWorld) (frame : Frame)
    (sendBootstrap : Bool) : Pairs (handleValidFrame config world frame sendBootstrap) := by
  apply Pairs.bind (confirmInjectedWrite_pairs frame)
  intro _
  apply Pairs.bind (.of_unpaired (confirmCloudWrite_leaves config frame (fun _ _ => rfl)
    fun _ _ => rfl))
  intro _
  apply Pairs.bind (noteRegistration_pairs world frame)
  intro _
  apply Pairs.bind (noteProductInfo_pairs frame)
  intro _
  apply Pairs.bind (.of_unpaired (noteModuleInfo_leaves frame (fun _ _ => rfl) fun _ _ => rfl))
  intro _
  apply Pairs.bind (.of_unpaired (noteMeshRole_leaves frame (fun _ _ _ => rfl) fun _ _ _ => rfl))
  intro _
  apply Pairs.bind (.of_unpaired (answerBootstrap_leaves world frame sendBootstrap
    (fun _ _ => rfl) (fun _ => rfl) fun _ _ => rfl))
  intro _
  apply Pairs.bind (noteTelemetry_pairs world frame)
  intro _
  apply Pairs.bind (.of_unpaired (noteReadResponse_leaves (fun _ _ _ => rfl) (fun _ => rfl) config
    frame (fun _ _ => rfl) fun _ _ _ _ => rfl))
  intro _
  exact .of_unpaired (noteReadException_leaves (fun _ _ _ => rfl) (fun _ => rfl) config frame
    fun _ _ _ _ => rfl)

theorem clientFrame_pairs (config : SessionConfig) (world : SessionWorld) (frame : Frame)
    (sendBootstrap : Bool) : Pairs (clientFrame config world frame sendBootstrap) := by
  refine Pairs.bind ?_ fun _ => Pairs.bind (fun _ => rfl) fun session => ?_
  · intro session
    rw [handleFirmwareUploadFrame_run]
    rfl
  · refine Pairs.bind (fun _ => rfl) fun _ => ?_
    split
    · exact fun _ => rfl
    · exact handleValidFrame_pairs config world frame sendBootstrap

/-- The operations on the slider are read off what the frame does to local control. -/
theorem clientFrame_sliderOperations (config : SessionConfig) (world : SessionWorld)
    (wire : WireFrame) (sendBootstrap : Bool) (session : Session) :
    sliderOperations ((clientFrame config world wire.frame sendBootstrap).run session).effects =
      (session.control.frame world.time wire.frame).2.filterMap SessionEffect.sliderPartner := by
  have paired := clientFrame_pairs config world wire.frame sendBootstrap session
  obtain ⟨_, effects⟩ := Daemon.clientFrame_controls config world wire sendBootstrap session
  rw [Paired] at paired
  rw [← effects, paired, List.filterMap_filter]
  apply List.filterMap_congr
  intro effect _
  cases effect with
  | mqtt operation => cases operation <;> rfl
  | _ => exact (ite_self none).symm

/-- What a frame does to a session's part of the books, and with the slider. -/
inductive SliderOutcome (frame : Frame) (view : ControlView) :
    ControlView → List MqttOperation → Prop
  | kept {next : ControlView} (serial : next.serial = view.serial)
      (registered : next.registered = view.registered) : SliderOutcome frame view next []
  | unnamed {next : ControlView} (nothing : next.knownSerial = none) :
      SliderOutcome frame view next []
  | named {serial : Text} (valid : frame.validCrc = true) (registers : isRegistration frame = true)
      (names : registrationSerial frame = some serial) (nonempty : serial ≠ []) :
      SliderOutcome frame view { view with serial := some serial }
        [.clearActivePowerLimitDiscovery serial]
  | wired {next : ControlView} {serial : Text} {info : ProductInfo}
      (valid : frame.validCrc = true) (parsed : productInfo frame = some info)
      (known : view.knownSerial = some serial) (controlled : view.hasControl = true)
      (unwired : view.registered = false) (supported : (view.know info).Supported)
      (sameSerial : next.serial = view.serial) (registered : next.registered = true) :
      SliderOutcome frame view next [.publishActivePowerLimitDiscovery serial]
  | withdrawn {serial : Text} {info : ProductInfo} (valid : frame.validCrc = true)
      (parsed : productInfo frame = some info) (known : view.knownSerial = some serial)
      (controlled : view.hasControl = true) (unsupported : ¬ (view.know info).Supported) :
      SliderOutcome frame view { view.know info with registered := false }
        [.clearActivePowerLimitDiscovery serial]

theorem settle_slider (view : ControlView) :
    view.settle.1.serial = view.serial ∧ view.settle.1.registered = view.registered ∧
      view.settle.2.filterMap SessionEffect.sliderPartner = [] := by
  obtain same | ⟨_, _, same⟩ := view.settle_cases
  · rw [same]
    exact ⟨rfl, rfl, rfl⟩
  · rw [same]
    exact ⟨rfl, rfl, rfl⟩

theorem sliderOutcome (time : Nat) (frame : Frame) (view : ControlView) :
    SliderOutcome frame view (view.frame time frame).1
      ((view.frame time frame).2.filterMap SessionEffect.sliderPartner) := by
  obtain same | ⟨valid, registers, same⟩ | ⟨info, valid, parsed, same⟩ | ⟨_, same⟩ :=
    view.frame_cases time frame
  · rw [same]
    exact .kept rfl rfl
  · rw [same, ControlView.register]
    cases named : (registrationSerial frame).filter (· ≠ []) with
    | none => exact .unnamed named
    | some serial =>
      obtain ⟨names, nonempty⟩ := Option.filter_eq_some_iff.mp named
      have outcome : SliderOutcome frame view _ _ :=
        .named valid registers names (of_decide_eq_true nonempty)
      rwa [names]
  · rw [same, ControlView.productInfo]
    obtain ⟨_, nothing⟩ | ⟨serial, known, controlled, ⟨supported, synced⟩ |
      ⟨unsupported, synced⟩⟩ := (view.know info).sync_cases
    · rw [nothing]
      exact .kept rfl rfl
    · rw [synced]
      obtain ⟨_, wired⟩ | ⟨unwired, wired⟩ := (view.know info).wire_cases serial
      · obtain ⟨sameSerial, sameFlag, silent⟩ := settle_slider (view.know info)
        rw [wired, List.filterMap_append, silent]
        exact .kept sameSerial sameFlag
      · obtain ⟨sameSerial, sameFlag, silent⟩ :=
          settle_slider { view.know info with registered := true }
        rw [wired, List.filterMap_append, silent]
        exact .wired valid parsed known controlled unwired supported sameSerial sameFlag
    · rw [synced]
      exact .withdrawn valid parsed known controlled unsupported
  · rw [same, ControlView.telemetry]
    obtain ⟨sameSerial, sameFlag, silent⟩ :=
      settle_slider { view with lastTelemetryAt := some time }
    rw [silent]
    exact .kept sameSerial sameFlag

/-! ## Operations at the broker -/

section Operations

variable {config : MqttConfig} {deviceNames : Dict Text Text} {world next : BrokerWorld}
  {accepts : Message → Bool} {operations : List MqttOperation} {shown : List MqttEffect}

/-- The steps of the publisher for the operations. -/
def operationSteps (accepts : Message → Bool) (operations : List MqttOperation) : List MqttStep :=
  operations.map fun operation => ⟨operation.action, accepts⟩

/-- Operations are never refused. -/
theorem operations_ran (config : MqttConfig) (deviceNames : Dict Text Text) (world : BrokerWorld)
    (accepts : Message → Bool) (operations : List MqttOperation) :
    ∃ next shown, run (brokerMachine config deviceNames) world (operationSteps accepts operations) =
      some (next, shown) := by
  induction operations generalizing world with
  | nil => exact ⟨world, [], rfl⟩
  | cons operation operations inductionHypothesis =>
    obtain ⟨middle, effects, stepped⟩ : ∃ middle effects,
        brokerMachine config deviceNames world ⟨operation.action, accepts⟩ =
          some (middle, effects) := by
      cases operation <;> exact ⟨_, _, rfl⟩
    obtain ⟨next, shown, ran⟩ := inductionHypothesis middle
    exact ⟨next, effects ++ shown, run_step stepped ran⟩

/-- An operation that is none of the slider's own. -/
theorem operation_alike {operation : MqttOperation} (other : operation.action.isSlider = false)
    (stepped : brokerMachine config deviceNames world ⟨operation.action, accepts⟩ =
      some (next, shown)) : world.Alike config next := by
  have aside (aside : Mqtt.Aside config
        (operation.action.run config deviceNames world.mqtt.links.length))
      (begins : world.mqtt.linksAt operation.action = some world.mqtt.links) :
      world.Alike config next := by
    obtain ⟨books, sliders⟩ := aside_step aside stepped
    exact ⟨books, sliders, aside_ready aside begins stepped⟩
  cases operation with
  | registerActivePowerLimitHandler serial =>
    exact aside (registerActivePowerLimitHandler_aside config serial) rfl
  | unregisterActivePowerLimitHandler serial =>
    exact aside (unregisterActivePowerLimitHandler_aside config serial) rfl
  | publishActivePowerLimitDiscovery serial => cases other
  | clearActivePowerLimitDiscovery serial => cases other
  | publishActivePowerLimitState serial value =>
    exact aside (publishActivePowerLimitState_aside config serial value) rfl

theorem operations_alike (others : operations.filter (·.action.isSlider) = [])
    (ran : run (brokerMachine config deviceNames) world (operationSteps accepts operations) =
      some (next, shown)) : world.Alike config next := by
  induction operations generalizing world shown with
  | nil =>
    cases ran
    exact .refl config _
  | cons operation operations inductionHypothesis =>
    obtain ⟨middle, _, _, stepped, continued, _⟩ := run_cons_eq_some.mp ran
    have other : operation.action.isSlider = false := by
      simpa using (List.filter_eq_nil_iff.mp others) operation List.mem_cons_self
    rw [List.filter_cons, if_neg (by rw [other]; exact Bool.false_ne_true)] at others
    exact (operation_alike other stepped).trans (inductionHypothesis others continued)

/-- The one operation on the slider, between two worlds like those at the ends. -/
theorem operations_slider {operation : MqttOperation}
    (one : operations.filter (·.action.isSlider) = [operation])
    (ran : run (brokerMachine config deviceNames) world (operationSteps accepts operations) =
      some (next, shown)) :
    ∃ before after effects, world.Alike config before ∧
      brokerMachine config deviceNames before ⟨operation.action, accepts⟩ =
        some (after, effects) ∧ after.Alike config next := by
  obtain ⟨early, late, rfl, none, _, rest⟩ := List.filter_eq_cons_iff.mp one
  rw [operationSteps, List.map_append, List.map_cons] at ran
  obtain ⟨before, _, _, reached, later, _⟩ := run_append_eq_some ran
  obtain ⟨after, effects, _, stepped, continued, _⟩ := run_cons_eq_some.mp later
  exact ⟨before, after, effects, operations_alike (List.filter_eq_nil_iff.mpr none) reached,
    stepped, operations_alike rest continued⟩

theorem operations_announce {serial : Text}
    (one : operations.filter (·.action.isSlider) = [.publishActivePowerLimitDiscovery serial])
    (ran : run (brokerMachine config deviceNames) world (operationSteps accepts operations) =
      some (next, shown)) : Announces config accepts serial world next := by
  obtain ⟨before, after, effects, early, stepped, late⟩ := operations_slider one ran
  exact (announce_step stepped).1.congr early late

theorem operations_withdraw {serial : Text}
    (one : operations.filter (·.action.isSlider) = [.clearActivePowerLimitDiscovery serial])
    (ran : run (brokerMachine config deviceNames) world (operationSteps accepts operations) =
      some (next, shown)) : Withdraws config accepts serial world next := by
  obtain ⟨before, after, effects, early, stepped, late⟩ := operations_slider one ran
  exact (withdraw_step stepped).1.congr early late

end Operations

end FoxessGateway.Server
