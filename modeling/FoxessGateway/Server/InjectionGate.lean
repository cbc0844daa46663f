import FoxessGateway.Server.Routing

/-! # The injection gate

Local control asks for telemetry and a supported version when it wires a session and when it
schedules the settle task.  When that is so for every request that is written. -/

namespace FoxessGateway.Server

open Protocol Runs Mqtt

/-! ## Sessions behind the gate -/

/-- Local control of a supported model and firmware. -/
def ControlView.Ready (view : ControlView) : Prop := view.hasControl = true ∧ view.Supported

namespace Daemon

variable (daemon : Daemon) (session : Nat)

def IsReady : Prop := ∃ view, daemon.controlOf session = some view ∧ view.Ready

/-- The session has received telemetry. -/
def HasTelemetry : Prop :=
  ∃ view, daemon.controlOf session = some view ∧ view.lastTelemetryAt.isSome = true

/-- A coroutine or task of the session is still to run. -/
def HasWork : Prop :=
  (∃ queued ∈ daemon.setpoints, queued.session = session) ∨ session ∈ daemon.tables.settleTasks ∨
    ∃ write ∈ daemon.writes, write.session = session

variable {daemon session} {next : Daemon}

theorem SameControl.isReady (same : daemon.SameControl next) :
    next.IsReady session ↔ daemon.IsReady session := by
  rw [IsReady, IsReady, same.controls]

theorem SameControl.hasTelemetry (same : daemon.SameControl next) :
    next.HasTelemetry session ↔ daemon.HasTelemetry session := by
  rw [HasTelemetry, HasTelemetry, same.controls]

end Daemon

/-- A setpoint's coroutine runs after the first telemetry, and product information that takes
the support away finds no work of its session on its way, nor a topic that would go on leading to
it. -/
def KeepsGate (config : DaemonConfig) (daemon : Daemon) : DaemonAction → Prop
  | .setpoint place => ∀ queued, daemon.setpoints[place]? = some queued →
      daemon.HasTelemetry queued.session
  | .frame session _ wire _ => wire.frame.validCrc = true → ∀ view info,
      daemon.controlOf session = some view → productInfo wire.frame = some info →
      view.hasControl = true → ¬ (view.know info).Supported →
        (view.registered = true → view.knownSerial.isSome = true) ∧
        (∀ serial, daemon.handlerOf config serial = some session →
          view.knownSerial = some serial) ∧
        ¬ daemon.HasWork session
  | _ => True

/-- Whatever leads to a request leads to a session behind the gate. -/
structure Gated (config : DaemonConfig) (daemon : Daemon) : Prop where
  short : ∀ {session view}, daemon.controlOf session = some view → view.firmware.length ≤ 4300
  flagged : ∀ {session}, daemon.IsWired session → daemon.IsReady session
  handled : ∀ {serial session}, daemon.handlerOf config serial = some session →
    daemon.IsReady session
  queued : ∀ {queued}, queued ∈ daemon.setpoints → daemon.IsReady queued.session
  due : ∀ {session}, session ∈ daemon.tables.settleTasks →
    daemon.IsReady session ∧ daemon.HasTelemetry session
  awaited : ∀ {write}, write ∈ daemon.writes →
    daemon.IsReady write.session ∧ daemon.HasTelemetry write.session

/-! ## One frame -/

/-- The frame is product information that leaves local control without support. -/
def ControlView.Withdraws (view : ControlView) (frame : Frame) : Prop :=
  frame.validCrc = true ∧ view.hasControl = true ∧
    ∃ info, Protocol.productInfo frame = some info ∧ ¬ (view.know info).Supported

/-- A session stays behind the gate, and what newly leads to it finds it there. -/
structure GateKept (session : Nat) (view : ControlView) (tables : Tables) (after : ControlView)
    (next : Tables) : Prop where
  ready : view.Ready → after.Ready
  telemetry : view.lastTelemetryAt.isSome = true → after.lastTelemetryAt.isSome = true
  registered : view.registered = true → after.registered = true
  flagged : after.registered = true → view.registered = true ∨ after.Ready
  handlers : ∀ topic other, next.commandHandlers.get topic = some other →
    tables.commandHandlers.get topic = some other ∨ (other = session ∧ after.Ready)
  settleTasks : ∀ other ∈ next.settleTasks, other ∈ tables.settleTasks ∨
    (other = session ∧ after.registered = true ∧ after.lastTelemetryAt.isSome = true)

namespace GateKept

variable {session : Nat} {view middle after : ControlView} {tables between next : Tables}

theorem refl (session : Nat) (view : ControlView) (tables : Tables) :
    GateKept session view tables view tables where
  ready isReady := isReady
  telemetry received := received
  registered isRegistered := isRegistered
  flagged isRegistered := .inl isRegistered
  handlers _ _ handled := .inl handled
  settleTasks _ isDue := .inl isDue

theorem trans (first : GateKept session view tables middle between)
    (second : GateKept session middle between after next) :
    GateKept session view tables after next where
  ready isReady := second.ready (first.ready isReady)
  telemetry received := second.telemetry (first.telemetry received)
  registered isRegistered := second.registered (first.registered isRegistered)
  flagged isRegistered := by
    rcases second.flagged isRegistered with before | isReady
    · exact (first.flagged before).imp_right second.ready
    · exact .inr isReady
  handlers topic other handled := by
    rcases second.handlers topic other handled with before | isReady
    · exact (first.handlers topic other before).imp_right fun wired =>
        ⟨wired.1, second.ready wired.2⟩
    · exact .inr isReady
  settleTasks other isDue := by
    rcases second.settleTasks other isDue with before | scheduled
    · exact (first.settleTasks other before).imp_right fun scheduled =>
        ⟨scheduled.1, second.registered scheduled.2.1, second.telemetry scheduled.2.2⟩
    · exact .inr scheduled

/-- Handlers that go, and a serial that changes. -/
theorem of_pop (ready : view.Ready → after.Ready)
    (telemetry : after.lastTelemetryAt = view.lastTelemetryAt)
    (registered : after.registered = view.registered)
    (handlers : ∀ topic other, next.commandHandlers.get topic = some other →
      tables.commandHandlers.get topic = some other)
    (settleTasks : next.settleTasks = tables.settleTasks) :
    GateKept session view tables after next where
  ready := ready
  telemetry received := by rwa [telemetry]
  registered isRegistered := by rwa [registered]
  flagged isRegistered := .inl (by rwa [← registered])
  handlers topic other handled := .inl (handlers topic other handled)
  settleTasks other isDue := .inl (settleTasks ▸ isDue)

end GateKept

section Frame

variable (topicPrefix : Text) (session : Nat) (view : ControlView) (tables : Tables)

theorem gateKept_settle :
    GateKept session view tables view.settle.1
      (tables.applyAll topicPrefix session view.settle.2) := by
  obtain same | ⟨received, isRegistered, same⟩ := view.settle_cases
  · rw [same]
    exact .refl session view tables
  · rw [same]
    refine ⟨fun isReady => isReady, fun _ => received, fun _ => isRegistered,
      fun _ => .inl isRegistered, fun _ _ handled => .inl handled, fun other isDue => ?_⟩
    rcases List.mem_append.mp isDue with before | now
    · exact .inl before
    · exact .inr ⟨List.mem_singleton.mp now, isRegistered, received⟩

theorem gateKept_wire (isReady : view.Ready) (serial : Text) :
    GateKept session view tables (view.wire serial).1
      (tables.applyAll topicPrefix session (view.wire serial).2) := by
  obtain ⟨_, same⟩ | ⟨_, same⟩ := view.wire_cases serial
  · rw [same]
    exact .refl session view tables
  · rw [same]
    refine ⟨fun _ => isReady, fun received => received, fun _ => rfl, fun _ => .inr isReady,
      fun topic other handled => ?_, fun _ isDue => .inl isDue⟩
    have handledThen : (tables.commandHandlers.set (activePowerLimitCommandTopic topicPrefix serial)
        session).get topic = some other := handled
    rw [Dict.get_set] at handledThen
    split at handledThen
    · exact .inr ⟨(Option.some.inj handledThen).symm, isReady⟩
    · exact .inl handledThen

theorem gateKept_register (serial : Option Text) :
    GateKept session view tables (view.register serial).1
      (tables.applyAll topicPrefix session (view.register serial).2) := by
  rw [ControlView.register]
  cases serial.filter (· ≠ []) with
  | none => exact .of_pop (fun isReady => isReady) rfl rfl (fun _ _ handled => handled) rfl
  | some named =>
    refine .of_pop (fun isReady => isReady) rfl rfl (fun topic other handled => ?_) rfl
    have handledThen : (tables.commandHandlers.pop
        (activePowerLimitCommandTopic topicPrefix named)).get topic = some other := handled
    rw [Dict.get_pop] at handledThen
    split at handledThen
    · cases handledThen
    · exact handledThen

theorem gateKept_productInfo {info : ProductInfo}
    (supported : view.hasControl = true → (view.know info).Supported) :
    GateKept session view tables (view.productInfo info).1
      (tables.applyAll topicPrefix session (view.productInfo info).2) := by
  have known : GateKept session view tables (view.know info) tables :=
    .of_pop (fun isReady => ⟨isReady.1, supported isReady.1⟩) rfl rfl
      (fun _ _ handled => handled) rfl
  rw [ControlView.productInfo]
  obtain ⟨_, nothing⟩ | ⟨serial, _, controlled, ⟨isSupported, synced⟩ | ⟨unsupported, _⟩⟩ :=
    (view.know info).sync_cases
  · rw [nothing]
    exact known
  · rw [synced, applyAll_append]
    have wired := gateKept_wire topicPrefix session (view.know info) tables
      ⟨controlled, isSupported⟩ serial
    exact (known.trans wired).trans (gateKept_settle topicPrefix session _ _)
  · exact absurd (supported controlled) unsupported

/-- A frame that does not withdraw the support. -/
theorem frame_gateKept {frame : Frame} (time : Nat) (keeps : ¬ view.Withdraws frame) :
    GateKept session view tables (view.frame time frame).1
      (tables.applyAll topicPrefix session (view.frame time frame).2) := by
  obtain same | ⟨_, _, same⟩ | ⟨info, valid, parsed, same⟩ | ⟨_, same⟩ :=
    view.frame_cases time frame
  · rw [same]
    exact .refl session view tables
  · rw [same]
    exact gateKept_register topicPrefix session view tables _
  · rw [same]
    apply gateKept_productInfo
    intro controlled
    exact Decidable.byContradiction fun unsupported =>
      keeps ⟨valid, controlled, info, parsed, unsupported⟩
  · rw [same, ControlView.telemetry]
    have received :
        GateKept session view tables { view with lastTelemetryAt := some time } tables :=
      ⟨fun isReady => isReady, fun _ => rfl, fun isRegistered => isRegistered, .inl,
        fun _ _ handled => .inl handled, fun _ isDue => .inl isDue⟩
    exact received.trans (gateKept_settle topicPrefix session _ _)

/-- A frame that withdraws it from a session with nothing else leading to it. -/
theorem frame_withdrawn {frame : Frame} (time : Nat) (withdraws : view.Withdraws frame)
    (short : (view.frame time frame).1.firmware.length ≤ 4300)
    (named : view.registered = true → view.knownSerial.isSome = true) :
    (view.frame time frame).1.registered = false ∧
      (tables.applyAll topicPrefix session (view.frame time frame).2).settleTasks =
        tables.settleTasks ∧
      ∀ topic other, (tables.applyAll topicPrefix session
          (view.frame time frame).2).commandHandlers.get topic = some other →
        tables.commandHandlers.get topic = some other ∧
          ∀ serial, view.knownSerial = some serial →
            topic ≠ activePowerLimitCommandTopic topicPrefix serial := by
  obtain ⟨valid, controlled, info, parsed, unsupported⟩ := withdraws
  rw [view.frame_eq_productInfo time valid parsed, ControlView.productInfo] at short ⊢
  obtain ⟨unsynced, nothing⟩ | ⟨serial, isSerial, _, ⟨isSupported, _⟩ | ⟨_, synced⟩⟩ :=
    (view.know info).sync_cases
  · -- the flag can be set only where there is a serial, and then the two are in step
    rw [nothing] at short ⊢
    have unknown : view.knownSerial = none := by
      rcases unsynced with noSerial | noControl | ⟨raised, failed⟩
      · exact noSerial
      · exact absurd (controlled.symm.trans noControl) Bool.false_ne_true.symm
      · obtain ⟨verdict, isVerdict⟩ := supportsActivePowerLimit_ok (view.know info).model short
        rw [failed] at isVerdict
        cases isVerdict
    refine ⟨?_, rfl, fun topic other handled => ⟨handled, fun serial isSerial => ?_⟩⟩
    · cases flag : view.registered with
      | false => exact flag
      | true =>
        have isNamed := named flag
        rw [unknown] at isNamed
        cases isNamed
    · rw [unknown] at isSerial
      cases isSerial
  · exact absurd isSupported unsupported
  · rw [synced]
    refine ⟨rfl, rfl, fun topic other handled => ?_⟩
    have handledThen : (tables.commandHandlers.pop
        (activePowerLimitCommandTopic topicPrefix serial)).get topic = some other := handled
    rw [Dict.get_pop] at handledThen
    split at handledThen
    · cases handledThen
    · rename_i different
      refine ⟨handledThen, fun named isNamed => ?_⟩
      obtain rfl := Option.some.inj (isSerial.symm.trans isNamed)
      exact different

theorem settle_firmware : view.settle.1.firmware = view.firmware := by
  obtain same | ⟨_, _, same⟩ := view.settle_cases <;> rw [same]

theorem sync_firmware : view.sync.1.firmware = view.firmware := by
  obtain ⟨_, nothing⟩ | ⟨serial, _, _, ⟨_, synced⟩ | ⟨_, synced⟩⟩ := view.sync_cases
  · rw [nothing]
  · rw [synced]
    apply (settle_firmware _).trans
    obtain ⟨_, same⟩ | ⟨_, same⟩ := view.wire_cases serial <;> rw [same]
  · rw [synced]

/-- A firmware text comes from the payload of a frame. -/
theorem frame_firmware_length {frame : Frame} (time : Nat) (wellFormed : frame.WellFormed)
    (short : view.firmware.length ≤ 4300) :
    (view.frame time frame).1.firmware.length ≤ 4300 := by
  obtain same | ⟨_, _, same⟩ | ⟨info, _, parsed, same⟩ | ⟨_, same⟩ := view.frame_cases time frame
  · rwa [same]
  · rwa [same]
  · rw [same, ControlView.productInfo, sync_firmware]
    have fits := productInfo_firmware_length parsed
    have payload := (wellFormed_sizes wellFormed).2
    rw [ControlView.know]
    dsimp only [textOr]
    split
    · exact short
    · omega
  · rw [same, ControlView.telemetry, settle_firmware]
    exact short

end Frame

/-! ## Steps -/

section Steps

variable {config : DaemonConfig} {daemon next : Daemon} {shown : List DaemonEvent}

/-- The sessions are as they were, and nothing new leads to one. -/
theorem Gated.of_le (gated : Gated config daemon)
    (short : ∀ {session view}, next.controlOf session = some view → view.firmware.length ≤ 4300)
    (flagged : ∀ {session}, next.IsWired session → next.IsReady session)
    (ready : ∀ {session}, daemon.IsReady session → next.IsReady session)
    (telemetry : ∀ {session}, daemon.HasTelemetry session → next.HasTelemetry session)
    (handlers : ∀ {serial session}, next.handlerOf config serial = some session →
      daemon.handlerOf config serial = some session ∨ next.IsReady session)
    (settleTasks : ∀ session ∈ next.tables.settleTasks, session ∈ daemon.tables.settleTasks ∨
      (next.IsWired session ∧ next.HasTelemetry session))
    (setpoints : next.setpoints = daemon.setpoints) (writes : next.writes = daemon.writes) :
    Gated config next where
  short := short
  flagged := flagged
  handled hasHandler := (handlers hasHandler).elim (fun before => ready (gated.handled before)) id
  queued member := ready (gated.queued (setpoints ▸ member))
  due member := by
    rcases settleTasks _ member with before | ⟨isWired, received⟩
    · exact ⟨ready (gated.due before).1, telemetry (gated.due before).2⟩
    · exact ⟨flagged isWired, received⟩
  awaited member :=
    ⟨ready (gated.awaited (writes ▸ member)).1, telemetry (gated.awaited (writes ▸ member)).2⟩

section Frame

variable {session time : Nat} {frame : Frame} {view : ControlView}

theorem handlerOf_handled (done : daemon.FrameHandled config session time frame view next)
    (serial : Text) : next.handlerOf config serial =
      (daemon.tables.applyAll config.topicPrefix session
        (view.frame time frame).2).commandHandlers.get
          (activePowerLimitCommandTopic config.topicPrefix serial) := by
  rw [Daemon.handlerOf, done.tables]

theorem controlOf_handled (done : daemon.FrameHandled config session time frame view next) :
    next.controlOf session = some (view.frame time frame).1 := by
  rw [done.controls, if_pos rfl]

theorem controlOf_elsewhere (done : daemon.FrameHandled config session time frame view next)
    {other : Nat} (different : other ≠ session) :
    next.controlOf other = daemon.controlOf other := by
  rw [done.controls, if_neg different]

/-- Nothing leads to a session any more when its support goes. -/
theorem gated_withdrawn (gated : Gated config daemon)
    (done : daemon.FrameHandled config session time frame view next)
    (short : ∀ {other held}, next.controlOf other = some held → held.firmware.length ≤ 4300)
    (unwired : (view.frame time frame).1.registered = false)
    (settleTasks : next.tables.settleTasks = daemon.tables.settleTasks)
    (handlers : ∀ {serial other}, next.handlerOf config serial = some other →
      daemon.handlerOf config serial = some other ∧ other ≠ session)
    (idle : ¬ daemon.HasWork session) : Gated config next := by
  have ready : ∀ {other}, daemon.IsReady other → other ≠ session → next.IsReady other := by
    intro other isReady different
    rwa [Daemon.IsReady, controlOf_elsewhere done different]
  have received : ∀ {other}, daemon.HasTelemetry other → other ≠ session →
      next.HasTelemetry other := by
    intro other hasTelemetry different
    rwa [Daemon.HasTelemetry, controlOf_elsewhere done different]
  constructor
  case short =>
    exact short
  case flagged =>
    rintro other ⟨held, isHeld, flag⟩
    by_cases same : other = session
    · rw [same, controlOf_handled done] at isHeld
      cases isHeld
      exact absurd (flag.symm.trans unwired) Bool.false_ne_true.symm
    · rw [controlOf_elsewhere done same] at isHeld
      exact ready (gated.flagged ⟨held, isHeld, flag⟩) same
  case handled =>
    intro serial other handled
    obtain ⟨before, different⟩ := handlers handled
    exact ready (gated.handled before) different
  case queued =>
    intro queued member
    rw [done.setpoints] at member
    apply ready (gated.queued member)
    exact fun same => idle (.inl ⟨queued, member, same⟩)
  case due =>
    intro other member
    rw [settleTasks] at member
    have different : other ≠ session := by
      rintro rfl
      exact idle (.inr (.inl member))
    exact ⟨ready (gated.due member).1 different, received (gated.due member).2 different⟩
  case awaited =>
    intro write member
    rw [done.writes] at member
    have different : write.session ≠ session :=
      fun same => idle (.inr (.inr ⟨write, member, same⟩))
    exact ⟨ready (gated.awaited member).1 different, received (gated.awaited member).2 different⟩

/-- A session that is ready stays ready, and one that becomes wired is ready. -/
theorem gated_kept (gated : Gated config daemon) (isView : daemon.controlOf session = some view)
    (done : daemon.FrameHandled config session time frame view next)
    (short : ∀ {other held}, next.controlOf other = some held → held.firmware.length ≤ 4300)
    (keeps : ¬ view.Withdraws frame) : Gated config next := by
  have kept := frame_gateKept config.topicPrefix session view daemon.tables time keeps
  have isAfter := controlOf_handled done
  have stays : ∀ {other}, daemon.IsReady other → next.IsReady other := by
    rintro other ⟨held, isHeld, isReady⟩
    by_cases same : other = session
    · rw [same, isView] at isHeld
      cases isHeld
      rw [same]
      exact ⟨_, isAfter, kept.ready isReady⟩
    · exact ⟨held, (controlOf_elsewhere done same).trans isHeld, isReady⟩
  apply gated.of_le short _ stays _ _ _ done.setpoints done.writes
  · rintro other ⟨held, isHeld, flag⟩
    by_cases same : other = session
    · rw [same, isAfter] at isHeld
      cases isHeld
      rw [same]
      rcases kept.flagged flag with before | isReady
      · exact stays (gated.flagged ⟨view, isView, before⟩)
      · exact ⟨_, isAfter, isReady⟩
    · rw [controlOf_elsewhere done same] at isHeld
      exact stays (gated.flagged ⟨held, isHeld, flag⟩)
  · rintro other ⟨held, isHeld, hasTelemetry⟩
    by_cases same : other = session
    · rw [same, isView] at isHeld
      cases isHeld
      rw [same]
      exact ⟨_, isAfter, kept.telemetry hasTelemetry⟩
    · exact ⟨held, (controlOf_elsewhere done same).trans isHeld, hasTelemetry⟩
  · intro serial other handled
    rw [handlerOf_handled done] at handled
    rcases kept.handlers _ _ handled with before | ⟨rfl, isReady⟩
    · exact .inl before
    · exact .inr ⟨_, isAfter, isReady⟩
  · intro other member
    rw [done.tables] at member
    rcases kept.settleTasks other member with before | ⟨rfl, flag, hasTelemetry⟩
    · exact .inl before
    · exact .inr ⟨⟨_, isAfter, flag⟩, ⟨_, isAfter, hasTelemetry⟩⟩

end Frame

theorem gated_frame {session : Nat} {world : SessionWorld} {wire : WireFrame}
    {sendBootstrap : Bool} (gated : Gated config daemon)
    (keeps : KeepsGate config daemon (.frame session world wire sendBootstrap))
    (stepped : daemonMachine config daemon (.frame session world wire sendBootstrap) =
      some (next, shown)) : Gated config next := by
  obtain ⟨view, isView, _, done⟩ := Daemon.frame_step stepped
  have short : ∀ {other held}, next.controlOf other = some held → held.firmware.length ≤ 4300 := by
    intro other held isHeld
    rw [done.controls] at isHeld
    split at isHeld
    · cases isHeld
      exact frame_firmware_length view world.time wire.wellFormed (gated.short isView)
    · exact gated.short isHeld
  by_cases withdraws : view.Withdraws wire.frame
  · have ⟨valid, controlled, info, parsed, unsupported⟩ := withdraws
    obtain ⟨named, routed, idle⟩ := keeps valid view info isView parsed controlled unsupported
    obtain ⟨unwired, settleTasks, handlers⟩ := frame_withdrawn config.topicPrefix session view
      daemon.tables world.time withdraws (short (controlOf_handled done)) named
    apply gated_withdrawn gated done short unwired _ _ idle
    · rw [done.tables, settleTasks]
    · -- a handler that leads to the session is that of its serial, which goes
      intro serial other handled
      rw [handlerOf_handled done] at handled
      obtain ⟨before, kept⟩ := handlers _ _ handled
      refine ⟨before, ?_⟩
      rintro rfl
      exact kept serial (routed serial before) rfl
  · exact gated_kept gated isView done short withdraws

theorem gated_connect (gated : Gated config daemon)
    (stepped : daemonMachine config daemon .connect = some (next, shown)) : Gated config next := by
  obtain ⟨_, tables, setpoints, writes, controls, _⟩ := Daemon.connect_step stepped
  have older : ∀ {session view}, daemon.controlOf session = some view →
      next.controlOf session = some view := by
    intro session view isView
    rw [controls, if_neg, isView]
    rintro rfl
    rw [Daemon.controlOf, List.getElem?_eq_none (Nat.le_refl _)] at isView
    cases isView
  have stays : ∀ {session}, daemon.IsReady session → next.IsReady session := by
    rintro session ⟨view, isView, isReady⟩
    exact ⟨view, older isView, isReady⟩
  apply gated.of_le _ _ stays _ _ _ setpoints writes
  · intro session view isView
    rw [controls] at isView
    split at isView
    · cases isView
      exact Nat.zero_le _
    · exact gated.short isView
  · rintro session ⟨view, isView, flag⟩
    rw [controls] at isView
    split at isView
    · cases isView
      cases flag
    · exact stays (gated.flagged ⟨view, isView, flag⟩)
  · rintro session ⟨view, isView, received⟩
    exact ⟨view, older isView, received⟩
  · intro serial session handled
    rw [Daemon.handlerOf, tables] at handled
    exact .inl handled
  · intro session member
    rw [tables] at member
    exact .inl member

theorem gated_finish {session : Nat} (gated : Gated config daemon)
    (stepped : daemonMachine config daemon (.finish session) = some (next, shown)) :
    Gated config next := by
  obtain ⟨_, view, _, controls, _, tables, setpoints, writes⟩ := Daemon.finish_step stepped
  have stays : ∀ {other}, daemon.IsReady other → next.IsReady other := by
    intro other isReady
    rwa [Daemon.IsReady, controls]
  apply gated.of_le _ _ stays _ _ _ setpoints writes
  · intro other held isHeld
    rw [controls] at isHeld
    exact gated.short isHeld
  · intro other isWired
    rw [Daemon.IsWired, controls] at isWired
    exact stays (gated.flagged isWired)
  · intro other received
    rwa [Daemon.HasTelemetry, controls]
  · intro serial other handled
    rw [Daemon.handlerOf, tables, remove_handlers] at handled
    exact .inl handled
  · intro other member
    rw [tables, remove_settleTasks] at member
    exact .inl member

/-- The session whose turn it is stands behind the gate. -/
theorem turnOf_gated {action : DaemonAction} {session : Nat} (gated : Gated config daemon)
    (keeps : KeepsGate config daemon action) (turn : daemon.turnOf action = some session) :
    daemon.IsReady session ∧ daemon.HasTelemetry session := by
  cases action with
  | setpoint place =>
    obtain ⟨queued, isQueued, rfl⟩ := Option.map_eq_some_iff.mp turn
    exact ⟨gated.queued (List.mem_of_getElem? isQueued), keeps queued isQueued⟩
  | settle place => exact gated.due (List.mem_of_getElem? turn)
  | returned place confirmed =>
    obtain ⟨write, isAwaited, rfl⟩ := Option.map_eq_some_iff.mp turn
    exact gated.awaited (List.mem_of_getElem? isAwaited)
  | _ => cases turn

theorem gated_step {action : DaemonAction} (gated : Gated config daemon)
    (keeps : KeepsGate config daemon action)
    (stepped : daemonMachine config daemon action = some (next, shown)) : Gated config next := by
  cases action with
  | connect => exact gated_connect gated stepped
  | frame => exact gated_frame gated keeps stepped
  | finish => exact gated_finish gated stepped
  | _ =>
    have same := (Daemon.quiet_step stepped trivial).1
    have work := Daemon.quiet_work stepped trivial
    constructor
    case short =>
      intro session view isView
      rw [same.controls] at isView
      exact gated.short isView
    case flagged =>
      intro session isWired
      exact same.isReady.mpr (gated.flagged ((same.isWired session).mp isWired))
    case handled =>
      intro serial session handled
      rw [same.handlerOf] at handled
      exact same.isReady.mpr (gated.handled handled)
    case queued =>
      intro queued member
      rcases work.setpoints queued member with before | ⟨handled, _⟩
      · exact same.isReady.mpr (gated.queued before)
      · exact same.isReady.mpr (gated.handled handled)
    case due =>
      intro session member
      have before := gated.due (work.settleTasks.subset member)
      exact ⟨same.isReady.mpr before.1, same.hasTelemetry.mpr before.2⟩
    case awaited =>
      intro write member
      have before := (work.writes write member).elim gated.awaited (turnOf_gated gated keeps)
      exact ⟨same.isReady.mpr before.1, same.hasTelemetry.mpr before.2⟩

end Steps

/-- Who asks for a request: the session whose turn it is. -/
theorem requested_turn {config : DaemonConfig} {daemon next : Daemon} {shown : List DaemonEvent}
    {action : DaemonAction} {session : Nat} {raw : Bytes}
    (stepped : daemonMachine config daemon action = some (next, shown))
    (requested : .requested session raw ∈ shown) : daemon.turnOf action = some session := by
  cases action with
  | connect =>
    rw [(Daemon.connect_step stepped).1] at requested
    cases requested
  | frame =>
    obtain ⟨view, _, rfl, _⟩ := Daemon.frame_step stepped
    obtain ⟨effect, _, same⟩ := List.mem_filterMap.mp requested
    cases effect <;> cases same
  | finish =>
    rw [(Daemon.finish_step stepped).1] at requested
    cases requested
  | _ => exact (Daemon.quiet_work stepped trivial).requested requested

/-- **The injection gate.**  In every run whose steps keep the gate, a session that a Modbus
request is written through has received telemetry, and its model and firmware are supported. -/
theorem requested_gated {config : DaemonConfig} {actions : List DaemonAction}
    {daemon next : Daemon} {trace shown : List DaemonEvent} {action : DaemonAction} {session : Nat}
    {raw : Bytes} (ran : run (daemonMachine config) .fresh actions = some (daemon, trace))
    (within : Along (daemonMachine config) (KeepsGate config) .fresh actions)
    (keeps : KeepsGate config daemon action)
    (stepped : daemonMachine config daemon action = some (next, shown))
    (requested : .requested session raw ∈ shown) :
    daemon.IsReady session ∧ daemon.HasTelemetry session := by
  have initially : Gated config .fresh := by
    constructor
    case short =>
      intro session view isView
      cases isView
    case flagged =>
      rintro session ⟨view, isView, _⟩
      cases isView
    case handled =>
      intro serial session handled
      cases handled
    case queued =>
      intro queued member
      cases member
    case due =>
      intro session member
      cases member
    case awaited =>
      intro write member
      cases member
  have gated : Gated config daemon :=
    run_preserves_along (Gated config) gated_step initially within ran
  exact turnOf_gated gated keeps (requested_turn stepped requested)

/-! ## A setpoint before the telemetry -/

/-- A frame that tells of no unsupported version keeps the gate. -/
theorem keepsGate_handle {config : DaemonConfig} {daemon : Daemon} {session : Nat}
    {wire : WireFrame} (supported : ∀ (view : ControlView) (info : ProductInfo),
      productInfo wire.frame = some info → (view.know info).Supported) :
    KeepsGate config daemon (.handle session wire) :=
  fun _ view info _ parsed _ unsupported => absurd (supported view info parsed) unsupported

theorem supportedFrame_supported (view : ControlView) (info : ProductInfo)
    (parsed : productInfo supportedFrame.frame = some info) : (view.know info).Supported := by
  have isInfo : productInfo supportedFrame.frame =
      some ⟨"M1-E".toList, [], "M1-E".toList, "1.80".toList⟩ := by decide +kernel
  obtain rfl := Option.some.inj (isInfo.symm.trans parsed)
  change supportsActivePowerLimit "M1-E".toList "1.80".toList = .ok true
  decide +kernel

def telemetryFrame : WireFrame where
  frame := restingTelemetry
  wellFormed := restingTelemetry_wellFormed

/-- The session reports its version, and then telemetry. -/
def settledActions : List DaemonAction :=
  registeredActions ++ [.handle 0 supportedFrame, .handle 0 telemetryFrame]

theorem requested_gated_settled :
    ∃ daemon trace next shown raw,
      run (daemonMachine .everything) .fresh settledActions = some (daemon, trace) ∧
      daemonMachine .everything daemon (.settle 0) = some (next, shown) ∧
      .requested 0 raw ∈ shown ∧ daemon.IsReady 0 ∧ daemon.HasTelemetry 0 := by
  have within : Along (daemonMachine .everything) (KeepsGate .everything) .fresh
      settledActions := by
    refine ⟨trivial, fun _ _ _ => ⟨trivial, fun _ _ _ => ⟨?_, fun _ _ _ => ⟨?_, fun _ _ _ =>
      ⟨?_, fun _ _ _ => trivial⟩⟩⟩⟩⟩
    · apply keepsGate_handle
      intro view info parsed
      have nothing : productInfo (registrationFrame 'A'.toUInt8).frame = none := by decide +kernel
      exact absurd (nothing.symm.trans parsed) (by simp)
    · exact keepsGate_handle supportedFrame_supported
    · apply keepsGate_handle
      intro view info parsed
      have nothing : productInfo telemetryFrame.frame = none := by decide +kernel
      exact absurd (nothing.symm.trans parsed) (by simp)
  have check : ((run (daemonMachine .everything) .fresh settledActions).bind fun reached =>
      (daemonMachine .everything reached.1 (.settle 0)).map Prod.snd) =
      some [.requested 0 [0x7f, 0x7f, 0x11, 0x01, 0xf0, 0xaa, 0xe2, 0x00, 0x06, 0x01, 0x03, 0xca,
        0x5a, 0x00, 0x01, 0xca, 0xe6, 0xf7, 0xf7]] := by decide +kernel
  obtain ⟨⟨daemon, trace⟩, ran, later⟩ := Option.bind_eq_some_iff.mp check
  obtain ⟨⟨next, shown⟩, stepped, rfl⟩ := Option.map_eq_some_iff.mp later
  have keeps : KeepsGate .everything daemon (.settle 0) := trivial
  exact ⟨daemon, trace, next, _, _, ran, stepped, List.mem_singleton_self _,
    requested_gated ran within keeps stepped (List.mem_singleton_self _)⟩

/-- A setpoint comes as soon as the version is known. -/
theorem requested_beforeTelemetry :
    ¬ ∀ (config : DaemonConfig) (actions : List DaemonAction) (daemon next : Daemon)
      (trace shown : List DaemonEvent) (action : DaemonAction) (session : Nat) (raw : Bytes),
      run (daemonMachine config) .fresh actions = some (daemon, trace) →
      daemonMachine config daemon action = some (next, shown) →
      .requested session raw ∈ shown → daemon.IsReady session ∧ daemon.HasTelemetry session := by
  intro claimed
  have check : ((run (daemonMachine .everything) .fresh
      (wiredActions ++ [.message ['A'] (some 50)])).bind fun reached =>
        (daemonMachine .everything reached.1 (.setpoint 0)).map fun stepped =>
          (stepped.2, (reached.1.controlOf 0).map ControlView.lastTelemetryAt)) =
      some ([.recorded ['A'] 50, .requested 0 [0x7f, 0x7f, 0x12, 0x01, 0xf0, 0xaa, 0xe2, 0x00, 0x06,
        0x01, 0x06, 0xca, 0x5a, 0x00, 0x32, 0x43, 0x30, 0xf7, 0xf7]], some none) := by
    decide +kernel
  obtain ⟨⟨daemon, trace⟩, ran, later⟩ := Option.bind_eq_some_iff.mp check
  obtain ⟨⟨next, shown⟩, stepped, same⟩ := Option.map_eq_some_iff.mp later
  obtain ⟨rfl, silent⟩ := Prod.mk.inj same
  obtain ⟨view, isView, received⟩ := (claimed _ _ daemon next trace _ _ 0 _ ran stepped
    (List.mem_cons_of_mem _ (List.mem_singleton_self _))).2
  change (daemon.controlOf 0).map ControlView.lastTelemetryAt = some none at silent
  rw [isView, Option.map_some, Option.some.injEq] at silent
  rw [silent] at received
  cases received

end FoxessGateway.Server
