import FoxessGateway.Server.Daemon
import FoxessGateway.Server.Relay

/-! # What a step of the daemon does

One lemma for each kind of action, over the control views of the sessions, which of them are
open, and the tables. -/

namespace FoxessGateway.Server

open Protocol Effectful Action Runs Mqtt

/-! ## One frame -/

namespace ControlView

variable (view : ControlView)

theorem frame_cases (time : Nat) (frame : Frame) :
    view.frame time frame = (view, []) ∨
      (frame.validCrc = true ∧ isRegistration frame = true ∧
        view.frame time frame = view.register (registrationSerial frame)) ∨
      (∃ info, frame.validCrc = true ∧ Protocol.productInfo frame = some info ∧
        view.frame time frame = view.productInfo info) ∨
      (isTelemetry frame = true ∧ view.frame time frame = view.telemetry time) := by
  rw [ControlView.frame]
  cases valid : frame.validCrc with
  | false => exact .inl rfl
  | true =>
    cases registers : isRegistration frame with
    | true => exact .inr (.inl ⟨rfl, rfl, rfl⟩)
    | false =>
      cases parsed : Protocol.productInfo frame with
      | some info => exact .inr (.inr (.inl ⟨info, rfl, rfl, rfl⟩))
      | none =>
        cases telemetry : isTelemetry frame with
        | false => exact .inl rfl
        | true => exact .inr (.inr (.inr ⟨rfl, rfl⟩))

theorem frame_eq_productInfo (time : Nat) {frame : Frame} {info : ProductInfo}
    (valid : frame.validCrc = true) (parsed : Protocol.productInfo frame = some info) :
    view.frame time frame = view.productInfo info := by
  have notRegistered : isRegistration frame = false := by
    cases registers : isRegistration frame with
    | false => rfl
    | true =>
      rw [(kinds_of_isRegistration registers).1] at parsed
      cases parsed
  simp only [ControlView.frame, valid, notRegistered, parsed, Bool.true_eq_false,
    Bool.false_eq_true, if_false]

theorem settle_cases :
    view.settle = (view, []) ∨
      (view.lastTelemetryAt.isSome = true ∧ view.registered = true ∧
        view.settle = ({ view with settleScheduled := true }, [.createSettleTask])) := by
  rw [settle]
  split
  · rename_i due
    exact .inr ⟨due.2.1, due.2.2.2, rfl⟩
  · exact .inl rfl

theorem wire_cases (serial : Text) :
    (view.registered = true ∧ view.wire serial = (view, [])) ∨
      (view.registered = false ∧ view.wire serial =
        ({ view with registered := true }, [.mqtt (.registerActivePowerLimitHandler serial)])) := by
  rw [wire]
  cases registered : view.registered with
  | true => exact .inl ⟨rfl, rfl⟩
  | false => exact .inr ⟨rfl, rfl⟩

theorem sync_cases :
    ((view.knownSerial = none ∨ view.hasControl = false ∨
        ∃ raised, supportsActivePowerLimit view.model view.firmware = .error raised) ∧
      view.sync = (view, [])) ∨
    ∃ serial, view.knownSerial = some serial ∧ view.hasControl = true ∧
      ((view.Supported ∧ view.sync = ((view.wire serial).1.settle.1,
          (view.wire serial).2 ++ (view.wire serial).1.settle.2)) ∨
        (¬ view.Supported ∧ view.sync =
          ({ view with registered := false },
            [.mqtt (.unregisterActivePowerLimitHandler serial)]))) := by
  rw [sync]
  cases known : view.knownSerial with
  | none => exact .inl ⟨.inl rfl, rfl⟩
  | some serial =>
    cases controlled : view.hasControl with
    | false => exact .inl ⟨.inr (.inl rfl), rfl⟩
    | true =>
      rw [Supported]
      cases supported : supportsActivePowerLimit view.model view.firmware with
      | error raised => exact .inl ⟨.inr (.inr ⟨raised, rfl⟩), rfl⟩
      | ok verdict =>
        cases verdict with
        | true => exact .inr ⟨serial, rfl, rfl, .inl ⟨rfl, rfl⟩⟩
        | false => exact .inr ⟨serial, rfl, rfl, .inr ⟨by simp, rfl⟩⟩

end ControlView

/-- What a frame that a session handles does to its serial, its flag and the daemon's tables, and
what it shows. -/
inductive FrameOutcome (topicPrefix : Text) (session : Nat) (frame : Frame) (view : ControlView)
    (tables : Tables) : ControlView → Tables → List DaemonEvent → Prop
  | kept {next : ControlView} {after : Tables} (serial : next.serial = view.serial)
      (hasControl : next.hasControl = view.hasControl)
      (registered : next.registered = view.registered)
      (registry : after.sessionsBySerial = tables.sessionsBySerial)
      (handlers : after.commandHandlers = tables.commandHandlers) :
      FrameOutcome topicPrefix session frame view tables next after []
  /-- A registration without a serial that can be read. -/
  | unnamed (valid : frame.validCrc = true) (registers : isRegistration frame = true)
      (nothing : (registrationSerial frame).filter (· ≠ []) = none) :
      FrameOutcome topicPrefix session frame view tables
        { view with serial := registrationSerial frame } tables []
  | named {serial : Text} (valid : frame.validCrc = true) (registers : isRegistration frame = true)
      (names : registrationSerial frame = some serial) (nonempty : serial ≠ []) :
      FrameOutcome topicPrefix session frame view tables { view with serial := some serial }
        { tables with
          sessionsBySerial := tables.sessionsBySerial.set serial session
          commandHandlers :=
            tables.commandHandlers.pop (activePowerLimitCommandTopic topicPrefix serial) }
        [.registered serial session]
  | wired {next : ControlView} {after : Tables} {serial : Text} {info : ProductInfo}
      (valid : frame.validCrc = true) (parsed : productInfo frame = some info)
      (known : view.knownSerial = some serial) (controlled : view.hasControl = true)
      (unwired : view.registered = false) (supported : (view.know info).Supported)
      (sameSerial : next.serial = view.serial) (hasControl : next.hasControl = view.hasControl)
      (registered : next.registered = true)
      (registry : after.sessionsBySerial = tables.sessionsBySerial)
      (handlers : after.commandHandlers =
        tables.commandHandlers.set (activePowerLimitCommandTopic topicPrefix serial) session) :
      FrameOutcome topicPrefix session frame view tables next after []
  | withdrawn {serial : Text} {info : ProductInfo} (valid : frame.validCrc = true)
      (parsed : productInfo frame = some info) (known : view.knownSerial = some serial)
      (unsupported : ¬ (view.know info).Supported) :
      FrameOutcome topicPrefix session frame view tables
        { view.know info with registered := false }
        { tables with
          commandHandlers :=
            tables.commandHandlers.pop (activePowerLimitCommandTopic topicPrefix serial) } []

section Frame

variable (topicPrefix : Text) (session : Nat) (frame : Frame) (view : ControlView) (tables : Tables)

theorem settle_tables (view : ControlView) :
    view.settle.1.serial = view.serial ∧ view.settle.1.hasControl = view.hasControl ∧
      view.settle.1.registered = view.registered ∧ registrations session view.settle.2 = [] ∧
      (tables.applyAll topicPrefix session view.settle.2).sessionsBySerial =
        tables.sessionsBySerial ∧
      (tables.applyAll topicPrefix session view.settle.2).commandHandlers =
        tables.commandHandlers := by
  obtain same | ⟨_, _, same⟩ := view.settle_cases
  · rw [same]
    exact ⟨rfl, rfl, rfl, rfl, rfl, rfl⟩
  · rw [same]
    exact ⟨rfl, rfl, rfl, rfl, rfl, rfl⟩

theorem applyAll_append (first later : List SessionEffect) :
    tables.applyAll topicPrefix session (first ++ later) =
      (tables.applyAll topicPrefix session first).applyAll topicPrefix session later :=
  List.foldl_append

theorem frameOutcome_productInfo {info : ProductInfo} (valid : frame.validCrc = true)
    (parsed : productInfo frame = some info) :
    FrameOutcome topicPrefix session frame view tables (view.productInfo info).1
      (tables.applyAll topicPrefix session (view.productInfo info).2)
      (registrations session (view.productInfo info).2) := by
  rw [ControlView.productInfo]
  obtain ⟨_, nothing⟩ | ⟨serial, known, controlled, ⟨supported, synced⟩ | ⟨unsupported, synced⟩⟩ :=
    (view.know info).sync_cases
  · rw [nothing]
    exact .kept rfl rfl rfl rfl rfl
  · rw [synced, applyAll_append]
    obtain ⟨registered, same⟩ | ⟨unwired, wired⟩ := (view.know info).wire_cases serial
    · rw [same]
      obtain ⟨sameSerial, sameControl, sameFlag, silent, registry, handlers⟩ :=
        settle_tables topicPrefix session tables (view.know info)
      rw [List.nil_append, silent]
      exact .kept sameSerial sameControl sameFlag registry handlers
    · rw [wired]
      obtain ⟨sameSerial, sameControl, sameFlag, silent, registry, handlers⟩ :=
        settle_tables topicPrefix session
          (tables.apply topicPrefix session (.mqtt (.registerActivePowerLimitHandler serial)))
          { view.know info with registered := true }
      have nothing : registrations session ([.mqtt (.registerActivePowerLimitHandler serial)] ++
          ({ view.know info with registered := true } : ControlView).settle.2) = [] := silent
      rw [nothing]
      exact .wired valid parsed known controlled unwired supported sameSerial sameControl sameFlag
        registry handlers
  · rw [synced]
    exact .withdrawn valid parsed known unsupported

/-- **What a frame does to the tables.** -/
theorem frameOutcome (time : Nat) :
    FrameOutcome topicPrefix session frame view tables (view.frame time frame).1
      (tables.applyAll topicPrefix session (view.frame time frame).2)
      (registrations session (view.frame time frame).2) := by
  obtain same | ⟨valid, registers, same⟩ | ⟨info, valid, parsed, same⟩ | ⟨_, same⟩ :=
    view.frame_cases time frame
  · rw [same]
    exact .kept rfl rfl rfl rfl rfl
  · rw [same, ControlView.register]
    cases named : (registrationSerial frame).filter (· ≠ []) with
    | none => exact .unnamed valid registers named
    | some serial =>
      obtain ⟨names, nonempty⟩ := Option.filter_eq_some_iff.mp named
      have outcome : FrameOutcome topicPrefix session frame view tables _ _ _ :=
        .named valid registers names (of_decide_eq_true nonempty)
      rwa [names]
  · rw [same]
    exact frameOutcome_productInfo topicPrefix session frame view tables valid parsed
  · rw [same, ControlView.telemetry]
    obtain ⟨sameSerial, sameControl, sameFlag, silent, registry, handlers⟩ :=
      settle_tables topicPrefix session tables { view with lastTelemetryAt := some time }
    rw [silent]
    exact .kept sameSerial sameControl sameFlag registry handlers

end Frame

theorem remove_handlers (session : Nat) (tables : Tables) (serial : Option Text) :
    (tables.remove session serial).commandHandlers = tables.commandHandlers := by
  cases serial with
  | none => rfl
  | some serial =>
    rw [Tables.remove]
    split <;> rfl

theorem remove_settleTasks (session : Nat) (tables : Tables) (serial : Option Text) :
    (tables.remove session serial).settleTasks = tables.settleTasks := by
  cases serial with
  | none => rfl
  | some serial =>
    rw [Tables.remove]
    split <;> rfl

theorem remove_entry {session other : Nat} {tables : Tables} {current : Option Text} {serial : Text}
    (entry : (tables.remove session current).sessionsBySerial.get serial = some other) :
    tables.sessionsBySerial.get serial = some other := by
  cases current with
  | none => exact entry
  | some current =>
    rw [Tables.remove] at entry
    split at entry
    · rw [Dict.get_pop] at entry
      split at entry
      · cases entry
      · exact entry
    · exact entry

/-- Effects that do not concern local control register no session. -/
theorem registrations_filter (session : Nat) (effects : List SessionEffect) :
    registrations session effects = registrations session (effects.filter isControlEffect) := by
  rw [registrations, registrations, List.filterMap_filter]
  apply List.filterMap_congr
  intro effect _
  cases effect with
  | mqtt operation => exact (ite_self none).symm
  | _ => rfl

/-- Effects that do not concern local control do nothing to the tables. -/
theorem applyAll_filter (topicPrefix : Text) (session : Nat) (tables : Tables)
    (effects : List SessionEffect) :
    tables.applyAll topicPrefix session effects =
      tables.applyAll topicPrefix session (effects.filter isControlEffect) := by
  induction effects generalizing tables with
  | nil => rfl
  | cons effect effects inductionHypothesis =>
    rw [List.filter_cons]
    cases controls : isControlEffect effect with
    | true => exact inductionHypothesis _
    | false =>
      have unchanged : tables.apply topicPrefix session effect = tables := by
        cases effect with
        | mqtt operation =>
          cases operation <;> first | rfl | cases controls
        | registerSession | createSettleTask => cases controls
        | _ => rfl
      rw [Tables.applyAll, List.foldl_cons, unchanged]
      exact inductionHypothesis tables

/-! ## Steps -/

/-- What a request that begins changes in its session is nothing that decides on local control. -/
theorem startWrite_control (config : SessionConfig) (writable : Bool) (percent : Nat)
    (session : Session) :
    (session.startWrite config writable percent).1.control = session.control := by
  rw [Session.startWrite]
  cases known : session.localControl with
  | none => rfl
  | some control =>
    cases session.knownSerial with
    | none => rfl
    | some serial => simp only [Session.control, known, Option.isSome_some]

theorem startRead_control (config : SessionConfig) (writable : Bool)
    (expected : Option (Nat × RequestSource)) (session : Session) :
    (session.startRead config writable expected).1.control = session.control := by
  rw [Session.startRead]
  cases known : session.localControl with
  | none => rfl
  | some control =>
    cases session.knownSerial with
    | none => rfl
    | some serial =>
      dsimp only
      split
      · simp only [Session.control, known, Option.isSome_some]
      · split <;> simp only [Session.control, Session.registerPendingRead,
          Session.unregisterPendingRead, known, Option.isSome_some]

namespace Daemon

/-- Local control in a session. -/
def controlOf (daemon : Daemon) (session : Nat) : Option ControlView :=
  daemon.connections[session]?.map (·.session.control)

/-- The session exists, and its `handle_client` has not finished. -/
def IsOpen (daemon : Daemon) (session : Nat) : Prop :=
  ∃ connection, daemon.connections[session]? = some connection ∧ connection.finished = false

/-- Nothing of what decides on local control and routing changes. -/
structure SameControl (daemon next : Daemon) : Prop where
  controls : ∀ session, next.controlOf session = daemon.controlOf session
  isOpen : ∀ session, next.IsOpen session ↔ daemon.IsOpen session
  registry : next.tables.sessionsBySerial = daemon.tables.sessionsBySerial
  handlers : next.tables.commandHandlers = daemon.tables.commandHandlers

theorem SameControl.refl (daemon : Daemon) : daemon.SameControl daemon :=
  ⟨fun _ => rfl, fun _ => Iff.rfl, rfl, rfl⟩

theorem SameControl.trans {first second third : Daemon} (early : first.SameControl second)
    (late : second.SameControl third) : first.SameControl third where
  controls session := (late.controls session).trans (early.controls session)
  isOpen session := (late.isOpen session).trans (early.isOpen session)
  registry := late.registry.trans early.registry
  handlers := late.handlers.trans early.handlers

variable {daemon : Daemon} {session : Nat} {connection : Connection}

theorem connections_setConnection (found : daemon.connections[session]? = some connection)
    (after : Connection) (other : Nat) :
    (daemon.setConnection session after).connections[other]? =
      if other = session then some after else daemon.connections[other]? := by
  obtain ⟨bound, _⟩ := List.getElem?_eq_some_iff.mp found
  rw [setConnection, List.getElem?_set]
  by_cases same : other = session
  · rw [if_pos same.symm, if_pos same, if_pos bound]
  · rw [if_neg (Ne.symm same), if_neg same]

theorem controlOf_setConnection (found : daemon.connections[session]? = some connection)
    (after : Connection) (other : Nat) :
    (daemon.setConnection session after).controlOf other =
      if other = session then some after.session.control else daemon.controlOf other := by
  rw [controlOf, connections_setConnection found]
  split <;> rfl

theorem isOpen_setConnection (found : daemon.connections[session]? = some connection)
    (after : Connection) (other : Nat) :
    (daemon.setConnection session after).IsOpen other ↔
      if other = session then after.finished = false else daemon.IsOpen other := by
  rw [IsOpen, connections_setConnection found]
  split
  · constructor
    · rintro ⟨_, same, isOpen⟩
      cases same
      exact isOpen
    · intro isOpen
      exact ⟨after, rfl, isOpen⟩
  · exact Iff.rfl

theorem setConnection_sameControl (found : daemon.connections[session]? = some connection)
    {after : Connection} (control : after.session.control = connection.session.control)
    (finished : after.finished = connection.finished) :
    daemon.SameControl (daemon.setConnection session after) where
  controls other := by
    rw [controlOf_setConnection found]
    split
    · rename_i same
      rw [same, controlOf, found, control]
      rfl
    · rfl
  isOpen other := by
    rw [isOpen_setConnection found]
    split
    · rename_i same
      rw [same, IsOpen, found, finished]
      simp
    · rfl
  registry := rfl
  handlers := rfl

/-- What a coroutine of the session does between two `await`s: it may write a request. -/
structure Requests (daemon : Daemon) (session : Nat) (stepped : Daemon × List DaemonEvent) :
    Prop where
  sameControl : daemon.SameControl stepped.1
  tables : stepped.1.tables = daemon.tables
  setpoints : stepped.1.setpoints = daemon.setpoints
  writes : ∀ write ∈ stepped.1.writes, write ∈ daemon.writes ∨ write.session = session
  requested : ∀ {other raw}, .requested other raw ∈ stepped.2 → other = session
  registered : ∀ serial other, .registered serial other ∉ stepped.2

theorem requests_nothing (daemon : Daemon) (session : Nat) :
    daemon.Requests session (daemon, []) where
  sameControl := .refl daemon
  tables := rfl
  setpoints := rfl
  writes _ member := .inl member
  requested member := nomatch member
  registered _ _ member := nomatch member

variable (config : DaemonConfig)

theorem applyActivePowerLimit_requests (found : daemon.connections[session]? = some connection)
    (percent generation : Nat) (source : RequestSource) :
    daemon.Requests session
      (daemon.applyActivePowerLimit config session connection percent generation source) := by
  have kept := startWrite_control config.session connection.writable percent connection.session
  rw [applyActivePowerLimit]
  generalize connection.session.startWrite config.session connection.writable percent = started
    at kept ⊢
  obtain ⟨after, start⟩ := started
  have same : daemon.SameControl (daemon.setSession session connection after) :=
    setConnection_sameControl found kept rfl
  cases start with
  | sent sent =>
    refine ⟨⟨same.controls, same.isOpen, same.registry, same.handlers⟩, rfl, rfl,
      fun write member => ?_, fun member => ?_, fun _ _ member => ?_⟩
    · rcases List.mem_append.mp member with early | now
      · exact .inl early
      · exact .inr (by rw [List.mem_singleton.mp now])
    · cases List.mem_singleton.mp member
      rfl
    · cases List.mem_singleton.mp member
  | _ => exact ⟨same, rfl, rfl, fun _ member => .inl member, (nomatch ·),
      fun _ _ member => nomatch member⟩

theorem readActivePowerLimitOnce_requests (found : daemon.connections[session]? = some connection)
    (expected : Option (Nat × RequestSource)) :
    daemon.Requests session
      (daemon.readActivePowerLimitOnce config session connection expected) := by
  have kept := startRead_control config.session connection.writable expected connection.session
  rw [readActivePowerLimitOnce]
  generalize connection.session.startRead config.session connection.writable expected = started
    at kept ⊢
  obtain ⟨after, start⟩ := started
  have same : daemon.SameControl (daemon.setSession session connection after) :=
    setConnection_sameControl found kept rfl
  cases start with
  | sent sent =>
    refine ⟨same, rfl, rfl, fun _ member => .inl member, fun member => ?_, fun _ _ member => ?_⟩
    · cases List.mem_singleton.mp member
      rfl
    · cases List.mem_singleton.mp member
  | _ => exact ⟨same, rfl, rfl, fun _ member => .inl member, (nomatch ·),
      fun _ _ member => nomatch member⟩

theorem settleInverterControl_requests (found : daemon.connections[session]? = some connection) :
    daemon.Requests session (daemon.settleInverterControl config session connection) := by
  rw [settleInverterControl]
  split
  · exact readActivePowerLimitOnce_requests config found none
  · split
    · exact readActivePowerLimitOnce_requests config found none
    · exact applyActivePowerLimit_requests config found _ _ _

/-- Only the tables of the setpoints differ. -/
theorem Requests.of_app {app : AppControl} {stepped : Daemon × List DaemonEvent}
    (requests : { daemon with app := app }.Requests session stepped) :
    daemon.Requests session stepped where
  sameControl := ⟨requests.sameControl.controls, requests.sameControl.isOpen,
    requests.sameControl.registry, requests.sameControl.handlers⟩
  tables := requests.tables
  setpoints := requests.setpoints
  writes := requests.writes
  requested := requests.requested
  registered := requests.registered

theorem handleSetpoint_requests {queued : QueuedSetpoint}
    (found : daemon.connections[queued.session]? = some connection) :
    daemon.Requests queued.session (daemon.handleSetpoint config connection queued) := by
  rw [handleSetpoint]
  split
  · rename_i serial _ _
    -- the desired value is recorded before the write is begun
    dsimp only
    have foundThen : { daemon with
        app := (daemon.app.setDesiredActivePowerLimit serial queued.percent).1 }.connections[
          queued.session]? = some connection := found
    have applied := applyActivePowerLimit_requests config foundThen queued.percent
      (daemon.app.setDesiredActivePowerLimit serial queued.percent).2 .setpoint
    refine ⟨applied.of_app.sameControl, applied.tables, applied.setpoints, applied.writes, ?_, ?_⟩
    · intro other raw member
      rcases List.mem_cons.mp member with isRecord | isRequest
      · cases isRecord
      · exact applied.requested isRequest
    · intro named other member
      rcases List.mem_cons.mp member with isRecord | isRequest
      · cases isRecord
      · exact applied.registered named other isRequest
  · exact requests_nothing daemon queued.session

theorem returnWrite_requests {write : AwaitedWrite}
    (found : daemon.connections[write.session]? = some connection) (confirmed : Bool) :
    daemon.Requests write.session (daemon.returnWrite config connection write confirmed) := by
  rw [returnWrite]
  split
  · have foundThen : { daemon with
        app := daemon.app.markApplied connection.session.serial write }.connections[
          write.session]? = some connection := found
    exact (readActivePowerLimitOnce_requests config foundThen _).of_app
  · exact requests_nothing daemon write.session

/-! ### The actions -/

theorem controlOf_of_found (found : daemon.connections[session]? = some connection) :
    daemon.controlOf session = some connection.session.control := by
  rw [controlOf, found]
  rfl

theorem handleFirmwareUploadFrame_uncontrolled (frame : Frame) :
    Uncontrolled (handleFirmwareUploadFrame frame) := by
  refine Leaves.bind Leaves.get fun session => ?_
  cases session.firmwareUploader with
  | none => exact Leaves.pure
  | some uploader => exact Leaves.bind (Leaves.modify fun _ => rfl) fun _ => Leaves.pure

theorem handleFirmwareUploadFrame_total (frame : Frame) :
    Total (handleFirmwareUploadFrame frame) := by
  intro session
  rw [handleFirmwareUploadFrame_run]
  exact ⟨_, rfl⟩

theorem clientFrame_controls (config : SessionConfig) (world : SessionWorld) (wire : WireFrame)
    (sendBootstrap : Bool) :
    Controls (·.frame world.time wire.frame) (clientFrame config world wire.frame sendBootstrap) :=
  Tracks.leavesThen (handleFirmwareUploadFrame_uncontrolled _) (handleFirmwareUploadFrame_total _)
    fun _ => handleFrame_controls config world sendBootstrap wire.wellFormed

/-- What the daemon is after a session has handled a frame. -/
structure FrameHandled (config : DaemonConfig) (daemon : Daemon) (session : Nat) (time : Nat)
    (frame : Frame) (view : ControlView) (next : Daemon) : Prop where
  controls : ∀ other, next.controlOf other =
    if other = session then some (view.frame time frame).1 else daemon.controlOf other
  isOpen : ∀ other, next.IsOpen other ↔ daemon.IsOpen other
  tables : next.tables =
    daemon.tables.applyAll config.topicPrefix session (view.frame time frame).2
  setpoints : next.setpoints = daemon.setpoints
  writes : next.writes = daemon.writes

variable {config : DaemonConfig} {next : Daemon} {shown : List DaemonEvent}

theorem frame_step {world : SessionWorld} {wire : WireFrame} {sendBootstrap : Bool}
    (stepped : daemonMachine config daemon (.frame session world wire sendBootstrap) =
      some (next, shown)) :
    ∃ view, daemon.controlOf session = some view ∧
      shown = registrations session (view.frame world.time wire.frame).2 ∧
      FrameHandled config daemon session world.time wire.frame view next := by
  obtain ⟨connection, found, reached⟩ := Option.map_eq_some_iff.mp stepped
  cases reached
  obtain ⟨sameView, sameEffects⟩ :=
    clientFrame_controls config.session world wire sendBootstrap connection.session
  refine ⟨connection.session.control, controlOf_of_found found, ?_, ?_, ?_, ?_, rfl, rfl⟩
  · rw [← sameEffects]
    exact registrations_filter session _
  · intro other
    exact (controlOf_setConnection found _ other).trans (by rw [sameView])
  · intro other
    refine (isOpen_setConnection found _ other).trans ?_
    split
    · rename_i same
      rw [same, IsOpen, found]
      simp
    · exact Iff.rfl
  · rw [← sameEffects]
    exact applyAll_filter _ _ _ _

/-- A session has handled a frame: its view is now `after`, and the tables are `tables`. -/
structure FrameDone (daemon : Daemon) (session : Nat) (after : ControlView) (tables : Tables)
    (next : Daemon) : Prop where
  controls : ∀ other, next.controlOf other =
    if other = session then some after else daemon.controlOf other
  isOpen : ∀ other, next.IsOpen other ↔ daemon.IsOpen other
  tables : next.tables = tables
  setpoints : next.setpoints = daemon.setpoints

theorem frame_outcome {world : SessionWorld} {wire : WireFrame} {sendBootstrap : Bool}
    (stepped : daemonMachine config daemon (.frame session world wire sendBootstrap) =
      some (next, shown)) :
    ∃ view after tables, daemon.controlOf session = some view ∧
      FrameOutcome config.topicPrefix session wire.frame view daemon.tables after tables shown ∧
      daemon.FrameDone session after tables next := by
  obtain ⟨view, isView, rfl, handled⟩ := frame_step stepped
  exact ⟨view, _, _, isView,
    frameOutcome config.topicPrefix session wire.frame view daemon.tables world.time,
    handled.controls, handled.isOpen, handled.tables, handled.setpoints⟩

theorem connect_step (stepped : daemonMachine config daemon .connect = some (next, shown)) :
    shown = [] ∧ next.tables = daemon.tables ∧ next.setpoints = daemon.setpoints ∧
      next.writes = daemon.writes ∧
      (∀ other, next.controlOf other = if other = daemon.connections.length then
        some (Session.fresh config.session).control else daemon.controlOf other) ∧
      ∀ other, next.IsOpen other ↔ other = daemon.connections.length ∨ daemon.IsOpen other := by
  cases stepped
  have connections : ∀ other : Nat, (daemon.connections ++
      [(⟨.fresh config.session, false, false⟩ : Connection)])[other]? =
      if other = daemon.connections.length then some ⟨.fresh config.session, false, false⟩
      else daemon.connections[other]? := by
    intro other
    rw [List.getElem?_append]
    split
    · rw [if_neg (by omega)]
    · rename_i beyond
      split
      · rename_i same
        rw [same, Nat.sub_self]
        rfl
      · rw [List.getElem?_eq_none (by simp; omega), List.getElem?_eq_none (by omega)]
  refine ⟨rfl, rfl, rfl, rfl, fun other => ?_, fun other => ?_⟩
  · rw [controlOf, connections]
    split <;> rfl
  · rw [IsOpen, connections]
    split
    · simp_all
    · simp_all [IsOpen]

theorem finish_step (stepped : daemonMachine config daemon (.finish session) = some (next, shown)) :
    shown = [] ∧ ∃ view, daemon.controlOf session = some view ∧
      (∀ other, next.controlOf other = daemon.controlOf other) ∧
      (∀ other, next.IsOpen other ↔ other ≠ session ∧ daemon.IsOpen other) ∧
      next.tables = daemon.tables.remove session view.knownSerial ∧
      next.setpoints = daemon.setpoints ∧ next.writes = daemon.writes := by
  obtain ⟨connection, found, reached⟩ := Option.map_eq_some_iff.mp stepped
  cases reached
  refine ⟨rfl, _, controlOf_of_found found, fun other => ?_, fun other => ?_, rfl, rfl, rfl⟩
  · refine (controlOf_setConnection found _ other).trans ?_
    split
    · rename_i same
      rw [same, controlOf_of_found found]
    · rfl
  · refine (isOpen_setConnection found _ other).trans ?_
    split
    · rename_i same
      simp [same]
    · rename_i different
      exact (and_iff_right different).symm

end Daemon

/-- Every action but those that open, close or speak for a session. -/
def DaemonAction.IsQuiet : DaemonAction → Prop
  | .connect | .frame _ _ _ _ | .finish _ => False
  | _ => True

/-- A coroutine or task of a session gets its turn. -/
def DaemonAction.IsTurn : DaemonAction → Prop
  | .setpoint _ | .settle _ | .returned _ _ => True
  | _ => False

namespace Daemon

variable {config : DaemonConfig} {daemon next : Daemon} {shown : List DaemonEvent}

theorem message_step {serial : Text} {value : Option Int}
    (stepped : daemonMachine config daemon (.message serial value) = some (next, shown)) :
    shown = [] ∧ (next = daemon ∨ ∃ session percent, daemon.handlerOf config serial = some session ∧
      next = { daemon with setpoints :=
        daemon.setpoints ++ [⟨serial, daemon.openSession serial, session, percent⟩] }) := by
  simp only [daemonMachine] at stepped
  split at stepped
  · rename_i session value handled
    split at stepped
    · cases stepped
      exact ⟨rfl, .inr ⟨session, _, handled, rfl⟩⟩
    · cases stepped
      exact ⟨rfl, .inl rfl⟩
  · cases stepped
    exact ⟨rfl, .inl rfl⟩

theorem setpoint_step {place : Nat}
    (stepped : daemonMachine config daemon (.setpoint place) = some (next, shown)) :
    ∃ queued connection, daemon.setpoints[place]? = some queued ∧
      daemon.connections[queued.session]? = some connection ∧
      { daemon with setpoints := daemon.setpoints.eraseIdx place }.handleSetpoint config connection
        queued = (next, shown) := by
  obtain ⟨queued, isQueued, later⟩ := Option.bind_eq_some_iff.mp stepped
  obtain ⟨connection, found, reached⟩ := Option.bind_eq_some_iff.mp later
  exact ⟨queued, connection, isQueued, found, Option.some.inj reached⟩

theorem settle_step {place : Nat}
    (stepped : daemonMachine config daemon (.settle place) = some (next, shown)) :
    ∃ session connection, daemon.tables.settleTasks[place]? = some session ∧
      daemon.connections[session]? = some connection ∧
      { daemon with tables := { daemon.tables with
          settleTasks := daemon.tables.settleTasks.eraseIdx place } }.settleInverterControl config
        session connection = (next, shown) := by
  obtain ⟨session, isDue, later⟩ := Option.bind_eq_some_iff.mp stepped
  obtain ⟨connection, found, reached⟩ := Option.bind_eq_some_iff.mp later
  exact ⟨session, connection, isDue, found, Option.some.inj reached⟩

theorem returned_step {place : Nat} {confirmed : Bool}
    (stepped : daemonMachine config daemon (.returned place confirmed) = some (next, shown)) :
    ∃ write connection, daemon.writes[place]? = some write ∧
      daemon.connections[write.session]? = some connection ∧
      { daemon with writes := daemon.writes.eraseIdx place }.returnWrite config connection write
        confirmed = (next, shown) := by
  obtain ⟨write, isAwaited, later⟩ := Option.bind_eq_some_iff.mp stepped
  obtain ⟨connection, found, reached⟩ := Option.bind_eq_some_iff.mp later
  exact ⟨write, connection, isAwaited, found, Option.some.inj reached⟩

/-! ### Turns -/

/-- The session whose coroutine or task gets its turn. -/
def turnOf (daemon : Daemon) : DaemonAction → Option Nat
  | .setpoint place => daemon.setpoints[place]?.map QueuedSetpoint.session
  | .settle place => daemon.tables.settleTasks[place]?
  | .returned place _ => daemon.writes[place]?.map AwaitedWrite.session
  | _ => none

/-- A coroutine or task is off its list, and that is all. -/
structure Takes (daemon ready : Daemon) : Prop where
  sameControl : daemon.SameControl ready
  settleTasks : ready.tables.settleTasks.Sublist daemon.tables.settleTasks
  setpoints : ∀ queued ∈ ready.setpoints, queued ∈ daemon.setpoints
  writes : ∀ write ∈ ready.writes, write ∈ daemon.writes

/-- What gets its turn is taken off its list, and then runs in its session. -/
theorem turn_step {action : DaemonAction}
    (stepped : daemonMachine config daemon action = some (next, shown)) (isTurn : action.IsTurn) :
    ∃ session ready, daemon.turnOf action = some session ∧ daemon.Takes ready ∧
      ready.Requests session (next, shown) := by
  cases action with
  | setpoint place =>
    obtain ⟨queued, connection, isQueued, found, reached⟩ := setpoint_step stepped
    let ready := { daemon with setpoints := daemon.setpoints.eraseIdx place }
    have takes : daemon.Takes ready :=
      ⟨⟨fun _ => rfl, fun _ => Iff.rfl, rfl, rfl⟩, .refl _,
        fun _ member => List.mem_of_mem_eraseIdx member, fun _ member => member⟩
    have foundThen : ready.connections[queued.session]? = some connection := found
    refine ⟨queued.session, ready, ?_, takes, ?_⟩
    · rw [turnOf, isQueued, Option.map_some]
    · rw [← reached]
      exact handleSetpoint_requests config foundThen
  | settle place =>
    obtain ⟨session, connection, isDue, found, reached⟩ := settle_step stepped
    let ready := { daemon with tables := { daemon.tables with
      settleTasks := daemon.tables.settleTasks.eraseIdx place } }
    have takes : daemon.Takes ready :=
      ⟨⟨fun _ => rfl, fun _ => Iff.rfl, rfl, rfl⟩, List.eraseIdx_sublist _ _,
        fun _ member => member, fun _ member => member⟩
    have foundThen : ready.connections[session]? = some connection := found
    refine ⟨session, ready, isDue, takes, ?_⟩
    rw [← reached]
    exact settleInverterControl_requests config foundThen
  | returned place confirmed =>
    obtain ⟨write, connection, isAwaited, found, reached⟩ := returned_step stepped
    let ready := { daemon with writes := daemon.writes.eraseIdx place }
    have takes : daemon.Takes ready :=
      ⟨⟨fun _ => rfl, fun _ => Iff.rfl, rfl, rfl⟩, .refl _,
        fun _ member => member, fun _ member => List.mem_of_mem_eraseIdx member⟩
    have foundThen : ready.connections[write.session]? = some connection := found
    refine ⟨write.session, ready, ?_, takes, ?_⟩
    · rw [turnOf, isAwaited, Option.map_some]
    · rw [← reached]
      exact returnWrite_requests config foundThen confirmed
  | _ => cases isTurn

/-- Whatever runs besides, the sessions and the tables stay as they are for our purposes. -/
theorem quiet_step {action : DaemonAction}
    (stepped : daemonMachine config daemon action = some (next, shown)) (quiet : action.IsQuiet) :
    daemon.SameControl next ∧ ∀ serial session, .registered serial session ∉ shown := by
  cases action with
  | connect | frame | finish => cases quiet
  | attach session | closing session =>
    obtain ⟨connection, found, reached⟩ := Option.map_eq_some_iff.mp stepped
    cases reached
    exact ⟨setConnection_sameControl found rfl rfl, fun _ _ member => nomatch member⟩
  | other session activity =>
    obtain ⟨connection, found, reached⟩ := Option.map_eq_some_iff.mp stepped
    cases reached
    exact ⟨setConnection_sameControl found (activity.control_kept _) rfl,
      fun _ _ member => nomatch member⟩
  | message serial value =>
    obtain ⟨rfl, rfl | ⟨session, percent, _, rfl⟩⟩ := message_step stepped
    · -- no handler, or a value that is no percentage
      exact ⟨.refl _, fun _ _ member => nomatch member⟩
    · exact ⟨⟨fun _ => rfl, fun _ => Iff.rfl, rfl, rfl⟩, fun _ _ member => nomatch member⟩
  | setpoint place | settle place | returned place confirmed =>
    obtain ⟨session, ready, _, takes, requests⟩ := turn_step stepped trivial
    exact ⟨takes.sameControl.trans requests.sameControl, requests.registered⟩

/-! ### Work on its way -/

/-- Where the work that the daemon has after a quiet step comes from. -/
structure WorkAfter (config : DaemonConfig) (daemon : Daemon) (action : DaemonAction)
    (next : Daemon) (shown : List DaemonEvent) : Prop where
  settleTasks : next.tables.settleTasks.Sublist daemon.tables.settleTasks
  setpoints : ∀ queued ∈ next.setpoints, queued ∈ daemon.setpoints ∨
    (daemon.handlerOf config queued.serial = some queued.session ∧
      queued.target = daemon.openSession queued.serial)
  writes : ∀ write ∈ next.writes, write ∈ daemon.writes ∨
    daemon.turnOf action = some write.session
  requested : ∀ {session raw}, .requested session raw ∈ shown →
    daemon.turnOf action = some session

theorem WorkAfter.idle {action : DaemonAction} (tables : next.tables = daemon.tables)
    (setpoints : next.setpoints = daemon.setpoints) (writes : next.writes = daemon.writes) :
    WorkAfter config daemon action next [] where
  settleTasks := tables ▸ .refl _
  setpoints _ member := .inl (setpoints ▸ member)
  writes _ member := .inl (writes ▸ member)
  requested member := nomatch member

theorem WorkAfter.ofTurn {action : DaemonAction} {session : Nat} {ready : Daemon}
    (turn : daemon.turnOf action = some session) (takes : daemon.Takes ready)
    (requests : ready.Requests session (next, shown)) :
    WorkAfter config daemon action next shown where
  settleTasks := requests.tables ▸ takes.settleTasks
  setpoints queued member := .inl (takes.setpoints queued (requests.setpoints ▸ member))
  writes write member := (requests.writes write member).imp (takes.writes write)
    fun same => turn.trans (congrArg some same.symm)
  requested member := turn.trans (congrArg some (requests.requested member).symm)

theorem quiet_work {action : DaemonAction}
    (stepped : daemonMachine config daemon action = some (next, shown)) (quiet : action.IsQuiet) :
    WorkAfter config daemon action next shown := by
  cases action with
  | connect | frame | finish => cases quiet
  | attach session | closing session | other session activity =>
    obtain ⟨connection, _, reached⟩ := Option.map_eq_some_iff.mp stepped
    cases reached
    exact .idle rfl rfl rfl
  | message serial value =>
    obtain ⟨rfl, rfl | ⟨session, percent, handled, rfl⟩⟩ := message_step stepped
    · exact .idle rfl rfl rfl
    · refine ⟨.refl _, fun queued member => ?_, fun _ member => .inl member,
        fun member => nomatch member⟩
      -- the new setpoint is for the session its topic leads to
      rcases List.mem_append.mp member with early | now
      · exact .inl early
      · cases List.mem_singleton.mp now
        exact .inr ⟨handled, rfl⟩
  | setpoint place | settle place | returned place confirmed =>
    obtain ⟨session, ready, turn, takes, requests⟩ := turn_step stepped trivial
    exact .ofTurn turn takes requests

end Daemon

end FoxessGateway.Server
