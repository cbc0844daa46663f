import FoxessGateway.Server.InjectionGate

/-! # The settle task

When a session schedules its settle task, over runs of the daemon, and what the task begins when
it gets its turn. -/

namespace FoxessGateway.Server

open Protocol Runs Mqtt

/-! ## One frame -/

def isSettleTask : SessionEffect → Bool
  | .createSettleTask => true
  | _ => false

def settleTasksIn (effects : List SessionEffect) : Nat := effects.countP isSettleTask

namespace ControlView

/-- The task is scheduled as soon as telemetry has come and the handler is registered. -/
def Prompt (view : ControlView) : Prop :=
  view.hasControl = true → view.lastTelemetryAt.isSome = true → view.registered = true →
    view.settleScheduled = true

/-- What a step of a session does to the schedule. -/
structure Schedules (view : ControlView) (step : ControlView × List SessionEffect) : Prop where
  hasControl : step.1.hasControl = view.hasControl
  /-- Nothing is scheduled, or the task for the first time and with both conditions met. -/
  tasks : (step.1.settleScheduled = view.settleScheduled ∧ settleTasksIn step.2 = 0) ∨
    (view.settleScheduled = false ∧ step.1.settleScheduled = true ∧ settleTasksIn step.2 = 1 ∧
      step.1.lastTelemetryAt.isSome = true ∧ step.1.registered = true)
  prompt : view.Prompt → step.1.Prompt

variable {view : ControlView}

/-- A step after which the task is scheduled if it is due. -/
theorem schedules_settle {ready : ControlView} {first : List SessionEffect}
    (hasControl : ready.hasControl = view.hasControl)
    (scheduled : ready.settleScheduled = view.settleScheduled)
    (nothing : settleTasksIn first = 0) :
    view.Schedules (ready.settle.1, first ++ ready.settle.2) := by
  have count : ∀ later, settleTasksIn (first ++ later) = settleTasksIn later := fun later => by
    rw [settleTasksIn, List.countP_append]
    exact (congrArg (· + _) nothing).trans (Nat.zero_add _)
  by_cases due : ready.settleScheduled = false ∧ ready.lastTelemetryAt.isSome = true ∧
      ready.hasControl = true ∧ ready.registered = true
  · have settled : ready.settle =
        ({ ready with settleScheduled := true }, [.createSettleTask]) := if_pos due
    obtain ⟨unscheduled, received, _, registered⟩ := due
    rw [settled]
    exact ⟨hasControl, .inr ⟨scheduled ▸ unscheduled, rfl, count _, received, registered⟩,
      fun _ _ _ _ => rfl⟩
  · have settled : ready.settle = (ready, []) := if_neg due
    rw [settled]
    refine ⟨hasControl, .inl ⟨scheduled, count _⟩, fun _ controlled received registered => ?_⟩
    by_contra unscheduled
    exact due ⟨Bool.eq_false_iff.mpr unscheduled, received, controlled, registered⟩

theorem schedules_productInfo (view : ControlView) (info : ProductInfo) :
    view.Schedules (view.productInfo info) := by
  rw [productInfo]
  obtain ⟨_, nothing⟩ | ⟨serial, _, _, ⟨_, synced⟩ | ⟨_, synced⟩⟩ := (view.know info).sync_cases
  · rw [nothing]
    exact ⟨rfl, .inl ⟨rfl, rfl⟩, fun prompt => prompt⟩
  · rw [synced]
    obtain ⟨_, wired⟩ | ⟨_, wired⟩ := (view.know info).wire_cases serial
    · rw [wired]
      exact schedules_settle rfl rfl rfl
    · rw [wired]
      exact schedules_settle rfl rfl rfl
  · -- the handler goes, and with it the reason to schedule
    rw [synced]
    exact ⟨rfl, .inl ⟨rfl, rfl⟩, fun _ _ _ registered => absurd registered Bool.false_ne_true⟩

theorem schedules_register (view : ControlView) (serial : Option Text) :
    view.Schedules (view.register serial) := by
  rw [register]
  refine ⟨rfl, .inl ⟨rfl, ?_⟩, fun prompt => prompt⟩
  cases serial.filter (· ≠ []) <;> rfl

theorem schedules_frame (view : ControlView) (time : Nat) (frame : Frame) :
    view.Schedules (view.frame time frame) := by
  obtain same | ⟨_, _, same⟩ | ⟨info, _, _, same⟩ | ⟨_, same⟩ := view.frame_cases time frame
  · rw [same]
    exact ⟨rfl, .inl ⟨rfl, rfl⟩, fun prompt => prompt⟩
  · rw [same]
    exact view.schedules_register _
  · rw [same]
    exact view.schedules_productInfo info
  · rw [same]
    let ready : ControlView := { view with lastTelemetryAt := some time }
    have settled : view.Schedules (ready.settle.1, [] ++ ready.settle.2) :=
      schedules_settle rfl rfl rfl
    exact settled

theorem settle_received (view : ControlView) :
    view.settle.1.lastTelemetryAt = view.lastTelemetryAt := by
  obtain same | ⟨_, _, same⟩ := view.settle_cases <;> rw [same]

theorem productInfo_received (view : ControlView) (info : ProductInfo) :
    (view.productInfo info).1.lastTelemetryAt = view.lastTelemetryAt := by
  rw [productInfo]
  obtain ⟨_, nothing⟩ | ⟨serial, _, _, ⟨_, synced⟩ | ⟨_, synced⟩⟩ := (view.know info).sync_cases
  · rw [nothing]
    rfl
  · rw [synced]
    obtain ⟨_, wired⟩ | ⟨_, wired⟩ := (view.know info).wire_cases serial
    · rw [wired]
      exact settle_received _
    · rw [wired]
      exact settle_received _
  · rw [synced]
    rfl

/-- Telemetry counts where it is valid, and is not forgotten. -/
theorem frame_received (view : ControlView) (time : Nat) (frame : Frame) :
    (view.frame time frame).1.lastTelemetryAt.isSome = true ↔
      view.lastTelemetryAt.isSome = true ∨ (frame.validCrc = true ∧ isTelemetry frame = true) := by
  by_cases sent : frame.validCrc = true ∧ isTelemetry frame = true
  · obtain ⟨valid, telemetry⟩ := sent
    have isSent : view.frame time frame = view.telemetry time := by
      rw [ControlView.frame, if_neg (by rw [valid]; decide),
        isRegistration_of_isTelemetry telemetry, if_neg Bool.false_ne_true,
        productInfo_of_isTelemetry telemetry]
      exact if_pos telemetry
    rw [isSent, ControlView.telemetry, settle_received]
    exact iff_of_true rfl (.inr ⟨valid, telemetry⟩)
  · rw [or_iff_left sent]
    have kept : (view.frame time frame).1.lastTelemetryAt = view.lastTelemetryAt := by
      rw [ControlView.frame]
      split
      · rfl
      rename_i valid
      split
      · rfl
      split
      · exact view.productInfo_received _
      · rw [if_neg fun telemetry => sent ⟨by simpa using valid, telemetry⟩]
    rw [kept]

end ControlView

/-! ## Runs -/

/-- Of an action of the daemon, what concerns the settle task of a session. -/
structure SettleRecord where
  /-- The action is valid telemetry of the session. -/
  telemetry : Bool
  /-- The settle tasks of the session that it schedules. -/
  scheduled : Nat
  /-- `_inverter_control_command_registered` after it. -/
  registered : Bool
  deriving DecidableEq, Repr

def DaemonAction.telemetryOf (session : Nat) : DaemonAction → Bool
  | .frame handling _ wire _ =>
    handling = session ∧ wire.frame.validCrc = true ∧ isTelemetry wire.frame = true
  | _ => false

def settleRecord (session : Nat) (daemon : Daemon) (action : DaemonAction) (next : Daemon) :
    SettleRecord where
  telemetry := action.telemetryOf session
  scheduled := next.tables.settleTasks.count session - daemon.tables.settleTasks.count session
  registered := (next.controlOf session).any ControlView.registered

/-- The daemon, watched for the settle task of a session. -/
def settleMachine (config : DaemonConfig) (session : Nat) :
    Machine Daemon DaemonAction SettleRecord :=
  fun daemon action => (daemonMachine config daemon action).map fun reached =>
    (reached.1, [settleRecord session daemon action reached.1])

def TelemetrySeen (history : List SettleRecord) : Prop :=
  ∃ record ∈ history, record.telemetry = true

def scheduledTasks (history : List SettleRecord) : Nat := (history.map SettleRecord.scheduled).sum

/-- The task is scheduled once at most, once telemetry has come and the handler is registered, and
not before. -/
structure SettleBecause (before : List SettleRecord) (record : SettleRecord) : Prop where
  once : scheduledTasks (before ++ [record]) ≤ 1
  soon : TelemetrySeen (before ++ [record]) → record.registered = true →
    scheduledTasks (before ++ [record]) = 1
  due : 0 < record.scheduled → TelemetrySeen (before ++ [record]) ∧ record.registered = true

theorem telemetrySeen_concat {history : List SettleRecord} {record : SettleRecord} :
    TelemetrySeen (history ++ [record]) ↔ TelemetrySeen history ∨ record.telemetry = true := by
  simp [TelemetrySeen, or_and_right, exists_or]

theorem scheduledTasks_concat (history : List SettleRecord) (record : SettleRecord) :
    scheduledTasks (history ++ [record]) = scheduledTasks history + record.scheduled := by
  rw [scheduledTasks, List.map_append, List.sum_append]
  rfl

/-- Local control in a session, as it will begin where the session is still to come. -/
def Daemon.controlFrom (config : DaemonConfig) (daemon : Daemon) (session : Nat) : ControlView :=
  (daemon.controlOf session).getD (Session.fresh config.session).control

/-- The view of the session fits what the records say. -/
structure Scheduling (view : ControlView) (history : List SettleRecord) : Prop where
  justified : Justified SettleBecause history
  hasControl : view.hasControl = true
  prompt : view.Prompt
  received : view.lastTelemetryAt.isSome = true ↔ TelemetrySeen history
  scheduled : scheduledTasks history = view.settleScheduled.toNat

/-- **One record.**  It has its reason wherever the step is one that `Schedules` allows. -/
theorem Scheduling.concat {view after : ControlView} {effects : List SessionEffect}
    {history : List SettleRecord} {record : SettleRecord} (before : Scheduling view history)
    (schedules : view.Schedules (after, effects))
    (scheduled : record.scheduled = settleTasksIn effects)
    (registered : record.registered = after.registered)
    (received : after.lastTelemetryAt.isSome = true ↔
      view.lastTelemetryAt.isSome = true ∨ record.telemetry = true) :
    Scheduling after (history ++ [record]) := by
  have hasControl : after.hasControl = true := schedules.hasControl.trans before.hasControl
  have prompt : after.Prompt := schedules.prompt before.prompt
  have seen : after.lastTelemetryAt.isSome = true ↔ TelemetrySeen (history ++ [record]) := by
    rw [telemetrySeen_concat, received, before.received]
  have tasks : scheduledTasks (history ++ [record]) = after.settleScheduled.toNat := by
    rw [scheduledTasks_concat, before.scheduled, scheduled]
    obtain ⟨same, none⟩ | ⟨early, late, one, _⟩ := schedules.tasks
    · rw [none, ← same, Nat.add_zero]
    · rw [one, early, late]
      rfl
  refine ⟨justified_concat.mpr ⟨before.justified, ?_, ?_, ?_⟩, hasControl, prompt, seen, tasks⟩
  · rw [tasks]
    exact Bool.toNat_le _
  · intro telemetry wired
    rw [tasks, prompt hasControl (seen.mpr telemetry) (registered ▸ wired)]
    rfl
  · intro some
    obtain ⟨_, none⟩ | ⟨_, _, _, telemetry, wired⟩ := schedules.tasks
    · rw [scheduled, none] at some
      exact absurd some (Nat.lt_irrefl 0)
    · exact ⟨seen.mp telemetry, registered.trans wired⟩

/-! ### Steps -/

theorem count_applyAll (topicPrefix : Text) (session handling : Nat) (tables : Tables)
    (effects : List SessionEffect) :
    (tables.applyAll topicPrefix handling effects).settleTasks.count session =
      tables.settleTasks.count session +
        if handling = session then settleTasksIn effects else 0 := by
  induction effects generalizing tables with
  | nil => simp [Tables.applyAll, settleTasksIn]
  | cons effect effects inductionHypothesis =>
    rw [Tables.applyAll, List.foldl_cons]
    refine (inductionHypothesis _).trans ?_
    have counted : settleTasksIn (effect :: effects) =
        settleTasksIn effects + if isSettleTask effect then 1 else 0 := List.countP_cons
    have first : (tables.apply topicPrefix handling effect).settleTasks.count session =
        tables.settleTasks.count session +
          if handling = session then (if isSettleTask effect then 1 else 0) else 0 := by
      cases effect with
      | createSettleTask =>
        rw [Tables.apply, List.count_append, List.count_singleton]
        simp [isSettleTask]
      | mqtt operation => cases operation <;> simp [Tables.apply, isSettleTask]
      | _ => simp [Tables.apply, isSettleTask]
    rw [first, counted]
    split <;> omega

namespace Daemon

variable {config : DaemonConfig} {daemon next : Daemon} {session : Nat}

theorem controlFrom_of_some {view : ControlView} (found : daemon.controlOf session = some view) :
    daemon.controlFrom config session = view := by
  rw [controlFrom, found]
  rfl

/-- The flag of a session that is still to come is not set. -/
theorem registered_controlFrom (config : DaemonConfig) :
    (daemon.controlOf session).any ControlView.registered =
      (daemon.controlFrom config session).registered := by
  rw [controlFrom]
  cases daemon.controlOf session <;> rfl

/-- Whatever other sessions and the coroutines do, a session's view stays, and it gets no task. -/
theorem besides_step {action : DaemonAction} {shown : List DaemonEvent}
    (stepped : daemonMachine config daemon action = some (next, shown))
    (besides : ∀ world wire sendBootstrap, action ≠ .frame session world wire sendBootstrap) :
    next.controlFrom config session = daemon.controlFrom config session ∧
      next.tables.settleTasks.count session ≤ daemon.tables.settleTasks.count session := by
  by_cases quiet : action.IsQuiet
  · obtain ⟨same, _⟩ := quiet_step stepped quiet
    have work := quiet_work stepped quiet
    rw [controlFrom, same.controls session]
    exact ⟨rfl, work.settleTasks.count_le session⟩
  cases action with
  | connect =>
    obtain ⟨_, tables, _, _, controls, _⟩ := connect_step stepped
    rw [tables, controlFrom, controls session]
    refine ⟨?_, Nat.le_refl _⟩
    split
    · -- the session that begins now has the view that it began with
      rename_i begins
      have absent : daemon.controlOf session = none := by
        rw [controlOf, begins, List.getElem?_eq_none (Nat.le_refl _)]
        rfl
      rw [controlFrom, absent]
      rfl
    · rfl
  | finish handling =>
    obtain ⟨_, view, _, controls, _, tables, _⟩ := finish_step stepped
    rw [tables, remove_settleTasks, controlFrom, controls session]
    exact ⟨rfl, Nat.le_refl _⟩
  | frame handling world wire sendBootstrap =>
    have different : session ≠ handling := by
      rintro rfl
      exact besides world wire sendBootstrap rfl
    obtain ⟨view, _, _, handled⟩ := frame_step stepped
    rw [handled.tables, count_applyAll, if_neg (Ne.symm different), controlFrom,
      handled.controls session, if_neg different]
    exact ⟨rfl, Nat.le_refl _⟩
  | _ => exact absurd trivial quiet

end Daemon

/-- The invariant of a run. -/
abbrev Settling (config : DaemonConfig) (session : Nat) (daemon : Daemon)
    (history : List SettleRecord) : Prop :=
  Scheduling (daemon.controlFrom config session) history

/-- **One action.** -/
theorem settling_step {config : DaemonConfig} {session : Nat} {daemon next : Daemon}
    {history shown : List SettleRecord} {action : DaemonAction}
    (before : Settling config session daemon history)
    (stepped : settleMachine config session daemon action = some (next, shown)) :
    Settling config session next (history ++ shown) := by
  obtain ⟨⟨reached, events⟩, moved, same⟩ := Option.map_eq_some_iff.mp stepped
  cases same
  by_cases handles : ∃ world wire sendBootstrap, action = .frame session world wire sendBootstrap
  · obtain ⟨world, wire, sendBootstrap, rfl⟩ := handles
    obtain ⟨view, found, _, handled⟩ := Daemon.frame_step moved
    have after : reached.controlOf session = some (view.frame world.time wire.frame).1 := by
      rw [handled.controls, if_pos rfl]
    rw [Settling, Daemon.controlFrom_of_some found] at before
    rw [Settling, Daemon.controlFrom_of_some after]
    have schedules : view.Schedules ((view.frame world.time wire.frame).1,
        (view.frame world.time wire.frame).2) := view.schedules_frame world.time wire.frame
    refine before.concat schedules ?_ ?_ ?_
    · rw [settleRecord, handled.tables, count_applyAll, if_pos rfl, Nat.add_sub_cancel_left]
    · rw [settleRecord, after]
      rfl
    · rw [ControlView.frame_received, settleRecord, DaemonAction.telemetryOf, decide_eq_true_iff]
      exact or_congr_right (and_iff_right rfl).symm
  · have besides : ∀ world wire sendBootstrap,
        action ≠ .frame session world wire sendBootstrap :=
      fun world wire sendBootstrap isFrame => handles ⟨world, wire, sendBootstrap, isFrame⟩
    obtain ⟨sameView, noTask⟩ := Daemon.besides_step moved besides
    have silent : action.telemetryOf session = false := by
      cases action with
      | frame handling world wire sendBootstrap =>
        rw [DaemonAction.telemetryOf, decide_eq_false_iff_not]
        rintro ⟨rfl, _⟩
        exact handles ⟨world, wire, sendBootstrap, rfl⟩
      | _ => rfl
    rw [Settling, sameView]
    refine before.concat ⟨rfl, .inl ⟨rfl, (rfl : settleTasksIn [] = 0)⟩, fun prompt => prompt⟩
      (Nat.sub_eq_zero_of_le noTask) ?_ ?_
    · rw [settleRecord, Daemon.registered_controlFrom config, sameView]
    · rw [settleRecord, silent]
      simp

/-! ## The task -/

/-- The session that a connection of the daemon has. -/
def Daemon.sessionOf (daemon : Daemon) (session : Nat) : Option Session :=
  daemon.connections[session]?.map Connection.session

/-- What a request shows: its frame, where it can be built and the writer is usable. -/
def requestShown (session : Nat) (writable : Bool) : Except PyError Bytes → List DaemonEvent
  | .ok raw => if writable then [.requested session raw] else []
  | .error _ => []

/-- The counter of a session's requests. -/
def Daemon.counterOf (daemon : Daemon) (session : Nat) : Option Nat :=
  ((daemon.sessionOf session).bind Session.localControl).map LocalControl.counter

/-- What the settle task begins: one request, with the next device field of the session's local
control.  Its frame may not come to be written, but no other one is begun in its place. -/
inductive SettleStart (config : DaemonConfig) (daemon : Daemon) (session : Nat)
    (connection : Connection) (next : Daemon) (shown : List DaemonEvent) : Prop
  /-- The pending setpoint is written again, and no read begins. -/
  | reapplied {serial : Text} {percent : Nat} {control : LocalControl}
      (known : connection.session.knownSerial = some serial)
      (pending : daemon.app.pendingActivePowerLimit serial = some percent)
      (controlled : connection.session.localControl = some control)
      (written : shown = requestShown session connection.writable
        (buildModbusWriteSingle (control.nextDevice deviceByteWrite).2
          config.session.activePowerLimitAddress percent))
      (awaited : next.writes = daemon.writes ++ shown.map fun _ => ⟨session, percent,
        daemon.app.currentActivePowerLimitGeneration serial, .reapply⟩)
      (numbered : next.counterOf session = some (control.nextDevice deviceByteWrite).1.counter)
      (noRead : (next.sessionOf session).map Session.pendingReads =
        some connection.session.pendingReads)
  /-- Nothing is pending: the register is read, and no write begins. -/
  | read {serial : Text} {control : LocalControl}
      (known : connection.session.knownSerial = some serial)
      (settled : daemon.app.pendingActivePowerLimit serial = none)
      (controlled : connection.session.localControl = some control)
      (written : shown = requestShown session connection.writable
        (buildModbusReadHolding (control.nextDevice deviceByteRead).2
          config.session.activePowerLimitAddress 1))
      (numbered : next.counterOf session = some (control.nextDevice deviceByteRead).1.counter)
      (noWrite : next.writes = daemon.writes)
  /-- A session without a serial has no setpoint, and nothing to read one for. -/
  | unknown (unknown : connection.session.knownSerial = none) (silent : shown = [])
      (noWrite : next.writes = daemon.writes)

section Task

variable (config : DaemonConfig) {daemon : Daemon} {session : Nat} {connection : Connection}
  {serial : Text}

theorem sessionOf_setSession (found : daemon.connections[session]? = some connection)
    (after : Session) :
    (daemon.setSession session connection after).sessionOf session = some after := by
  rw [Daemon.sessionOf, Daemon.setSession, Daemon.connections_setConnection found, if_pos rfl]
  rfl

theorem counterOf_setSession (found : daemon.connections[session]? = some connection)
    {after : Session} {counter : Nat}
    (counts : after.localControl.map LocalControl.counter = some counter) :
    (daemon.setSession session connection after).counterOf session = some counter := by
  rw [Daemon.counterOf, sessionOf_setSession found, Option.bind_some, counts]

theorem applyActivePowerLimit_start (found : daemon.connections[session]? = some connection)
    {control : LocalControl} (controlled : connection.session.localControl = some control)
    (known : connection.session.knownSerial = some serial) {percent : Nat}
    (pending : daemon.app.pendingActivePowerLimit serial = some percent) :
    let stepped := daemon.applyActivePowerLimit config session connection percent
      (daemon.app.currentActivePowerLimitGeneration serial) .reapply
    SettleStart config daemon session connection stepped.1 stepped.2 := by
  have reads : ∀ after : Session, after.pendingReads = connection.session.pendingReads →
      ((daemon.setSession session connection after).sessionOf session).map Session.pendingReads =
        some connection.session.pendingReads := by
    intro after same
    rw [sessionOf_setSession found, ← same]
    rfl
  simp only [Daemon.applyActivePowerLimit, Session.startWrite, controlled, known,
    LocalControl.writeRegister]
  cases built : buildModbusWriteSingle (control.nextDevice deviceByteWrite).2
      config.session.activePowerLimitAddress percent with
  | error raised =>
    -- the number is used up, although no frame comes of it
    refine .reapplied known pending controlled ?_ (List.append_nil _).symm
      (counterOf_setSession found rfl) (reads _ rfl)
    rw [built]
    rfl
  | ok raw =>
    -- without a writer the call returns before it awaits anything
    cases writable : connection.writable with
    | false =>
      refine .reapplied known pending controlled ?_ (List.append_nil _).symm
        (counterOf_setSession found rfl) (reads _ rfl)
      rw [built, writable]
      rfl
    | true =>
      refine .reapplied known pending controlled ?_ rfl (counterOf_setSession found rfl)
        (reads _ rfl)
      rw [built, writable]
      rfl

theorem readActivePowerLimitOnce_start (found : daemon.connections[session]? = some connection)
    {control : LocalControl} (controlled : connection.session.localControl = some control)
    (known : connection.session.knownSerial = some serial)
    (settled : daemon.app.pendingActivePowerLimit serial = none) :
    let stepped := daemon.readActivePowerLimitOnce config session connection none
    SettleStart config daemon session connection stepped.1 stepped.2 := by
  simp only [Daemon.readActivePowerLimitOnce, Session.startRead, controlled, known,
    LocalControl.readHolding]
  cases built : buildModbusReadHolding (control.nextDevice deviceByteRead).2
      config.session.activePowerLimitAddress 1 with
  | error raised =>
    refine .read known settled controlled ?_ (counterOf_setSession found rfl) rfl
    rw [built]
    rfl
  | ok raw =>
    cases writable : connection.writable with
    | false =>
      refine .read known settled controlled ?_ (counterOf_setSession found rfl) rfl
      rw [built, writable]
      rfl
    | true =>
      refine .read known settled controlled ?_ (counterOf_setSession found rfl) rfl
      rw [built, writable]
      rfl

/-- **The task.**  It begins a write of what is pending, or else a read. -/
theorem settleInverterControl_start (found : daemon.connections[session]? = some connection)
    (controlled : connection.session.localControl.isSome = true) :
    let stepped := daemon.settleInverterControl config session connection
    SettleStart config daemon session connection stepped.1 stepped.2 := by
  obtain ⟨control, isControl⟩ := Option.isSome_iff_exists.mp controlled
  dsimp only
  rw [Daemon.settleInverterControl]
  split
  · -- without a serial there is nothing pending, and the read ends at once
    rename_i unknown
    simp only [Daemon.readActivePowerLimitOnce, Session.startRead, isControl, unknown]
    exact .unknown unknown rfl rfl
  · rename_i serial known
    split
    · rename_i settled
      exact readActivePowerLimitOnce_start config found isControl known settled
    · rename_i percent pending
      exact applyActivePowerLimit_start config found isControl known pending

end Task

/-! ## The result -/

theorem settling_fresh {config : DaemonConfig} (session : Nat)
    (enabled : config.session.inverterControlEnabled = true) :
    Settling config session .fresh [] where
  justified := justified_nil
  hasControl := by
    change (if config.session.inverterControlEnabled then some LocalControl.fresh
      else none).isSome = true
    rw [if_pos enabled]
    rfl
  prompt _ received _ := absurd received Bool.false_ne_true
  received := by simp [TelemetrySeen, Daemon.controlFrom, Daemon.controlOf, Daemon.fresh,
    Session.control, Session.fresh]
  scheduled := rfl

/-- Telemetry comes before the version is known, and again after it. -/
def lateInfoActions : List DaemonAction :=
  registeredActions ++
    [.handle 0 telemetryFrame, .handle 0 supportedFrame, .handle 0 telemetryFrame]

def lateInfoTrace : List SettleRecord :=
  [⟨false, 0, false⟩, ⟨false, 0, false⟩, ⟨false, 0, false⟩, ⟨true, 0, false⟩, ⟨false, 1, true⟩,
    ⟨true, 0, true⟩]

end FoxessGateway.Server
