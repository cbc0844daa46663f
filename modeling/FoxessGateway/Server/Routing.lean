import FoxessGateway.Server.Wiring

/-! # The way of a setpoint

A command topic leads to the session that last wired its handler, and the setpoint is recorded
under the serial that session has when its coroutine runs. -/

namespace FoxessGateway.Server

open Protocol Runs Mqtt

namespace Daemon

/-- The session has the serial, and local control. -/
def Holds (daemon : Daemon) (session : Nat) (serial : Text) : Prop :=
  ∃ view, daemon.controlOf session = some view ∧ view.knownSerial = some serial ∧
    view.hasControl = true

theorem SameControl.holds {daemon next : Daemon} (same : daemon.SameControl next) (session : Nat)
    (serial : Text) : next.Holds session serial ↔ daemon.Holds session serial := by
  rw [Holds, Holds, same.controls]

theorem openSession_eq_some_iff {daemon : Daemon} {serial : Text} {session : Nat} :
    daemon.openSession serial = some session ↔
      daemon.tables.sessionsBySerial.get serial = some session ∧ daemon.IsOpen session := by
  rw [openSession, Option.filter_eq_some_iff, IsOpen]
  apply and_congr_right
  intro _
  rw [Option.any_eq_true]
  simp only [Bool.not_eq_eq_eq_not, Bool.not_true]

end Daemon

/-- The frame does not take a session away from a serial whose setpoints come to it, and gives the
handler of a serial to no other session than the one `sessions_by_serial` has for it. -/
def KeepsRoutes (config : DaemonConfig) (daemon : Daemon) : DaemonAction → Prop
  | .frame session _ wire _ => wire.frame.validCrc = true →
      (isRegistration wire.frame = true →
        (∀ serial, daemon.handlerOf config serial = some session →
          registrationSerial wire.frame = some serial) ∧
        ∀ queued ∈ daemon.setpoints, queued.session = session →
          registrationSerial wire.frame = some queued.serial) ∧
      (∀ view info serial, daemon.controlOf session = some view →
        productInfo wire.frame = some info → view.knownSerial = some serial →
        view.registered = false → (view.know info).Supported →
          ∀ other, daemon.openSession serial = some other → other = session)
  | _ => True

/-- Handlers and setpoints on their way lead to a session with the serial of their topic, and to
no other than the open one `sessions_by_serial` has for it. -/
structure Routed (config : DaemonConfig) (daemon : Daemon) : Prop where
  holds : ∀ {serial session}, daemon.handlerOf config serial = some session →
    daemon.Holds session serial
  target : ∀ {serial session other}, daemon.handlerOf config serial = some session →
    daemon.openSession serial = some other → other = session
  queuedHolds : ∀ {queued}, queued ∈ daemon.setpoints → daemon.Holds queued.session queued.serial
  queuedTarget : ∀ {queued other}, queued ∈ daemon.setpoints → queued.target = some other →
    other = queued.session
  entryBound : ∀ {serial session},
    daemon.tables.sessionsBySerial.get serial = some session →
      ∃ view, daemon.controlOf session = some view

section Steps

variable {config : DaemonConfig} {daemon next : Daemon} {shown : List DaemonEvent}

/-- Where only setpoints leave or join the queue, as the handlers have it. -/
theorem Routed.same (routed : Routed config daemon) (same : daemon.SameControl next)
    (queued : ∀ queued ∈ next.setpoints, queued ∈ daemon.setpoints ∨
      (daemon.handlerOf config queued.serial = some queued.session ∧
        queued.target = daemon.openSession queued.serial)) :
    Routed config next := by
  have sameOpen : ∀ serial other, next.openSession serial = some other →
      daemon.openSession serial = some other := by
    intro serial other isOpen
    rw [Daemon.openSession_eq_some_iff] at isOpen ⊢
    rw [← same.registry]
    exact ⟨isOpen.1, (same.isOpen other).mp isOpen.2⟩
  constructor
  case holds =>
    intro serial session handled
    rw [same.handlerOf] at handled
    exact (same.holds session serial).mpr (routed.holds handled)
  case target =>
    intro serial session other handled isOpen
    rw [same.handlerOf] at handled
    exact routed.target handled (sameOpen serial other isOpen)
  case queuedHolds =>
    intro entry member
    rw [same.holds]
    rcases queued entry member with early | ⟨handled, _⟩
    · exact routed.queuedHolds early
    · exact routed.holds handled
  case queuedTarget =>
    intro entry other member isTarget
    rcases queued entry member with early | ⟨handled, target⟩
    · exact routed.queuedTarget early isTarget
    · exact routed.target handled (target.symm.trans isTarget)
  case entryBound =>
    intro serial session entry
    rw [same.registry] at entry
    rw [same.controls]
    exact routed.entryBound entry

/-- What a session holds after a frame. -/
theorem holds_done {session : Nat} {after : ControlView} {tables : Tables}
    (done : daemon.FrameDone session after tables next) {other : Nat} {serial : Text} :
    next.Holds other serial ↔
      if other = session then after.knownSerial = some serial ∧ after.hasControl = true
      else daemon.Holds other serial := by
  rw [Daemon.Holds, done.controls]
  split
  · simp
  · rfl

/-- The topic of the serial leads to the session, or a setpoint for the serial is on its way. -/
def Daemon.Leads (config : DaemonConfig) (daemon : Daemon) (session : Nat) (serial : Text) : Prop :=
  daemon.handlerOf config serial = some session ∨
    ∃ queued ∈ daemon.setpoints, queued.session = session ∧ queued.serial = serial

theorem Routed.leads (routed : Routed config daemon) {session : Nat} {serial : Text}
    (leads : daemon.Leads config session serial) : daemon.Holds session serial := by
  rcases leads with handled | ⟨queued, member, rfl, rfl⟩
  · exact routed.holds handled
  · exact routed.queuedHolds member

/-- What is to be checked after a frame: the session that handled it still has the serials that
lead to it, and no serial leads elsewhere than before. -/
theorem Routed.frame {session : Nat} {after : ControlView} {tables : Tables}
    (routed : Routed config daemon) (done : daemon.FrameDone session after tables next)
    (held : ∀ serial, next.Leads config session serial →
      after.knownSerial = some serial ∧ after.hasControl = true)
    (handlers : ∀ serial other, other ≠ session → next.handlerOf config serial = some other →
      daemon.handlerOf config serial = some other)
    (target : ∀ serial other isOpen, next.handlerOf config serial = some other →
      next.openSession serial = some isOpen → isOpen = other)
    (entries : ∀ serial other, tables.sessionsBySerial.get serial = some other →
      other = session ∨ daemon.tables.sessionsBySerial.get serial = some other) :
    Routed config next := by
  constructor
  case holds =>
    intro serial other handled
    rw [holds_done done]
    split
    · rename_i same
      exact held serial (.inl (same ▸ handled))
    · rename_i different
      exact routed.holds (handlers serial other different handled)
  case target =>
    intro serial other isOpen
    exact target serial other isOpen
  case queuedHolds =>
    intro queued member
    rw [holds_done done]
    split
    · rename_i same
      exact held queued.serial (.inr ⟨queued, member, same, rfl⟩)
    · rw [done.setpoints] at member
      exact routed.queuedHolds member
  case queuedTarget =>
    intro queued other member isTarget
    rw [done.setpoints] at member
    exact routed.queuedTarget member isTarget
  case entryBound =>
    intro serial other entry
    rw [done.tables] at entry
    rw [done.controls]
    split
    · exact ⟨after, rfl⟩
    · rename_i different
      exact routed.entryBound ((entries serial other entry).resolve_left different)

/-! ### Frames -/

section Frame

variable {session : Nat} {view after : ControlView} {tables : Tables}
  {serial : Text} {other : Nat}

theorem Daemon.Holds.of_controlOf (holds : daemon.Holds session serial)
    (isView : daemon.controlOf session = some view) :
    view.knownSerial = some serial ∧ view.hasControl = true := by
  obtain ⟨held, isHeld, known, controlled⟩ := holds
  rw [isView] at isHeld
  cases isHeld
  exact ⟨known, controlled⟩

theorem handlerOf_done (done : daemon.FrameDone session after tables next) (serial : Text) :
    next.handlerOf config serial =
      tables.commandHandlers.get (activePowerLimitCommandTopic config.topicPrefix serial) := by
  rw [Daemon.handlerOf, done.tables]

/-- The session of an entry that does not change was open before. -/
theorem openSession_done (done : daemon.FrameDone session after tables next)
    (registry : tables.sessionsBySerial.get serial = daemon.tables.sessionsBySerial.get serial)
    (isOpen : next.openSession serial = some other) : daemon.openSession serial = some other := by
  rw [Daemon.openSession_eq_some_iff, done.tables, registry] at isOpen
  rw [Daemon.openSession_eq_some_iff]
  exact ⟨isOpen.1, (done.isOpen other).mp isOpen.2⟩

/-- A frame that changes no handler and no entry. -/
theorem routed_kept (routed : Routed config daemon) (isView : daemon.controlOf session = some view)
    (done : daemon.FrameDone session after tables next)
    (registry : tables.sessionsBySerial = daemon.tables.sessionsBySerial)
    (handlers : tables.commandHandlers = daemon.tables.commandHandlers)
    (sameControl : after.hasControl = view.hasControl)
    (sameSerial : ∀ serial, daemon.Leads config session serial →
      after.knownSerial = view.knownSerial) : Routed config next := by
  have sameHandler : ∀ serial, next.handlerOf config serial = daemon.handlerOf config serial := by
    intro serial
    rw [handlerOf_done done, handlers, Daemon.handlerOf]
  apply routed.frame done
  · intro serial leads
    rw [Daemon.Leads, sameHandler, done.setpoints] at leads
    rw [sameSerial serial leads, sameControl]
    exact (routed.leads leads).of_controlOf isView
  · intro serial other _ handled
    exact (sameHandler serial).symm.trans handled
  · intro serial other isOpen handled opened
    rw [sameHandler] at handled
    exact routed.target handled (openSession_done done (by rw [registry]) opened)
  · intro serial other entry
    exact .inr (registry ▸ entry)

/-- A registration with another serial: its handler goes, and what else leads to the session is for
that serial. -/
theorem routed_named {named : Text} (routed : Routed config daemon)
    (isView : daemon.controlOf session = some view)
    (done : daemon.FrameDone session { view with serial := some named }
      { daemon.tables with
        sessionsBySerial := daemon.tables.sessionsBySerial.set named session
        commandHandlers := daemon.tables.commandHandlers.pop
          (activePowerLimitCommandTopic config.topicPrefix named) } next)
    (nonempty : named ≠ [])
    (again : ∀ serial, daemon.Leads config session serial → serial = named) :
    Routed config next := by
  have nextHandler : ∀ {serial other}, next.handlerOf config serial = some other →
      serial ≠ named ∧ daemon.handlerOf config serial = some other := by
    intro serial other handled
    rw [handlerOf_done done, get_pop_topic] at handled
    split at handled
    · cases handled
    · rename_i different
      exact ⟨different, handled⟩
  apply routed.frame done
  · rintro serial (handled | isQueued)
    · obtain ⟨different, wasHandled⟩ := nextHandler handled
      exact absurd (again serial (.inl wasHandled)) different
    · rw [done.setpoints] at isQueued
      obtain rfl := again serial (.inr isQueued)
      obtain ⟨_, controlled⟩ := (routed.leads (.inr isQueued)).of_controlOf isView
      refine ⟨?_, controlled⟩
      rw [ControlView.knownSerial, Option.filter_some, if_pos (decide_eq_true nonempty)]
  · intro serial other _ handled
    exact (nextHandler handled).2
  · intro serial other isOpen handled opened
    obtain ⟨different, wasHandled⟩ := nextHandler handled
    apply routed.target wasHandled (openSession_done done _ opened)
    rw [Dict.get_set, if_neg different]
  · intro serial other entry
    rw [Dict.get_set] at entry
    split at entry
    · exact .inl (Option.some.inj entry).symm
    · exact .inr entry

/-- Product info that wires the handler of the serial. -/
theorem routed_wired {wired : Text} (routed : Routed config daemon)
    (isView : daemon.controlOf session = some view)
    (done : daemon.FrameDone session after tables next)
    (isSerial : view.knownSerial = some wired) (controlled : view.hasControl = true)
    (sameSerial : after.serial = view.serial) (sameControl : after.hasControl = view.hasControl)
    (registry : tables.sessionsBySerial = daemon.tables.sessionsBySerial)
    (handlers : tables.commandHandlers = daemon.tables.commandHandlers.set
      (activePowerLimitCommandTopic config.topicPrefix wired) session)
    (entry : ∀ other, daemon.openSession wired = some other → other = session) :
    Routed config next := by
  have handlerOf_wired : ∀ serial, next.handlerOf config serial =
      if serial = wired then some session else daemon.handlerOf config serial := by
    intro serial
    rw [handlerOf_done done, handlers, get_set_topic, Daemon.handlerOf]
  apply routed.frame done
  · intro serial leads
    rw [Daemon.Leads, handlerOf_wired, done.setpoints] at leads
    rw [knownSerial_congr sameSerial, sameControl]
    split at leads
    · rename_i isWired
      rw [isWired]
      exact ⟨isSerial, controlled⟩
    · exact (routed.leads leads).of_controlOf isView
  · intro serial other different handled
    rw [handlerOf_wired] at handled
    split at handled
    · exact absurd (Option.some.inj handled).symm different
    · exact handled
  · intro serial other isOpen handled opened
    have wasOpen := openSession_done done (by rw [registry]) opened
    rw [handlerOf_wired] at handled
    split at handled
    · -- the topic leads to the session now, which is the open one of the entry
      rename_i isWired
      rw [isWired] at wasOpen
      rw [← Option.some.inj handled]
      exact entry isOpen wasOpen
    · exact routed.target handled wasOpen
  · intro serial other entry
    exact .inr (registry ▸ entry)

/-- Product info that takes a handler away. -/
theorem routed_withdrawn {withdrawn : Text} (routed : Routed config daemon)
    (isView : daemon.controlOf session = some view)
    (done : daemon.FrameDone session after
      { daemon.tables with
        commandHandlers := daemon.tables.commandHandlers.pop
          (activePowerLimitCommandTopic config.topicPrefix withdrawn) } next)
    (sameSerial : after.knownSerial = view.knownSerial)
    (sameControl : after.hasControl = view.hasControl) : Routed config next := by
  have nextHandler : ∀ {serial other}, next.handlerOf config serial = some other →
      daemon.handlerOf config serial = some other := by
    intro serial other handled
    rw [handlerOf_done done, get_pop_topic] at handled
    split at handled
    · cases handled
    · exact handled
  apply routed.frame done
  · intro serial leads
    have before : daemon.Leads config session serial := by
      rw [Daemon.Leads, done.setpoints] at leads
      exact leads.imp_left nextHandler
    rw [sameSerial, sameControl]
    exact (routed.leads before).of_controlOf isView
  · intro serial other _ handled
    exact nextHandler handled
  · intro serial other isOpen handled opened
    exact routed.target (nextHandler handled) (openSession_done done rfl opened)
  · intro serial other entry
    exact .inr entry

end Frame

theorem routed_frame {session : Nat} {world : SessionWorld} {wire : WireFrame}
    {sendBootstrap : Bool} (routed : Routed config daemon)
    (keeps : KeepsRoutes config daemon (.frame session world wire sendBootstrap))
    (stepped : daemonMachine config daemon (.frame session world wire sendBootstrap) =
      some (next, shown)) : Routed config next := by
  obtain ⟨view, after, tables, isView, outcome, done⟩ := Daemon.frame_outcome stepped
  -- a registration names each serial that leads to the session
  have names : wire.frame.validCrc = true → isRegistration wire.frame = true →
      ∀ serial, daemon.Leads config session serial →
        registrationSerial wire.frame = some serial := by
    rintro valid registers serial (handled | ⟨queued, member, isSession, rfl⟩)
    · exact ((keeps valid).1 registers).1 serial handled
    · exact ((keeps valid).1 registers).2 queued member isSession
  cases outcome with
  | kept sameSerial sameControl _ registry handlers =>
    exact routed_kept routed isView done registry handlers sameControl
      fun _ _ => knownSerial_congr sameSerial
  | unnamed valid registers nothing =>
    apply routed_kept routed isView done rfl rfl rfl
    -- nothing leads to a session that loses its serial
    intro serial leads
    obtain ⟨known, _⟩ := (routed.leads leads).of_controlOf isView
    obtain ⟨_, nonempty⟩ := Option.filter_eq_some_iff.mp known
    rw [names valid registers serial leads, Option.filter_some, if_pos nonempty] at nothing
    cases nothing
  | named valid registers isNamed nonempty =>
    apply routed_named routed isView done nonempty
    intro serial leads
    exact Option.some.inj ((names valid registers serial leads).symm.trans isNamed)
  | wired valid parsed isSerial controlled unwired supported sameSerial sameControl _ registry
      handlers =>
    rename_i wired info _
    apply routed_wired routed isView done isSerial controlled sameSerial sameControl registry
      handlers
    exact (keeps valid).2 view info wired isView parsed isSerial unwired supported
  | withdrawn => exact routed_withdrawn routed isView done rfl rfl

theorem routed_connect (routed : Routed config daemon)
    (stepped : daemonMachine config daemon .connect = some (next, shown)) :
    Routed config next := by
  obtain ⟨_, tables, setpoints, _, controls, isOpen⟩ := Daemon.connect_step stepped
  -- the index of a new session is in no table yet
  have older : ∀ {session view}, daemon.controlOf session = some view →
      session ≠ daemon.connections.length := by
    rintro session view isView rfl
    rw [Daemon.controlOf, List.getElem?_eq_none (Nat.le_refl _)] at isView
    cases isView
  have sameHandler : ∀ serial, next.handlerOf config serial = daemon.handlerOf config serial := by
    intro serial
    rw [Daemon.handlerOf, tables, Daemon.handlerOf]
  have holds : ∀ {session serial}, daemon.Holds session serial → next.Holds session serial := by
    rintro session serial ⟨view, isView, held⟩
    refine ⟨view, ?_, held⟩
    rw [controls, if_neg (older isView)]
    exact isView
  constructor
  case holds =>
    intro serial session handled
    rw [sameHandler] at handled
    exact holds (routed.holds handled)
  case target =>
    intro serial session other handled opened
    rw [sameHandler] at handled
    apply routed.target handled
    rw [Daemon.openSession_eq_some_iff, tables] at opened
    obtain ⟨entry, nowOpen⟩ := opened
    obtain ⟨view, isView⟩ := routed.entryBound entry
    rw [Daemon.openSession_eq_some_iff]
    exact ⟨entry, ((isOpen other).mp nowOpen).resolve_left (older isView)⟩
  case queuedHolds =>
    intro queued member
    rw [setpoints] at member
    exact holds (routed.queuedHolds member)
  case queuedTarget =>
    intro queued other member
    rw [setpoints] at member
    exact routed.queuedTarget member
  case entryBound =>
    intro serial session entry
    rw [tables] at entry
    obtain ⟨view, isView⟩ := routed.entryBound entry
    refine ⟨view, ?_⟩
    rw [controls, if_neg (older isView)]
    exact isView

theorem routed_finish {session : Nat} (routed : Routed config daemon)
    (stepped : daemonMachine config daemon (.finish session) = some (next, shown)) :
    Routed config next := by
  obtain ⟨_, view, _, controls, isOpen, tables, setpoints, _⟩ := Daemon.finish_step stepped
  have sameHandler : ∀ serial, next.handlerOf config serial = daemon.handlerOf config serial := by
    intro serial
    rw [Daemon.handlerOf, tables, remove_handlers, Daemon.handlerOf]
  have entries : ∀ {serial other}, next.tables.sessionsBySerial.get serial = some other →
      daemon.tables.sessionsBySerial.get serial = some other := by
    intro serial other entry
    rw [tables] at entry
    exact remove_entry entry
  have holds : ∀ {other serial}, daemon.Holds other serial → next.Holds other serial := by
    intro other serial held
    rwa [Daemon.Holds, controls]
  constructor
  case holds =>
    intro serial other handled
    rw [sameHandler] at handled
    exact holds (routed.holds handled)
  case target =>
    intro serial other opened handled isOpened
    rw [sameHandler] at handled
    apply routed.target handled
    rw [Daemon.openSession_eq_some_iff] at isOpened ⊢
    exact ⟨entries isOpened.1, ((isOpen opened).mp isOpened.2).2⟩
  case queuedHolds =>
    intro queued member
    rw [setpoints] at member
    exact holds (routed.queuedHolds member)
  case queuedTarget =>
    intro queued other member
    rw [setpoints] at member
    exact routed.queuedTarget member
  case entryBound =>
    intro serial other entry
    rw [controls]
    exact routed.entryBound (entries entry)

theorem routed_step {action : DaemonAction} (routed : Routed config daemon)
    (keeps : KeepsRoutes config daemon action)
    (stepped : daemonMachine config daemon action = some (next, shown)) : Routed config next := by
  cases action with
  | connect => exact routed_connect routed stepped
  | frame => exact routed_frame routed keeps stepped
  | finish => exact routed_finish routed stepped
  | _ =>
    exact routed.same (Daemon.quiet_step stepped trivial).1
      (Daemon.quiet_work stepped trivial).setpoints

end Steps

/-! ## Where a setpoint goes -/

/-- The step recorded a setpoint under its serial only, and wrote it through the session only. -/
structure Delivered (config : DaemonConfig) (daemon : Daemon) (queued : QueuedSetpoint)
    (session : Nat) (next : Daemon) (shown : List DaemonEvent) : Prop where
  app : next.app = (daemon.app.setDesiredActivePowerLimit queued.serial queued.percent).1
  records : .recorded queued.serial queued.percent ∈ shown
  only : ∀ event ∈ shown, event = .recorded queued.serial queued.percent ∨
    ∃ raw, event = .requested session raw
  /-- The request goes out where the session has a connection for it. -/
  writes : ∀ connection after sent, daemon.connections[session]? = some connection →
    connection.session.startWrite config.session connection.writable queued.percent =
      (after, .sent sent) → .requested session sent.raw ∈ shown

section Delivery

variable {config : DaemonConfig} {daemon next : Daemon} {shown : List DaemonEvent}

/-- `_apply_active_power_limit` leaves the setpoints alone. -/
theorem applyActivePowerLimit_app {session : Nat} {connection : Connection}
    (percent generation : Nat)
    (source : RequestSource) :
    (daemon.applyActivePowerLimit config session connection percent generation source).1.app =
      daemon.app := by
  rw [Daemon.applyActivePowerLimit]
  generalize connection.session.startWrite config.session connection.writable percent = started
  obtain ⟨after, start⟩ := started
  cases start <;> rfl

theorem applyActivePowerLimit_sent {session : Nat} {connection : Connection}
    {percent generation : Nat} {source : RequestSource} {after : Session} {sent : SentWrite}
    (started : connection.session.startWrite config.session connection.writable percent =
      (after, .sent sent)) :
    .requested session sent.raw ∈
      (daemon.applyActivePowerLimit config session connection percent generation source).2 := by
  rw [Daemon.applyActivePowerLimit, started]
  exact List.mem_singleton_self _

theorem applyActivePowerLimit_only {session : Nat} {connection : Connection}
    {percent generation : Nat} {source : RequestSource} {event : DaemonEvent}
    (member : event ∈
      (daemon.applyActivePowerLimit config session connection percent generation source).2) :
    ∃ raw, event = .requested session raw := by
  rw [Daemon.applyActivePowerLimit] at member
  generalize connection.session.startWrite config.session connection.writable percent = started
    at member
  obtain ⟨after, start⟩ := started
  cases start with
  | sent sent => exact ⟨sent.raw, List.mem_singleton.mp member⟩
  | _ => cases member

/-- The coroutine of a session with the serial of the topic. -/
theorem setpoint_delivered {place : Nat} {queued : QueuedSetpoint}
    (isQueued : daemon.setpoints[place]? = some queued)
    (holds : daemon.Holds queued.session queued.serial)
    (stepped : daemonMachine config daemon (.setpoint place) = some (next, shown)) :
    Delivered config daemon queued queued.session next shown := by
  obtain ⟨taken, connection, isTaken, found, reached⟩ := Daemon.setpoint_step stepped
  obtain rfl : queued = taken := Option.some.inj (isQueued.symm.trans isTaken)
  obtain ⟨view, isView, known, controlled⟩ := holds
  rw [Daemon.controlOf_of_found found] at isView
  obtain rfl := Option.some.inj isView
  obtain ⟨control, isControl⟩ := Option.isSome_iff_exists.mp controlled
  have isSerial : connection.session.knownSerial = some queued.serial := known
  simp only [Daemon.handleSetpoint, isControl, isSerial] at reached
  obtain ⟨rfl, rfl⟩ := Prod.mk.inj reached
  constructor
  case app =>
    exact applyActivePowerLimit_app _ _ _
  case records =>
    exact List.mem_cons_self
  case only =>
    intro event member
    rcases List.mem_cons.mp member with isRecord | isRequest
    · exact .inl isRecord
    · exact .inr (applyActivePowerLimit_only isRequest)
  case writes =>
    intro serving after sent isServing started
    obtain rfl := Option.some.inj (found.symm.trans isServing)
    exact List.mem_cons_of_mem _ (applyActivePowerLimit_sent started)

end Delivery

/-- One session, wired under A. -/
def wiredActions : List DaemonAction := registeredActions ++ [.handle 0 supportedFrame]

/-- It registers under B before a setpoint for A comes. -/
def leftActions : List DaemonAction :=
  wiredActions ++ [.handle 0 (registrationFrame 'B'.toUInt8), .message ['A'] (some 50)]

end FoxessGateway.Server
