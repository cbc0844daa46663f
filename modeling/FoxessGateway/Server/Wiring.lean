import FoxessGateway.Server.Registry

/-! # Command handlers and the flag of a session

A registration takes the command handler of its serial away; the flag of the session, which
keeps `_maybe_wire_active_power_limit_mqtt` from wiring it again, it leaves as it is. -/

namespace FoxessGateway.Server

open Protocol Runs Mqtt

namespace Daemon

/-- The flag of the session is set. -/
def IsWired (daemon : Daemon) (session : Nat) : Prop :=
  ∃ view, daemon.controlOf session = some view ∧ view.registered = true

/-- The session has local control, a serial, and a supported model and firmware. -/
structure Controllable (daemon : Daemon) (session : Nat) (serial : Text) : Prop where
  exists_view : ∃ view, daemon.controlOf session = some view ∧ view.hasControl = true ∧
    view.knownSerial = some serial ∧ view.Supported

theorem SameControl.isWired {daemon next : Daemon} (same : daemon.SameControl next)
    (session : Nat) : next.IsWired session ↔ daemon.IsWired session := by
  rw [IsWired, IsWired, same.controls]

theorem SameControl.handlerOf {daemon next : Daemon} (same : daemon.SameControl next)
    (config : DaemonConfig) (serial : Text) :
    next.handlerOf config serial = daemon.handlerOf config serial := by
  rw [Daemon.handlerOf, Daemon.handlerOf, same.handlers]

end Daemon

/-! ## Handlers after a frame -/

section Handlers

variable {topicPrefix serial other : Text} {session : Nat} {handlers : Dict Text Nat}

theorem get_set_topic :
    (handlers.set (activePowerLimitCommandTopic topicPrefix serial) session).get
        (activePowerLimitCommandTopic topicPrefix other) =
      if other = serial then some session
      else handlers.get (activePowerLimitCommandTopic topicPrefix other) := by
  rw [Dict.get_set]
  simp only [activePowerLimitCommandTopic_inj]

theorem get_pop_topic :
    (handlers.pop (activePowerLimitCommandTopic topicPrefix serial)).get
        (activePowerLimitCommandTopic topicPrefix other) =
      if other = serial then none
      else handlers.get (activePowerLimitCommandTopic topicPrefix other) := by
  rw [Dict.get_pop]
  simp only [activePowerLimitCommandTopic_inj]

end Handlers

/-! ## Every wired session has its handler -/

/-- A frame that takes the handler of a serial away leaves no session with that serial and the
flag set. -/
def KeepsHandler (daemon : Daemon) : DaemonAction → Prop
  | .frame session _ wire _ => wire.frame.validCrc = true →
      (∀ serial, isRegistration wire.frame = true → registrationSerial wire.frame = some serial →
        ¬ daemon.IsWired session ∧
          ∀ other, daemon.IsWired other → daemon.serialOf other ≠ some serial) ∧
      (∀ view info serial, daemon.controlOf session = some view →
        productInfo wire.frame = some info → view.knownSerial = some serial →
        ¬ (view.know info).Supported →
          ∀ other, other ≠ session → daemon.IsWired other → daemon.serialOf other ≠ some serial)
  | _ => True

def WiredHandled (config : DaemonConfig) (daemon : Daemon) : Prop :=
  ∀ session serial, daemon.IsWired session → daemon.serialOf session = some serial →
    (daemon.handlerOf config serial).isSome = true

section Steps

variable {config : DaemonConfig} {daemon next : Daemon} {shown : List DaemonEvent}

theorem wiredHandled_frame {session : Nat} {world : SessionWorld} {wire : WireFrame}
    {sendBootstrap : Bool} (wired : WiredHandled config daemon)
    (keeps : KeepsHandler daemon (.frame session world wire sendBootstrap))
    (stepped : daemonMachine config daemon (.frame session world wire sendBootstrap) =
      some (next, shown)) : WiredHandled config next := by
  obtain ⟨view, after, tables, isView, outcome, done⟩ := Daemon.frame_outcome stepped
  have held := Daemon.serialOf_eq isView
  intro other serial isWired known
  rw [done.serialOf] at known
  rw [Daemon.handlerOf, done.tables]
  have wasWired : other ≠ session → daemon.IsWired other := by
    intro different
    rwa [Daemon.IsWired, done.controls, if_neg different] at isWired
  have flag : other = session → after.registered = true := by
    intro same
    obtain ⟨_, isAfter, registered⟩ := isWired
    rw [done.controls, if_pos same] at isAfter
    cases isAfter
    exact registered
  cases outcome with
  | kept sameSerial _ sameFlag _ handlers =>
    rw [handlers]
    apply wired other serial
    · by_cases same : other = session
      · rw [same]
        exact ⟨view, isView, sameFlag ▸ flag same⟩
      · exact wasWired same
    · split at known
      · rename_i same
        rwa [same, held, ← knownSerial_congr sameSerial]
      · exact known
  | unnamed _ _ nothing =>
    by_cases same : other = session
    · -- the session has no serial, so nothing is claimed of it
      rw [if_pos same, ControlView.knownSerial, nothing] at known
      cases known
    · rw [if_neg same] at known
      exact wired other serial (wasWired same) known
  | named valid registers names nonempty =>
    -- the handler of the new serial goes, which no wired session has
    rename_i named
    obtain ⟨unwired, elsewhere⟩ := (keeps valid).1 named registers names
    by_cases same : other = session
    · exact absurd ⟨view, isView, flag same⟩ unwired
    · rw [if_neg same] at known
      rw [get_pop_topic, if_neg]
      · exact wired other serial (wasWired same) known
      · rintro rfl
        exact elsewhere other (wasWired same) known
  | wired _ _ isSerial _ _ _ sameSerial _ _ _ handlers =>
    rw [handlers, get_set_topic]
    split
    · rfl
    · rename_i different
      by_cases same : other = session
      · rw [if_pos same, knownSerial_congr sameSerial, isSerial] at known
        exact absurd (Option.some.inj known).symm different
      · rw [if_neg same] at known
        exact wired other serial (wasWired same) known
  | withdrawn valid parsed isSerial unsupported =>
    by_cases same : other = session
    · -- its flag is reset with the handler
      exact absurd (flag same) Bool.false_ne_true
    · rw [if_neg same] at known
      rw [get_pop_topic, if_neg]
      · exact wired other serial (wasWired same) known
      · rintro rfl
        exact (keeps valid).2 view _ serial isView parsed isSerial unsupported other same
          (wasWired same) known

theorem wiredHandled_step {action : DaemonAction} (wired : WiredHandled config daemon)
    (keeps : KeepsHandler daemon action)
    (stepped : daemonMachine config daemon action = some (next, shown)) :
    WiredHandled config next := by
  cases action with
  | connect =>
    obtain ⟨_, tables, _, _, controls, _⟩ := Daemon.connect_step stepped
    intro session serial isWired known
    rw [Daemon.handlerOf, tables]
    rw [Daemon.connect_serialOf stepped] at known
    have bound := Daemon.serialOf_bound known
    rw [Daemon.IsWired, controls, if_neg (by omega)] at isWired
    exact wired session serial isWired known
  | frame => exact wiredHandled_frame wired keeps stepped
  | finish =>
    obtain ⟨_, view, _, controls, _, tables, _⟩ := Daemon.finish_step stepped
    intro session serial isWired known
    rw [Daemon.serialOf, controls] at known
    rw [Daemon.IsWired, controls] at isWired
    have handlers : next.tables.commandHandlers = daemon.tables.commandHandlers := by
      rw [tables]
      exact remove_handlers _ _ _
    rw [Daemon.handlerOf, handlers]
    exact wired session serial isWired known
  | _ =>
    have same := (Daemon.quiet_step stepped trivial).1
    intro session serial isWired known
    rw [same.handlerOf]
    exact wired session serial ((same.isWired session).mp isWired)
      ((same.serialOf session).symm.trans known)

/-- What a product information does to the handler of its session's serial, where it leaves the
session controllable. -/
theorem handlerOf_productInfo {session : Nat} {world : SessionWorld} {wire : WireFrame}
    {sendBootstrap : Bool} {info : ProductInfo} {serial : Text}
    (stepped : daemonMachine config daemon (.frame session world wire sendBootstrap) =
      some (next, shown))
    (valid : wire.frame.validCrc = true) (parsed : productInfo wire.frame = some info)
    (controllable : next.Controllable session serial) :
    ((next.handlerOf config serial).isSome = true ↔
      ¬ daemon.IsWired session ∨ (daemon.handlerOf config serial).isSome = true) ∧
      daemon.serialOf session = some serial := by
  obtain ⟨view, isView, _, handled⟩ := Daemon.frame_step stepped
  have controls := handled.controls session
  have tables := handled.tables
  rw [if_pos rfl, view.frame_eq_productInfo _ valid parsed, ControlView.productInfo] at controls
  rw [view.frame_eq_productInfo _ valid parsed, ControlView.productInfo] at tables
  obtain ⟨after, isAfter, hasControl, isSerial, supported⟩ := controllable.exists_view
  rw [controls] at isAfter
  have wired_iff : daemon.IsWired session ↔ view.registered = true := by
    rw [Daemon.IsWired, isView]
    simp
  rw [Daemon.serialOf_eq isView, wired_iff]
  obtain ⟨unsynced, synced⟩ | ⟨known, isKnown, _, ⟨_, synced⟩ | ⟨unsupported, synced⟩⟩ :=
    (view.know info).sync_cases
  · -- a controllable session is one that the handlers are brought in line with
    rw [synced] at isAfter
    cases isAfter
    rcases unsynced with noSerial | noControl | ⟨raised, failed⟩
    · rw [noSerial] at isSerial
      cases isSerial
    · rw [noControl] at hasControl
      cases hasControl
    · rw [ControlView.Supported, failed] at supported
      cases supported
  · rw [synced] at isAfter
    obtain rfl := Option.some.inj isAfter
    have sameSerial : known = serial := by
      have settled := settle_tables config.topicPrefix session daemon.tables
        ((view.know info).wire known).1
      rw [knownSerial_congr settled.1] at isSerial
      obtain ⟨_, same⟩ | ⟨_, same⟩ := (view.know info).wire_cases known
      · rw [same] at isSerial
        exact Option.some.inj (isKnown.symm.trans isSerial)
      · rw [same] at isSerial
        exact Option.some.inj (isKnown.symm.trans isSerial)
    subst sameSerial
    rw [synced, applyAll_append] at tables
    refine ⟨?_, isKnown⟩
    rw [Daemon.handlerOf, tables,
      (settle_tables config.topicPrefix session _ ((view.know info).wire known).1).2.2.2.2.2]
    obtain ⟨registered, same⟩ | ⟨unwired, same⟩ := (view.know info).wire_cases known
    · have wasRegistered : view.registered = true := registered
      rw [same, wasRegistered]
      simp [Tables.applyAll, Daemon.handlerOf]
    · have wasUnwired : view.registered = false := unwired
      rw [same, wasUnwired]
      simp [Tables.applyAll, Tables.apply]
  · rw [synced] at isAfter
    obtain rfl := Option.some.inj isAfter
    exact absurd supported unsupported

end Steps

/-- **Local control after product information.**  Where it leaves the session controllable, the
command topic of the session's serial has a handler exactly if the flag was not set before or
the handler was there; and it has one in every run whose frames take no handler away from a
session that keeps its flag. -/
theorem handlerOf_controllable {config : DaemonConfig} {daemon next : Daemon}
    {shown : List DaemonEvent} {session : Nat} {world : SessionWorld} {wire : WireFrame}
    {sendBootstrap : Bool} {info : ProductInfo} {serial : Text}
    (stepped : daemonMachine config daemon (.frame session world wire sendBootstrap) =
      some (next, shown))
    (valid : wire.frame.validCrc = true) (parsed : productInfo wire.frame = some info)
    (controllable : next.Controllable session serial) :
    ((next.handlerOf config serial).isSome = true ↔
      ¬ daemon.IsWired session ∨ (daemon.handlerOf config serial).isSome = true) ∧
      ∀ actions trace, run (daemonMachine config) .fresh actions = some (daemon, trace) →
        Along (daemonMachine config) KeepsHandler .fresh actions →
        (next.handlerOf config serial).isSome = true := by
  obtain ⟨present, known⟩ := handlerOf_productInfo stepped valid parsed controllable
  refine ⟨present, fun actions trace ran within => ?_⟩
  have initially : WiredHandled config .fresh := by
    rintro session serial ⟨view, isView, _⟩
    cases isView
  have wired : WiredHandled config daemon :=
    run_preserves_along (WiredHandled config) wiredHandled_step initially within ran
  apply present.mpr
  by_cases isWired : daemon.IsWired session
  · exact .inr (wired session serial isWired known)
  · exact .inl isWired

/-! ## A repeated registration -/

/-- Product information of an M1 with the firmware 1.80, for the digit 8. -/
def productFrame (digit : UInt8) : WireFrame where
  frame := builtFrame marker7e [0x01, 0x00, 0x00, 0x00] 0x00
    ([0x4d, 0x31, 0x2d, 0x45, 0x00, 0x31, 0x2e, digit, 0x30, 0x00] ++ List.replicate 24 0x00) endE7
  wellFormed := builtFrame_wellFormed (.inl ⟨rfl, rfl⟩) rfl (by simp)

def supportedFrame : WireFrame := productFrame '8'.toUInt8

def Daemon.isControllable (daemon : Daemon) (session : Nat) (serial : Text) : Bool :=
  (daemon.controlOf session).any fun view =>
    view.hasControl && view.knownSerial = some serial && decide view.Supported

theorem Daemon.Controllable.of_check {daemon : Daemon} {session : Nat} {serial : Text}
    (check : daemon.isControllable session serial = true) : daemon.Controllable session serial := by
  obtain ⟨view, isView, holds⟩ := (Option.any_eq_true _ _).mp check
  simp only [Bool.and_eq_true, decide_eq_true_eq] at holds
  exact ⟨view, isView, holds.1.1, holds.1.2, holds.2⟩

/-- A session registers as A. -/
def registeredActions : List DaemonAction :=
  [.connect, .attach 0, .handle 0 (registrationFrame 'A'.toUInt8)]

/-- It reports a supported firmware, and registers again. -/
def reregisteredActions : List DaemonAction :=
  registeredActions ++ [.handle 0 supportedFrame, .handle 0 (registrationFrame 'A'.toUInt8)]

/-- What a run leads to and one more action then. -/
def runThen (actions : List DaemonAction) (action : DaemonAction) : Option (Daemon × Daemon) := do
  let (daemon, _) ← run (daemonMachine .everything) .fresh actions
  let (next, _) ← daemonMachine .everything daemon action
  return (daemon, next)

theorem runThen_some {actions : List DaemonAction} {action : DaemonAction} {daemon next : Daemon}
    (reached : runThen actions action = some (daemon, next)) :
    (∃ trace, run (daemonMachine .everything) .fresh actions = some (daemon, trace)) ∧
      ∃ shown, daemonMachine .everything daemon action = some (next, shown) := by
  obtain ⟨⟨middle, trace⟩, ran, later⟩ := Option.bind_eq_some_iff.mp reached
  obtain ⟨⟨final, shown⟩, stepped, same⟩ := Option.bind_eq_some_iff.mp later
  cases same
  exact ⟨⟨trace, ran⟩, shown, stepped⟩

theorem handlerOf_controllable_registered :
    ∃ daemon next shown, daemonMachine .everything daemon (.handle 0 supportedFrame) =
        some (next, shown) ∧ next.Controllable 0 ['A'] ∧
      ((next.handlerOf .everything ['A']).isSome = true ↔
        ¬ daemon.IsWired 0 ∨ (daemon.handlerOf .everything ['A']).isSome = true) := by
  have check : (runThen registeredActions (.handle 0 supportedFrame)).map (fun reached =>
      reached.2.isControllable 0 ['A']) = some true := by decide +kernel
  obtain ⟨⟨daemon, next⟩, reached, isChecked⟩ := Option.map_eq_some_iff.mp check
  obtain ⟨_, shown, stepped⟩ := runThen_some reached
  have controllable := Daemon.Controllable.of_check isChecked
  obtain ⟨info, parsed⟩ := Option.isSome_iff_exists.mp
    (show (productInfo supportedFrame.frame).isSome = true by decide +kernel)
  exact ⟨daemon, next, shown, stepped, controllable,
    (handlerOf_controllable stepped rfl parsed controllable).1⟩

/-- A second registration, and the handler does not come back. -/
theorem handlerOf_reregistered :
    ¬ ∀ (config : DaemonConfig) (actions : List DaemonAction) (daemon next : Daemon)
      (trace shown : List DaemonEvent) (session : Nat) (world : SessionWorld) (wire : WireFrame)
      (sendBootstrap : Bool) (serial : Text),
      run (daemonMachine config) .fresh actions = some (daemon, trace) →
      daemonMachine config daemon (.frame session world wire sendBootstrap) = some (next, shown) →
      wire.frame.validCrc = true → (productInfo wire.frame).isSome = true →
      next.Controllable session serial → (next.handlerOf config serial).isSome = true := by
  intro claimed
  have check : (runThen reregisteredActions (.handle 0 supportedFrame)).map (fun reached =>
      (reached.2.isControllable 0 ['A'], (reached.2.handlerOf .everything ['A']).isSome)) =
      some (true, false) := by decide +kernel
  obtain ⟨⟨daemon, next⟩, reached, same⟩ := Option.map_eq_some_iff.mp check
  obtain ⟨isChecked, missing⟩ := Prod.mk.inj same
  obtain ⟨⟨trace, ran⟩, shown, stepped⟩ := runThen_some reached
  have present := claimed _ _ daemon next trace shown 0 _ _ _ ['A'] ran stepped rfl
    (by decide +kernel) (.of_check isChecked)
  exact absurd (missing.symm.trans present) Bool.false_ne_true

end FoxessGateway.Server
