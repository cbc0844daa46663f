import FoxessGateway.Server.CommandMessages
import FoxessGateway.Server.SetpointInvariant

/-! # What local control writes

Every request of a session reads the limit, or sets it to the setpoint recorded last for the serial
under which the session registered last. -/

namespace FoxessGateway.Server

open ByteOrder Protocol Runs Mqtt

/-! ## Requests -/

/-- The one frame in these bytes is a write of the limit. -/
def SetsLimit (config : SessionConfig) (raw : Bytes) (percent : Nat) : Prop :=
  ∃ device, CarriesCommand (.ok raw) device
    ⟨0x01, modbusFnWriteSingle, config.activePowerLimitAddress, .value percent⟩

/-- The one frame in these bytes is a read of the limit. -/
def ReadsLimit (config : SessionConfig) (raw : Bytes) : Prop :=
  ∃ device, CarriesCommand (.ok raw) device
    ⟨0x01, modbusFnReadHolding, config.activePowerLimitAddress, .count 1⟩

theorem nextDevice_width (control : LocalControl) (opType : UInt8) :
    (control.nextDevice opType).2.length = 4 := rfl

section Requests

variable {config : SessionConfig} {writable : Bool} {session after : Session}

theorem startWrite_sent {percent : Nat} {sent : SentWrite}
    (started : session.startWrite config writable percent = (after, .sent sent)) :
    (∃ serial, session.knownSerial = some serial) ∧ SetsLimit config sent.raw percent := by
  rw [Session.startWrite] at started
  split at started
  · rename_i control serial isControl known
    refine ⟨⟨serial, known⟩, ?_⟩
    rw [LocalControl.writeRegister] at started
    dsimp only at started
    have width := nextDevice_width control deviceByteWrite
    generalize (control.nextDevice deviceByteWrite).2 = device at started width
    cases built : buildModbusWriteSingle device config.activePowerLimitAddress percent with
    | error raised =>
      rw [built] at started
      cases started
    | ok raw =>
      rw [built] at started
      cases writable with
      | false => cases started
      | true =>
        cases started
        obtain ⟨addressFits, percentFits, _⟩ := buildModbusRequest_inv built
        refine ⟨device, ?_⟩
        rw [← built]
        refine buildModbusRequest_carries (by decide) width addressFits percentFits ?_
        rw [modbusBody, slice_request _ _ percentFits]
        rfl
  · cases started

theorem startRead_sent {expected : Option (Nat × RequestSource)} {sent : SentRead}
    (started : session.startRead config writable expected = (after, .sent sent)) :
    (∃ serial, session.knownSerial = some serial) ∧ ReadsLimit config sent.raw := by
  rw [Session.startRead] at started
  split at started
  · rename_i control serial isControl known
    refine ⟨⟨serial, known⟩, ?_⟩
    rw [LocalControl.readHolding] at started
    dsimp only at started
    have width := nextDevice_width control deviceByteRead
    generalize (control.nextDevice deviceByteRead).2 = device at started width
    cases built : buildModbusReadHolding device config.activePowerLimitAddress 1 with
    | error raised =>
      rw [built] at started
      cases started
    | ok raw =>
      rw [built] at started
      cases writable with
      | false => cases started
      | true =>
        cases started
        obtain ⟨addressFits, countFits, _⟩ := buildModbusRequest_inv built
        refine ⟨device, ?_⟩
        rw [← built]
        refine buildModbusRequest_carries (by decide) width addressFits countFits ?_
        rw [modbusBody, slice_request _ _ countFits]
        rfl
  · cases started

end Requests

/-- What a step writes, and what it records before that. -/
inductive RequestStep (config : DaemonConfig) (daemon : Daemon) : List DaemonEvent → Prop
  | silent {shown : List DaemonEvent} (nothing : ∀ session raw, .requested session raw ∉ shown) :
      RequestStep config daemon shown
  | read {session : Nat} {raw : Bytes} {serial : Text}
      (known : daemon.serialOf session = some serial) (reads : ReadsLimit config.session raw) :
      RequestStep config daemon [.requested session raw]
  | reapplied {session : Nat} {raw : Bytes} {serial : Text} {percent : Nat}
      (known : daemon.serialOf session = some serial)
      (desired : daemon.app.desiredActivePowerLimit.get serial = some percent)
      (sets : SetsLimit config.session raw percent) :
      RequestStep config daemon [.requested session raw]
  | written {session : Nat} {raw : Bytes} {serial : Text} {percent : Nat}
      (known : daemon.serialOf session = some serial)
      (sets : SetsLimit config.session raw percent) :
      RequestStep config daemon [.recorded serial percent, .requested session raw]

section Steps

variable {config : DaemonConfig} {daemon next : Daemon} {shown : List DaemonEvent}

theorem serialOf_of_found {session : Nat} {connection : Connection}
    (found : daemon.connections[session]? = some connection) :
    daemon.serialOf session = connection.session.knownSerial :=
  Daemon.serialOf_eq (Daemon.controlOf_of_found found)

theorem applyActivePowerLimit_shown (session : Nat) (connection : Connection)
    (percent generation : Nat) (source : RequestSource) :
    (daemon.applyActivePowerLimit config session connection percent generation source).2 = [] ∨
      ∃ raw, SetsLimit config.session raw percent ∧
        (daemon.applyActivePowerLimit config session connection percent generation source).2 =
          [.requested session raw] := by
  rw [Daemon.applyActivePowerLimit]
  cases started : connection.session.startWrite config.session connection.writable percent with
  | mk after start =>
    cases start with
    | sent sent => exact .inr ⟨sent.raw, (startWrite_sent started).2, rfl⟩
    | _ => exact .inl rfl

theorem readActivePowerLimitOnce_shown (session : Nat) (connection : Connection)
    (expected : Option (Nat × RequestSource)) :
    (daemon.readActivePowerLimitOnce config session connection expected).2 = [] ∨
      ∃ raw serial, connection.session.knownSerial = some serial ∧ ReadsLimit config.session raw ∧
        (daemon.readActivePowerLimitOnce config session connection expected).2 =
          [.requested session raw] := by
  rw [Daemon.readActivePowerLimitOnce]
  cases started : connection.session.startRead config.session connection.writable expected with
  | mk after start =>
    cases start with
    | sent sent =>
      obtain ⟨⟨serial, known⟩, reads⟩ := startRead_sent started
      exact .inr ⟨sent.raw, serial, known, reads, rfl⟩
    | _ => exact .inl rfl

theorem RequestStep.of_read {session : Nat} {connection : Connection}
    (found : daemon.connections[session]? = some connection) (ready : Daemon)
    (expected : Option (Nat × RequestSource)) : RequestStep config daemon
      (ready.readActivePowerLimitOnce config session connection expected).2 := by
  obtain nothing | ⟨raw, serial, known, reads, asked⟩ :=
    readActivePowerLimitOnce_shown session connection expected
  · rw [nothing]
    exact .silent fun _ _ => List.not_mem_nil
  · rw [asked]
    exact .read ((serialOf_of_found found).trans known) reads

theorem requestStep_settle {session : Nat} {connection : Connection} (ready : Daemon)
    (found : daemon.connections[session]? = some connection) (app : ready.app = daemon.app) :
    RequestStep config daemon (ready.settleInverterControl config session connection).2 := by
  rw [Daemon.settleInverterControl]
  split
  · exact .of_read found ready none
  · rename_i serial known
    split
    · exact .of_read found ready none
    · rename_i pending isPending
      rw [app] at isPending
      obtain nothing | ⟨raw, sets, written⟩ := applyActivePowerLimit_shown session connection
        pending (ready.app.currentActivePowerLimitGeneration serial) .reapply
      · rw [nothing]
        exact .silent fun _ _ => List.not_mem_nil
      · rw [written]
        exact .reapplied ((serialOf_of_found found).trans known) (desired_of_pending isPending) sets

theorem requestStep_setpoint {queued : QueuedSetpoint} {connection : Connection} (ready : Daemon)
    (found : daemon.connections[queued.session]? = some connection) :
    RequestStep config daemon (ready.handleSetpoint config connection queued).2 := by
  rw [Daemon.handleSetpoint]
  split
  · rename_i serial _ known
    dsimp only
    obtain nothing | ⟨raw, sets, written⟩ := applyActivePowerLimit_shown queued.session connection
      queued.percent (ready.app.setDesiredActivePowerLimit serial queued.percent).2 .setpoint
    · rw [nothing]
      refine .silent fun _ _ member => ?_
      cases List.mem_singleton.mp member
    · rw [written]
      exact .written ((serialOf_of_found found).trans known) sets
  · exact .silent fun _ _ => List.not_mem_nil

/-- **What a step writes.** -/
theorem requestStep {action : DaemonAction}
    (stepped : daemonMachine config daemon action = some (next, shown)) :
    RequestStep config daemon shown := by
  cases action with
  | connect =>
    cases stepped
    exact .silent fun _ _ => List.not_mem_nil
  | attach | closing | other | finish =>
    obtain ⟨connection, _, reached⟩ := Option.map_eq_some_iff.mp stepped
    cases reached
    exact .silent fun _ _ => List.not_mem_nil
  | frame =>
    obtain ⟨connection, _, reached⟩ := Option.map_eq_some_iff.mp stepped
    cases reached
    refine .silent fun session raw member => ?_
    obtain ⟨effect, _, isEvent⟩ := List.mem_filterMap.mp member
    split at isEvent <;> cases isEvent
  | message =>
    obtain ⟨rfl, _⟩ := Daemon.message_step stepped
    exact .silent fun _ _ => List.not_mem_nil
  | setpoint place =>
    obtain ⟨queued, connection, _, found, reached⟩ := Daemon.setpoint_step stepped
    obtain ⟨rfl, rfl⟩ := Prod.mk.inj reached
    exact requestStep_setpoint _ found
  | settle place =>
    obtain ⟨session, connection, _, found, reached⟩ := Daemon.settle_step stepped
    obtain ⟨rfl, rfl⟩ := Prod.mk.inj reached
    exact requestStep_settle _ found rfl
  | returned place confirmed =>
    obtain ⟨write, connection, _, found, reached⟩ := Daemon.returned_step stepped
    rw [Daemon.returnWrite] at reached
    split at reached
    · obtain ⟨rfl, rfl⟩ := Prod.mk.inj reached
      exact .of_read found _ _
    · cases reached
      exact .silent fun _ _ => List.not_mem_nil

end Steps

/-! ## The newest setpoint -/

/-- The setpoint recorded last for a serial. -/
def newestSetpoint (serial : Text) (events : List DaemonEvent) : Option Nat :=
  ((recordings events).filterMap fun (other, percent) =>
    if other = serial then some percent else none).getLast?

/-- The serial under which a session registered last. -/
def newestSerial (session : Nat) (events : List DaemonEvent) : Option Text :=
  (events.filterMap fun event => match event with
    | .registered serial other => if other = session then some serial else none
    | _ => none).getLast?

theorem newestSetpoint_append (serial : Text) (first later : List DaemonEvent) :
    newestSetpoint serial (first ++ later) =
      (newestSetpoint serial later).or (newestSetpoint serial first) := by
  rw [newestSetpoint, recordings_append, List.filterMap_append, List.getLast?_append]
  rfl

theorem newestSetpoint_single {serial other : Text} {percent : Nat} {events : List DaemonEvent}
    (records : recordings events = [(other, percent)]) :
    newestSetpoint serial events = if other = serial then some percent else none := by
  rw [newestSetpoint, records, List.filterMap_cons]
  dsimp only
  split <;> simp_all

theorem newestSetpoint_recorded {serial : Text} {events : List DaemonEvent} {percent : Nat}
    (newest : newestSetpoint serial events = some percent) :
    (serial, percent) ∈ recordings events := by
  obtain ⟨⟨other, recorded⟩, member, same⟩ :=
    List.mem_filterMap.mp (List.mem_of_getLast? newest)
  dsimp only at same
  split at same
  · rename_i isSerial
    cases same
    rwa [← isSerial]
  · cases same

theorem newestSerial_append (session : Nat) (first later : List DaemonEvent) :
    newestSerial session (first ++ later) =
      (newestSerial session later).or (newestSerial session first) := by
  rw [newestSerial, List.filterMap_append, List.getLast?_append]
  rfl

theorem newestSerial_registered (session other : Nat) (serial : Text) :
    newestSerial session [.registered serial other] =
      if other = session then some serial else none := by
  rw [newestSerial, List.filterMap_cons]
  dsimp only
  split <;> simp_all

theorem newestSerial_unregistered {events : List DaemonEvent} (session : Nat)
    (unregistered : ∀ serial other, .registered serial other ∉ events) :
    newestSerial session events = none := by
  rw [newestSerial, List.filterMap_eq_nil_iff.mpr, List.getLast?_nil]
  intro event member
  cases event with
  | registered serial other => exact absurd member (unregistered serial other)
  | _ => rfl

/-- The tables and the sessions agree with the trace. -/
structure AgreesWithTrace (daemon : Daemon) (events : List DaemonEvent) : Prop where
  desired : ∀ serial, daemon.app.desiredActivePowerLimit.get serial = newestSetpoint serial events
  serials : ∀ session serial, daemon.serialOf session = some serial →
    newestSerial session events = some serial

theorem agreesWithTrace_fresh : AgreesWithTrace .fresh [] where
  desired _ := rfl
  serials _ _ known := nomatch known

section Steps

variable {config : DaemonConfig} {daemon next : Daemon} {events shown : List DaemonEvent}

/-- What is desired after a step is what the step recorded, if it recorded anything. -/
theorem desired_step {action : DaemonAction} (step : SetpointStep daemon next shown action)
    (serial : Text) : next.app.desiredActivePowerLimit.get serial =
      (newestSetpoint serial shown).or (daemon.app.desiredActivePowerLimit.get serial) := by
  cases step with
  | kept _ desired nothing | queued _ _ _ desired nothing | dropped _ _ desired nothing =>
    rw [desired, newestSetpoint, nothing]
    rfl
  | @recorded _ taken named _ _ desired records =>
    rw [desired, Dict.get_set, newestSetpoint_single records]
    by_cases same : serial = named
    · rw [if_pos same, if_pos same.symm]
      rfl
    · rw [if_neg same, if_neg (Ne.symm same)]
      rfl

theorem serials_step {action : DaemonAction}
    (serials : ∀ session serial, daemon.serialOf session = some serial →
      newestSerial session events = some serial)
    (stepped : daemonMachine config daemon action = some (next, shown)) (session : Nat)
    (serial : Text) (known : next.serialOf session = some serial) :
    newestSerial session (events ++ shown) = some serial := by
  rw [newestSerial_append]
  cases action with
  | connect =>
    rw [Daemon.connect_serialOf stepped] at known
    obtain ⟨rfl, _⟩ := Daemon.connect_step stepped
    exact serials session serial known
  | finish =>
    obtain ⟨rfl, _, _, controls, _⟩ := Daemon.finish_step stepped
    rw [Daemon.serialOf, controls] at known
    exact serials session serial known
  | frame handled =>
    obtain ⟨view, after, tables, isView, outcome, done⟩ := Daemon.frame_outcome stepped
    have before := Daemon.serialOf_eq isView
    rw [done.serialOf] at known
    by_cases same : session = handled
    · rw [if_pos same] at known
      rw [← same] at before
      cases outcome with
      | kept sameSerial =>
        have unchanged := (knownSerial_congr sameSerial).symm.trans known
        exact serials session serial (before.trans unchanged)
      | unnamed _ _ nothing => cases nothing.symm.trans known
      | @named other _ _ _ nonempty =>
        rw [ControlView.knownSerial, Option.filter_some, if_pos (decide_eq_true nonempty)] at known
        rw [newestSerial_registered, if_pos same.symm, known, Option.some_or]
      | wired _ _ _ _ _ _ sameSerial =>
        have unchanged := (knownSerial_congr sameSerial).symm.trans known
        exact serials session serial (before.trans unchanged)
      | withdrawn => exact serials session serial (before.trans known)
    · rw [if_neg same] at known
      have unnamed : newestSerial session shown = none := by
        cases outcome with
        | named => rw [newestSerial_registered, if_neg (Ne.symm same)]
        | _ => rfl
      rw [unnamed]
      exact serials session serial known
  | _ =>
    obtain ⟨same, unregistered⟩ := Daemon.quiet_step stepped trivial
    rw [same.serialOf] at known
    rw [newestSerial_unregistered session unregistered]
    exact serials session serial known

theorem agreesWithTrace_step {action : DaemonAction} (agrees : AgreesWithTrace daemon events)
    (stepped : daemonMachine config daemon action = some (next, shown)) :
    AgreesWithTrace next (events ++ shown) where
  desired serial := by
    rw [desired_step (setpointStep stepped), newestSetpoint_append, agrees.desired]
  serials := serials_step agrees.serials stepped

theorem agreesWithTrace_run {actions : List DaemonAction}
    (ran : run (daemonMachine config) .fresh actions = some (daemon, events)) :
    AgreesWithTrace daemon events :=
  run_invariant agreesWithTrace_step agreesWithTrace_fresh ran

end Steps

/-! ## Why a request is written -/

/-- What was received and shown before a request of a session gives the reason for it: the session
has registered, and the request reads the limit, or it sets the limit to the setpoint that was
recorded last for the session's serial, and that was asked for. -/
def RequestBecause (config : DaemonConfig) (before : List GatewayEvent) : GatewayEvent → Prop
  | .shown (.requested session raw) =>
    ∃ serial, newestSerial session (daemonEvents before) = some serial ∧
      (ReadsLimit config.session raw ∨
        ∃ percent ∈ askedPercents config.topicPrefix before,
          newestSetpoint serial (daemonEvents before) = some percent ∧
            SetsLimit config.session raw percent)
  | _ => True

section Steps

variable {config : DaemonConfig} {daemon next : Daemon} {trace : List GatewayEvent}

/-- What is recorded was asked for. -/
theorem Accounted.asked (accounted : Accounted config daemon trace) {serial : Text} {percent : Nat}
    (recorded : (serial, percent) ∈ recordings (daemonEvents trace)) :
    percent ∈ askedPercents config.topicPrefix trace := by
  obtain ⟨dropped, all⟩ := accounted
  refine all.mem_iff.mp (List.mem_append_left _ (List.mem_append_left _ ?_))
  exact List.mem_map_of_mem recorded

/-- A step of the daemon itself writes with reason. -/
theorem Accounted.justified {action : DaemonAction} {shown : List DaemonEvent}
    (before : Accounted config daemon trace)
    (after : Accounted config next (trace ++ shown.map .shown))
    (agrees : AgreesWithTrace daemon (daemonEvents trace))
    (justified : Justified (RequestBecause config) trace)
    (stepped : daemonMachine config daemon action = some (next, shown)) :
    Justified (RequestBecause config) (trace ++ shown.map .shown) := by
  have asked : ∀ {serial percent}, (serial, percent) ∈ recordings (daemonEvents trace ++ shown) →
      percent ∈ askedPercents config.topicPrefix trace := by
    intro serial percent recorded
    rw [← daemonEvents_shown shown, ← daemonEvents_append] at recorded
    have isAsked := after.asked recorded
    rwa [askedPercents_append, askedPercents_shown, List.append_nil] at isAsked
  obtain ⟨desired, serials⟩ := agrees
  cases requestStep stepped with
  | silent nothing =>
    refine justified.append fun event member _ => ?_
    obtain ⟨inner, isInner, rfl⟩ := List.mem_map.mp member
    cases inner with
    | requested session raw => exact absurd isInner (nothing session raw)
    | _ => trivial
  | read known reads =>
    exact justified_concat.mpr ⟨justified, _, serials _ _ known, .inl reads⟩
  | reapplied known isDesired sets =>
    -- what is settled after a connection was recorded before it
    rw [desired] at isDesired
    have isAsked := before.asked (newestSetpoint_recorded isDesired)
    exact justified_concat.mpr
      ⟨justified, _, serials _ _ known, .inr ⟨_, isAsked, isDesired, sets⟩⟩
  | @written session raw serial percent known sets =>
    -- the record stands right before the request, and is the newest one there
    rw [List.map_cons, ← List.singleton_append, ← List.append_assoc]
    refine justified_concat.mpr ⟨justified_concat.mpr ⟨justified, trivial⟩, serial, ?_,
      .inr ⟨percent, ?_, ?_, sets⟩⟩
    · rw [daemonEvents_append, newestSerial_append]
      exact serials _ _ known
    · rw [askedPercents_append]
      have recorded : (serial, percent) ∈ recordings (daemonEvents trace ++
          [.recorded serial percent, .requested session raw]) := by
        rw [recordings_append]
        exact List.mem_append_right _ List.mem_cons_self
      exact List.mem_append_left _ (asked recorded)
    · rw [daemonEvents_append, newestSetpoint_append]
      have newest : newestSetpoint serial (daemonEvents [.shown (.recorded serial percent)]) =
          some percent := (newestSetpoint_single rfl).trans (if_pos rfl)
      rw [newest, Option.some_or]

theorem justified_step {actions : List GatewayAction} {action : GatewayAction}
    {events : List GatewayEvent}
    (ran : run (gatewayMachine config) .fresh actions = some (daemon, trace))
    (justified : Justified (RequestBecause config) trace)
    (stepped : gatewayMachine config daemon action = some (next, events)) :
    Justified (RequestBecause config) (trace ++ events) := by
  -- what is accounted for and what the tables hold follows from the run before the step
  have after := accounted_run (run_concat ran stepped)
  have agrees := agreesWithTrace_run (gateway_run (topicsNamed_fresh config) ran)
  cases action with
  | mqttMessage topic payload =>
    cases stepped
    exact justified_concat.mpr ⟨justified, trivial⟩
  | internal action isInternal =>
    obtain ⟨⟨reached, shown⟩, taken, same⟩ := Option.map_eq_some_iff.mp stepped
    cases same
    exact (accounted_run ran).justified after agrees justified taken

end Steps

/-- **Nothing is written that was not asked for, and nothing outdated.**  In every run, whenever
local control writes a request to an inverter, the session has registered, and the request reads
the limit or sets it to the setpoint that was recorded last for the session's serial; a message on
a command topic had asked for that percentage. -/
theorem requests_justified {config : DaemonConfig} {actions : List GatewayAction} {daemon : Daemon}
    {trace : List GatewayEvent}
    (ran : run (gatewayMachine config) .fresh actions = some (daemon, trace)) :
    Justified (RequestBecause config) trace := by
  let property : Daemon → List GatewayEvent → Prop :=
    fun _ trace => Justified (RequestBecause config) trace
  have all : property daemon trace := run_induction justified_step justified_nil ran
  exact all

theorem requests_justified_command : ∃ daemon trace raw,
    run (gatewayMachine .everything) .fresh commandActions = some (daemon, trace) ∧
      .shown (.requested 0 raw) ∈ trace ∧
      Justified (RequestBecause .everything) trace := by
  have check : (run (gatewayMachine .everything) .fresh commandActions).any (fun reached =>
      reached.2.any fun event => event matches .shown (.requested 0 _)) = true := by decide +kernel
  obtain ⟨⟨daemon, trace⟩, ran, shown⟩ := (Option.any_eq_true _ _).mp check
  obtain ⟨event, member, isRequest⟩ := List.any_eq_true.mp shown
  split at isRequest
  · rename_i raw
    exact ⟨daemon, trace, raw, ran, member, requests_justified ran⟩
  · cases isRequest

end FoxessGateway.Server
