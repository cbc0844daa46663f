import FoxessGateway.Mqtt.Commands
import FoxessGateway.Server.ModbusEnvelope
import FoxessGateway.Server.Routing
import Mathlib.Data.List.Perm.Basic

/-! # From command messages to requests

The daemon as the broker sees it: a command is a message with a topic and the bytes of a payload.
Every setpoint that comes of one is accounted for. -/

namespace FoxessGateway.Server

open Protocol Runs Mqtt

/-! ## Messages -/

/-- The serial of a command topic. -/
def topicSerial (topicPrefix topic : Text) : Option Text :=
  let start := topicPrefix.length + 1
  let ending := "/active_power_limit/set".toList.length
  let serial := (topic.drop start).take (topic.length - start - ending)
  if activePowerLimitCommandTopic topicPrefix serial = topic then some serial else none

theorem topicSerial_eq_some {topicPrefix topic serial : Text} :
    topicSerial topicPrefix topic = some serial ↔
      topic = activePowerLimitCommandTopic topicPrefix serial := by
  rw [topicSerial]
  constructor
  · intro named
    split at named
    · rename_i same
      rw [← Option.some.inj named]
      exact same.symm
    · cases named
  · rintro rfl
    have found : ((activePowerLimitCommandTopic topicPrefix serial).drop
        (topicPrefix.length + 1)).take ((activePowerLimitCommandTopic topicPrefix serial).length -
          (topicPrefix.length + 1) - "/active_power_limit/set".toList.length) = serial := by
      have rest : (activePowerLimitCommandTopic topicPrefix serial).drop (topicPrefix.length + 1) =
          serial ++ "/active_power_limit/set".toList := by
        rw [activePowerLimitCommandTopic, ← List.drop_drop, List.drop_left]
        rfl
      rw [rest, ← List.length_drop, rest, List.length_append, Nat.add_sub_cancel, List.take_left]
    rw [found, if_pos rfl]

/-- What reaches the daemon: a message of the broker, or anything else. -/
inductive GatewayAction where
  | mqttMessage (topic : Text) (payload : Bytes)
  | internal (action : DaemonAction) (isInternal : ∀ serial value, action ≠ .message serial value)

inductive GatewayEvent where
  | received (topic : Text) (payload : Bytes)
  | shown (event : DaemonEvent)
  deriving DecidableEq, Repr

/-- `_on_message` on the thread of the MQTT client: a percentage is queued for the session whose
`_on_setpoint` is the handler. -/
def Daemon.receiveMessage (config : DaemonConfig) (topic : Text) (payload : Bytes)
    (daemon : Daemon) : Daemon :=
  match onMessage daemon.tables.commandHandlers topic payload with
  | .error _ => daemon
  | .ok (session, percent) =>
    let serial := (topicSerial config.topicPrefix topic).getD []
    { daemon with setpoints :=
        daemon.setpoints ++ [⟨serial, daemon.openSession serial, session, percent⟩] }

def gatewayMachine (config : DaemonConfig) : Machine Daemon GatewayAction GatewayEvent :=
  fun daemon action =>
  match action with
  | .mqttMessage topic payload =>
    some (daemon.receiveMessage config topic payload, [.received topic payload])
  | .internal action _ =>
    (daemonMachine config daemon action).map fun (next, shown) => (next, shown.map .shown)

/-! ## The daemon's own account of a message -/

/-- The action of the daemon that a message amounts to. -/
def GatewayAction.toDaemon (config : DaemonConfig) : GatewayAction → DaemonAction
  | .mqttMessage topic payload =>
    match topicSerial config.topicPrefix topic with
    | none => .message [] none
    | some serial => .message serial ((Utf8.decodeStrict payload).bind (intLiteral ∘ strip))
  | .internal action _ => action

/-- What the daemon shows of it. -/
def daemonEvents (events : List GatewayEvent) : List DaemonEvent :=
  events.filterMap fun event => match event with
    | .shown event => some event
    | .received _ _ => none

theorem daemonEvents_shown (events : List DaemonEvent) :
    daemonEvents (events.map .shown) = events := by
  rw [daemonEvents, List.filterMap_map]
  exact List.filterMap_some

theorem daemonEvents_append (first later : List GatewayEvent) :
    daemonEvents (first ++ later) = daemonEvents first ++ daemonEvents later :=
  List.filterMap_append

/-- Only command topics have handlers. -/
def TopicsNamed (config : DaemonConfig) (daemon : Daemon) : Prop :=
  ∀ topic session, daemon.tables.commandHandlers.get topic = some session →
    ∃ serial, topic = activePowerLimitCommandTopic config.topicPrefix serial

section Steps

variable {config : DaemonConfig} {daemon next : Daemon}

theorem TopicsNamed.of_handlers (named : TopicsNamed config daemon)
    (handlers : next.tables.commandHandlers = daemon.tables.commandHandlers) :
    TopicsNamed config next := by
  rwa [TopicsNamed, handlers]

theorem TopicsNamed.of_pop (named : TopicsNamed config daemon) {removed : Text}
    (handlers : next.tables.commandHandlers = daemon.tables.commandHandlers.pop removed) :
    TopicsNamed config next := by
  intro topic session handled
  rw [handlers, Dict.get_pop] at handled
  split at handled
  · cases handled
  · exact named topic session handled

theorem topicsNamed_fresh (config : DaemonConfig) : TopicsNamed config .fresh := by
  intro topic session handled
  cases handled

theorem topicsNamed_step {action : DaemonAction} {shown : List DaemonEvent}
    (named : TopicsNamed config daemon)
    (stepped : daemonMachine config daemon action = some (next, shown)) :
    TopicsNamed config next := by
  cases action with
  | connect =>
    obtain ⟨_, tables, _⟩ := Daemon.connect_step stepped
    exact named.of_handlers (congrArg Tables.commandHandlers tables)
  | frame =>
    obtain ⟨view, after, tables, _, outcome, done⟩ := Daemon.frame_outcome stepped
    have handlersAfter : next.tables.commandHandlers = tables.commandHandlers :=
      congrArg Tables.commandHandlers done.tables
    cases outcome with
    | kept _ _ _ _ handlers => exact named.of_handlers (handlersAfter.trans handlers)
    | unnamed => exact named.of_handlers handlersAfter
    | named | withdrawn => exact named.of_pop handlersAfter
    | wired _ _ _ _ _ _ _ _ _ _ handlers =>
      intro topic session handled
      rw [handlersAfter, handlers, Dict.get_set] at handled
      split at handled
      · rename_i serial _ _ _ _ _ _ _ _ _ _ _ same
        exact ⟨serial, same⟩
      · exact named topic session handled
  | finish =>
    obtain ⟨_, view, _, _, _, tables, _⟩ := Daemon.finish_step stepped
    exact named.of_handlers
      ((congrArg Tables.commandHandlers tables).trans (remove_handlers _ _ _))
  | _ => exact named.of_handlers (Daemon.quiet_step stepped trivial).1.handlers

/-- **A message is what the daemon takes it for.** -/
theorem gateway_step {action : GatewayAction} {events : List GatewayEvent}
    (named : TopicsNamed config daemon)
    (stepped : gatewayMachine config daemon action = some (next, events)) :
    daemonMachine config daemon (action.toDaemon config) = some (next, daemonEvents events) := by
  cases action with
  | internal action isInternal =>
    obtain ⟨⟨reached, shown⟩, inner, same⟩ := Option.map_eq_some_iff.mp stepped
    cases same
    rw [daemonEvents_shown]
    exact inner
  | mqttMessage topic payload =>
    obtain ⟨rfl, rfl⟩ := Prod.mk.inj (Option.some.inj stepped)
    change _ = some (daemon.receiveMessage config topic payload, [])
    rw [Daemon.receiveMessage, GatewayAction.toDaemon]
    cases isSerial : topicSerial config.topicPrefix topic with
    | none =>
      -- such a topic has no handler
      have unhandled : daemon.tables.commandHandlers.get topic = none := by
        by_contra handled
        obtain ⟨session, isHandler⟩ := Option.ne_none_iff_exists'.mp handled
        obtain ⟨serial, isTopic⟩ := named topic session isHandler
        cases isSerial.symm.trans (topicSerial_eq_some.mpr isTopic)
      have refused : ∃ refusal, onMessage daemon.tables.commandHandlers topic payload =
          .error refusal := by
        cases taken : onMessage daemon.tables.commandHandlers topic payload with
        | error refusal => exact ⟨refusal, rfl⟩
        | ok value => cases unhandled.symm.trans (onMessage_ok.mp taken).1
      obtain ⟨refusal, refused⟩ := refused
      rw [refused]
      cases handled : daemon.handlerOf config [] with
      | none | some => simp only [daemonMachine, handled]
    | some serial =>
      rw [topicSerial_eq_some.mp isSerial, onMessage]
      simp only [daemonMachine, Daemon.handlerOf]
      cases Utf8.decodeStrict payload with
      | none => cases daemon.tables.commandHandlers.get _ <;> rfl
      | some text =>
        rw [Option.bind_some, Function.comp_apply]
        cases daemon.tables.commandHandlers.get
            (activePowerLimitCommandTopic config.topicPrefix serial) with
        | none => rfl
        | some session =>
          dsimp only [dispatch]
          cases intLiteral (strip text) with
          | none => rfl
          | some value =>
            dsimp only
            by_cases inRange : 0 ≤ value ∧ value ≤ 100
            · rw [if_pos inRange, if_pos inRange]
              rfl
            · rw [if_neg inRange, if_neg inRange]
              rfl

end Steps

/-- A run with messages is a run of the daemon. -/
theorem gateway_run {config : DaemonConfig} {actions : List GatewayAction} {daemon final : Daemon}
    {trace : List GatewayEvent} (named : TopicsNamed config daemon)
    (ran : run (gatewayMachine config) daemon actions = some (final, trace)) :
    run (daemonMachine config) daemon (actions.map (GatewayAction.toDaemon config)) =
      some (final, daemonEvents trace) := by
  induction actions generalizing daemon trace with
  | nil =>
    obtain ⟨rfl, rfl⟩ := run_nil_eq_some.mp ran
    rfl
  | cons action actions inductionHypothesis =>
    obtain ⟨next, shown, later, stepped, continued, rfl⟩ := run_cons_eq_some.mp ran
    have inner := gateway_step named stepped
    rw [List.map_cons, daemonEvents_append]
    exact run_step inner (inductionHypothesis (topicsNamed_step named inner) continued)

theorem topicsNamed_run {config : DaemonConfig} {actions : List GatewayAction} {daemon : Daemon}
    {trace : List GatewayEvent}
    (ran : run (gatewayMachine config) .fresh actions = some (daemon, trace)) :
    TopicsNamed config daemon :=
  run_preserves (TopicsNamed config) topicsNamed_step (topicsNamed_fresh config)
    (gateway_run (topicsNamed_fresh config) ran)

/-! ## Setpoints on their way -/

/-- The setpoints that are recorded. -/
def recordings (events : List DaemonEvent) : List (Text × Nat) :=
  events.filterMap fun event => match event with
    | .recorded serial percent => some (serial, percent)
    | _ => none

theorem recordings_append (first later : List DaemonEvent) :
    recordings (first ++ later) = recordings first ++ recordings later :=
  List.filterMap_append

theorem recordings_eq_nil {events : List DaemonEvent}
    (none : ∀ serial percent, .recorded serial percent ∉ events) : recordings events = [] := by
  refine List.filterMap_eq_nil_iff.mpr fun event member => ?_
  cases event with
  | recorded serial percent => exact absurd member (none serial percent)
  | _ => rfl

/-- What a step does to the setpoints that wait and to those that are in the tables. -/
inductive SetpointStep (daemon next : Daemon) (shown : List DaemonEvent) : DaemonAction → Prop
  | kept {action : DaemonAction} (setpoints : next.setpoints = daemon.setpoints)
      (desired : next.app.desiredActivePowerLimit = daemon.app.desiredActivePowerLimit)
      (nothing : recordings shown = []) : SetpointStep daemon next shown action
  | queued {serial : Text} {value : Int} {queued : QueuedSetpoint}
      (inRange : 0 ≤ value ∧ value ≤ 100) (percent : queued.percent = value.toNat)
      (setpoints : next.setpoints = daemon.setpoints ++ [queued])
      (desired : next.app.desiredActivePowerLimit = daemon.app.desiredActivePowerLimit)
      (nothing : recordings shown = []) :
      SetpointStep daemon next shown (.message serial (some value))
  /-- The session has lost its serial or its local control. -/
  | dropped {place : Nat} {taken : QueuedSetpoint}
      (isTaken : daemon.setpoints[place]? = some taken)
      (setpoints : next.setpoints = daemon.setpoints.eraseIdx place)
      (desired : next.app.desiredActivePowerLimit = daemon.app.desiredActivePowerLimit)
      (nothing : recordings shown = []) : SetpointStep daemon next shown (.setpoint place)
  | recorded {place : Nat} {taken : QueuedSetpoint} {serial : Text}
      (isTaken : daemon.setpoints[place]? = some taken)
      (setpoints : next.setpoints = daemon.setpoints.eraseIdx place)
      (desired : next.app.desiredActivePowerLimit =
        daemon.app.desiredActivePowerLimit.set serial taken.percent)
      (records : recordings shown = [(serial, taken.percent)]) :
      SetpointStep daemon next shown (.setpoint place)

section Steps

variable {config : DaemonConfig} {daemon next : Daemon} {shown : List DaemonEvent}

theorem readActivePowerLimitOnce_app (session : Nat) (connection : Connection)
    (expected : Option (Nat × RequestSource)) :
    (daemon.readActivePowerLimitOnce config session connection expected).1.app = daemon.app := by
  rw [Daemon.readActivePowerLimitOnce]
  generalize connection.session.startRead config.session connection.writable expected = started
  obtain ⟨after, start⟩ := started
  cases start <;> rfl

theorem readActivePowerLimitOnce_only {session : Nat} {connection : Connection}
    {expected : Option (Nat × RequestSource)} {event : DaemonEvent}
    (member : event ∈ (daemon.readActivePowerLimitOnce config session connection expected).2) :
    ∃ after sent, connection.session.startRead config.session connection.writable expected =
      (after, .sent sent) ∧ event = .requested session sent.raw := by
  rw [Daemon.readActivePowerLimitOnce] at member
  generalize connection.session.startRead config.session connection.writable expected = started
    at member ⊢
  obtain ⟨after, start⟩ := started
  cases start with
  | sent sent => exact ⟨after, sent, rfl, List.mem_singleton.mp member⟩
  | _ => cases member

theorem settleInverterControl_only {session : Nat} {connection : Connection} {event : DaemonEvent}
    (member : event ∈ (daemon.settleInverterControl config session connection).2) :
    ∃ raw, event = .requested session raw := by
  rw [Daemon.settleInverterControl] at member
  split at member
  · obtain ⟨_, sent, _, isRequest⟩ := readActivePowerLimitOnce_only member
    exact ⟨sent.raw, isRequest⟩
  · split at member
    · obtain ⟨_, sent, _, isRequest⟩ := readActivePowerLimitOnce_only member
      exact ⟨sent.raw, isRequest⟩
    · exact applyActivePowerLimit_only member

theorem settleInverterControl_app (session : Nat) (connection : Connection) :
    (daemon.settleInverterControl config session connection).1.app = daemon.app := by
  rw [Daemon.settleInverterControl]
  split
  · exact readActivePowerLimitOnce_app _ _ _
  · split
    · exact readActivePowerLimitOnce_app _ _ _
    · exact applyActivePowerLimit_app _ _ _

theorem markApplied_setpoint (app : AppControl) (serial : Option Text) (write : AwaitedWrite) :
    (app.markApplied serial write).desiredActivePowerLimit = app.desiredActivePowerLimit := by
  cases serial <;> rfl

theorem returnWrite_desired (connection : Connection) (write : AwaitedWrite) (confirmed : Bool) :
    (daemon.returnWrite config connection write confirmed).1.app.desiredActivePowerLimit =
      daemon.app.desiredActivePowerLimit := by
  rw [Daemon.returnWrite]
  split
  · rw [readActivePowerLimitOnce_app]
    exact markApplied_setpoint _ _ _
  · rfl

theorem returnWrite_only {connection : Connection} {write : AwaitedWrite} {confirmed : Bool}
    {event : DaemonEvent}
    (member : event ∈ (daemon.returnWrite config connection write confirmed).2) :
    ∃ raw, event = .requested write.session raw := by
  rw [Daemon.returnWrite] at member
  split at member
  · obtain ⟨_, sent, _, isRequest⟩ := readActivePowerLimitOnce_only member
    exact ⟨sent.raw, isRequest⟩
  · cases member

theorem recordings_requests {session : Nat}
    (only : ∀ event ∈ shown, ∃ raw, event = .requested session raw) : recordings shown = [] := by
  refine recordings_eq_nil fun serial percent member => ?_
  obtain ⟨raw, isRequest⟩ := only _ member
  cases isRequest

/-- The coroutine of a setpoint. -/
theorem handleSetpoint_step {place : Nat} {queued : QueuedSetpoint} {connection : Connection}
    (isQueued : daemon.setpoints[place]? = some queued)
    (found : daemon.connections[queued.session]? = some connection)
    (reached : { daemon with setpoints := daemon.setpoints.eraseIdx place }.handleSetpoint config
      connection queued = (next, shown)) :
    SetpointStep daemon next shown (.setpoint place) := by
  have foundThen : { daemon with setpoints := daemon.setpoints.eraseIdx place }.connections[
      queued.session]? = some connection := found
  have requests := Daemon.handleSetpoint_requests config foundThen
  rw [reached] at requests
  rw [Daemon.handleSetpoint] at reached
  split at reached
  · rename_i serial _ _
    obtain ⟨rfl, rfl⟩ := Prod.mk.inj reached
    refine .recorded isQueued requests.setpoints
      (congrArg AppControl.desiredActivePowerLimit (applyActivePowerLimit_app _ _ _)) ?_
    exact congrArg ((serial, queued.percent) :: ·)
      (recordings_requests fun event member => applyActivePowerLimit_only member)
  · cases reached
    exact .dropped isQueued rfl rfl rfl

/-- **What a step does with setpoints.** -/
theorem setpointStep {action : DaemonAction}
    (stepped : daemonMachine config daemon action = some (next, shown)) :
    SetpointStep daemon next shown action := by
  cases action with
  | connect =>
    cases stepped
    exact .kept rfl rfl rfl
  | attach | closing | other | finish =>
    obtain ⟨connection, _, reached⟩ := Option.map_eq_some_iff.mp stepped
    cases reached
    exact .kept rfl rfl rfl
  | frame =>
    obtain ⟨connection, _, reached⟩ := Option.map_eq_some_iff.mp stepped
    cases reached
    refine .kept rfl rfl (recordings_eq_nil fun serial percent member => ?_)
    obtain ⟨effect, _, isEvent⟩ := List.mem_filterMap.mp member
    split at isEvent <;> cases isEvent
  | message serial value =>
    simp only [daemonMachine] at stepped
    split at stepped
    · split at stepped
      · rename_i inRange
        cases stepped
        exact .queued inRange rfl rfl rfl rfl
      · cases stepped
        exact .kept rfl rfl rfl
    · cases stepped
      exact .kept rfl rfl rfl
  | setpoint place =>
    obtain ⟨queued, connection, isQueued, found, reached⟩ := Daemon.setpoint_step stepped
    exact handleSetpoint_step isQueued found reached
  | settle place =>
    obtain ⟨session, connection, _, found, reached⟩ := Daemon.settle_step stepped
    have foundThen : { daemon with tables := { daemon.tables with
        settleTasks := daemon.tables.settleTasks.eraseIdx place } }.connections[session]? =
          some connection := found
    have requests := Daemon.settleInverterControl_requests config foundThen
    obtain ⟨rfl, rfl⟩ := Prod.mk.inj reached
    exact .kept requests.setpoints
      (congrArg AppControl.desiredActivePowerLimit (settleInverterControl_app _ _))
      (recordings_requests fun event member => settleInverterControl_only member)
  | returned place confirmed =>
    obtain ⟨write, connection, _, found, reached⟩ := Daemon.returned_step stepped
    have foundThen : { daemon with writes := daemon.writes.eraseIdx place }.connections[
        write.session]? = some connection := found
    have requests := Daemon.returnWrite_requests config foundThen confirmed
    obtain ⟨rfl, rfl⟩ := Prod.mk.inj reached
    exact .kept requests.setpoints (returnWrite_desired _ _ _)
      (recordings_requests fun event member => returnWrite_only member)

end Steps

/-! ## Every message is accounted for -/

/-- The percentages that the messages on command topics are for. -/
def askedPercents (topicPrefix : Text) (events : List GatewayEvent) : List Nat :=
  events.filterMap fun event => match event with
    | .received topic payload =>
      if (topicSerial topicPrefix topic).isSome then askedPercent payload else none
    | .shown _ => none

/-- The percentages that are recorded, and those that wait, are different ones of those that were
asked for. -/
def Accounted (config : DaemonConfig) (daemon : Daemon) (trace : List GatewayEvent) : Prop :=
  ∃ dropped, ((recordings (daemonEvents trace)).map Prod.snd ++
      daemon.setpoints.map QueuedSetpoint.percent ++ dropped).Perm
    (askedPercents config.topicPrefix trace)

section Accounts

variable {config : DaemonConfig} {daemon next : Daemon} {trace : List GatewayEvent}

theorem askedPercents_append (topicPrefix : Text) (first later : List GatewayEvent) :
    askedPercents topicPrefix (first ++ later) =
      askedPercents topicPrefix first ++ askedPercents topicPrefix later :=
  List.filterMap_append

theorem askedPercents_shown (topicPrefix : Text) (events : List DaemonEvent) :
    askedPercents topicPrefix (events.map .shown) = [] := by
  rw [askedPercents, List.filterMap_map]
  exact List.filterMap_eq_nil_iff.mpr fun _ _ => rfl

/-- What is taken out of a queue was in it once. -/
theorem taken_perm {queue : List QueuedSetpoint} {place : Nat} {taken : QueuedSetpoint}
    (isTaken : queue[place]? = some taken) :
    (taken.percent :: (queue.eraseIdx place).map QueuedSetpoint.percent).Perm
      (queue.map QueuedSetpoint.percent) := by
  obtain ⟨bound, rfl⟩ := List.getElem?_eq_some_iff.mp isTaken
  exact (List.getElem_cons_eraseIdx_perm bound).map QueuedSetpoint.percent

/-- A step of the daemon itself asks for nothing. -/
theorem Accounted.internal {action : DaemonAction} {shown : List DaemonEvent}
    (accounted : Accounted config daemon trace) (step : SetpointStep daemon next shown action)
    (isInternal : ∀ serial value, action ≠ .message serial value) :
    Accounted config next (trace ++ shown.map .shown) := by
  obtain ⟨dropped, all⟩ := accounted
  rw [Accounted, askedPercents_append, askedPercents_shown, List.append_nil, daemonEvents_append,
    daemonEvents_shown, recordings_append, List.map_append]
  cases step with
  | kept setpoints _ nothing =>
    rw [nothing, setpoints, List.map_nil, List.append_nil]
    exact ⟨dropped, all⟩
  | queued => exact absurd rfl (isInternal _ _)
  | @dropped _ taken isTaken setpoints _ nothing =>
    -- what is taken and not recorded is counted among those that were dropped
    rw [nothing, setpoints, List.map_nil, List.append_nil]
    refine ⟨taken.percent :: dropped, .trans ?_ (.trans (.append_right dropped
      ((taken_perm isTaken).append_left _)) all)⟩
    rw [List.append_assoc, List.append_assoc, List.cons_append]
    exact List.perm_middle.append_left _
  | recorded isTaken setpoints _ records =>
    rw [records, setpoints]
    refine ⟨dropped, .trans (.append_right dropped ?_) all⟩
    rw [List.append_assoc]
    exact (taken_perm isTaken).append_left _

/-- A message is queued, or it is dropped. -/
theorem Accounted.received (accounted : Accounted config daemon trace)
    (named : TopicsNamed config daemon) (topic : Text) (payload : Bytes) :
    Accounted config (daemon.receiveMessage config topic payload)
      (trace ++ [.received topic payload]) := by
  obtain ⟨dropped, all⟩ := accounted
  rw [Accounted, askedPercents_append, daemonEvents_append]
  change ∃ dropped, List.Perm ((recordings (daemonEvents trace ++ [])).map Prod.snd ++ _ ++ _) _
  rw [List.append_nil, Daemon.receiveMessage]
  cases taken : onMessage daemon.tables.commandHandlers topic payload with
  | error refusal =>
    -- a message that is refused may have asked for something, where no handler is left
    refine ⟨dropped ++ askedPercents config.topicPrefix [.received topic payload], ?_⟩
    rw [← List.append_assoc]
    exact all.append_right _
  | ok handled =>
    obtain ⟨session, percent⟩ := handled
    obtain ⟨isHandler, asked⟩ := onMessage_ok.mp taken
    obtain ⟨serial, isTopic⟩ := named topic session isHandler
    have isAsked : askedPercents config.topicPrefix [.received topic payload] = [percent] := by
      simp only [askedPercents, List.filterMap_cons, List.filterMap_nil,
        topicSerial_eq_some.mpr isTopic, Option.isSome_some, if_true, asked]
    rw [isAsked]
    refine ⟨dropped, ?_⟩
    dsimp only
    rw [List.map_append, List.map_singleton, ← List.append_assoc, List.append_assoc _ [percent]]
    refine .trans (List.perm_append_comm.append_left _) ?_
    rw [← List.append_assoc]
    exact all.append_right _

theorem accounted_step {action : GatewayAction} {events : List GatewayEvent}
    (named : TopicsNamed config daemon) (accounted : Accounted config daemon trace)
    (stepped : gatewayMachine config daemon action = some (next, events)) :
    Accounted config next (trace ++ events) := by
  cases action with
  | mqttMessage topic payload =>
    cases stepped
    exact accounted.received named topic payload
  | internal action isInternal =>
    obtain ⟨⟨reached, shown⟩, inner, same⟩ := Option.map_eq_some_iff.mp stepped
    cases same
    exact accounted.internal (setpointStep inner) isInternal

theorem accounted_run {actions : List GatewayAction}
    (ran : run (gatewayMachine config) .fresh actions = some (daemon, trace)) :
    Accounted config daemon trace :=
  run_induction (fun ranBefore accounted stepped =>
    accounted_step (topicsNamed_run ranBefore) accounted stepped) ⟨[], .refl _⟩ ran

end Accounts

/-- **No command is made up, and none is carried out twice.**  In every run, each setpoint that is
recorded or waits to be is one of the messages on command topics, each message counted once: its
payload is valid UTF-8 that `int` reads as the percentage, from 0 to 100. -/
theorem setpoints_accounted {config : DaemonConfig} {actions : List GatewayAction} {daemon : Daemon}
    {trace : List GatewayEvent}
    (ran : run (gatewayMachine config) .fresh actions = some (daemon, trace)) :
    (∃ dropped, ((recordings (daemonEvents trace)).map Prod.snd ++
        daemon.setpoints.map QueuedSetpoint.percent ++ dropped).Perm
      (askedPercents config.topicPrefix trace)) ∧
      ∀ percent ∈ askedPercents config.topicPrefix trace, percent ≤ 100 ∧
        ∃ serial payload text,
          .received (activePowerLimitCommandTopic config.topicPrefix serial) payload ∈ trace ∧
            Utf8.encode text = payload ∧ intLiteral (strip text) = some (percent : Int) := by
  refine ⟨accounted_run ran, fun percent member => ?_⟩
  obtain ⟨event, isEvent, isPercent⟩ := List.mem_filterMap.mp member
  cases event with
  | shown event => cases isPercent
  | received topic payload =>
    dsimp only at isPercent
    split at isPercent
    · rename_i named
      obtain ⟨serial, isSerial⟩ := Option.isSome_iff_exists.mp named
      obtain ⟨text, decoded, dispatched⟩ := Option.bind_eq_some_iff.mp isPercent
      have isLiteral : dispatch text = .ok percent := by
        cases outcome : dispatch text with
        | error refusal =>
          rw [outcome] at dispatched
          cases dispatched
        | ok value =>
          rw [outcome] at dispatched
          exact congrArg Except.ok (Option.some.inj dispatched)
      obtain ⟨isInt, small⟩ := dispatch_ok.mp isLiteral
      rw [topicSerial_eq_some.mp isSerial] at isEvent
      exact ⟨small, serial, payload, text, isEvent, Utf8.decodeStrict_eq_some.mp decoded, isInt⟩
    · cases isPercent

/-- A session is wired, and the broker brings 50 for it. -/
def commandActions : List GatewayAction :=
  [.internal .connect nofun, .internal (.attach 0) nofun,
    .internal (.handle 0 (registrationFrame 'A'.toUInt8)) nofun,
    .internal (.handle 0 supportedFrame) nofun,
    .mqttMessage "foxess/A/active_power_limit/set".toList " 50\n".toUTF8.toList,
    .internal (.setpoint 0) nofun]

theorem setpoints_accounted_command : ∃ daemon trace,
    run (gatewayMachine .everything) .fresh commandActions = some (daemon, trace) ∧
      recordings (daemonEvents trace) = [(['A'], 50)] ∧ 50 ∈ askedPercents "foxess".toList trace ∧
      ∀ percent ∈ askedPercents "foxess".toList trace, percent ≤ 100 := by
  have check : (run (gatewayMachine .everything) .fresh commandActions).map (fun reached =>
      recordings (daemonEvents reached.2)) = some [(['A'], 50)] := by decide +kernel
  obtain ⟨⟨daemon, trace⟩, ran, recorded⟩ := Option.map_eq_some_iff.mp check
  obtain ⟨⟨dropped, all⟩, inRange⟩ := setpoints_accounted ran
  refine ⟨daemon, trace, ran, recorded, all.mem_iff.mp ?_, fun percent asked =>
    (inRange percent asked).1⟩
  dsimp only at recorded
  rw [recorded]
  exact List.mem_append_left _ (List.mem_append_left _ List.mem_cons_self)

end FoxessGateway.Server
