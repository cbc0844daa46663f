import FoxessGateway.Library.Runs
import FoxessGateway.Mqtt.Messages
import FoxessGateway.Server.ControlView
import FoxessGateway.Server.Injection
import FoxessGateway.Server.Setpoints

/-! # The daemon and its sessions

`FoxessLocalCloud` with every session it has had, the command handlers of its MQTT publisher and
the tasks it has scheduled, as a machine.  Every action runs from one `await` to the next.  The
only `await` of `handle_frame` is the drain of a handshake answer, and no frame that is answered
concerns local control after it. -/

namespace FoxessGateway.Server

open Protocol Effectful Action Runs Mqtt

/-! ## State -/

/-- A connection of an inverter and its session. -/
structure Connection where
  session : Session
  /-- The session has its inverter's writer, and it is not closing. -/
  writable : Bool
  /-- `handle_client` has finished. -/
  finished : Bool

/-- A setpoint on its way from the MQTT thread to the coroutine of the session whose handler took
it.  `serial` and `target` are kept for what we prove: the serial of the command topic, and the
open session that `sessions_by_serial` had for it when the message came. -/
structure QueuedSetpoint where
  serial : Text
  target : Option Nat
  session : Nat
  percent : Nat
  deriving DecidableEq, Repr

/-- A `write_register` that has not returned. -/
structure AwaitedWrite where
  session : Nat
  percent : Nat
  generation : Nat
  source : RequestSource
  deriving DecidableEq, Repr

/-- `mark_active_power_limit_applied` of a session that may have lost its serial. -/
def AppControl.markApplied (app : AppControl) (serial : Option Text) (write : AwaitedWrite) :
    AppControl :=
  match serial with
  | some serial => app.markActivePowerLimitApplied serial write.percent write.generation
  | none => app

/-- What the sessions write to from `handle_frame`. -/
structure Tables where
  sessionsBySerial : Dict Text Nat
  /-- The session whose `_on_setpoint` a command topic leads to. -/
  commandHandlers : Dict Text Nat
  /-- The sessions of the settle tasks that have not run. -/
  settleTasks : List Nat

structure Daemon where
  connections : List Connection
  tables : Tables
  app : AppControl
  setpoints : List QueuedSetpoint
  writes : List AwaitedWrite

def Daemon.fresh : Daemon := ⟨[], ⟨.empty, .empty, []⟩, .fresh, [], []⟩

structure DaemonConfig where
  session : SessionConfig
  topicPrefix : Text
  deriving DecidableEq, Repr

inductive DaemonEvent where
  /-- A Modbus request is written to the inverter of a session. -/
  | requested (session : Nat) (raw : Bytes)
  /-- `set_desired_active_power_limit` -/
  | recorded (serial : Text) (percent : Nat)
  /-- `sessions_by_serial[serial] = session` -/
  | registered (serial : Text) (session : Nat)
  deriving DecidableEq, Repr

/-! ## Frames -/

/-- A frame that extraction returns. -/
structure WireFrame where
  frame : Frame
  wellFormed : frame.WellFormed

/-- What either relay loop does with a frame of the inverter before it forwards it. -/
def clientFrame (config : SessionConfig) (world : SessionWorld) (frame : Frame)
    (sendBootstrap : Bool) : InSession Unit := do
  let _ ← handleFirmwareUploadFrame frame
  Session.handleFrame config world frame sendBootstrap

namespace Tables

/-- An effect of the session on the daemon. -/
def apply (topicPrefix : Text) (session : Nat) (tables : Tables) : SessionEffect → Tables
  | .registerSession serial =>
    { tables with sessionsBySerial := tables.sessionsBySerial.set serial session }
  | .mqtt (.registerActivePowerLimitHandler serial) =>
    { tables with commandHandlers :=
        tables.commandHandlers.set (activePowerLimitCommandTopic topicPrefix serial) session }
  | .mqtt (.unregisterActivePowerLimitHandler serial) =>
    { tables with commandHandlers :=
        tables.commandHandlers.pop (activePowerLimitCommandTopic topicPrefix serial) }
  | .createSettleTask => { tables with settleTasks := tables.settleTasks ++ [session] }
  | _ => tables

/-- The session is done: its entry goes, if its serial still leads to it. -/
def remove (session : Nat) (tables : Tables) : Option Text → Tables
  | none => tables
  | some serial =>
    if tables.sessionsBySerial.get serial = some session then
      { tables with sessionsBySerial := tables.sessionsBySerial.pop serial }
    else tables

def applyAll (topicPrefix : Text) (session : Nat) (tables : Tables) (effects : List SessionEffect) :
    Tables :=
  effects.foldl (apply topicPrefix session) tables

end Tables

/-- The registrations among the effects of a session. -/
def registrations (session : Nat) (effects : List SessionEffect) : List DaemonEvent :=
  effects.filterMap fun effect => match effect with
    | .registerSession serial => some (.registered serial session)
    | _ => none

namespace Daemon

variable (config : DaemonConfig) (daemon : Daemon)

/-- `_command_handlers.get` of the command topic of a serial. -/
def handlerOf (serial : Text) : Option Nat :=
  daemon.tables.commandHandlers.get (activePowerLimitCommandTopic config.topicPrefix serial)

/-- The session `sessions_by_serial` has for a serial, where it is still open. -/
def openSession (serial : Text) : Option Nat :=
  (daemon.tables.sessionsBySerial.get serial).filter fun session =>
    (daemon.connections[session]?).any (!·.finished)

def setConnection (session : Nat) (connection : Connection) : Daemon :=
  { daemon with connections := daemon.connections.set session connection }

def setSession (session : Nat) (connection : Connection) (after : Session) : Daemon :=
  daemon.setConnection session { connection with session := after }

/-! ## Requests -/

/-- `_apply_active_power_limit` -/
def applyActivePowerLimit (session : Nat) (connection : Connection) (percent generation : Nat)
    (source : RequestSource) : Daemon × List DaemonEvent :=
  let (after, start) := connection.session.startWrite config.session connection.writable percent
  let started := daemon.setSession session connection after
  match start with
  | .sent sent =>
    -- the coroutine waits for its answer; every other start ends it here
    ({ started with writes := daemon.writes ++ [⟨session, percent, generation, source⟩] },
      [.requested session sent.raw])
  | _ => (started, [])

/-- `_read_active_power_limit_once` -/
def readActivePowerLimitOnce (session : Nat) (connection : Connection)
    (expected : Option (Nat × RequestSource)) : Daemon × List DaemonEvent :=
  let (after, start) := connection.session.startRead config.session connection.writable expected
  let started := daemon.setSession session connection after
  match start with
  | .sent sent => (started, [.requested session sent.raw])
  | _ => (started, [])

/-- `_handle_active_power_limit_setpoint` -/
def handleSetpoint (connection : Connection) (queued : QueuedSetpoint) :
    Daemon × List DaemonEvent :=
  match connection.session.localControl, connection.session.knownSerial with
  | some _, some serial =>
    -- the serial is the one the session has now, not the one of the topic
    let (app, generation) := daemon.app.setDesiredActivePowerLimit serial queued.percent
    let (next, shown) := { daemon with app := app }.applyActivePowerLimit config queued.session
      connection queued.percent generation .setpoint
    (next, .recorded serial queued.percent :: shown)
  | _, _ => (daemon, [])

/-- `_settle_inverter_control` -/
def settleInverterControl (session : Nat) (connection : Connection) : Daemon × List DaemonEvent :=
  match connection.session.knownSerial with
  | none => daemon.readActivePowerLimitOnce config session connection none
  | some serial =>
    match daemon.app.pendingActivePowerLimit serial with
    | none => daemon.readActivePowerLimitOnce config session connection none
    | some pending =>
      daemon.applyActivePowerLimit config session connection pending
        (daemon.app.currentActivePowerLimitGeneration serial) .reapply

/-- `write_register` returns to `_apply_active_power_limit`. -/
def returnWrite (connection : Connection) (write : AwaitedWrite) (confirmed : Bool) :
    Daemon × List DaemonEvent :=
  if confirmed then
    { daemon with app := daemon.app.markApplied connection.session.serial write }
      |>.readActivePowerLimitOnce config write.session connection
        (some (write.percent, write.source))
  else (daemon, [])

end Daemon

/-! ## Steps -/

/-- Whatever else a session does: none of it concerns local control. -/
structure OtherActivity where
  change : Session → Session
  control_kept : ∀ session, (change session).control = session.control

inductive DaemonAction where
  /-- `handle_client` begins. -/
  | connect
  /-- `attach_inverter_writer` -/
  | attach (session : Nat)
  /-- The inverter's transport begins to close. -/
  | closing (session : Nat)
  /-- The relay loop of a session may still have frames to handle when `handle_client` is done. -/
  | frame (session : Nat) (world : SessionWorld) (wire : WireFrame) (sendBootstrap : Bool)
  | other (session : Nat) (activity : OtherActivity)
  /-- The `finally` block of `handle_client`. -/
  | finish (session : Nat)
  /-- `_on_message` with the command topic of a serial, and what `int` makes of the payload. -/
  | message (serial : Text) (value : Option Int)
  /-- A coroutine or task gets its turn: one of the queue of its kind. -/
  | setpoint (place : Nat)
  | settle (place : Nat)
  | returned (place : Nat) (confirmed : Bool)

def daemonMachine (config : DaemonConfig) : Machine Daemon DaemonAction DaemonEvent :=
  fun daemon action =>
  match action with
  | .connect =>
    some ({ daemon with
      connections := daemon.connections ++ [⟨.fresh config.session, false, false⟩] }, [])
  | .attach session =>
    -- a connection that is over has no writer to attach
    daemon.connections[session]?.map fun connection =>
      (daemon.setConnection session { connection with writable := !connection.finished }, [])
  | .closing session =>
    daemon.connections[session]?.map fun connection =>
      (daemon.setConnection session { connection with writable := false }, [])
  | .frame session world wire sendBootstrap =>
    daemon.connections[session]?.map fun connection =>
      let outcome := (clientFrame config.session world wire.frame sendBootstrap).run
        connection.session
      ({ daemon.setSession session connection outcome.state with
          tables := daemon.tables.applyAll config.topicPrefix session outcome.effects },
        registrations session outcome.effects)
  | .other session activity =>
    daemon.connections[session]?.map fun connection =>
      (daemon.setSession session connection (activity.change connection.session), [])
  | .finish session =>
    daemon.connections[session]?.map fun connection =>
      ({ daemon.setConnection session { connection with writable := false, finished := true } with
          tables := daemon.tables.remove session connection.session.knownSerial }, [])
  | .message serial value =>
    match daemon.handlerOf config serial, value with
    | some session, some value =>
      -- `_dispatch` lets no other value through
      if 0 ≤ value ∧ value ≤ 100 then
        some ({ daemon with setpoints :=
          daemon.setpoints ++ [⟨serial, daemon.openSession serial, session, value.toNat⟩] }, [])
      else some (daemon, [])
    | _, _ => some (daemon, [])
  | .setpoint place => do
    let queued ← daemon.setpoints[place]?
    let connection ← daemon.connections[queued.session]?
    return { daemon with setpoints := daemon.setpoints.eraseIdx place }.handleSetpoint config
      connection queued
  | .settle place => do
    let session ← daemon.tables.settleTasks[place]?
    let connection ← daemon.connections[session]?
    return { daemon with tables := { daemon.tables with
        settleTasks := daemon.tables.settleTasks.eraseIdx place } }.settleInverterControl config
      session connection
  | .returned place confirmed => do
    let write ← daemon.writes[place]?
    let connection ← daemon.connections[write.session]?
    return { daemon with writes := daemon.writes.eraseIdx place }.returnWrite config connection
      write confirmed

end FoxessGateway.Server
