import FoxessGateway.Library.Runs
import FoxessGateway.Server.LocalControl

/-! # ActivePowerLimit setpoints

The tables of `FoxessLocalCloud` that outlive a session, and the coroutines of the sessions of
one inverter that write setpoints to it, as a machine: each action goes from one `await` to the
next, or is something the inverter or the network does. -/

namespace FoxessGateway.Server

open ByteOrder Protocol Runs

/-! ## The tables -/

structure AppControl where
  desiredActivePowerLimit : Dict Text Nat
  appliedActivePowerLimit : Dict Text Nat
  activePowerLimitGen : Dict Text Nat
  activePowerLimitConfirmedGen : Dict Text Nat

def AppControl.fresh : AppControl := ⟨.empty, .empty, .empty, .empty⟩

namespace AppControl

variable (app : AppControl) (serial : Text)

def currentActivePowerLimitGeneration : Nat := (app.activePowerLimitGen.get serial).getD 0

/-- `self._active_power_limit_confirmed_gen.get(serial, 0)` -/
def confirmedGeneration : Nat := (app.activePowerLimitConfirmedGen.get serial).getD 0

/-- `set_desired_active_power_limit`: the tables, and the generation of the command. -/
def setDesiredActivePowerLimit (percent : Nat) : AppControl × Nat :=
  let generation := app.currentActivePowerLimitGeneration serial + 1
  ({ app with
      desiredActivePowerLimit := app.desiredActivePowerLimit.set serial percent
      activePowerLimitGen := app.activePowerLimitGen.set serial generation },
    generation)

def markActivePowerLimitApplied (percent generation : Nat) : AppControl :=
  { app with
    appliedActivePowerLimit := app.appliedActivePowerLimit.set serial percent
    activePowerLimitConfirmedGen :=
      if generation > app.confirmedGeneration serial then
        app.activePowerLimitConfirmedGen.set serial generation
      else app.activePowerLimitConfirmedGen }

def pendingActivePowerLimit : Option Nat :=
  match app.desiredActivePowerLimit.get serial with
  | none => none
  | some desired =>
    if app.confirmedGeneration serial ≥ app.currentActivePowerLimitGeneration serial then none
    else some desired

end AppControl

/-! ## Sessions and writes -/

/-- A session of the inverter.  `issued` counts its injected requests, reads and writes. -/
structure Link where
  control : LocalControl
  closing : Bool
  settleScheduled : Bool
  issued : Nat

def Link.fresh : Link := ⟨.fresh, false, false, 0⟩

/-- An ActivePowerLimit write that was written to the inverter's connection: the session, its
device field, value, generation and future, and the count of the session's requests with it. -/
structure InjectedWrite where
  session : Nat
  device : Bytes
  value : Nat
  generation : Nat
  future : Nat
  issued : Nat
  deriving DecidableEq, Repr

/-- The key under which its response is awaited. -/
def InjectedWrite.key (write : InjectedWrite) : Bytes := normalizeDevice write.device

/-- Where the `write_register` of a write stands. -/
inductive WritePhase where
  /-- `await writer.drain()` -/
  | draining
  /-- `await asyncio.wait_for(future, timeout)` -/
  | waiting
  | ended
  deriving DecidableEq, Repr

/-- `wire` has the writes in the order in which the daemon writes them, on whichever session, and
`phases` says where each of them stands.  `executed` are those the inverter executed, by their
place on the wire, the latest first. -/
structure SetpointState where
  app : AppControl
  links : List Link
  wire : List InjectedWrite
  phases : List WritePhase
  executed : List Nat

def SetpointState.fresh : SetpointState := ⟨.fresh, [], [], [], []⟩

inductive WriteResult where
  | confirmed
  | rejected
  | timeout
  | noConnection
  | error
  deriving DecidableEq, Repr

inductive SetpointEvent where
  | sent (place : Nat)
  | executed (place : Nat)
  | result (value : Nat) (result : WriteResult)
  deriving DecidableEq, Repr

def SetpointState.setLink (state : SetpointState) (session : Nat) (link : Link) : SetpointState :=
  { state with links := state.links.set session link }

def SetpointState.setPhase (state : SetpointState) (place : Nat) (phase : WritePhase) :
    SetpointState :=
  { state with phases := state.phases.set place phase }

/-! ## Steps -/

/-- `_read_active_power_limit_once` up to its first `await`. -/
def Link.readActivePowerLimitOnce (link : Link) (address : Nat) : Link :=
  { link with control := (link.control.readHolding address 1).1, issued := link.issued + 1 }

/-- The `finally` block of a write's `write_register`. -/
def Link.forget (link : Link) (write : InjectedWrite) : Link :=
  { link with control := link.control.forgetWrite write.key }

/-- `_apply_active_power_limit` up to its first `await`, on a session that stands at `link`. -/
def applyActivePowerLimit (address : Nat) (state : SetpointState) (session : Nat) (link : Link)
    (percent generation : Nat) : SetpointState × List SetpointEvent :=
  let (control, sent) := link.control.writeRegister (!link.closing) address percent
  let numbered := { link with control := control, issued := link.issued + 1 }
  match sent with
  | .error _ => (state.setLink session numbered, [.result percent .error])
  | .ok none => (state.setLink session numbered, [.result percent .noConnection])
  | .ok (some sent) =>
    ({ state.setLink session numbered with
        wire := state.wire ++
          [⟨session, sent.device, percent, generation, sent.future, numbered.issued⟩]
        phases := state.phases ++ [.draining] },
      [.sent state.wire.length])

/-- The device field that the inverter echoes, with bit 7 of its first byte set. -/
def echoDevice : Bytes → Bytes
  | [] => []
  | first :: device => (first ||| 0x80) :: device

/-- `handle_frame` gets a response to a write. -/
def Link.respond (link : Link) (write : InjectedWrite) (confirmed : Bool) : Link :=
  if normalizeDevice (echoDevice write.device) ∈ link.control.outstanding then
    { link with control := link.control.resolveResponse (echoDevice write.device) confirmed }
  else link

/-- `asyncio.wait_for` returns: what follows in `_apply_active_power_limit`. -/
def finishWrite (serial : Text) (address : Nat) (state : SetpointState) (place : Nat)
    (write : InjectedWrite) (link : Link) (confirmed : Bool) : SetpointState × List SetpointEvent :=
  let ended := state.setPhase place .ended
  let freed := link.forget write
  if confirmed then
    ({ ended.setLink write.session (freed.readActivePowerLimitOnce address) with
        app := state.app.markActivePowerLimitApplied serial write.value write.generation },
      [.result write.value .confirmed])
  else (ended.setLink write.session freed, [.result write.value .rejected])

inductive SetpointAction where
  /-- The inverter connects, and its session gets local control. -/
  | connect
  /-- The transport of a session begins to close. -/
  | close (session : Nat)
  /-- `_handle_active_power_limit_setpoint` of the session whose handler is registered. -/
  | setpoint (session percent : Nat)
  /-- `_settle_inverter_control` -/
  | settle (session : Nat)
  | drained (place : Nat)
  | drainFailed (place : Nat)
  /-- `asyncio.wait_for` returns or gives up. -/
  | finish (place : Nat)
  | timeout (place : Nat)
  /-- The inverter executes a write. -/
  | execute (place : Nat)
  /-- The inverter's success response to a write arrives. -/
  | respond (place : Nat)
  /-- Its exception response does. -/
  | reject (place : Nat)
  deriving DecidableEq, Repr

/-- The write at a place on the wire and the session it was written on. -/
def SetpointState.writeAt (state : SetpointState) (place : Nat) :
    Option (InjectedWrite × Link) := do
  let write ← state.wire[place]?
  let link ← state.links[write.session]?
  return (write, link)

/-- The sessions of the inverter `serial`.  The inverter executes writes in the order in which
they were written, and may lose any; it confirms only what it executed. -/
def setpointMachine (serial : Text) (address : Nat) :
    Machine SetpointState SetpointAction SetpointEvent := fun state action =>
  match action with
  | .connect => some ({ state with links := state.links ++ [.fresh] }, [])
  | .close session =>
    state.links[session]?.map fun link =>
      (state.setLink session { link with closing := true }, [])
  | .setpoint session percent =>
    state.links[session]?.map fun link =>
      let (app, generation) := state.app.setDesiredActivePowerLimit serial percent
      applyActivePowerLimit address { state with app := app } session link percent generation
  | .settle session =>
    match state.links[session]? with
    | none => none
    | some link =>
      if link.settleScheduled then none
      else
        let settling := { link with settleScheduled := true }
        match state.app.pendingActivePowerLimit serial with
        | none => some (state.setLink session (settling.readActivePowerLimitOnce address), [])
        | some pending =>
          some (applyActivePowerLimit address state session settling pending
            (state.app.currentActivePowerLimitGeneration serial))
  | .drained place =>
    if state.phases[place]? = some .draining then some (state.setPhase place .waiting, []) else none
  | .drainFailed place =>
    match state.writeAt place, state.phases[place]? with
    | some (write, link), some .draining =>
      some ((state.setPhase place .ended).setLink write.session (link.forget write),
        [.result write.value .error])
    | _, _ => none
  | .finish place =>
    match state.writeAt place, state.phases[place]? with
    | some (write, link), some .waiting =>
      match link.control.futures[write.future]? with
      | some (.result confirmed) =>
        some (finishWrite serial address state place write link confirmed)
      | _ => none
    | _, _ => none
  | .timeout place =>
    match state.writeAt place, state.phases[place]? with
    | some (write, link), some .waiting =>
      -- also between a response that settles the future and the return of `wait_for`
      let cancelled := { link with control := link.control.cancelFuture write.future }
      some ((state.setPhase place .ended).setLink write.session (cancelled.forget write),
        [.result write.value .timeout])
    | _, _ => none
  | .execute place =>
    if place < state.wire.length ∧ ∀ earlier ∈ state.executed, earlier < place then
      some ({ state with executed := place :: state.executed }, [.executed place])
    else none
  | .respond place =>
    match state.writeAt place with
    | some (write, link) =>
      if place ∈ state.executed then
        some (state.setLink write.session (link.respond write true), [])
      else none
    | none => none
  | .reject place =>
    match state.writeAt place with
    | some (write, link) => some (state.setLink write.session (link.respond write false), [])
    | none => none

end FoxessGateway.Server
