import FoxessGateway.Server.Session

/-! # The requests of a session

`_apply_active_power_limit` and `_read_active_power_limit_once` up to their first `await`: what
they change in the session, and the frame they write to the inverter. -/

namespace FoxessGateway.Server

open Protocol

/-- `_register_pending_read` -/
def Session.registerPendingRead (session : Session) (key : Bytes) (address count : Nat)
    (expected : Option (Nat × RequestSource)) : Session :=
  { session with
    pendingReads := session.pendingReads.set key (address, count)
    pendingActivePowerLimitReadbacks :=
      match expected with
      | some value => session.pendingActivePowerLimitReadbacks.set key value
      | none => session.pendingActivePowerLimitReadbacks }

/-- `_unregister_pending_read` -/
def Session.unregisterPendingRead (session : Session) (key : Bytes) : Session :=
  { session with
    pendingReads := session.pendingReads.pop key
    pendingActivePowerLimitReadbacks := session.pendingActivePowerLimitReadbacks.pop key }

/-- How a request ends at its first `await`, or before it. -/
inductive RequestStart (α : Type) where
  /-- There is no local control, or no serial. -/
  | skipped
  | raised (raised : PyError)
  | noConnection
  | sent (request : α)

/-- `_apply_active_power_limit` up to the drain of `_send`. -/
def Session.startWrite (config : SessionConfig) (writable : Bool) (percent : Nat)
    (session : Session) : Session × RequestStart SentWrite :=
  match session.localControl, session.knownSerial with
  | some control, some _ =>
    let (after, written) := control.writeRegister writable config.activePowerLimitAddress percent
    ({ session with localControl := some after },
      match written with
      | .error raised => .raised raised
      | .ok none => .noConnection
      | .ok (some sent) => .sent sent)
  | _, _ => (session, .skipped)

/-- The device field and the bytes of a read. -/
structure SentRead where
  device : Bytes
  raw : Bytes
  deriving DecidableEq, Repr

/-- `_read_active_power_limit_once` up to the drain of `_send`. -/
def Session.startRead (config : SessionConfig) (writable : Bool)
    (expected : Option (Nat × RequestSource)) (session : Session) :
    Session × RequestStart SentRead :=
  match session.localControl, session.knownSerial with
  | some control, some _ =>
    let device := (control.nextDevice deviceByteRead).2
    match control.readHolding config.activePowerLimitAddress 1 with
    | (after, .error raised) => ({ session with localControl := some after }, .raised raised)
    | (after, .ok raw) =>
      let asked := { session with localControl := some after }.registerPendingRead
        (normalizeDevice device) config.activePowerLimitAddress 1 expected
      if writable then (asked, .sent ⟨device, raw⟩)
      else (asked.unregisterPendingRead (normalizeDevice device), .noConnection)
  | _, _ => (session, .skipped)

end FoxessGateway.Server
