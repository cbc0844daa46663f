import FoxessGateway.Library.Dialogues
import FoxessGateway.Protocol.Bootstrap
import FoxessGateway.Provisioning.Commands

/-! # Bluetooth sessions

`_BleSession` of `ble_provision.py`.  Notifications fill a buffer and then a queue of frames at any
time; `list_networks` and `provision` are dialogues over that queue. -/

namespace FoxessGateway.Provisioning

open ByteOrder Protocol Dialogues Runs

inductive BleError where
  | provisioning (message : String)
  | raised (error : PyError)
  | timedOut
  /-- What the Bluetooth client raises. -/
  | link (message : String)
  deriving DecidableEq, Repr

abbrev BleDialogue := Dialogue Frame Bytes BleError

/-- `_write` -/
def write (data : Bytes) : BleDialogue Unit := .say data (.done ())

def orRaise {α : Type} : Except PyError α → BleDialogue α
  | .ok value => .done value
  | .error raised => .raised (.raised raised)

/-! ## Waiting for a frame -/

/-- One byte as `repr` shows it between those quotes. -/
def reprByte (quote : Char) (byte : UInt8) : Text :=
  if byte = 0x5C ∨ byte.toNat = quote.toNat then ['\\', Char.ofNat byte.toNat]
  else if byte = 0x09 then ['\\', 't']
  else if byte = 0x0A then ['\\', 'n']
  else if byte = 0x0D then ['\\', 'r']
  else if 0x20 ≤ byte ∧ byte ≤ 0x7E then [Char.ofNat byte.toNat]
  else ['\\', 'x'] ++ (hex [byte]).toList

/-- `repr(data)` -/
def reprBytes (data : Bytes) : String :=
  let quote := if 0x27 ∈ data ∧ 0x22 ∉ data then '"' else '\''
  String.ofList ('b' :: quote :: data.flatMap (reprByte quote) ++ [quote])

/-- The frames that `_await_frame` is called for. -/
structure Wanted where
  start : Option Bytes
  func : Option UInt8
  deriving DecidableEq, Repr

def Wanted.accepts (wanted : Wanted) (frame : Frame) : Bool :=
  wanted.start.all (frame.start = ·) && wanted.func.all (frame.func = ·)

def Wanted.timeout (wanted : Wanted) : String :=
  let start := (wanted.start.map reprBytes).getD "None"
  let func := (wanted.func.map fun func => toString func.toNat).getD "None"
  s!"timeout waiting for frame start={start} func={func}"

/-- What `_await_frame` raises: `wait_for` runs out of time, or no time is left for another. -/
def Wanted.givenUp (wanted : Wanted) (late : Bool) : BleError :=
  if late then .provisioning wanted.timeout else .timedOut

/-- `_await_frame` -/
def awaitFrame (wanted : Wanted) : BleDialogue Frame :=
  .hear wanted.accepts (fun late => .raised (wanted.givenUp late)) .done

/-- Any frame of the bootstrap exchange. -/
def bootstrapFrame : Wanted := ⟨some marker7e, none⟩

/-- The answer to a commissioning command. -/
def answerTo (func : UInt8) : Wanted := ⟨some marker7f, some func⟩

/-! ## The exchanges -/

/-- `while responder.step < 3`, where no more than so many rounds are left. -/
def bootstrapRounds : Nat → BootstrapResponder → Frame → BleDialogue Unit
  | 0, _, _ => .done ()
  | rounds + 1, responder, current =>
    if responder.step < 3 then
      match responder.responseFor current with
      | (_, .error raised) => .raised (.raised raised)
      | (responder, .ok none) =>
        .raised (.provisioning s!"bootstrap step {responder.step} produced no response")
      | (responder, .ok (some response)) => do
        write response
        if responder.step ≥ 3 then .done ()
        else
          let current ← awaitFrame bootstrapFrame
          bootstrapRounds rounds responder current
    else .done ()

/-- `payload[:4].hex(" ")` -/
def hexSpaced (data : Bytes) : String := " ".intercalate (data.map fun byte => hex [byte])

/-- `bootstrap` once a first frame has come. -/
def bootstrapFrom (registration : Frame) : BleDialogue (Bytes × Text) :=
  if isRegistration registration = false then
    .raised (.provisioning
      (s!"first frame not a registration (func=0x{hex [registration.func]}, " ++
        s!"payload[:4]={hexSpaced (registration.payload.take 4)})"))
  else do
    let serial := (registrationSerial registration).getD []
    let tail ← orRaise (deriveDeviceTail registration)
    -- every round takes a step of the responder
    bootstrapRounds 3 ⟨0⟩ registration
    return (tail, serial)

def bootstrap : BleDialogue (Bytes × Text) := do
  let registration ← awaitFrame bootstrapFrame
  bootstrapFrom registration

def listNetworks (tail : Bytes) : BleDialogue (List ScannedNetwork) := do
  let request ← orRaise (makeScanRequest tail)
  write request
  let scanFrame ← awaitFrame (answerTo fnScan)
  orRaise (parseScanResponse scanFrame)

def setCredentials (tail : Bytes) (ssid passphrase : Text) : BleDialogue Unit := do
  let select ← orRaise (makeSelectRequest tail)
  write select
  let _ ← awaitFrame (answerTo fnSelect)
  let credentials ← orRaise (makeSetCredentials tail ssid passphrase)
  write credentials
  let _ ← awaitFrame (answerTo fnSetCreds)
  let commit ← orRaise (makeCommit tail)
  write commit
  -- the inverter may leave before it answers
  .hear (answerTo fnCommit).accepts (fun _ => .done ()) fun _ => .done ()

/-- `list_networks`, once connected. -/
def networksSession : BleDialogue (Text × List ScannedNetwork) := do
  let (tail, serial) ← bootstrap
  let networks ← listNetworks tail
  return (serial, networks)

/-- `provision`, once connected. -/
def provisionSession (ssid passphrase : Text) : BleDialogue Text := do
  let (tail, serial) ← bootstrap
  setCredentials tail ssid passphrase
  return serial

/-! ## Notifications -/

structure BleSession (α : Type) where
  buf : Bytes
  party : Party Frame Bytes BleError α

def BleSession.start {α : Type} (dialogue : BleDialogue α) : BleSession α := ⟨[], ⟨dialogue, []⟩⟩

inductive BleAction where
  | notify (data : Bytes)
  | proceed
  | timeout (late : Bool)
  | fail (error : BleError)

abbrev BleEvent := PartyEvent Frame Bytes

def BleAction.data : BleAction → Option Bytes
  | .notify data => some data
  | _ => none

variable {α : Type}

/-- `_on_notify` for `notify`; the other actions are those of the task. -/
def bleMachine : Machine (BleSession α) BleAction BleEvent := fun session action =>
  match action with
  | .notify data =>
    let (frames, buf) := extractFrames (session.buf ++ data)
    let valid := frames.filter (·.validCrc)
    some (⟨buf, { session.party with inbox := session.party.inbox ++ valid }⟩,
      valid.map .delivered)
  | .proceed => (partyMachine session.party .proceed).map (Prod.map (⟨session.buf, ·⟩) id)
  | .timeout late =>
    (partyMachine session.party (.giveUp late)).map (Prod.map (⟨session.buf, ·⟩) id)
  | .fail error => (partyMachine session.party (.fail error)).map (Prod.map (⟨session.buf, ·⟩) id)

/-- The valid frames of all notifications. -/
def received (actions : List BleAction) : List Frame :=
  (frameScanner.feed [] (actions.filterMap BleAction.data)).1.filter (·.validCrc)

end FoxessGateway.Provisioning
