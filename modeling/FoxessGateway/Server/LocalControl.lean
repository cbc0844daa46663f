import FoxessGateway.Protocol.Classify
import FoxessGateway.Protocol.RoundTrip
import Mathlib.Data.Finset.Insert

/-! # Injected Modbus requests

`LocalControl` of `local_control.py`: the counter that numbers injected requests, the keys of
those that are outstanding, and the futures of the writes that wait for their echo. -/

namespace FoxessGateway.Server

open ByteOrder Protocol

/-! ## Requests -/

/-- The three builders of requests, which differ in the function. -/
def buildModbusRequest (function : UInt8) (device : Bytes) (address word : Nat) :
    Except PyError Bytes := do
  let addressField ← toBytes address 2
  let wordField ← toBytes word 2
  makeFrame marker7f device commandEnvelopeFunc
    ([0x01, function] ++ addressField ++ wordField) endF7

def buildModbusWriteSingle : Bytes → Nat → Nat → Except PyError Bytes :=
  buildModbusRequest modbusFnWriteSingle

def buildModbusReadHolding : Bytes → Nat → Nat → Except PyError Bytes :=
  buildModbusRequest modbusFnReadHolding

def buildModbusReadInput : Bytes → Nat → Nat → Except PyError Bytes :=
  buildModbusRequest modbusFnReadInput

/-- The frame of a request. -/
def requestFrame (function : UInt8) (device : Bytes) (address word : Nat) : Frame :=
  builtFrame marker7f device commandEnvelopeFunc
    ([0x01, function] ++ toBig 2 address ++ toBig 2 word) endF7

/-- A request is built of words that fit their fields. -/
theorem buildModbusRequest_eq (function : UInt8) (device : Bytes) {address word : Nat}
    (addressFits : address < 256 ^ 2) (wordFits : word < 256 ^ 2) :
    buildModbusRequest function device address word =
      .ok (requestFrame function device address word).raw := by
  have short : ([0x01, function] ++ toBig 2 address ++ toBig 2 word).length < 256 ^ 2 := by simp
  rw [buildModbusRequest, toBytes_eq_ok addressFits, toBytes_eq_ok wordFits]
  exact makeFrame_eq marker7f device commandEnvelopeFunc endF7 short

theorem buildModbusRequest_ok (function : UInt8) (device : Bytes) {address word : Nat}
    (addressFits : address < 256 ^ 2) (wordFits : word < 256 ^ 2) :
    ∃ raw, buildModbusRequest function device address word = .ok raw :=
  ⟨_, buildModbusRequest_eq function device addressFits wordFits⟩

/-- The device field with bit 7 of its first byte cleared. -/
def normalizeDevice : Bytes → Bytes
  | [] => []
  | first :: device => (first &&& 0x7F) :: device.take 3

def deviceByteRead : UInt8 := 0x11
def deviceByteWrite : UInt8 := 0x12
def injectedCounterStart : Nat := 0xF000
def injectedSessionMarker : UInt8 := 0xAA

/-! ## State -/

structure LocalControl where
  counter : Nat
  outstanding : Finset Bytes
  /-- The future, by its number, that waits under a device key. -/
  pendingWrites : Dict Bytes Nat
  /-- Every future created, in order. -/
  futures : List (Future Bool)
  cloudMarkerSeen : Option UInt8

def LocalControl.fresh : LocalControl where
  counter := injectedCounterStart
  outstanding := ∅
  pendingWrites := .empty
  futures := []
  cloudMarkerSeen := none

namespace LocalControl

variable (control : LocalControl)

/-- `_next_device`: the state with the counter advanced, and the device field. -/
def nextDevice (opType : UInt8) : LocalControl × Bytes :=
  -- the counter wraps: after 65536 requests the device fields repeat
  let counter := (control.counter + 1) &&& 0xFFFF
  ({ control with counter := counter },
    [opType, UInt8.ofNat (counter &&& 0xFF), UInt8.ofNat ((counter >>> 8) &&& 0xFF),
      injectedSessionMarker])

def isOurFrame (frame : Frame) : Bool :=
  frame.start = marker7f ∧ normalizeDevice frame.device ∈ control.outstanding

/-- `resolve_response` -/
def resolveResponse (device : Bytes) (confirmed : Bool) : LocalControl :=
  match control.pendingWrites.get (normalizeDevice device) with
  | some future =>
    -- the entry stays until its own `write_register` returns
    { control with futures := control.futures.modify future (Future.settle confirmed) }
  | none => control

theorem resolveResponse_outstanding (device : Bytes) (confirmed : Bool) :
    (control.resolveResponse device confirmed).outstanding = control.outstanding := by
  rw [resolveResponse]
  split
  · rfl
  · rfl

/-- `observe_session_marker`: the state, and the marker when it is reported as a new one. -/
def observeSessionMarker (marker : UInt8) : LocalControl × Option UInt8 :=
  if control.cloudMarkerSeen = some marker then (control, none)
  else ({ control with cloudMarkerSeen := some marker }, some marker)

/-- `_outstanding.add(key)` -/
def addOutstanding (key : Bytes) : LocalControl :=
  { control with outstanding := insert key control.outstanding }

/-- Create a future and let it wait under the key. -/
def awaitWrite (key : Bytes) : LocalControl :=
  { control with
    pendingWrites := control.pendingWrites.set key control.futures.length
    futures := control.futures ++ [.pending] }

/-- The `finally` block of `write_register`. -/
def forgetWrite (key : Bytes) : LocalControl :=
  { control with pendingWrites := control.pendingWrites.pop key }

/-- `asyncio.wait_for` gives up on a future. -/
def cancelFuture (future : Nat) : LocalControl :=
  { control with futures := control.futures.modify future fun state => match state with
    | .pending => .cancelled
    | done => done }

end LocalControl

/-! ## Injections -/

/-- What `write_register` waits with: the frame it wrote and the number of its future. -/
structure SentWrite where
  device : Bytes
  raw : Bytes
  future : Nat
  deriving DecidableEq, Repr

namespace LocalControl

variable (control : LocalControl)

/-- `write_register` with a positive timeout, up to its first `await`.  Nothing is sent where the
inverter's writer is closing. -/
def writeRegister (writable : Bool) (address value : Nat) :
    LocalControl × Except PyError (Option SentWrite) :=
  let (numbered, device) := control.nextDevice deviceByteWrite
  match buildModbusWriteSingle device address value with
  | .error raised => (numbered, .error raised)
  | .ok raw =>
    -- the future waits before the frame is written, so that no answer can come too early
    let key := normalizeDevice device
    let waiting := (numbered.addOutstanding key).awaitWrite key
    if writable then (waiting, .ok (some ⟨device, raw, numbered.futures.length⟩))
    else (waiting.forgetWrite key, .ok none)

/-- `read_holding` up to `_send`: the state, and the frame to send. -/
def readHolding (address count : Nat) : LocalControl × Except PyError Bytes :=
  let (numbered, device) := control.nextDevice deviceByteRead
  match buildModbusReadHolding device address count with
  | .error raised => (numbered, .error raised)
  | .ok raw => (numbered.addOutstanding (normalizeDevice device), .ok raw)

end LocalControl

end FoxessGateway.Server
