import FoxessGateway.Protocol.Classify
import FoxessGateway.Protocol.RoundTrip

/-! # The bootstrap handshake

`BootstrapResponder` of `protocol.py`: at most one answer for each of three steps. -/

namespace FoxessGateway.Protocol

open ByteOrder

/-- `(tail - 0x71) & 0xFFFFFF`, where Python's mask of a negative number wraps around. -/
def derivedTail (tail : Nat) : Nat := (tail + (0x1000000 - 0x71)) % 0x1000000

def bootstrapResponseDevice (requestDevice : Bytes) (firstByte : UInt8) : Except PyError Bytes := do
  let tail ← toBytes (derivedTail (fromBig (slice requestDevice 1 4))) 3
  return firstByte :: tail

def bootstrapResponse (request : Frame) (firstByte funcOffset : UInt8) (payload : Bytes) :
    Except PyError Bytes := do
  let device ← bootstrapResponseDevice request.device firstByte
  makeFrame marker7e device (request.func + funcOffset) payload endE7

/-- `derive_device_tail` of `ble_provision.py` -/
def deriveDeviceTail (registration : Frame) : Except PyError Bytes := do
  let device ← bootstrapResponseDevice registration.device 0
  return device.drop 1

structure BootstrapResponder where
  step : Nat
  deriving DecidableEq, Repr

/-- The answer to a frame at a step of the handshake: function offset and payload. -/
def bootstrapAnswer (step : Nat) (frame : Frame) : Option (UInt8 × Bytes) :=
  if step = 0 ∧ isRegistration frame then some (0x82, [0x01, 0x01, 0x01, 0x00, 0x00])
  else if step = 1 ∧ frame.start = marker7e ∧ frame.raw.length = 17 then some (0x80, [])
  else if step = 2 ∧ frame.start = marker7e ∧ frame.raw.length = 14 then some (0x81, [0x01])
  else none

def bootstrapReply (frame : Frame) (funcOffset : UInt8) (payload : Bytes) :
    Except PyError (Option Bytes) := do
  let first ← item frame.device 0
  let response ← bootstrapResponse frame (first ||| 0x80) funcOffset payload
  return some response

/-- `response_for`: the next state, and the bytes to answer with. -/
def BootstrapResponder.responseFor (responder : BootstrapResponder) (frame : Frame) :
    BootstrapResponder × Except PyError (Option Bytes) :=
  match bootstrapAnswer responder.step frame with
  | none => (responder, .ok none)
  | some (funcOffset, payload) =>
    -- the step is taken before the answer is built
    (⟨responder.step + 1⟩, bootstrapReply frame funcOffset payload)

theorem derivedTail_lt (tail : Nat) : derivedTail tail < 256 ^ 3 := Nat.mod_lt _ (by decide)

/-- The frame `bootstrapResponse` builds. -/
theorem bootstrapResponse_eq (request : Frame) (firstByte funcOffset : UInt8) {payload : Bytes}
    (fits : payload.length < 256 ^ 2) :
    bootstrapResponse request firstByte funcOffset payload =
      .ok (builtFrame marker7e
        (firstByte :: toBig 3 (derivedTail (fromBig (slice request.device 1 4))))
        (request.func + funcOffset) payload endE7).raw := by
  rw [bootstrapResponse, bootstrapResponseDevice]
  rw [toBytes_eq_ok (derivedTail_lt _)]
  exact makeFrame_eq _ _ _ _ fits

/-- An answer is short, and takes the handshake one step further. -/
theorem bootstrapAnswer_length {step : Nat} {frame : Frame} {funcOffset : UInt8} {payload : Bytes}
    (answered : bootstrapAnswer step frame = some (funcOffset, payload)) :
    payload.length ≤ 5 ∧ step < 3 := by
  rw [bootstrapAnswer] at answered
  split at answered
  · rename_i first
    cases answered
    exact ⟨by decide, by omega⟩
  split at answered
  · rename_i second
    cases answered
    exact ⟨by decide, by omega⟩
  split at answered
  · rename_i third
    cases answered
    exact ⟨by decide, by omega⟩
  · cases answered

theorem bootstrapReply_eq {frame : Frame} (device : frame.device.length = 4) (funcOffset : UInt8)
    {payload : Bytes} (fits : payload.length < 256 ^ 2) :
    ∃ response, bootstrapReply frame funcOffset payload = .ok (some response) := by
  have bound : 0 < frame.device.length := by omega
  have built := bootstrapResponse_eq frame (frame.device[0] ||| 0x80) funcOffset fits
  rw [bootstrapReply]
  rw [item_eq_ok bound, ok_bind, built, ok_bind]
  exact ⟨_, rfl⟩

/-- The handshake answers every frame that has a device field without raising. -/
theorem responseFor_returns (responder : BootstrapResponder) {frame : Frame}
    (device : frame.device.length = 4) :
    ∃ response, (responder.responseFor frame).2 = .ok response := by
  rw [BootstrapResponder.responseFor]
  cases answered : bootstrapAnswer responder.step frame with
  | none => exact ⟨none, rfl⟩
  | some answer =>
    have short := (bootstrapAnswer_length answered).1
    obtain ⟨response, replied⟩ := bootstrapReply_eq device answer.1
      (show answer.2.length < 256 ^ 2 by omega)
    exact ⟨some response, replied⟩

end FoxessGateway.Protocol
