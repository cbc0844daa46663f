import FoxessGateway.IntLiteral
import FoxessGateway.Library.Json.Value
import FoxessGateway.Library.Utf8
import FoxessGateway.Mqtt.Messages

/-! # Command messages

`_on_message` and `_dispatch`: from the topic and the payload of a message to the session whose
handler takes it and the percentage it is for. -/

namespace FoxessGateway.Mqtt

open JsonText

/-- Why a message reaches no handler. -/
inductive CommandRefusal where
  | decodeError
  | unhandled
  | invalid (payload : Text) (reason : String)
  deriving DecidableEq, Repr

/-- The event and the fields that are logged for it. -/
def CommandRefusal.record (topic : Text) : CommandRefusal → String × List (Text × Json)
  | .decodeError => ("mqtt_command_decode_error", [("topic".toList, .text topic)])
  | .unhandled => ("mqtt_command_unhandled", [("topic".toList, .text topic)])
  | .invalid payload reason => ("mqtt_command_invalid", [("topic".toList, .text topic),
      ("payload".toList, .text payload), ("reason".toList, .text reason.toList)])

/-- `_dispatch`, up to its call of the handler. -/
def dispatch (payload : Text) : Except CommandRefusal Nat :=
  match intLiteral (strip payload) with
  | none => .error (.invalid payload "not_int")
  | some value =>
    if 0 ≤ value ∧ value ≤ 100 then .ok value.toNat
    else .error (.invalid payload "out_of_range")

/-- `_on_message`, up to the call of the handler. -/
def onMessage {α : Type} (handlers : Dict Text α) (topic : Text) (payload : Bytes) :
    Except CommandRefusal (α × Nat) :=
  match Utf8.decodeStrict payload with
  | none => .error .decodeError
  | some text =>
    match handlers.get topic with
    | none => .error .unhandled
    | some handler => (dispatch text).map (handler, ·)

/-- The percentage a payload is for, where it is for one. -/
def askedPercent (payload : Bytes) : Option Nat :=
  (Utf8.decodeStrict payload).bind fun text => (dispatch text).toOption

theorem dispatch_ok {payload : Text} {percent : Nat} : dispatch payload = .ok percent ↔
    intLiteral (strip payload) = some (percent : Int) ∧ percent ≤ 100 := by
  rw [dispatch]
  cases intLiteral (strip payload) with
  | none => exact iff_of_false nofun fun ⟨wrong, _⟩ => nomatch wrong
  | some value =>
    dsimp only
    by_cases inRange : 0 ≤ value ∧ value ≤ 100
    · rw [if_pos inRange, Except.ok.injEq, Option.some.injEq]
      omega
    · rw [if_neg inRange, Option.some.injEq]
      refine iff_of_false nofun fun ⟨isValue, small⟩ => inRange ?_
      omega

theorem onMessage_ok {α : Type} {handlers : Dict Text α} {topic : Text} {payload : Bytes}
    {handler : α} {percent : Nat} : onMessage handlers topic payload = .ok (handler, percent) ↔
      handlers.get topic = some handler ∧ askedPercent payload = some percent := by
  rw [onMessage, askedPercent]
  cases Utf8.decodeStrict payload with
  | none => exact iff_of_false nofun fun ⟨_, wrong⟩ => nomatch wrong
  | some text =>
    dsimp only [Option.bind_some]
    cases handlers.get topic with
    | none => exact iff_of_false nofun fun ⟨wrong, _⟩ => nomatch wrong
    | some other =>
      cases dispatch text with
      | error refusal => exact iff_of_false nofun fun ⟨_, wrong⟩ => nomatch wrong
      | ok value => simp [Except.map, Except.toOption]

end FoxessGateway.Mqtt
