import FoxessGateway.Server.Daemon
import FoxessGateway.Server.Excision
import FoxessGateway.Server.SetpointInvariant

/-! # Calls of write_register

Any number of `write_register` and `read_holding` calls on one session, with the frames of its
inverter and the timers of `asyncio.wait_for`, as a machine.  The inverter's writer is usable and
every timeout is positive.  What a timer does to a call that has its answer, and has not gone on,
is not the same in every version of `asyncio`. -/

namespace FoxessGateway.Server

open ByteOrder Protocol Effectful Action Runs

/-! ## Calls -/

/-- What `asyncio.wait_for` does when its timer fires. -/
inductive WaitFor where
  /-- Up to Python 3.11 the coroutine is woken, and takes the result of a future that is done. -/
  | wakes
  /-- From Python 3.12 on the coroutine is cancelled, even when its future is done. -/
  | cancels
  deriving DecidableEq, Repr

/-- Where a `write_register` stands. -/
inductive CallPhase where
  /-- `await writer.drain()` -/
  | draining
  /-- `await asyncio.wait_for(future, timeout)` -/
  | waiting
  /-- The timer has woken the coroutine. -/
  | woken
  /-- The wait is given up. -/
  | expired
  | ended
  deriving DecidableEq, Repr

/-- No more than so many steps of its own are left to a call. -/
def CallPhase.stepsLeft : CallPhase → Nat
  | .draining => 4
  | .waiting => 3
  | .woken => 2
  | .expired => 1
  | .ended => 0

/-- A `write_register` that has registered its future.  `issued` counts the session's requests
with it. -/
structure WriteCall where
  device : Bytes
  future : Nat
  issued : Nat
  phase : CallPhase
  deriving DecidableEq, Repr

namespace WriteCall

def key (call : WriteCall) : Bytes := normalizeDevice call.device

def IsOver (call : WriteCall) : Prop := call.phase = .ended

end WriteCall

structure CallState where
  session : Session
  calls : List WriteCall
  issued : Nat

inductive CallEvent where
  /-- A `write_register` registers its future under the key of the device field. -/
  | awaiting (call : Nat) (device : Bytes)
  /-- A `read_holding` is written with the device field. -/
  | asked (device : Bytes)
  /-- A call whose frame cannot be built. -/
  | raised (raised : PyError)
  | handled (frame : Frame)
  /-- The wait of a call is given up: its future is cancelled, or its coroutine is. -/
  | expired (call : Nat)
  | returned (call : Nat) (result : WriteResult)
  deriving DecidableEq, Repr

inductive CallAction where
  | writeRegister (address value : Nat)
  | readHolding (address count : Nat) (expected : Option (Nat × RequestSource))
  /-- `await writer.drain()` returns in a `write_register`. -/
  | drained (call : Nat)
  | frame (world : SessionWorld) (frame : Frame) (sendBootstrap : Bool)
  /-- The coroutine of a call goes on. -/
  | resume (call : Nat)
  /-- The timer of a call fires. -/
  | expire (call : Nat)

namespace CallState

variable (state : CallState)

def withControl (control : LocalControl) : CallState :=
  { state with session := { state.session with localControl := some control } }

def setPhase (call : Nat) (phase : CallPhase) : CallState :=
  { state with calls := state.calls.modify call fun waiting => { waiting with phase := phase } }

/-- `write_register` up to its first `await`. -/
def writeRegister (control : LocalControl) (address value : Nat) : CallState × List CallEvent :=
  let (after, written) := control.writeRegister true address value
  let numbered := { state.withControl after with issued := state.issued + 1 }
  match written with
  | .error raised => (numbered, [.raised raised])
  | .ok none => (numbered, [])
  | .ok (some sent) =>
    ({ numbered with
        calls := state.calls ++ [⟨sent.device, sent.future, state.issued + 1, .draining⟩] },
      [.awaiting state.calls.length sent.device])

/-- `read_holding` up to its first `await`. -/
def readHolding (control : LocalControl) (address count : Nat)
    (expected : Option (Nat × RequestSource)) : CallState × List CallEvent :=
  let device := (control.nextDevice deviceByteRead).2
  let (after, read) := control.readHolding address count
  let numbered := { state.withControl after with issued := state.issued + 1 }
  match read with
  | .error raised => (numbered, [.raised raised])
  | .ok _ =>
    let asked := numbered.session.registerPendingRead (normalizeDevice device) address
      count expected
    ({ numbered with session := asked }, [.asked device])

/-- A call returns: its `finally` block. -/
def finish (control : LocalControl) (place : Nat) (call : WriteCall) (result : WriteResult) :
    CallState × List CallEvent :=
  ((state.withControl (control.forgetWrite call.key)).setPhase place .ended,
    [.returned place result])

/-- A call gives up waiting for its future. -/
def giveUp (control : LocalControl) (place : Nat) (call : WriteCall) :
    CallState × List CallEvent :=
  ((state.withControl (control.cancelFuture call.future)).setPhase place .expired,
    [.expired place])

/-- `await writer.drain()` returns. -/
def drained (waitFor : WaitFor) (control : LocalControl) (place : Nat) (call : WriteCall) :
    Option (CallState × List CallEvent) :=
  match call.phase with
  | .draining =>
    match waitFor, control.futures[call.future]? with
    -- `await` of a future that is done does not suspend the coroutine
    | .cancels, some (.result confirmed) =>
      some (state.finish control place call (if confirmed then .confirmed else .rejected))
    | _, _ => some (state.setPhase place .waiting, [])
  | _ => none

/-- The coroutine of a call goes on: its future is done, its timer has woken it, or its wait is
given up. -/
def resume (control : LocalControl) (place : Nat) (call : WriteCall) :
    Option (CallState × List CallEvent) :=
  match call.phase, control.futures[call.future]? with
  | .waiting, some (.result confirmed) | .woken, some (.result confirmed) =>
    some (state.finish control place call (if confirmed then .confirmed else .rejected))
  | .woken, some .pending => some (state.giveUp control place call)
  | .expired, _ => some (state.finish control place call .timeout)
  | _, _ => none

/-- The timer of a call fires. -/
def expire (waitFor : WaitFor) (control : LocalControl) (place : Nat) (call : WriteCall) :
    Option (CallState × List CallEvent) :=
  match call.phase with
  | .waiting =>
    match waitFor with
    | .wakes => some (state.setPhase place .woken, [])
    | .cancels => some (state.giveUp control place call)
  | _ => none

end CallState

/-- The calls on a session with local control. -/
def callMachine (waitFor : WaitFor) (config : SessionConfig) :
    Machine CallState CallAction CallEvent := fun state action =>
  match state.session.localControl with
  | none => none
  | some control =>
    match action with
    | .writeRegister address value => some (state.writeRegister control address value)
    | .readHolding address count expected =>
      some (state.readHolding control address count expected)
    | .frame world frame sendBootstrap =>
      let outcome := (clientFrame config world frame sendBootstrap).run state.session
      some ({ state with session := outcome.state }, [.handled frame])
    | .drained place =>
      state.calls[place]?.bind fun call => state.drained waitFor control place call
    | .resume place => state.calls[place]?.bind fun call => state.resume control place call
    | .expire place =>
      state.calls[place]?.bind fun call => state.expire waitFor control place call

/-- No sooner than a call has returned are 65536 requests issued after it. -/
def Uncrowded (state : CallState) : CallAction → Prop
  | .writeRegister _ _ | .readHolding _ _ _ =>
    ∀ call ∈ state.calls, ¬ call.IsOver → state.issued + 1 - call.issued < 65536
  | _ => True

/-! ## What a call does -/

/-- What the coroutine of a call that has not returned, or its timer, does. -/
inductive CallMoves (waitFor : WaitFor) (state : CallState) (control : LocalControl) (place : Nat)
    (call : WriteCall) : CallState × List CallEvent → Prop
  | waits (within : call.phase ≠ .expired) {phase : CallPhase}
      (goesOn : phase = .waiting ∨ phase = .woken)
      (nearer : phase.stepsLeft < call.phase.stepsLeft) :
      CallMoves waitFor state control place call (state.setPhase place phase, [])
  | returns (within : call.phase ≠ .expired) {confirmed : Bool}
      (settled : control.futures[call.future]? = some (.result confirmed)) :
      CallMoves waitFor state control place call
        (state.finish control place call (if confirmed then .confirmed else .rejected))
  | givesUp (within : call.phase ≠ .expired)
      (unanswered : waitFor = .wakes → control.futures[call.future]? = some .pending) :
      CallMoves waitFor state control place call (state.giveUp control place call)
  | timesOut (expired : call.phase = .expired) :
      CallMoves waitFor state control place call (state.finish control place call .timeout)

namespace CallMoves

variable {waitFor : WaitFor} {state : CallState} {control : LocalControl} {place : Nat}
  {call : WriteCall} {moved : CallState × List CallEvent}

theorem of_drained (stepped : state.drained waitFor control place call = some moved) :
    ¬ call.IsOver ∧ CallMoves waitFor state control place call moved := by
  unfold CallState.drained at stepped
  split at stepped
  · rename_i draining
    have within : call.phase ≠ .expired := fun same => nomatch draining.symm.trans same
    refine ⟨fun same => (nomatch draining.symm.trans same), ?_⟩
    split at stepped
    · rename_i settled
      cases stepped
      exact .returns within settled
    · cases stepped
      exact .waits within (.inl rfl) (by rw [draining]; decide)
  · cases stepped

theorem of_resume (stepped : state.resume control place call = some moved) :
    ¬ call.IsOver ∧ CallMoves waitFor state control place call moved := by
  unfold CallState.resume at stepped
  split at stepped
  · rename_i waiting settled
    cases stepped
    exact ⟨fun same => (nomatch waiting.symm.trans same),
      .returns (fun same => nomatch waiting.symm.trans same) settled⟩
  · rename_i woken settled
    cases stepped
    exact ⟨fun same => (nomatch woken.symm.trans same),
      .returns (fun same => nomatch woken.symm.trans same) settled⟩
  · rename_i woken isPending
    cases stepped
    exact ⟨fun same => (nomatch woken.symm.trans same),
      .givesUp (fun same => nomatch woken.symm.trans same) fun _ => isPending⟩
  · rename_i expired
    cases stepped
    exact ⟨fun same => (nomatch expired.symm.trans same), .timesOut expired⟩
  · cases stepped

theorem of_expire (stepped : state.expire waitFor control place call = some moved) :
    ¬ call.IsOver ∧ CallMoves waitFor state control place call moved := by
  unfold CallState.expire at stepped
  split at stepped
  · rename_i waiting
    have within : call.phase ≠ .expired := fun same => nomatch waiting.symm.trans same
    refine ⟨fun same => (nomatch waiting.symm.trans same), ?_⟩
    cases waitFor with
    | wakes =>
      cases stepped
      exact .waits within (.inr rfl) (by rw [waiting]; decide)
    | cancels =>
      cases stepped
      exact .givesUp within nofun
  · cases stepped

/-- A call that goes on has returned, or has fewer steps left. -/
theorem nearer {next : CallState} {shown : List CallEvent}
    (moves : CallMoves waitFor state control place call (next, shown))
    (isCall : state.calls[place]? = some call) (waiting : ¬ call.IsOver) :
    (∃ result, .returned place result ∈ shown) ∨
      ∃ later, next.calls[place]? = some later ∧ ¬ later.IsOver ∧
        later.phase.stepsLeft < call.phase.stepsLeft := by
  have moved : ∀ phase, (state.calls.modify place fun waiting =>
      { waiting with phase := phase })[place]? = some { call with phase := phase } := by
    intro phase
    rw [List.getElem?_modify_eq, isCall]
    rfl
  cases moves with
  | waits within goesOn nearer =>
    refine .inr ⟨_, moved _, fun isOver => ?_, nearer⟩
    rcases goesOn with rfl | rfl <;> cases isOver
  | returns within settled => exact .inl ⟨_, List.mem_singleton_self _⟩
  | givesUp within unanswered =>
    have fewer : CallPhase.expired.stepsLeft < call.phase.stepsLeft := by
      rw [WriteCall.IsOver] at waiting
      generalize call.phase = phase at within waiting ⊢
      revert within waiting
      cases phase <;> decide
    exact .inr ⟨_, moved _, nofun, fewer⟩
  | timesOut expired => exact .inl ⟨_, List.mem_singleton_self _⟩

end CallMoves

/-- What a step does: a request is made, a frame is handled, or a call goes on. -/
theorem callMachine_cases {waitFor : WaitFor} {config : SessionConfig} {state next : CallState}
    {control : LocalControl} {action : CallAction} {shown : List CallEvent}
    (isControl : state.session.localControl = some control)
    (stepped : callMachine waitFor config state action = some (next, shown)) :
    (∃ address value, action = .writeRegister address value ∧
      state.writeRegister control address value = (next, shown)) ∨
    (∃ address count expected, action = .readHolding address count expected ∧
      state.readHolding control address count expected = (next, shown)) ∨
    (∃ world frame sendBootstrap,
      next = { state with
        session := ((clientFrame config world frame sendBootstrap).run state.session).state } ∧
      shown = [.handled frame]) ∨
    ∃ place call, state.calls[place]? = some call ∧ ¬ call.IsOver ∧
      CallMoves waitFor state control place call (next, shown) := by
  rw [callMachine, isControl] at stepped
  dsimp only at stepped
  cases action with
  | writeRegister address value =>
    exact .inl ⟨address, value, rfl, Option.some.inj stepped⟩
  | readHolding address count expected =>
    exact .inr (.inl ⟨address, count, expected, rfl, Option.some.inj stepped⟩)
  | frame world frame sendBootstrap =>
    cases stepped
    exact .inr (.inr (.inl ⟨world, frame, sendBootstrap, rfl, rfl⟩))
  | drained place =>
    obtain ⟨call, isCall, moved⟩ := Option.bind_eq_some_iff.mp stepped
    exact .inr (.inr (.inr ⟨place, call, isCall, CallMoves.of_drained moved⟩))
  | resume place =>
    obtain ⟨call, isCall, moved⟩ := Option.bind_eq_some_iff.mp stepped
    exact .inr (.inr (.inr ⟨place, call, isCall, CallMoves.of_resume moved⟩))
  | expire place =>
    obtain ⟨call, isCall, moved⟩ := Option.bind_eq_some_iff.mp stepped
    exact .inr (.inr (.inr ⟨place, call, isCall, CallMoves.of_expire moved⟩))

/-! ## Answers -/

/-- Whether the event is a frame with the key, and what it says of a write. -/
def answers (key : Bytes) : CallEvent → Option Bool
  | .handled frame =>
    if frame.validCrc = true ∧ frame.start = marker7f ∧ normalizeDevice frame.device = key then
      some (isModbusWriteSuccessResponse frame)
    else none
  | _ => none

/-- What the first frame with the key says. -/
def firstAnswer (key : Bytes) (events : List CallEvent) : Option Bool :=
  events.findSome? (answers key)

/-- The result of a call, from the first answer it got. -/
def outcomeOf : Option Bool → WriteResult
  | some true => .confirmed
  | some false => .rejected
  | none => .timeout

/-- What came before the wait of the call was given up. -/
def untilExpired (place : Nat) (events : List CallEvent) : List CallEvent :=
  events.takeWhile (· ≠ .expired place)

/-- The result of a call, from what came since it registered its future. -/
def callResult (waitFor : WaitFor) (place : Nat) (key : Bytes) (since : List CallEvent) :
    WriteResult :=
  if waitFor = .cancels ∧ .expired place ∈ since then .timeout
  else outcomeOf (firstAnswer key (untilExpired place since))

/-- The future of a call that waits. -/
def futureOf : Option Bool → Future Bool
  | some confirmed => .result confirmed
  | none => .pending

theorem outcomeOf_result {answer : Option Bool} {confirmed : Bool}
    (settled : .result confirmed = futureOf answer) :
    (if confirmed then .confirmed else .rejected) = outcomeOf answer := by
  cases answer with
  | none => cases settled
  | some first =>
    cases settled
    cases confirmed <;> rfl

theorem futureOf_settle (answer : Option Bool) (confirmed : Bool) :
    (futureOf answer).settle confirmed = futureOf (answer.or (some confirmed)) := by
  cases answer <;> rfl

theorem futureOf_pending {answer : Option Bool} (isPending : .pending = futureOf answer) :
    answer = none := by
  cases answer with
  | none => rfl
  | some first => cases isPending

theorem firstAnswer_append (key : Bytes) (events later : List CallEvent) :
    firstAnswer key (events ++ later) = (firstAnswer key events).or (firstAnswer key later) :=
  List.findSome?_append

theorem firstAnswer_singleton (key : Bytes) (event : CallEvent) :
    firstAnswer key [event] = answers key event := by
  cases found : answers key event <;> simp [firstAnswer, found]

theorem untilExpired_eq {place : Nat} {events : List CallEvent}
    (within : .expired place ∉ events) : untilExpired place events = events := by
  rw [untilExpired, List.takeWhile_eq_self_iff]
  intro event member
  rw [decide_eq_true_iff]
  rintro rfl
  exact within member

theorem untilExpired_append {place : Nat} {events : List CallEvent}
    (expired : .expired place ∈ events) (later : List CallEvent) :
    untilExpired place (events ++ later) = untilExpired place events := by
  unfold untilExpired
  rw [List.takeWhile_append, if_neg]
  intro whole
  have all := List.takeWhile_eq_self_iff.mp
    ((List.takeWhile_prefix (· ≠ .expired place)).eq_of_length whole) _ expired
  simp at all

theorem untilExpired_concat {place : Nat} {events : List CallEvent}
    (within : .expired place ∉ events) :
    untilExpired place (events ++ [.expired place]) = events := by
  have whole : events.takeWhile (· ≠ .expired place) = events := untilExpired_eq within
  rw [untilExpired, List.takeWhile_append, whole, if_pos rfl]
  simp

theorem callResult_of_unexpired {waitFor : WaitFor} {place : Nat} {key : Bytes}
    {since : List CallEvent} (within : .expired place ∉ since) :
    callResult waitFor place key since = outcomeOf (firstAnswer key since) := by
  rw [callResult, if_neg fun cancelled => within cancelled.2, untilExpired_eq within]

/-- Nothing shown begins the call, answers it or gives it up. -/
structure Silent (place : Nat) (key : Bytes) (shown : List CallEvent) : Prop where
  begins : ∀ device, .awaiting place device ∉ shown
  answers : firstAnswer key shown = none
  expires : .expired place ∉ shown

/-- The call has begun to wait with the device field, and `since` is what came then. -/
structure Started (history : List CallEvent) (place : Nat) (device : Bytes)
    (since : List CallEvent) : Prop where
  split : ∃ early, history = early ++ .awaiting place device :: since ∧
    ∀ other, .awaiting place other ∉ early
  once : ∀ other, .awaiting place other ∉ since

theorem Started.append {history since shown : List CallEvent} {place : Nat} {device : Bytes}
    (started : Started history place device since)
    (others : ∀ again, .awaiting place again ∉ shown) :
    Started (history ++ shown) place device (since ++ shown) where
  split := by
    obtain ⟨early, rfl, first⟩ := started.split
    exact ⟨early, by simp, first⟩
  once again member := (List.mem_append.mp member).elim (started.once again) (others again)

theorem Started.eq_of_cons {rest since : List CallEvent} {place : Nat} {device other : Bytes}
    (started : Started (.awaiting place device :: rest) place other since) :
    other = device ∧ since = rest := by
  obtain ⟨early, split, first⟩ := started.split
  cases early with
  | nil =>
    cases split
    exact ⟨rfl, rfl⟩
  | cons event early =>
    cases split
    exact absurd List.mem_cons_self (first device)

/-! ## What a frame does to local control -/

/-- `handle_frame` with a response to an injected request. -/
def LocalControl.noteFrame (control : LocalControl) (frame : Frame) : LocalControl :=
  if frame.validCrc = true ∧ control.isOurFrame frame = true then
    control.resolveResponse frame.device (isModbusWriteSuccessResponse frame)
  else control

def LocalControl.settleFuture (control : LocalControl) (future : Nat) (confirmed : Bool) :
    LocalControl :=
  { control with futures := control.futures.modify future (Future.settle confirmed) }

theorem laterStages_keeps (config : SessionConfig) (world : SessionWorld) (frame : Frame)
    (sendBootstrap : Bool) :
    Keeps Session.localControl (do
      confirmCloudWrite config frame
      noteRegistration world frame
      noteProductInfo frame
      noteModuleInfo frame
      noteMeshRole frame
      answerBootstrap world frame sendBootstrap
      noteTelemetry world frame
      noteReadResponse config frame
      noteReadException config frame) := by
  have coarse : ∀ {action : InSession Unit}, Aside action → Keeps Session.localControl action :=
    fun aside => (aside.coarsen Prod.fst).keeps
  refine Keeps.bind (coarse (confirmCloudWrite_aside config frame)) fun _ => ?_
  refine Keeps.bind (coarse (noteRegistration_aside world frame)) fun _ => ?_
  refine Keeps.bind (coarse (noteProductInfo_aside frame)) fun _ => ?_
  refine Keeps.bind (coarse (noteModuleInfo_aside frame)) fun _ => ?_
  refine Keeps.bind (coarse (noteMeshRole_aside frame)) fun _ => ?_
  refine Keeps.bind (answerBootstrap_keeps (fun _ _ => rfl) world frame sendBootstrap) fun _ => ?_
  refine Keeps.bind (coarse (noteTelemetry_aside world frame)) fun _ => ?_
  refine Keeps.bind (coarse (noteReadResponse_aside config frame)) fun _ => ?_
  exact coarse (noteReadException_aside config frame)

/-- A frame of the inverter does nothing to local control but settle the future of its key. -/
theorem clientFrame_localControl (config : SessionConfig) (world : SessionWorld) (frame : Frame)
    (sendBootstrap : Bool) (session : Session) :
    ((clientFrame config world frame sendBootstrap).run session).state.localControl =
      session.localControl.map (·.noteFrame frame) := by
  have hook := handleFirmwareUploadFrame_run frame session
  have sameControl : (session.hooked frame).localControl = session.localControl := rfl
  rw [clientFrame, run_bind_ok (by rw [hook]), hook, ← sameControl]
  dsimp only
  generalize session.hooked frame = hooked
  rw [Session.handleFrame, run_get_bind, emit, run_perform_bind]
  dsimp only
  cases valid : frame.validCrc with
  | false =>
    rw [if_pos rfl]
    have same : (·.noteFrame frame : LocalControl → LocalControl) = id := by
      funext control
      rw [LocalControl.noteFrame, if_neg (by simp [valid]), id]
    rw [same, Option.map_id]
    rfl
  | true =>
    rw [if_neg (by simp), handleValidFrame, confirmInjectedWrite, run_modify_bind]
    apply (laterStages_keeps config world frame sendBootstrap _).trans
    cases known : hooked.localControl with
    | none => exact known
    | some control =>
      dsimp only
      rw [Option.map_some, LocalControl.noteFrame]
      cases ours : control.isOurFrame frame with
      | true => simp [valid]
      | false => simp [known]

end FoxessGateway.Server
