import FoxessGateway.Library.Runs
import FoxessGateway.Server.Daemon
import FoxessGateway.Server.Reachable
import FoxessGateway.Server.Relay

/-! # The handshake of a local session

`run_local` shows every frame of the inverter to the `BootstrapResponder`.  Over a whole session it
answers three frames at most, each the first of its kind after the one before. -/

namespace FoxessGateway.Server

open ByteOrder Protocol Effectful Action Runs

/-! ## Requests and responses -/

/-- The frames that the handshake waits for at a step. -/
def IsRequest : Nat → Frame → Prop
  | 0, frame => frame.validCrc = true ∧ isRegistration frame = true
  | 1, frame => frame.validCrc = true ∧ frame.start = marker7e ∧ frame.raw.length = 17
  | 2, frame => frame.validCrc = true ∧ frame.start = marker7e ∧ frame.raw.length = 14
  | _, _ => False

/-- The response goes to the device of the request with bit 7 of its first byte set, and with the
tail that the provisioning computes from it. -/
structure Responds (request : Frame) (funcOffset : UInt8) (payload : Bytes) (response : Frame) :
    Prop where
  start : response.start = marker7e
  validCrc : response.validCrc = true
  func : response.func = request.func + funcOffset
  payload : response.payload = payload
  device : ∃ first requestTail tail, request.device = first :: requestTail ∧
    response.device = (first ||| 0x80) :: tail ∧
    (fromBig tail : Int) = ((fromBig requestTail : Int) - 0x71) % 0x1000000 ∧
    deriveDeviceTail request = .ok tail

/-- The bytes are one frame, and it is the response to the request of that step. -/
def IsResponse (step : Nat) (request : Frame) (raw : Bytes) : Prop :=
  ∃ funcOffset payload response, bootstrapAnswer step request = some (funcOffset, payload) ∧
    extractFrames raw = ([response], []) ∧ Responds request funcOffset payload response

theorem bootstrapAnswer_of_isRequest {step : Nat} {frame : Frame}
    (request : IsRequest step frame) : (bootstrapAnswer step frame).isSome = true := by
  match step, request with
  | 0, ⟨_, registers⟩ => simp [bootstrapAnswer, registers]
  | 1, ⟨_, start, long⟩ => simp [bootstrapAnswer, start, long]
  | 2, ⟨_, start, long⟩ => simp [bootstrapAnswer, start, long]

theorem isRequest_of_bootstrapAnswer {step : Nat} {frame : Frame} {answer : UInt8 × Bytes}
    (valid : frame.validCrc = true) (answered : bootstrapAnswer step frame = some answer) :
    IsRequest step frame := by
  rw [bootstrapAnswer] at answered
  split at answered
  · rename_i first
    obtain ⟨rfl, registers⟩ := first
    exact ⟨valid, registers⟩
  split at answered
  · rename_i second
    obtain ⟨rfl, start, long⟩ := second
    exact ⟨valid, start, long⟩
  split at answered
  · rename_i third
    obtain ⟨rfl, start, long⟩ := third
    exact ⟨valid, start, long⟩
  · cases answered

theorem IsRequest.valid {step : Nat} {frame : Frame} (request : IsRequest step frame) :
    frame.validCrc = true := by
  match step, request with
  | 0, request | 1, request | 2, request => exact request.1

theorem IsRequest.step_lt {step : Nat} {frame : Frame} (request : IsRequest step frame) :
    step < 3 := by
  match step, request with
  | 0, _ | 1, _ | 2, _ => decide

/-- Python's mask of the negative number is the remainder. -/
theorem derivedTail_eq (tail : Nat) :
    (derivedTail tail : Int) = ((tail : Int) - 0x71) % 0x1000000 := by
  rw [derivedTail]
  omega

theorem bootstrapReply_isResponse {step : Nat} {frame : Frame} {funcOffset : UInt8}
    {payload raw : Bytes} (device : frame.device.length = 4)
    (answered : bootstrapAnswer step frame = some (funcOffset, payload))
    (replied : bootstrapReply frame funcOffset payload = .ok (some raw)) :
    IsResponse step frame raw := by
  obtain ⟨first, requestTail, isDevice⟩ := List.exists_cons_of_length_pos
    (show 0 < frame.device.length by omega)
  have tailWidth : requestTail.length = 3 := by
    rw [isDevice, List.length_cons] at device
    omega
  have sliced : slice frame.device 1 4 = requestTail := by
    rw [isDevice, slice, List.take_of_length_le (by simp [tailWidth]), List.drop_one,
      List.tail_cons]
  have short := (bootstrapAnswer_length answered).1
  let tail := toBig 3 (derivedTail (fromBig requestTail))
  let response :=
    builtFrame marker7e ((first ||| 0x80) :: tail) (frame.func + funcOffset) payload endE7
  have built : bootstrapResponse frame (first ||| 0x80) funcOffset payload = .ok response.raw := by
    rw [bootstrapResponse_eq frame _ _ (show payload.length < 256 ^ 2 by omega), sliced]
  have reply : bootstrapReply frame funcOffset payload = .ok (some response.raw) := by
    rw [bootstrapReply, isDevice, show item (first :: requestTail) 0 = .ok first from rfl, ok_bind,
      built]
    rfl
  obtain rfl : response.raw = raw := by simpa using reply.symm.trans replied
  have derived : deriveDeviceTail frame = .ok tail := by
    rw [deriveDeviceTail, bootstrapResponseDevice, sliced, toBytes_eq_ok (derivedTail_lt _)]
    rfl
  have subtracted : (fromBig tail : Int) = ((fromBig requestTail : Int) - 0x71) % 0x1000000 := by
    rw [fromBig_toBig (derivedTail_lt _), derivedTail_eq]
  have wellFormed : response.WellFormed :=
    builtFrame_wellFormed (.inl ⟨rfl, rfl⟩) (by simp [tail]) (by omega)
  exact ⟨funcOffset, payload, response, answered, wellFormed.extractFrames_raw, rfl, rfl, rfl, rfl,
    first, requestTail, tail, isDevice, rfl, subtracted, derived⟩

/-! ## One frame -/

def SessionEffect.bytesWritten : SessionEffect → Option Bytes
  | .write raw => some raw
  | _ => none

/-- The responder moves on, and what it returns is written. -/
def Answers (frame : Frame) (before after : BootstrapResponder) (written : List Bytes) : Prop :=
  ∃ response, before.responseFor frame = (after, .ok response) ∧ written = response.toList

/-- The answer is written before its drain can fail. -/
theorem writeAndDrain_answers (world : SessionWorld) (raw : Bytes) (event : SessionEvent)
    (session : Session) :
    ((do writeAndDrain world raw; emit event : InSession Unit).run session).state = session ∧
      ((do writeAndDrain world raw; emit event : InSession Unit).run session).effects.filterMap
        SessionEffect.bytesWritten = [raw] := by
  rw [writeAndDrain]
  cases world.drainFails with
  | none => exact ⟨rfl, rfl⟩
  | some message => exact ⟨rfl, rfl⟩

theorem answerBootstrap_answers (world : SessionWorld) {frame : Frame}
    (device : frame.device.length = 4) :
    Does Session.bootstrap SessionEffect.bytesWritten (Answers frame)
      (answerBootstrap world frame true) := by
  intro session
  obtain ⟨response, replied⟩ := responseFor_returns session.bootstrap device
  rw [answerBootstrap, doWhen, if_pos rfl, run_get_bind]
  dsimp only
  rw [run_modify_bind, replied, run_attempt_ok_bind]
  cases response with
  | none => exact ⟨none, Prod.ext rfl replied, rfl⟩
  | some raw =>
    obtain ⟨kept, written⟩ := writeAndDrain_answers world raw
      (.bootstrapAck session.serialText raw)
      { session with bootstrap := (session.bootstrap.responseFor frame).1 }
    refine ⟨some raw, Prod.ext ?_ replied, written⟩
    exact (congrArg Session.bootstrap kept).symm

/-- The action neither touches the responder nor writes. -/
abbrev Unheard {α : Type} (action : InSession α) : Prop :=
  Leaves Session.bootstrap (SessionEffect.bytesWritten · = none) action

theorem noteProductInfo_unheard (frame : Frame) : Unheard (noteProductInfo frame) :=
  noteProductInfo_leaves (fun _ _ => rfl) (by rfl) frame (fun _ _ _ => rfl) (fun _ _ => rfl)
    (fun _ => rfl) fun _ _ => rfl

theorem noteTelemetry_unheard (world : SessionWorld) (frame : Frame) :
    Unheard (noteTelemetry world frame) :=
  noteTelemetry_leaves world frame
    (updateFaultState_leaves world _ (fun _ _ _ _ => rfl) (fun _ _ => rfl)
      (fun _ _ _ _ _ => rfl) fun _ _ _ => rfl)
    (fun _ _ => rfl) (fun _ _ => rfl) (maybeSettleInverterControl_leaves (fun _ _ => rfl) rfl)

theorem noteReads_unheard (config : SessionConfig) (frame : Frame) :
    Unheard (do noteReadResponse config frame; noteReadException config frame) :=
  Leaves.bind (noteReadResponse_leaves (fun _ _ _ => rfl) (fun _ => rfl) config frame
      (fun _ _ => rfl) fun _ _ _ _ => rfl) fun _ =>
    noteReadException_leaves (fun _ _ _ => rfl) (fun _ => rfl) config frame fun _ _ _ _ => rfl

/-- Of a valid frame only the answer counts: what comes before it returns, and what comes after it
writes nothing. -/
theorem handleValidFrame_answers (config : SessionConfig) (world : SessionWorld) {frame : Frame}
    (device : frame.device.length = 4) (short : frame.payload.length ≤ 4300) :
    DoesWithin Bounded Session.bootstrap SessionEffect.bytesWritten (Answers frame)
      (handleValidFrame config world frame true) := by
  refine Leaves.thenDoesWithin (confirmInjectedWrite_leaves frame fun _ _ _ _ => rfl)
    (confirmInjectedWrite_survives frame) fun _ => ?_
  refine Leaves.thenDoesWithin (confirmCloudWrite_leaves config frame (fun _ _ => rfl)
    fun _ _ => rfl) (confirmCloudWrite_survives config frame) fun _ => ?_
  refine Leaves.thenDoesWithin (noteRegistration_leaves world frame (fun _ _ _ _ => rfl)
    (fun _ _ => rfl) (fun _ _ => rfl) (fun _ => rfl) (fun _ => rfl) fun _ => rfl)
    (noteRegistration_survives world frame) fun _ => ?_
  refine Leaves.thenDoesWithin (noteProductInfo_unheard frame) (noteProductInfo_survives short)
    fun _ => ?_
  refine Leaves.thenDoesWithin (noteModuleInfo_leaves frame (fun _ _ => rfl) fun _ _ => rfl)
    (noteModuleInfo_survives frame) fun _ => ?_
  refine Leaves.thenDoesWithin (noteMeshRole_leaves frame (fun _ _ _ => rfl) fun _ _ _ => rfl)
    (noteMeshRole_survives frame) fun _ => ?_
  have answers := (answerBootstrap_answers world device).thenLeaves fun _ =>
    Leaves.bind (noteTelemetry_unheard world frame) fun _ => noteReads_unheard config frame
  exact fun session _ => answers session

theorem handleFrame_answers (config : SessionConfig) (world : SessionWorld) {frame : Frame}
    (wellFormed : frame.WellFormed) (valid : frame.validCrc = true) :
    DoesWithin Bounded Session.bootstrap SessionEffect.bytesWritten (Answers frame)
      (Session.handleFrame config world frame true) := by
  obtain ⟨device, short⟩ := wellFormed_sizes wellFormed
  intro session bounded
  rw [Session.handleFrame, run_get_bind, emit, run_perform_bind, if_neg (by simp [valid])]
  exact handleValidFrame_answers config world device short session bounded

/-- A step of the handshake that is not taken. -/
theorem responseFor_of_other {responder : BootstrapResponder} {frame : Frame}
    (valid : frame.validCrc = true) (other : ¬ IsRequest responder.step frame) :
    responder.responseFor frame = (responder, .ok none) := by
  rw [BootstrapResponder.responseFor]
  cases answered : bootstrapAnswer responder.step frame with
  | none => rfl
  | some answer => exact absurd (isRequest_of_bootstrapAnswer valid answered) other

/-- A step that is taken. -/
theorem responseFor_of_request {responder after : BootstrapResponder} {frame : Frame}
    {response : Option Bytes} (device : frame.device.length = 4)
    (request : IsRequest responder.step frame)
    (responds : responder.responseFor frame = (after, .ok response)) :
    after.step = responder.step + 1 ∧
      ∃ raw, response = some raw ∧ IsResponse responder.step frame raw := by
  obtain ⟨⟨funcOffset, payload⟩, answered⟩ :=
    Option.isSome_iff_exists.mp (bootstrapAnswer_of_isRequest request)
  rw [BootstrapResponder.responseFor, answered] at responds
  obtain ⟨rfl, replied⟩ := Prod.mk.inj responds
  have short := (bootstrapAnswer_length answered).1
  obtain ⟨raw, reply⟩ := bootstrapReply_eq device funcOffset
    (show payload.length < 256 ^ 2 by omega)
  obtain rfl : some raw = response := Except.ok.inj (reply.symm.trans replied)
  exact ⟨rfl, raw, rfl, bootstrapReply_isResponse device answered reply⟩

/-! ## Whole sessions -/

/-- What the other tasks of a session do: none of them touches the responder, or the firmware
text. -/
structure BesidesHandshake where
  change : Session → Session
  bootstrap_kept : ∀ session, (change session).bootstrap = session.bootstrap
  firmware_kept : ∀ session, (change session).firmware = session.firmware

inductive HandshakeAction where
  | frame (world : SessionWorld) (wire : WireFrame)
  | besides (activity : BesidesHandshake)

/-- A frame handled: how far the handshake was before and after it, and what was written. -/
structure HandshakeRecord where
  frame : Frame
  before : Nat
  after : Nat
  written : List Bytes
  deriving DecidableEq, Repr

/-- A session whose drain fails ends there, and may go on here as well. -/
def handshakeMachine (config : SessionConfig) :
    Machine Session HandshakeAction HandshakeRecord :=
  fun session action =>
  match action with
  | .frame world wire =>
    let outcome := (localFrame config world wire.frame).run session
    some (outcome.state, [⟨wire.frame, session.bootstrap.step, outcome.state.bootstrap.step,
      outcome.effects.filterMap SessionEffect.bytesWritten⟩])
  | .besides activity => some (activity.change session, [])

/-- The frame is not the one the handshake waits for, and nothing happens. -/
structure HandshakeRecord.Ignored (step : Nat) (record : HandshakeRecord) : Prop where
  other : ¬ IsRequest step record.frame
  before : record.before = step
  after : record.after = step
  silent : record.written = []

/-- The frame is the one the handshake waits for, and one response is written. -/
structure HandshakeRecord.Answered (step : Nat) (record : HandshakeRecord) : Prop where
  request : IsRequest step record.frame
  before : record.before = step
  after : record.after = step + 1
  response : ∃ raw, record.written = [raw] ∧ IsResponse step record.frame raw

/-- The rest of a handshake from a step on: the first frame of the kind it waits for is answered,
and those before it are ignored. -/
inductive Handshake : Nat → List HandshakeRecord → Prop
  | waits {step : Nat} {records : List HandshakeRecord}
      (ignored : ∀ record ∈ records, record.Ignored step) : Handshake step records
  | answers {step : Nat} {earlier later : List HandshakeRecord} {record : HandshakeRecord}
      (ignored : ∀ record ∈ earlier, record.Ignored step) (answered : record.Answered step)
      (goesOn : Handshake (step + 1) later) : Handshake step (earlier ++ record :: later)

theorem Handshake.ignore {step : Nat} {record : HandshakeRecord} {records : List HandshakeRecord}
    (ignored : record.Ignored step) (handshake : Handshake step records) :
    Handshake step (record :: records) := by
  cases handshake with
  | waits others => exact .waits (List.forall_mem_cons.mpr ⟨ignored, others⟩)
  | answers others answered goesOn =>
    rw [← List.cons_append]
    exact .answers (List.forall_mem_cons.mpr ⟨ignored, others⟩) answered goesOn

theorem filter_ignored {step : Nat} {records : List HandshakeRecord}
    (ignored : ∀ record ∈ records, record.Ignored step) :
    records.filter (·.written ≠ []) = [] := by
  apply List.filter_eq_nil_iff.mpr
  intro record member
  simp [(ignored record member).silent]

/-- The handshake has three steps. -/
theorem Handshake.answered_le {step : Nat} {records : List HandshakeRecord}
    (handshake : Handshake step records) :
    (records.filter (·.written ≠ [])).length ≤ 3 - step := by
  induction handshake with
  | waits ignored =>
    rw [filter_ignored ignored]
    exact Nat.zero_le _
  | answers ignored answered _ inductionHypothesis =>
    have early := answered.request.step_lt
    obtain ⟨raw, written, _⟩ := answered.response
    rw [List.filter_append, filter_ignored ignored, List.nil_append,
      List.filter_cons_of_pos (by simp [written]), List.length_cons]
    omega

/-- One frame of the inverter: it is ignored and the handshake stays where it is, or it is answered
and the handshake goes on. -/
theorem localFrame_handshake (config : SessionConfig) (world : SessionWorld) (wire : WireFrame)
    {session next : Session} {shown : List HandshakeRecord} (bounded : Bounded session)
    (stepped : handshakeMachine config session (.frame world wire) = some (next, shown)) :
    ∃ record, shown = [record] ∧
      (record.Ignored session.bootstrap.step ∧ next.bootstrap.step = session.bootstrap.step ∨
        record.Answered session.bootstrap.step ∧
          next.bootstrap.step = session.bootstrap.step + 1) := by
  -- the upload hook comes first, and leaves the responder alone
  have hook := handleFirmwareUploadFrame_run wire.frame session
  have ran : (localFrame config world wire.frame).run session =
      (Session.handleFrame config world wire.frame true).run (session.hooked wire.frame) := by
    rw [localFrame, run_bind_ok (by rw [hook]), hook, List.nil_append]
  rw [handshakeMachine, ran] at stepped
  cases stepped
  refine ⟨_, rfl, ?_⟩
  cases valid : wire.frame.validCrc with
  | false =>
    -- a corrupt frame does not come to the responder
    rw [handleFrame_corrupt config world true valid]
    refine .inl ⟨⟨fun request => ?_, rfl, rfl, rfl⟩, rfl⟩
    rw [request.valid] at valid
    cases valid
  | true =>
    obtain ⟨response, responds, written⟩ := handleFrame_answers config world wire.wellFormed valid
      (session.hooked wire.frame) bounded
    generalize (Session.handleFrame config world wire.frame true).run
      (session.hooked wire.frame) = outcome at responds written ⊢
    have same : (session.hooked wire.frame).bootstrap = session.bootstrap := rfl
    rw [same] at responds
    by_cases request : IsRequest session.bootstrap.step wire.frame
    · have device := (wellFormed_sizes wire.wellFormed).1
      obtain ⟨advanced, raw, rfl, isResponse⟩ := responseFor_of_request device request responds
      exact .inr ⟨⟨request, rfl, advanced, raw, written, isResponse⟩, advanced⟩
    · rw [responseFor_of_other valid request] at responds
      obtain ⟨stays, silent⟩ := Prod.mk.inj responds
      cases silent
      have step := congrArg BootstrapResponder.step stays.symm
      exact .inl ⟨⟨request, rfl, step, written⟩, step⟩

theorem handshakeMachine_bounded {config : SessionConfig} {session next : Session}
    {action : HandshakeAction} {shown : List HandshakeRecord} (bounded : Bounded session)
    (stepped : handshakeMachine config session action = some (next, shown)) : Bounded next := by
  cases action with
  | frame world wire =>
    cases stepped
    have hook := handleFirmwareUploadFrame_run wire.frame session
    rw [localFrame, run_bind_ok (by rw [hook]), hook]
    exact handleFrame_maintains config world true (wellFormed_sizes wire.wellFormed).2
      (session.hooked wire.frame) bounded
  | besides activity =>
    cases stepped
    rw [Bounded, activity.firmware_kept]
    exact bounded

/-- A whole run goes through the handshake. -/
theorem handshakeMachine_run {config : SessionConfig} {session final : Session}
    {actions : List HandshakeAction} {trace : List HandshakeRecord} (bounded : Bounded session)
    (ran : run (handshakeMachine config) session actions = some (final, trace)) :
    Handshake session.bootstrap.step trace := by
  -- on the actions; the step that the handshake waits for is the responder's own
  induction actions generalizing session trace with
  | nil =>
    cases ran
    exact .waits nofun
  | cons action actions inductionHypothesis =>
    obtain ⟨next, shown, later, stepped, continued, rfl⟩ := run_cons_eq_some.mp ran
    have goesOn := inductionHypothesis (handshakeMachine_bounded bounded stepped) continued
    cases action with
    | frame world wire =>
      obtain ⟨record, rfl, ⟨ignored, stays⟩ | ⟨answered, advanced⟩⟩ :=
        localFrame_handshake config world wire bounded stepped
      · rw [stays] at goesOn
        exact goesOn.ignore ignored
      · rw [advanced] at goesOn
        have none : ∀ other ∈ ([] : List HandshakeRecord),
            other.Ignored session.bootstrap.step := nofun
        exact .answers none answered goesOn
    | besides activity =>
      cases stepped
      rwa [activity.bootstrap_kept] at goesOn

/-- **The bootstrap handshake.**  In a local session the first valid registration is answered, then
the first valid 7e frame of 17 bytes after it, and then the first of 14 bytes after that.  Every
other frame is ignored. -/
theorem bootstrap_handshake {config : SessionConfig} {actions : List HandshakeAction}
    {final : Session} {trace : List HandshakeRecord}
    (ran : run (handshakeMachine config) (.fresh config) actions = some (final, trace)) :
    Handshake 0 trace ∧ (trace.filter (·.written ≠ [])).length ≤ 3 := by
  have handshake : Handshake 0 trace := handshakeMachine_run (Nat.zero_le _) ran
  exact ⟨handshake, handshake.answered_le⟩

/-- A frame of the inverter's family with a short payload. -/
def moduleFrame (payload : Bytes) (short : payload.length ≤ 28) : WireFrame where
  frame := builtFrame marker7e [0x06, 0x00, 0x00, 0x70] 0x01 payload endE7
  wellFormed := builtFrame_wellFormed (.inl ⟨rfl, rfl⟩) rfl (by omega)

/-- Every request comes twice, and the second one also too early. -/
def handshakeFrames : List WireFrame :=
  let registration := moduleFrame ([0x01, 0x00, 0x01, 0x31] ++ List.replicate 24 0x00) (by decide)
  let second := moduleFrame [0x00, 0x00, 0x00, 0x00] (by decide)
  let third := moduleFrame [0x00] (by decide)
  [second, registration, registration, second, second, third, third]

theorem bootstrap_handshake_repeated :
    ∃ trace, trace.map HandshakeRecord.after = [0, 1, 1, 2, 2, 3, 3] ∧
      Handshake 0 trace ∧ (trace.filter (·.written ≠ [])).length ≤ 3 := by
  have check : (run (handshakeMachine .everything) (.fresh .everything)
      (handshakeFrames.map (.frame ⟨0, 0, none⟩))).map
        (fun reached => reached.2.map HandshakeRecord.after) =
      some [0, 1, 1, 2, 2, 3, 3] := by decide +kernel
  obtain ⟨⟨final, trace⟩, ran, steps⟩ := Option.map_eq_some_iff.mp check
  exact ⟨trace, steps, bootstrap_handshake ran⟩

end FoxessGateway.Server
