import FoxessGateway.Server.Daemon
import FoxessGateway.Server.Inertness
import FoxessGateway.Server.Stages

/-! # The answers to reads

What a frame of the inverter does to the reads that wait, and to the readbacks among them, and the
results it gives: an answer settles the read with its key, and no other frame settles any. -/

namespace FoxessGateway.Server

open ByteOrder Protocol Effectful Action

/-! ## Reads and results -/

/-- The `result` of an `active_power_limit_readback_result`. -/
inductive ReadbackOutcome where
  | judged (verdict : ReadbackVerdict)
  /-- `result="error"` where the read was not sent. -/
  | unsent (raised : PyError)
  deriving DecidableEq, Repr

/-- An `active_power_limit_readback_result`: the requested value, the source and the result. -/
abbrev ReadbackEmission := Nat × RequestSource × ReadbackOutcome

/-- What `handle_frame` emits as the result of a readback. -/
def readbackEmission : SessionEffect → Option ReadbackEmission
  | .emit (.activePowerLimitReadbackResult result) =>
    some (result.requestedValue, result.source, .judged result.verdict)
  | _ => none

/-- The parts of a session that its reads depend on. -/
structure ReadsView where
  pendingReads : Dict Bytes (Nat × Nat)
  readbacks : Dict Bytes (Nat × RequestSource)
  hasControl : Bool

/-- The read and the readback that wait under the key. -/
def ReadsView.waiting (view : ReadsView) (key : Bytes) :
    Option (Nat × Nat) × Option (Nat × RequestSource) :=
  (view.pendingReads.get key, view.readbacks.get key)

def Session.reads (session : Session) : ReadsView where
  pendingReads := session.pendingReads
  readbacks := session.pendingActivePowerLimitReadbacks
  hasControl := session.localControl.isSome

/-! ## What a frame does to the reads -/

/-- The reads, and the serial. -/
def Session.readsBy (session : Session) : ReadsView × Option Text := (session.reads, session.serial)

/-- The action leaves the reads alone and emits no result. -/
abbrev Unread {α : Type} (action : InSession α) : Prop :=
  Leaves Session.readsBy (readbackEmission · = none) action

theorem confirmInjectedWrite_unread (frame : Frame) : Unread (confirmInjectedWrite frame) := by
  refine confirmInjectedWrite_leaves frame fun session control confirmed known => ?_
  simp only [Session.readsBy, Session.reads, known, Option.isSome_some]

theorem confirmCloudWrite_unread (config : SessionConfig) (frame : Frame) :
    Unread (confirmCloudWrite config frame) :=
  confirmCloudWrite_leaves config frame (fun _ _ => rfl) fun _ _ => rfl

theorem maybeSettleInverterControl_unread : Unread maybeSettleInverterControl :=
  maybeSettleInverterControl_leaves (fun _ _ => rfl) rfl

theorem noteProductInfo_unread (frame : Frame) : Unread (noteProductInfo frame) :=
  noteProductInfo_leaves (fun _ _ => rfl) (by rfl) frame (fun _ _ _ => rfl) (fun _ _ => rfl)
    (fun _ => rfl) fun _ _ => rfl

theorem noteModuleInfo_unread (frame : Frame) : Unread (noteModuleInfo frame) :=
  noteModuleInfo_leaves frame (fun _ _ => rfl) fun _ _ => rfl

theorem noteMeshRole_unread (frame : Frame) : Unread (noteMeshRole frame) :=
  noteMeshRole_leaves frame (fun _ _ _ => rfl) fun _ _ _ => rfl

theorem answerBootstrap_unread (world : SessionWorld) (frame : Frame) (sendBootstrap : Bool) :
    Unread (answerBootstrap world frame sendBootstrap) :=
  answerBootstrap_leaves world frame sendBootstrap (fun _ _ => rfl) (fun _ => rfl) fun _ _ => rfl

theorem noteTelemetry_unread (world : SessionWorld) (frame : Frame) :
    Unread (noteTelemetry world frame) :=
  noteTelemetry_leaves world frame
    (updateFaultState_leaves world _ (fun _ _ _ _ => rfl) (fun _ _ => rfl)
      (fun _ _ _ _ _ => rfl) fun _ _ _ => rfl)
    (fun _ _ => rfl) (fun _ _ => rfl) maybeSettleInverterControl_unread

/-- A registration changes the serial, and no read. -/
theorem noteRegistration_reads (world : SessionWorld) (frame : Frame) :
    Leaves Session.reads (readbackEmission · = none) (noteRegistration world frame) :=
  noteRegistration_leaves world frame (fun _ _ _ _ => rfl) (fun _ _ => rfl) (fun _ _ => rfl)
    (fun _ => rfl) (fun _ => rfl) fun _ => rfl

/-! ### Answers -/

theorem parseModbusReadResponse_values {frame : Frame} {response : ModbusReadResponse}
    (parsed : parseModbusReadResponse frame = some response) :
    frame.start = marker7f ∧ frame.payload.length ≥ 5 ∧ response.values ≠ [] := by
  rw [parseModbusReadResponse] at parsed
  split at parsed
  · cases parsed
  · rename_i sized
    obtain ⟨start, long⟩ := not_or.mp sized
    refine ⟨not_not.mp start, by omega, ?_⟩
    split at parsed
    · rename_i slave function byteCount data _
      split at parsed
      · rename_i shape
        obtain ⟨_, positive, even, whole⟩ := shape
        cases parsed
        dsimp only
        -- the byte count is positive and even, so there is a word of data
        have some : 0 < byteCount.toNat := positive
        have half : byteCount.toNat % 2 = 0 := by
          have := congrArg UInt8.toNat even
          simpa using this
        obtain ⟨count, isCount⟩ : ∃ count, byteCount.toNat / 2 = count + 1 :=
          ⟨byteCount.toNat / 2 - 1, by omega⟩
        rw [isCount]
        match data with
        | high :: low :: rest => simp [registerValues]
        | [_] =>
          rw [List.length_singleton] at whole
          omega
        | [] =>
          rw [List.length_nil] at whole
          omega
      · cases parsed
    · cases parsed

theorem parseModbusReadException_short {frame : Frame} {error : ModbusReadException}
    (parsed : parseModbusReadException frame = some error) :
    frame.start = marker7f ∧ frame.payload.length = 3 := by
  rw [parseModbusReadException] at parsed
  split at parsed
  · rename_i start
    split at parsed
    · rename_i payload
      exact ⟨start, by rw [payload]; rfl⟩
    · cases parsed
  · cases parsed

/-- What a frame does to the read with the key `own`, and emits. -/
structure Judges (config : SessionConfig) (own : Bytes) (frame : Frame) (known : Bool)
    (before after : ReadsView) (shown : List ReadbackEmission) : Prop where
  hasControl : after.hasControl = before.hasControl
  /-- A frame of another read leaves the read alone. -/
  others : own ≠ normalizeDevice frame.device → after.waiting own = before.waiting own
  /-- A read that is settled stays settled. -/
  settled : own = normalizeDevice frame.device → before.waiting own = (none, none) →
    after.waiting own = (none, none) ∧ shown = []
  /-- A read that waits goes on waiting, or is settled with one result. -/
  waits : own = normalizeDevice frame.device → ∀ value source,
    before.waiting own = (some (config.activePowerLimitAddress, 1), some (value, source)) →
    before.hasControl = true → (isModbusReadResponse frame = true → known = true) →
    after.waiting own = before.waiting own ∧ shown = [] ∨
      after.waiting own = (none, none) ∧ ∃ verdict, shown = [(value, source, .judged verdict)]

theorem Judges.idle {config : SessionConfig} {own : Bytes} {frame : Frame} {known : Bool}
    (view : ReadsView) : Judges config own frame known view view [] where
  hasControl := rfl
  others _ := rfl
  settled _ gone := ⟨gone, rfl⟩
  waits _ _ _ _ _ _ := .inl ⟨rfl, rfl⟩

section Answers

variable {config : SessionConfig} {frame : Frame} (own : Bytes) (session : Session)

/-- The session without the read and the readback of the key. -/
def Session.forgotten (session : Session) (key : Bytes) : Session :=
  { session with
    pendingReads := session.pendingReads.pop key
    pendingActivePowerLimitReadbacks := session.pendingActivePowerLimitReadbacks.pop key }

theorem forgotten_waiting (key : Bytes) :
    (session.forgotten key).reads.waiting own =
      if own = key then (none, none) else session.reads.waiting own := by
  rw [ReadsView.waiting, Session.reads, Session.forgotten]
  dsimp only
  rw [Dict.get_pop, Dict.get_pop]
  split
  · rfl
  · rfl

theorem forgetRead_eq (key : Bytes) :
    forgetRead key = Action.modify fun session => session.forgotten key := rfl

/-- The result that a response with the value gives, where the read waits for the address. -/
def judgement (session : Session) (config : SessionConfig) (key : Bytes) (actualValue : Nat) :
    List ReadbackEmission :=
  match session.pendingReads.get key, session.localControl, session.knownSerial,
      session.pendingActivePowerLimitReadbacks.get key with
  | some (address, _), some _, some _, some (value, source) =>
    if address = config.activePowerLimitAddress then
      [(value, source,
        .judged (if actualValue = value then .matched actualValue else .mismatch actualValue))]
    else []
  | _, _, _, _ => []

theorem publishReadValue_run (config : SessionConfig) (session before : Session) (key : Bytes)
    (serial : Text) (actualValue : Nat) :
    ((publishReadValue config before key serial actualValue).run session).state = session ∧
      ((publishReadValue config before key serial actualValue).run session).effects.filterMap
        readbackEmission =
          match before.pendingActivePowerLimitReadbacks.get key with
          | some (value, source) => [(value, source,
            .judged (if actualValue = value then .matched actualValue else .mismatch actualValue))]
          | none => [] := by
  rw [publishReadValue, mqtt, run_perform_bind]
  cases before.pendingActivePowerLimitReadbacks.get key with
  | none => exact ⟨rfl, rfl⟩
  | some readback => exact ⟨rfl, rfl⟩

theorem noteReadResponse_run (config : SessionConfig) (session : Session)
    {response : ModbusReadResponse} {actualValue : Nat} {rest : List Nat}
    (parsed : parseModbusReadResponse frame = some response)
    (values : response.values = actualValue :: rest) :
    ((noteReadResponse config frame).run session).state =
        session.forgotten (normalizeDevice frame.device) ∧
      ((noteReadResponse config frame).run session).effects.filterMap readbackEmission =
        judgement session config (normalizeDevice frame.device) actualValue := by
  rw [noteReadResponse, parsed]
  dsimp only
  rw [run_get_bind, forgetRead_eq, run_modify_bind, emit, run_perform_bind, values, judgement]
  dsimp only
  generalize normalizeDevice frame.device = key
  cases session.pendingReads.get key with
  | none => exact ⟨rfl, rfl⟩
  | some pending =>
    obtain ⟨address, count⟩ := pending
    cases session.localControl with
    | none => exact ⟨rfl, rfl⟩
    | some control =>
      cases session.knownSerial with
      | none => exact ⟨rfl, rfl⟩
      | some serial =>
        dsimp only
        rw [doWhen]
        obtain ⟨kept, emitted⟩ := publishReadValue_run config (session.forgotten key) session key
          serial actualValue
        by_cases same : address = config.activePowerLimitAddress
        · rw [if_pos same]
          refine ⟨kept, emitted.trans ?_⟩
          cases session.pendingActivePowerLimitReadbacks.get key with
          | none => rfl
          | some readback => exact (if_pos same).symm
        · rw [if_neg same]
          refine ⟨rfl, ?_⟩
          cases session.pendingActivePowerLimitReadbacks.get key with
          | none => rfl
          | some readback => exact (if_neg same).symm

theorem noteReadException_run (config : SessionConfig) (session : Session)
    {error : ModbusReadException}
    (parsed : parseModbusReadException frame = some error) :
    ((noteReadException config frame).run session).state =
        session.forgotten (normalizeDevice frame.device) ∧
      ((noteReadException config frame).run session).effects.filterMap readbackEmission =
        match session.pendingActivePowerLimitReadbacks.get (normalizeDevice frame.device) with
        | some (value, source) => [(value, source, .judged (.modbusException error.exceptionCode))]
        | none => [] := by
  rw [noteReadException, parsed]
  dsimp only
  rw [run_get_bind, forgetRead_eq, run_modify_bind, emit, run_perform_bind]
  dsimp only
  cases session.pendingActivePowerLimitReadbacks.get (normalizeDevice frame.device) with
  | none => exact ⟨rfl, rfl⟩
  | some readback => exact ⟨rfl, rfl⟩

/-- A read that waits is settled by an answer with its key, and one that is settled is not. -/
theorem Judges.of_forgotten {shown : List ReadbackEmission} {after : Session}
    (forgot : after = session.forgotten (normalizeDevice frame.device))
    (silent : session.pendingActivePowerLimitReadbacks.get (normalizeDevice frame.device) = none →
      shown = [])
    (emits : ∀ value source,
      session.reads.waiting (normalizeDevice frame.device) =
        (some (config.activePowerLimitAddress, 1), some (value, source)) →
      session.localControl.isSome = true →
      (isModbusReadResponse frame = true → session.knownSerial.isSome = true) →
      ∃ verdict, shown = [(value, source, .judged verdict)]) :
    Judges config own frame session.knownSerial.isSome session.reads after.reads shown := by
  have popped := forgotten_waiting own session (normalizeDevice frame.device)
  rw [← forgot] at popped
  constructor
  case hasControl =>
    rw [forgot]
    rfl
  case others =>
    intro differs
    rw [popped, if_neg differs]
  case settled =>
    intro same gone
    rw [popped, if_pos same]
    rw [same] at gone
    exact ⟨rfl, silent (congrArg Prod.snd gone)⟩
  case waits =>
    intro same value source waits hasControl known
    right
    rw [popped, if_pos same]
    rw [same] at waits
    exact ⟨rfl, emits value source waits hasControl known⟩

theorem noteReadResponse_judges {response : ModbusReadResponse}
    (parsed : parseModbusReadResponse frame = some response) :
    Judges config own frame session.knownSerial.isSome session.reads
      ((noteReadResponse config frame).run session).state.reads
      (((noteReadResponse config frame).run session).effects.filterMap readbackEmission) := by
  have answers : isModbusReadResponse frame = true := by
    rw [isModbusReadResponse, parsed]
    rfl
  -- a response has a value
  obtain ⟨actualValue, rest, values⟩ :=
    List.exists_cons_of_ne_nil (parseModbusReadResponse_values parsed).2.2
  obtain ⟨forgot, emitted⟩ := noteReadResponse_run config session parsed values
  rw [emitted]
  apply Judges.of_forgotten own session forgot
  · intro gone
    rw [judgement, gone]
    split
    · rename_i isNone
      cases isNone
    · rfl
  · intro value source waits hasControl known
    obtain ⟨control, isControl⟩ := Option.isSome_iff_exists.mp hasControl
    obtain ⟨serial, isSerial⟩ := Option.isSome_iff_exists.mp (known answers)
    have pending : session.pendingReads.get (normalizeDevice frame.device) =
      some (config.activePowerLimitAddress, 1) := congrArg Prod.fst waits
    have readback : session.pendingActivePowerLimitReadbacks.get (normalizeDevice frame.device) =
      some (value, source) := congrArg Prod.snd waits
    rw [judgement, pending, isControl, isSerial, readback]
    exact ⟨_, if_pos rfl⟩

theorem noteReadException_judges {error : ModbusReadException}
    (parsed : parseModbusReadException frame = some error) :
    Judges config own frame session.knownSerial.isSome session.reads
      ((noteReadException config frame).run session).state.reads
      (((noteReadException config frame).run session).effects.filterMap readbackEmission) := by
  obtain ⟨forgot, emitted⟩ := noteReadException_run config session parsed
  rw [emitted]
  apply Judges.of_forgotten own session forgot
  · intro gone
    rw [gone]
  · intro value source waits hasControl known
    have readback : session.pendingActivePowerLimitReadbacks.get (normalizeDevice frame.device) =
      some (value, source) := congrArg Prod.snd waits
    rw [readback]
    exact ⟨_, rfl⟩

/-- A response is too long for an exception. -/
theorem noteReadException_of_response {response : ModbusReadResponse} (config : SessionConfig)
    (parsed : parseModbusReadResponse frame = some response) :
    noteReadException config frame = pure () := by
  cases exception : parseModbusReadException frame with
  | none => rw [noteReadException, exception]
  | some error =>
    have long := (parseModbusReadResponse_values parsed).2.1
    have short := (parseModbusReadException_short exception).2
    omega

/-- What comes last in `handle_frame`. -/
theorem noteReads_judges (config : SessionConfig) (frame : Frame) (session : Session) :
    let outcome : Outcome Session SessionEffect PyError Unit :=
      (do
        noteReadResponse config frame
        noteReadException config frame : InSession Unit).run session
    Judges config own frame session.knownSerial.isSome session.reads outcome.state.reads
      (outcome.effects.filterMap readbackEmission) := by
  dsimp only
  cases response : parseModbusReadResponse frame with
  | some parsed =>
    rw [noteReadException_of_response config response, run_bind_pure]
    exact noteReadResponse_judges own session response
  | none =>
    have noResponse : noteReadResponse config frame = pure () := by
      rw [noteReadResponse, response]
    rw [noResponse]
    cases exception : parseModbusReadException frame with
    | some error => exact noteReadException_judges own session exception
    | none =>
      have noException : noteReadException config frame = pure () := by
        rw [noteReadException, exception]
      rw [noException]
      exact .idle _

end Answers

/-! ### Frames -/

/-- A registration is no answer to a read. -/
theorem noAnswer_of_isRegistration {frame : Frame} (registers : isRegistration frame = true) :
    parseModbusReadResponse frame = none ∧ parseModbusReadException frame = none := by
  rw [isRegistration, decide_eq_true_eq] at registers
  have other : frame.start ≠ marker7f := by
    rw [registers.1]
    decide
  constructor
  · rw [parseModbusReadResponse, if_pos (.inl other)]
  · rw [parseModbusReadException, if_neg other]

theorem noteClientFunc_unread (frame : Frame) : Unread (noteClientFunc frame) :=
  noteClientFunc_leaves frame fun _ _ => rfl

/-- A registration leaves the reads alone. -/
theorem handleValidFrame_registers (config : SessionConfig) (world : SessionWorld) {frame : Frame}
    (sendBootstrap : Bool) (registers : isRegistration frame = true) :
    Leaves Session.reads (readbackEmission · = none)
      (handleValidFrame config world frame sendBootstrap) := by
  obtain ⟨noResponse, noException⟩ := noAnswer_of_isRegistration registers
  have coarse : ∀ {action : InSession Unit}, Unread action →
      Leaves Session.reads (readbackEmission · = none) action :=
    fun unread => unread.coarsen Prod.fst
  rw [handleValidFrame]
  refine Leaves.bind (coarse (confirmInjectedWrite_unread frame)) fun _ => ?_
  refine Leaves.bind (coarse (confirmCloudWrite_unread config frame)) fun _ => ?_
  refine Leaves.bind (noteRegistration_reads world frame) fun _ => ?_
  refine Leaves.bind (coarse (noteProductInfo_unread frame)) fun _ => ?_
  refine Leaves.bind (coarse (noteModuleInfo_unread frame)) fun _ => ?_
  refine Leaves.bind (coarse (noteMeshRole_unread frame)) fun _ => ?_
  refine Leaves.bind (coarse (answerBootstrap_unread world frame sendBootstrap)) fun _ => ?_
  refine Leaves.bind (coarse (noteTelemetry_unread world frame)) fun _ => ?_
  rw [noteReadResponse, noResponse, noteReadException, noException]
  exact Leaves.bind Leaves.pure fun _ => Leaves.pure

/-- What a frame may do to the reads of a session with the serial. -/
def MayJudge (config : SessionConfig) (own : Bytes) (frame : Frame)
    (before after : ReadsView × Option Text) (shown : List ReadbackEmission) : Prop :=
  Judges config own frame (before.2.filter (· ≠ [])).isSome before.1 after.1 shown

theorem handleValidFrame_judges (config : SessionConfig) (own : Bytes) (world : SessionWorld)
    (frame : Frame) (sendBootstrap : Bool) (session : Session) :
    let outcome := (handleValidFrame config world frame sendBootstrap).run session
    Judges config own frame session.knownSerial.isSome session.reads outcome.state.reads
      (outcome.effects.filterMap readbackEmission) := by
  dsimp only
  cases registers : isRegistration frame with
  | true =>
    -- the serial may change, but the frame answers no read
    have leaves := handleValidFrame_registers config world sendBootstrap registers
    rw [leaves.keeps session, filterMap_unseen (leaves.shows session)]
    exact .idle _
  | false =>
    -- the serial stays, so the answer is judged with the one the frame found
    have idle : ∀ part, MayJudge config own frame part part [] := fun _ => .idle _
    have sameSerial : Unread (noteRegistration world frame) := by
      rw [noteRegistration, registers]
      exact noteClientFunc_unread frame
    have does : Does Session.readsBy readbackEmission (MayJudge config own frame)
        (handleValidFrame config world frame sendBootstrap) := by
      rw [handleValidFrame]
      refine (confirmInjectedWrite_unread frame).thenDoes idle fun _ => ?_
      refine (confirmCloudWrite_unread config frame).thenDoes idle fun _ => ?_
      refine sameSerial.thenDoes idle fun _ => ?_
      refine (noteProductInfo_unread frame).thenDoes idle fun _ => ?_
      refine (noteModuleInfo_unread frame).thenDoes idle fun _ => ?_
      refine (noteMeshRole_unread frame).thenDoes idle fun _ => ?_
      refine (answerBootstrap_unread world frame sendBootstrap).thenDoes idle fun _ => ?_
      refine (noteTelemetry_unread world frame).thenDoes idle fun _ => ?_
      exact fun session => noteReads_judges own config frame session
    exact does session

theorem clientFrame_judges (config : SessionConfig) (own : Bytes) (world : SessionWorld)
    (frame : Frame) (sendBootstrap : Bool) (session : Session) :
    let outcome := (clientFrame config world frame sendBootstrap).run session
    Judges config own frame session.knownSerial.isSome session.reads outcome.state.reads
      (outcome.effects.filterMap readbackEmission) := by
  have hook := handleFirmwareUploadFrame_run frame session
  rw [clientFrame, run_bind_ok (by rw [hook]), hook, Session.handleFrame, run_get_bind, emit,
    run_perform_bind]
  dsimp only
  split
  · exact .idle _
  · exact handleValidFrame_judges config own world frame sendBootstrap (session.hooked frame)

end FoxessGateway.Server
