import FoxessGateway.Library.Exchanges
import FoxessGateway.Library.Runs
import FoxessGateway.Server.Excision
import FoxessGateway.Server.Injection
import FoxessGateway.Server.ReadAnswers
import FoxessGateway.Server.Registry

/-! # The requests of the cloud

`handle_upstream_frame` notes the reads and the writes that the cloud sends to the inverter, and
`handle_frame` joins the answers to them.  The session's own requests go through the same tables,
under keys of their own. -/

namespace FoxessGateway.Server

open Protocol Effectful Action Runs Exchanges

/-! ## Tables and marks -/

/-- What a session joins answers to requests with. -/
structure JoinView where
  pendingReads : Dict Bytes (Nat × Nat)
  pendingWrites : Dict Bytes (Nat × Nat)
  outstanding : Option (Finset Bytes)

def Session.joins (session : Session) : JoinView where
  pendingReads := session.pendingReads
  pendingWrites := session.pendingWrites
  outstanding := session.outstanding

/-- The tables, and the serial. -/
def Session.joinsBy (session : Session) : JoinView × Option Text := (session.joins, session.serial)

/-- What a frame shows of its request. -/
inductive JoinMark where
  /-- The address and the count in a `command_response` or a `command_error`, if it has them. -/
  | annotated (pending : Option (Nat × Nat))
  /-- `publish_active_power_limit_state` -/
  | published (serial : Text) (value : Nat)
  deriving DecidableEq, Repr

def SessionEffect.joinMark : SessionEffect → Option JoinMark
  | .emit (.commandResponse _ _ _ pending) => some (.annotated pending)
  | .emit (.commandError _ _ _ pending) => some (.annotated pending)
  | .mqtt (.publishActivePowerLimitState serial value) => some (.published serial value)
  | _ => none

def JoinMark.pendingRead : JoinMark → Option (Option (Nat × Nat))
  | annotated pending => some pending
  | published _ _ => none

def JoinMark.state : JoinMark → Option (Text × Nat)
  | annotated _ => none
  | published serial value => some (serial, value)

/-! ## What a frame joins -/

/-- The action joins nothing and leaves the tables and the serial alone. -/
abbrev Unjoined {α : Type} (action : InSession α) : Prop :=
  Leaves Session.joinsBy (SessionEffect.joinMark · = none) action

theorem confirmInjectedWrite_unjoined (frame : Frame) : Unjoined (confirmInjectedWrite frame) := by
  refine confirmInjectedWrite_leaves frame fun session control confirmed known => ?_
  simp only [Session.joinsBy, Session.joins, Session.outstanding, known, Option.map_some,
    LocalControl.resolveResponse_outstanding]

theorem noteClientFunc_unjoined (frame : Frame) : Unjoined (noteClientFunc frame) :=
  noteClientFunc_leaves frame fun _ _ => rfl

theorem noteProductInfo_unjoined (frame : Frame) :
    Leaves Session.joins (fun _ => True) (noteProductInfo frame) :=
  noteProductInfo_leaves (fun _ _ => rfl) True.intro frame (fun _ _ _ => rfl) (fun _ _ => rfl)
    (fun _ => True.intro) fun _ _ => True.intro

theorem noteMeshRole_unjoined (frame : Frame) : Unjoined (noteMeshRole frame) :=
  noteMeshRole_leaves frame (fun _ _ _ => rfl) fun _ _ _ => rfl

theorem noteMeshRole_total (frame : Frame) : Total (noteMeshRole frame) := by
  rw [noteMeshRole]
  split
  · exact Total.pure
  · refine Total.bind Total.get fun _ => Total.doWhen ?_
    exact Total.bind Total.modify fun _ => Total.perform

/-! ### Modbus frames -/

section Modbus

variable {frame : Frame} (config : SessionConfig) (world : SessionWorld)

/-- A Modbus frame is no registration, no product or module information and no telemetry. -/
theorem kinds_of_modbus (start : frame.start = marker7f) :
    isRegistration frame = false ∧ productInfo frame = none ∧ isModuleInfo frame = false ∧
      isTelemetry frame = false := by
  have other : ¬ frame.start = marker7e := by
    rw [start]
    decide
  refine ⟨?_, ?_, ?_, ?_⟩
  · exact decide_eq_false fun registers => other registers.1
  · rw [productInfo, if_neg]
    exact fun informs => other (of_decide_eq_true informs).1
  · exact decide_eq_false fun informs => other informs.1
  · exact decide_eq_false fun telemetry => other telemetry.1

/-- What the handler does with a Modbus frame in a relay: it may answer a write or a read. -/
theorem handleValidFrame_modbus (start : frame.start = marker7f)
    {may : JoinView × Option Text → JoinView × Option Text → List JoinMark → Prop}
    (does : Does Session.joinsBy SessionEffect.joinMark may (do
      confirmCloudWrite config frame
      noteClientFunc frame
      noteMeshRole frame
      noteReadResponse config frame
      noteReadException config frame)) :
    Does Session.joinsBy SessionEffect.joinMark may
      (handleValidFrame config world frame false) := by
  obtain ⟨noRegistration, noInfo, noModule, noTelemetry⟩ := kinds_of_modbus start
  rw [handleValidFrame]
  refine (confirmInjectedWrite_unjoined frame).totalThenDoes Total.modify fun _ => ?_
  rw [noteRegistration, noRegistration, noteProductInfo, noInfo, noteModuleInfo, noModule,
    noteTelemetry, noTelemetry, answerBootstrap]
  exact does

theorem parseModbusCommand_writes {command : ModbusCommand}
    (parsed : parseModbusCommand frame = some command) :
    frame.payload[1]? = some command.function := by
  rw [parseModbusCommand] at parsed
  split at parsed
  · split at parsed
    · rename_i shape
      obtain ⟨body, _, rfl⟩ := Option.map_eq_some_iff.mp parsed
      rw [shape]
      rfl
    · cases parsed
  · cases parsed

/-- A response to a write names its function. -/
theorem writeSuccess_function (succeeds : isModbusWriteSuccessResponse frame = true) :
    frame.start = marker7f ∧ frame.payload[1]? = some modbusFnWriteSingle := by
  rw [isModbusWriteSuccessResponse] at succeeds
  split at succeeds
  · cases succeeds
  · rename_i start
    refine ⟨not_not.mp start, ?_⟩
    split at succeeds
    · rename_i echoes
      obtain ⟨command, parsed, same⟩ := Option.map_eq_some_iff.mp echoes
      rw [parseModbusCommand_writes parsed, same]
    · exact (of_decide_eq_true succeeds).2

theorem readResponse_function {response : ModbusReadResponse}
    (parsed : parseModbusReadResponse frame = some response) :
    frame.payload[1]? = some modbusFnReadHolding ∨ frame.payload[1]? = some modbusFnReadInput := by
  rw [parseModbusReadResponse] at parsed
  split at parsed
  · cases parsed
  · split at parsed
    · rename_i shape
      split at parsed
      · rename_i reads
        rw [shape]
        exact reads.1.imp (congrArg some) (congrArg some)
      · cases parsed
    · cases parsed

theorem readException_function {error : ModbusReadException}
    (parsed : parseModbusReadException frame = some error) :
    frame.payload[1]? = some (modbusFnReadHolding ||| 0x80) ∨
      frame.payload[1]? = some (modbusFnReadInput ||| 0x80) := by
  rw [parseModbusReadException] at parsed
  split at parsed
  · split at parsed
    · rename_i shape
      split at parsed
      · rename_i reads
        rw [shape]
        exact reads.imp (congrArg some) (congrArg some)
      · cases parsed
    · cases parsed
  · cases parsed

/-- A response to a write answers no read. -/
theorem writeSuccess_noRead (succeeds : isModbusWriteSuccessResponse frame = true) :
    parseModbusReadResponse frame = none ∧ parseModbusReadException frame = none := by
  obtain ⟨_, function⟩ := writeSuccess_function succeeds
  constructor
  · cases response : parseModbusReadResponse frame with
    | none => rfl
    | some parsed =>
      have reads := readResponse_function response
      rw [function] at reads
      exact absurd reads (by decide)
  · cases exception : parseModbusReadException frame with
    | none => rfl
    | some error =>
      have reads := readException_function exception
      rw [function] at reads
      exact absurd reads (by decide)

/-! ### Writes -/

/-- What a response to a write with the key publishes. -/
def joinedWrite (before : JoinView × Option Text) (key : Bytes) : List JoinMark :=
  match before.1.pendingWrites.get key, before.2.filter (· ≠ []) with
  | some (address, value), some serial =>
    if address = config.activePowerLimitAddress then [.published serial value] else []
  | _, _ => []

/-- A response to a write takes the write with its key, and no read. -/
def JoinsWrite (key : Bytes) (before after : JoinView × Option Text) (shown : List JoinMark) :
    Prop :=
  after.1 = { before.1 with pendingWrites := before.1.pendingWrites.pop key } ∧
    shown = joinedWrite config before key

theorem confirmCloudWrite_joins (succeeds : isModbusWriteSuccessResponse frame = true) :
    Does Session.joinsBy SessionEffect.joinMark
      (JoinsWrite config (normalizeDevice frame.device)) (confirmCloudWrite config frame) := by
  intro session
  rw [confirmCloudWrite, doWhen, if_pos succeeds, run_get_bind, run_modify_bind, JoinsWrite,
    joinedWrite]
  cases stored : session.pendingWrites.get (normalizeDevice frame.device) with
  | none =>
    rw [show session.joinsBy.1.pendingWrites.get (normalizeDevice frame.device) = none from stored]
    exact ⟨rfl, rfl⟩
  | some request =>
    obtain ⟨address, value⟩ := request
    rw [show session.joinsBy.1.pendingWrites.get (normalizeDevice frame.device) =
      some (address, value) from stored]
    cases isSerial : session.knownSerial with
    | none =>
      rw [show session.joinsBy.2.filter (· ≠ []) = none from isSerial]
      exact ⟨rfl, rfl⟩
    | some serial =>
      rw [show session.joinsBy.2.filter (· ≠ []) = some serial from isSerial]
      dsimp only
      rw [doWhen]
      by_cases same : address = config.activePowerLimitAddress
      · rw [if_pos same, if_pos same]
        exact ⟨rfl, rfl⟩
      · rw [if_neg same, if_neg same]
        exact ⟨rfl, rfl⟩

theorem handleValidFrame_joinsWrite (succeeds : isModbusWriteSuccessResponse frame = true) :
    Does Session.joinsBy SessionEffect.joinMark
      (JoinsWrite config (normalizeDevice frame.device))
      (handleValidFrame config world frame false) := by
  obtain ⟨start, _⟩ := writeSuccess_function succeeds
  obtain ⟨noResponse, noException⟩ := writeSuccess_noRead succeeds
  refine handleValidFrame_modbus config world start ?_
  refine (confirmCloudWrite_joins config succeeds).thenLeaves fun _ => ?_
  refine Leaves.bind (noteClientFunc_unjoined frame) fun _ => ?_
  refine Leaves.bind (noteMeshRole_unjoined frame) fun _ => ?_
  rw [noteReadResponse, noResponse, noteReadException, noException]
  exact Leaves.bind Leaves.pure fun _ => Leaves.pure

/-! ### Reads -/

/-- An answer to a read takes the read with its key, and no write. -/
def JoinsRead (key : Bytes) (before after : JoinView × Option Text) (shown : List JoinMark) :
    Prop :=
  after.1 = { before.1 with pendingReads := before.1.pendingReads.pop key } ∧
    shown.filterMap JoinMark.pendingRead = [before.1.pendingReads.get key]

/-- The effect is no annotated event. -/
abbrev IsPlain (effect : SessionEffect) : Prop := effect.joinMark.bind JoinMark.pendingRead = none

theorem annotations_cons {effect : SessionEffect} {pending : Option (Nat × Nat)}
    {effects : List SessionEffect} (annotated : effect.joinMark = some (.annotated pending))
    (plain : ∀ other ∈ effects, IsPlain other) :
    ((effect :: effects).filterMap SessionEffect.joinMark).filterMap JoinMark.pendingRead =
      [pending] := by
  rw [List.filterMap_filterMap, List.filterMap_cons, annotated, Option.bind_some,
    filterMap_unseen plain]
  rfl

theorem publishReadValue_plain (before : Session) (key : Bytes) (serial : Text)
    (actualValue : Nat) :
    Shows IsPlain (publishReadValue config before key serial actualValue) := by
  refine Shows.bind (Shows.perform rfl) fun _ => ?_
  split
  · exact Shows.perform rfl
  · exact Shows.pure

theorem noteReadResponse_joins {response : ModbusReadResponse}
    (parsed : parseModbusReadResponse frame = some response) :
    Does Session.joinsBy SessionEffect.joinMark (JoinsRead (normalizeDevice frame.device))
      (noteReadResponse config frame) := by
  intro session
  obtain ⟨actualValue, rest, values⟩ :=
    List.exists_cons_of_ne_nil (parseModbusReadResponse_values parsed).2.2
  obtain ⟨forgot, _⟩ := noteReadResponse_run config session parsed values
  rw [forgot]
  refine ⟨rfl, ?_⟩
  rw [noteReadResponse, parsed]
  dsimp only
  rw [run_get_bind, forgetRead_eq, run_modify_bind, emit, run_perform_bind]
  apply annotations_cons rfl
  -- a state may be published after the event
  split
  · rw [doWhen]
    split
    · exact publishReadValue_plain config session _ _ _ _
    · exact (Shows.pure : Shows IsPlain (pure () : InSession Unit)) _
  · exact (Shows.pure : Shows IsPlain (pure () : InSession Unit)) _

theorem noteReadException_joins {error : ModbusReadException}
    (parsed : parseModbusReadException frame = some error) :
    Does Session.joinsBy SessionEffect.joinMark (JoinsRead (normalizeDevice frame.device))
      (noteReadException config frame) := by
  intro session
  obtain ⟨forgot, _⟩ := noteReadException_run config session parsed
  rw [forgot]
  refine ⟨rfl, ?_⟩
  rw [noteReadException, parsed]
  dsimp only
  rw [run_get_bind, forgetRead_eq, run_modify_bind, emit, run_perform_bind]
  apply annotations_cons rfl
  cases session.pendingActivePowerLimitReadbacks.get (normalizeDevice frame.device) with
  | none => exact (Shows.pure : Shows IsPlain (pure () : InSession Unit)) _
  | some readback => exact (Shows.perform rfl : Shows IsPlain (emit _)) _

/-- The frame answers a read. -/
def AnswersRead (frame : Frame) : Prop :=
  isModbusReadResponse frame = true ∨ isModbusReadException frame = true

instance : Decidable (AnswersRead frame) := inferInstanceAs (Decidable (_ ∨ _))

theorem AnswersRead.start (answers : AnswersRead frame) : frame.start = marker7f := by
  rcases answers with responds | raises
  · obtain ⟨response, parsed⟩ := Option.isSome_iff_exists.mp responds
    exact (parseModbusReadResponse_values parsed).1
  · obtain ⟨error, parsed⟩ := Option.isSome_iff_exists.mp raises
    exact (parseModbusReadException_short parsed).1

theorem AnswersRead.noWrite (answers : AnswersRead frame) :
    ¬ isModbusWriteSuccessResponse frame = true := by
  intro succeeds
  obtain ⟨noResponse, noException⟩ := writeSuccess_noRead succeeds
  rcases answers with responds | raises
  · rw [isModbusReadResponse, noResponse] at responds
    cases responds
  · rw [isModbusReadException, noException] at raises
    cases raises

theorem handleValidFrame_joinsRead (answers : AnswersRead frame) :
    Does Session.joinsBy SessionEffect.joinMark (JoinsRead (normalizeDevice frame.device))
      (handleValidFrame config world frame false) := by
  refine handleValidFrame_modbus config world answers.start ?_
  rw [confirmCloudWrite, doWhen, if_neg answers.noWrite]
  refine Leaves.pure.totalThenDoes Total.pure fun _ => ?_
  refine (noteClientFunc_unjoined frame).totalThenDoes Total.modify fun _ => ?_
  refine (noteMeshRole_unjoined frame).totalThenDoes (noteMeshRole_total frame) fun _ => ?_
  cases response : parseModbusReadResponse frame with
  | some parsed =>
    rw [noteReadException_of_response config response]
    exact (noteReadResponse_joins config response).thenLeaves fun _ => Leaves.pure
  | none =>
    rw [noteReadResponse, response]
    refine Leaves.pure.totalThenDoes Total.pure fun _ => ?_
    rcases answers with responds | raises
    · rw [isModbusReadResponse, response] at responds
      cases responds
    · obtain ⟨error, parsed⟩ := Option.isSome_iff_exists.mp raises
      exact noteReadException_joins config parsed

/-! ### Every frame -/

/-- Every other frame leaves the tables alone. -/
theorem handleValidFrame_keepsJoins (noWrite : ¬ isModbusWriteSuccessResponse frame = true)
    (noRead : ¬ AnswersRead frame) :
    Keeps Session.joins (handleValidFrame config world frame false) := by
  obtain ⟨noResponse, noException⟩ := not_or.mp noRead
  rw [isModbusReadResponse, Bool.not_eq_true, Option.isSome_eq_false_iff,
    Option.isNone_iff_eq_none] at noResponse
  rw [isModbusReadException, Bool.not_eq_true, Option.isSome_eq_false_iff,
    Option.isNone_iff_eq_none] at noException
  rw [handleValidFrame, confirmCloudWrite, doWhen, if_neg noWrite, noteReadResponse, noResponse,
    noteReadException, noException]
  refine Keeps.bind ((confirmInjectedWrite_unjoined frame).coarsen Prod.fst).keeps fun _ => ?_
  refine Keeps.bind Keeps.pure fun _ => ?_
  have registration : Leaves Session.joins (fun _ => True) (noteRegistration world frame) :=
    noteRegistration_leaves world frame (fun _ _ _ _ => rfl) (fun _ _ => rfl) (fun _ _ => rfl)
      (fun _ => True.intro) (fun _ => True.intro) fun _ => True.intro
  refine Keeps.bind registration.keeps fun _ => ?_
  refine Keeps.bind (noteProductInfo_unjoined frame).keeps fun _ => ?_
  have info : Leaves Session.joins (fun _ => True) (noteModuleInfo frame) :=
    noteModuleInfo_leaves frame (fun _ _ => rfl) fun _ _ => True.intro
  refine Keeps.bind info.keeps fun _ => ?_
  refine Keeps.bind ((noteMeshRole_unjoined frame).coarsen Prod.fst).keeps fun _ => ?_
  refine Keeps.bind Keeps.pure fun _ => ?_
  have telemetry : Leaves Session.joins (fun _ => True) (noteTelemetry world frame) :=
    noteTelemetry_leaves world frame
      (updateFaultState_leaves world _ (fun _ _ _ _ => rfl) (fun _ _ => rfl)
        (fun _ _ _ _ _ => True.intro) fun _ _ _ => True.intro)
      (fun _ _ => rfl) (fun _ _ => True.intro)
      (maybeSettleInverterControl_leaves (fun _ _ => rfl) True.intro)
  refine Keeps.bind telemetry.keeps fun _ => ?_
  exact Keeps.bind Keeps.pure fun _ => Keeps.pure

/-- What a frame of the inverter may do to the tables. -/
def MayJoin (frame : Frame) (before after : JoinView × Option Text) (shown : List JoinMark) :
    Prop :=
  if frame.validCrc = false then after.1 = before.1
  else if isModbusWriteSuccessResponse frame = true then
    JoinsWrite config (normalizeDevice frame.device) before after shown
  else if AnswersRead frame then JoinsRead (normalizeDevice frame.device) before after shown
  else after.1 = before.1

theorem clientFrame_joins (frame : Frame) (session : Session) :
    let outcome := (clientFrame config world frame false).run session
    MayJoin config frame session.joinsBy outcome.state.joinsBy
      (outcome.effects.filterMap SessionEffect.joinMark) := by
  have hook := handleFirmwareUploadFrame_run frame session
  rw [clientFrame, run_bind_ok (by rw [hook]), hook, Session.handleFrame, run_get_bind, emit,
    run_perform_bind]
  dsimp only
  rw [MayJoin]
  by_cases corrupt : frame.validCrc = false
  · rw [if_pos corrupt, if_pos corrupt]
    rfl
  rw [if_neg corrupt, if_neg corrupt]
  by_cases succeeds : isModbusWriteSuccessResponse frame = true
  · rw [if_pos succeeds]
    exact handleValidFrame_joinsWrite config world succeeds (session.hooked frame)
  rw [if_neg succeeds]
  by_cases answers : AnswersRead frame
  · rw [if_pos answers]
    exact handleValidFrame_joinsRead config world answers (session.hooked frame)
  · rw [if_neg answers]
    exact handleValidFrame_keepsJoins config world succeeds answers (session.hooked frame)

end Modbus

/-! ## Runs -/

/-- What the other tasks of a session do: none of them touches the tables or sends a request. -/
structure BesidesJoins where
  change : Session → Session
  joins_kept : ∀ session, (change session).joins = session.joins

inductive JoinAction where
  /-- `handle_upstream_frame` -/
  | upstream (world : SessionWorld) (frame : Frame)
  /-- A frame that the relay has from the inverter. -/
  | client (world : SessionWorld) (frame : Frame)
  /-- The session writes the ActivePowerLimit, or reads it. -/
  | injectWrite (writable : Bool) (percent : Nat)
  | injectRead (writable : Bool) (expected : Option (Nat × RequestSource))
  /-- The session gives up a read of its own. -/
  | unregister (key : Bytes)
  | besides (activity : BesidesJoins)

inductive JoinEvent where
  /-- The cloud asks to read, with the address and the count, or to write the value. -/
  | readRequested (key : Bytes) (request : Nat × Nat)
  | writeRequested (key : Bytes) (request : Nat × Nat)
  /-- The session sends a request of its own. -/
  | injected (key : Bytes)
  /-- A read response or exception is handled, with the annotations of its events. -/
  | readAnswered (key : Bytes) (annotations : List (Option (Nat × Nat)))
  /-- A response to a write is handled, with the states that are published for it. -/
  | writeAnswered (key : Bytes) (serial : Option Text) (published : List (Text × Nat))
  deriving DecidableEq, Repr

/-- The request that a frame of the cloud makes. -/
def requestEvents (frame : Frame) : List JoinEvent :=
  match parseModbusCommand frame with
  | none => []
  | some command =>
    let key := normalizeDevice frame.device
    (readEntry command).toList.map (.readRequested key) ++
      (writeEntry command).toList.map (.writeRequested key)

/-- The answer that a frame of the inverter brings to the session. -/
def answerEvents (frame : Frame) (session : Session) (shown : List JoinMark) : List JoinEvent :=
  let key := normalizeDevice frame.device
  if frame.validCrc = false then []
  else if isModbusWriteSuccessResponse frame = true then
    [.writeAnswered key session.knownSerial (shown.filterMap JoinMark.state)]
  else if AnswersRead frame then [.readAnswered key (shown.filterMap JoinMark.pendingRead)]
  else []

/-- The key of a request that is made, also where it finds no connection. -/
def injectedEvents {α : Type} (device : Bytes) : RequestStart α → List JoinEvent
  | .noConnection | .sent _ => [.injected (normalizeDevice device)]
  | .skipped | .raised _ => []

/-- The device field of the session's next request. -/
def Session.nextDevice (session : Session) (opType : UInt8) : Bytes :=
  match session.localControl with
  | some control => (control.nextDevice opType).2
  | none => []

/-- A session of the relay. -/
def joinMachine (config : SessionConfig) : Machine Session JoinAction JoinEvent :=
  fun session action =>
  match action with
  | .upstream world frame =>
    some (((Session.handleUpstreamFrame world frame).run session).state, requestEvents frame)
  | .client world frame =>
    let outcome := (clientFrame config world frame false).run session
    some (outcome.state,
      answerEvents frame session (outcome.effects.filterMap SessionEffect.joinMark))
  | .injectWrite writable percent =>
    let (after, start) := session.startWrite config writable percent
    some (after, injectedEvents (session.nextDevice deviceByteWrite) start)
  | .injectRead writable expected =>
    let (after, start) := session.startRead config writable expected
    some (after, injectedEvents (session.nextDevice deviceByteRead) start)
  | .unregister key =>
    -- only reads that the session has sent are given up
    if session.outstanding.any (key ∈ ·) = true then some (session.unregisterPendingRead key, [])
    else none
  | .besides activity => some (activity.change session, [])

/-! ### What has to be joined -/

/-- What an event is to the reads of the cloud. -/
def readPart : JoinEvent → Part Bytes (Nat × Nat)
  | .readRequested key request => .request key request
  | .readAnswered key _ => .answer key
  | _ => .neither

/-- What an event is to the writes of the cloud. -/
def writePart : JoinEvent → Part Bytes (Nat × Nat)
  | .writeRequested key request => .request key request
  | .writeAnswered key _ _ => .answer key
  | _ => .neither

/-- An answer under the key is joined to the request that waits: a read is annotated with it, and
the state of a write that was to the ActivePowerLimit is published. -/
def JoinsRequest (config : SessionConfig) (own : Bytes) (history : List JoinEvent) :
    JoinEvent → Prop
  | .readAnswered key annotations => key = own →
    ∃ pending, annotations = [pending] ∧
      ∀ request, pending = some request ↔ Waits readPart own request history
  | .writeAnswered key serial published => key = own → ∀ known, serial = some known →
    (∀ value, Waits writePart own (config.activePowerLimitAddress, value) history →
      published = [(known, value)]) ∧
    ((∀ value, ¬ Waits writePart own (config.activePowerLimitAddress, value) history) →
      published = [])
  | _ => True

/-- Every answer under the key is joined as it should be, and none to a request that was answered
before. -/
structure Joined (config : SessionConfig) (own : Bytes) (trace : List JoinEvent) : Prop where
  justified : Justified (JoinsRequest config own) trace
  readOnce : ∀ before first between annotations after,
    trace = before ++ .readAnswered own first :: between ++ .readAnswered own annotations :: after →
    (∀ request, .readRequested own request ∉ between) → annotations = [none]
  writeOnce : ∀ before serial first between known published after,
    trace = before ++ .writeAnswered own serial first :: between ++
      .writeAnswered own (some known) published :: after →
    (∀ request, .writeRequested own request ∉ between) → published = []

theorem readPart_eq_request {event : JoinEvent} {key : Bytes} {request : Nat × Nat} :
    readPart event = .request key request ↔ event = .readRequested key request := by
  cases event <;> simp [readPart]

theorem writePart_eq_request {event : JoinEvent} {key : Bytes} {request : Nat × Nat} :
    writePart event = .request key request ↔ event = .writeRequested key request := by
  cases event <;> simp [writePart]

section Joining

variable {config : SessionConfig} {own : Bytes} {history : List JoinEvent}

/-- No answer is joined to a request twice. -/
theorem Joined.of_justified {trace : List JoinEvent}
    (justified : Justified (JoinsRequest config own) trace) : Joined config own trace where
  justified := justified
  readOnce before first between annotations after split unasked := by
    obtain ⟨pending, rfl, joined⟩ := justified _ _ _ split rfl
    have nothing : ∀ request, ¬ Waits readPart own request
        (before ++ .readAnswered own first :: between) := by
      intro request
      have answers : readPart (.readAnswered own first) = .answer own := rfl
      refine not_waits_answered answers (fun event member content isRequest => ?_) before
      rw [readPart_eq_request.mp isRequest] at member
      exact unasked content member
    cases pending with
    | none => rfl
    | some request => exact absurd ((joined request).mp rfl) (nothing request)
  writeOnce before serial first between known published after split unasked := by
    obtain ⟨_, unpublished⟩ := justified _ _ _ split rfl known rfl
    apply unpublished
    intro value
    have answers : writePart (.writeAnswered own serial first) = .answer own := rfl
    refine not_waits_answered answers (fun event member content isRequest => ?_) before
    rw [writePart_eq_request.mp isRequest] at member
    exact unasked content member

/-! ### The tables -/

/-- The tables have what waits under the key, and the session sends nothing under it. -/
structure Tallied (config : SessionConfig) (own : Bytes) (view : JoinView)
    (history : List JoinEvent) : Prop where
  apart : ∃ keys, view.outstanding = some keys ∧ own ∉ keys
  reads : Mirrors readPart own (view.pendingReads.get own) history
  writes : Mirrors writePart own (view.pendingWrites.get own) history
  justified : Justified (JoinsRequest config own) history

theorem tallied_fresh (enabled : config.inverterControlEnabled = true) (own : Bytes) :
    Tallied config own (Session.fresh config).joins [] where
  apart := by
    refine ⟨∅, ?_, Finset.notMem_empty own⟩
    rw [Session.joins, Session.outstanding, Session.fresh, enabled]
    rfl
  reads := .nil
  writes := .nil
  justified := justified_nil

theorem storeEntry_get (key : Bytes) (entry : Option (Nat × Nat))
    (table : Dict Bytes (Nat × Nat)) (own : Bytes) :
    (storeEntry key entry table).get own =
      if own = key then entry.or (table.get own) else table.get own := by
  cases entry with
  | none => simp [storeEntry]
  | some request => simp [storeEntry, Dict.get_set]

/-- A request is stored under its key. -/
theorem mirrors_stored {part : JoinEvent → Part Bytes (Nat × Nat)} {key : Bytes}
    {ask : Nat × Nat → JoinEvent} (asks : ∀ request, part (ask request) = .request key request)
    {table : Dict Bytes (Nat × Nat)} (mirrors : Mirrors part own (table.get own) history)
    (entry : Option (Nat × Nat)) :
    Mirrors part own ((storeEntry key entry table).get own)
      (history ++ entry.toList.map ask) := by
  rw [storeEntry_get]
  cases entry with
  | none => simpa using mirrors
  | some request =>
    by_cases same : own = key
    · rw [if_pos same]
      exact .request (same ▸ asks request)
    · rw [if_neg same]
      refine mirrors.beside fun concerns => same ?_
      rw [asks request] at concerns
      exact concerns.symm

/-- An answer takes the request with its key. -/
theorem mirrors_popped {part : JoinEvent → Part Bytes (Nat × Nat)} {key : Bytes}
    {event : JoinEvent} (answers : part event = .answer key) {table : Dict Bytes (Nat × Nat)}
    (mirrors : Mirrors part own (table.get own) history) :
    Mirrors part own ((table.pop key).get own) (history ++ [event]) := by
  rw [Dict.get_pop]
  by_cases same : own = key
  · rw [if_pos same]
    exact .answer (same ▸ answers)
  · rw [if_neg same]
    refine mirrors.beside fun concerns => same ?_
    rw [answers] at concerns
    exact concerns.symm

/-! ### Steps -/

/-- A response to a write publishes what was waiting. -/
theorem joinedWrite_joins {before : JoinView × Option Text} {known : Text}
    (mirrors : Mirrors writePart own (before.1.pendingWrites.get own) history)
    (isKnown : before.2.filter (· ≠ []) = some known) :
    let published := (joinedWrite config before own).filterMap JoinMark.state
    (∀ value, Waits writePart own (config.activePowerLimitAddress, value) history →
      published = [(known, value)]) ∧
    ((∀ value, ¬ Waits writePart own (config.activePowerLimitAddress, value) history) →
      published = []) := by
  dsimp only
  rw [joinedWrite, isKnown]
  constructor
  · intro value waits
    rw [(mirrors _).mpr waits]
    dsimp only
    rw [if_pos rfl]
    rfl
  · intro nothing
    cases stored : before.1.pendingWrites.get own with
    | none => rfl
    | some request =>
      obtain ⟨address, value⟩ := request
      dsimp only
      rw [if_neg]
      · rfl
      · rintro rfl
        exact nothing value ((mirrors _).mp stored)

/-- A frame of the inverter. -/
theorem Tallied.client {frame : Frame} {session : Session} {after : JoinView × Option Text}
    {shown : List JoinMark} (tallied : Tallied config own session.joins history)
    (joins : MayJoin config frame session.joinsBy after shown) :
    Tallied config own after.1 (history ++ answerEvents frame session shown) := by
  rw [MayJoin] at joins
  rw [answerEvents]
  by_cases corrupt : frame.validCrc = false
  · rw [if_pos corrupt] at joins ⊢
    rw [joins, List.append_nil]
    exact tallied
  rw [if_neg corrupt] at joins ⊢
  by_cases succeeds : isModbusWriteSuccessResponse frame = true
  · rw [if_pos succeeds] at joins ⊢
    obtain ⟨left, rfl⟩ := joins
    rw [left]
    refine ⟨tallied.apart, tallied.reads.beside id, ?_, ?_⟩
    · exact mirrors_popped rfl tallied.writes
    · refine justified_concat.mpr ⟨tallied.justified, fun same known isKnown => ?_⟩
      rw [same]
      exact joinedWrite_joins tallied.writes isKnown
  rw [if_neg succeeds] at joins ⊢
  by_cases answers : AnswersRead frame
  · rw [if_pos answers] at joins ⊢
    obtain ⟨left, annotations⟩ := joins
    rw [left, annotations]
    refine ⟨tallied.apart, ?_, tallied.writes.beside id, ?_⟩
    · exact mirrors_popped rfl tallied.reads
    · refine justified_concat.mpr ⟨tallied.justified, fun same => ⟨_, rfl, ?_⟩⟩
      rw [same]
      exact tallied.reads
  · rw [if_neg answers] at joins ⊢
    rw [joins, List.append_nil]
    exact tallied

theorem observed_outstanding (session : Session) (frame : Frame) :
    (session.observed frame).outstanding = session.outstanding := by
  rw [Session.observed, Session.outstanding, Session.outstanding, Option.map_map]
  congr 1
  funext control
  dsimp only [Function.comp_apply]
  split
  · split
    · rfl
    · rw [LocalControl.observeSessionMarker]
      split
      · rfl
      · rfl
  · rfl

/-- A frame under the key is not one of the session's own requests. -/
theorem isForeign_of_apart {session : Session} {keys : Finset Bytes} {frame : Frame}
    (isKeys : session.outstanding = some keys) (apart : normalizeDevice frame.device ∉ keys) :
    session.isForeign frame = true := by
  obtain ⟨control, isControl, rfl⟩ := Option.map_eq_some_iff.mp isKeys
  simp [Session.isForeign, Session.isOurFrame, LocalControl.isOurFrame, isControl, apart]

/-- A frame of the cloud is noted under its key. -/
theorem Tallied.upstream {session : Session} (tallied : Tallied config own session.joins history)
    (world : SessionWorld) (frame : Frame) :
    Tallied config own ((Session.handleUpstreamFrame world frame).run session).state.joins
      (history ++ requestEvents frame) := by
  rw [requestEvents]
  cases parsed : parseModbusCommand frame with
  | none =>
    rw [handleUpstreamFrame_unnoted world parsed, List.append_nil]
    exact tallied
  | some command =>
    obtain ⟨events, noted⟩ := handleUpstreamFrame_noted world parsed session
    rw [noted]
    dsimp only
    obtain ⟨keys, isKeys, apart⟩ := tallied.apart
    rw [← List.append_assoc]
    constructor
    case apart =>
      exact ⟨keys, (observed_outstanding session frame).trans isKeys, apart⟩
    case reads =>
      refine (mirrors_stored (fun _ => rfl) tallied.reads (readEntry command)).besides ?_
      intro event member
      obtain ⟨request, _, rfl⟩ := List.mem_map.mp member
      exact id
    case writes =>
      -- a command with the key is no request of the session, so it is stored
      have stored : (session.noted frame command).joins.pendingWrites.get own =
          (storeEntry (normalizeDevice frame.device) (writeEntry command)
            session.pendingWrites).get own := by
        rw [Session.joins, Session.noted, storeEntry_get, storeEntry_get]
        by_cases same : own = normalizeDevice frame.device
        · rw [if_pos same, if_pos same, isForeign_of_apart isKeys (same ▸ apart), if_pos rfl]
        · rw [if_neg same, if_neg same]
      rw [stored]
      refine mirrors_stored (fun _ => rfl) (tallied.writes.besides ?_) (writeEntry command)
      intro event member
      obtain ⟨request, _, rfl⟩ := List.mem_map.mp member
      exact id
    case justified =>
      refine (tallied.justified.append ?_).append ?_
      · intro event member earlier
        obtain ⟨request, _, rfl⟩ := List.mem_map.mp member
        exact True.intro
      · intro event member earlier
        obtain ⟨request, _, rfl⟩ := List.mem_map.mp member
        exact True.intro

/-- A request of the session under the key. -/
structure Injects (key : Bytes) (before after : JoinView) : Prop where
  writes : after.pendingWrites = before.pendingWrites
  outstanding : after.outstanding = before.outstanding.map (insert key)
  reads : ∀ other, other ≠ key → after.pendingReads.get other = before.pendingReads.get other

theorem Tallied.injected {key : Bytes} {before after : JoinView}
    (tallied : Tallied config own before history) (injects : Injects key before after)
    (other : own ≠ key) : Tallied config own after (history ++ [.injected key]) where
  apart := by
    obtain ⟨keys, isKeys, apart⟩ := tallied.apart
    refine ⟨insert key keys, by rw [injects.outstanding, isKeys]; rfl, fun member => ?_⟩
    exact (Finset.mem_insert.mp member).elim other apart
  reads := by
    rw [injects.reads own other]
    exact tallied.reads.beside id
  writes := by
    rw [injects.writes]
    exact tallied.writes.beside id
  justified := justified_concat.mpr ⟨tallied.justified, True.intro⟩

/-- What the start of a request does: nothing, or the request is made. -/
def MayInject (device : Bytes) (session after : Session) (events : List JoinEvent) : Prop :=
  events = [] ∧ after.joins = session.joins ∨
    events = [.injected (normalizeDevice device)] ∧
      Injects (normalizeDevice device) session.joins after.joins

/-- A write that is built is outstanding, also where it is not sent. -/
theorem writeRegister_keys (control : LocalControl) (writable : Bool) (address value : Nat) :
    ∃ after, (∃ raised, control.writeRegister writable address value = (after, .error raised) ∧
        after.outstanding = control.outstanding) ∨
      ∃ sent, control.writeRegister writable address value = (after, .ok sent) ∧
        after.outstanding =
          insert (normalizeDevice (control.nextDevice deviceByteWrite).2) control.outstanding := by
  simp only [LocalControl.writeRegister]
  cases buildModbusWriteSingle (control.nextDevice deviceByteWrite).2 address value with
  | error raised => exact ⟨_, .inl ⟨raised, rfl, rfl⟩⟩
  | ok raw =>
    dsimp only
    split
    · exact ⟨_, .inr ⟨_, rfl, rfl⟩⟩
    · exact ⟨_, .inr ⟨_, rfl, rfl⟩⟩

theorem readHolding_keys (control : LocalControl) (address count : Nat) :
    ∃ after, (∃ raised, control.readHolding address count = (after, .error raised) ∧
        after.outstanding = control.outstanding) ∨
      ∃ raw, control.readHolding address count = (after, .ok raw) ∧
        after.outstanding =
          insert (normalizeDevice (control.nextDevice deviceByteRead).2) control.outstanding := by
  simp only [LocalControl.readHolding]
  cases buildModbusReadHolding (control.nextDevice deviceByteRead).2 address count with
  | error raised => exact ⟨_, .inl ⟨raised, rfl, rfl⟩⟩
  | ok raw => exact ⟨_, .inr ⟨raw, rfl, rfl⟩⟩

theorem joins_of_control {session : Session} {control : LocalControl}
    (isControl : session.localControl = some control) :
    session.joins = ⟨session.pendingReads, session.pendingWrites, some control.outstanding⟩ := by
  rw [Session.joins, Session.outstanding, isControl]
  rfl

theorem startWrite_injects (config : SessionConfig) (writable : Bool) (percent : Nat)
    (session : Session) :
    MayInject (session.nextDevice deviceByteWrite) session
      (session.startWrite config writable percent).1
      (injectedEvents (session.nextDevice deviceByteWrite)
        (session.startWrite config writable percent).2) := by
  rw [Session.startWrite, Session.nextDevice]
  cases isControl : session.localControl with
  | none => exact .inl ⟨rfl, rfl⟩
  | some control =>
    cases session.knownSerial with
    | none => exact .inl ⟨rfl, rfl⟩
    | some serial =>
      dsimp only
      obtain ⟨after, ⟨raised, wrote, keys⟩ | ⟨sent, wrote, keys⟩⟩ := writeRegister_keys control
        writable config.activePowerLimitAddress percent
      · rw [wrote]
        refine .inl ⟨rfl, ?_⟩
        rw [joins_of_control isControl, ← keys]
        rfl
      · rw [wrote, MayInject, joins_of_control isControl]
        cases sent with
        | none => exact .inr ⟨rfl, rfl, congrArg some keys, fun _ _ => rfl⟩
        | some sent => exact .inr ⟨rfl, rfl, congrArg some keys, fun _ _ => rfl⟩

theorem startRead_injects (config : SessionConfig) (writable : Bool)
    (expected : Option (Nat × RequestSource)) (session : Session) :
    MayInject (session.nextDevice deviceByteRead) session
      (session.startRead config writable expected).1
      (injectedEvents (session.nextDevice deviceByteRead)
        (session.startRead config writable expected).2) := by
  rw [Session.startRead, Session.nextDevice]
  cases isControl : session.localControl with
  | none => exact .inl ⟨rfl, rfl⟩
  | some control =>
    cases session.knownSerial with
    | none => exact .inl ⟨rfl, rfl⟩
    | some serial =>
      dsimp only
      obtain ⟨after, ⟨raised, asked, keys⟩ | ⟨raw, asked, keys⟩⟩ := readHolding_keys control
        config.activePowerLimitAddress 1
      · rw [asked]
        refine .inl ⟨rfl, ?_⟩
        rw [joins_of_control isControl, ← keys]
        rfl
      · rw [asked, MayInject, joins_of_control isControl]
        dsimp only
        cases writable with
        | true =>
          refine .inr ⟨rfl, rfl, congrArg some keys, fun other differs => ?_⟩
          exact (Dict.get_set _ _ _ _).trans (if_neg differs)
        | false =>
          -- the entry is made and taken back
          refine .inr ⟨rfl, rfl, congrArg some keys, fun other differs => ?_⟩
          refine (Dict.get_pop _ _ _).trans ((if_neg differs).trans ?_)
          exact (Dict.get_set _ _ _ _).trans (if_neg differs)

theorem Tallied.mayInject {device : Bytes} {session after : Session} {events : List JoinEvent}
    (tallied : Tallied config own session.joins history)
    (starts : MayInject device session after events) (other : .injected own ∉ events) :
    Tallied config own after.joins (history ++ events) := by
  rcases starts with ⟨rfl, same⟩ | ⟨rfl, injects⟩
  · rw [same, List.append_nil]
    exact tallied
  · refine tallied.injected injects fun same => other ?_
    rw [same]
    exact List.mem_singleton_self _

/-- The tables are kept as long as the session sends nothing under the key. -/
def TalliedUnlessInjected (config : SessionConfig) (own : Bytes) (session : Session)
    (history : List JoinEvent) : Prop :=
  .injected own ∉ history → Tallied config own session.joins history

theorem tallied_step {session next : Session} {action : JoinAction} {shown : List JoinEvent}
    (tallies : TalliedUnlessInjected config own session history)
    (stepped : joinMachine config session action = some (next, shown)) :
    TalliedUnlessInjected config own next (history ++ shown) := by
  intro notInjected
  obtain ⟨notBefore, notNow⟩ := not_or.mp (mt List.mem_append.mpr notInjected)
  have tallied := tallies notBefore
  cases action with
  | upstream world frame =>
    cases stepped
    exact tallied.upstream world frame
  | client world frame =>
    cases stepped
    exact tallied.client (clientFrame_joins config world frame session)
  | injectWrite writable percent =>
    cases stepped
    exact tallied.mayInject (startWrite_injects config writable percent session) notNow
  | injectRead writable expected =>
    cases stepped
    exact tallied.mayInject (startRead_injects config writable expected session) notNow
  | unregister key =>
    rw [joinMachine] at stepped
    split at stepped
    · rename_i sent
      cases stepped
      obtain ⟨keys, isKeys, apart⟩ := tallied.apart
      rw [show session.outstanding = some keys from isKeys, Option.any_some,
        decide_eq_true_eq] at sent
      have differs : own ≠ key := fun same => apart (same ▸ sent)
      rw [List.append_nil]
      refine ⟨⟨keys, isKeys, apart⟩, ?_, tallied.writes, tallied.justified⟩
      rw [show (session.unregisterPendingRead key).joins.pendingReads.get own =
        session.pendingReads.get own from (Dict.get_pop _ _ _).trans (if_neg differs)]
      exact tallied.reads
    · cases stepped
  | besides activity =>
    cases stepped
    rw [activity.joins_kept, List.append_nil]
    exact tallied

/-- **Requests and answers.**  In every run of a session with local control, each answer under a key
that the session does not send requests under is joined to the request of the cloud that waits
under it. -/
theorem cloudRequests_joined (enabled : config.inverterControlEnabled = true)
    {actions : List JoinAction} {final : Session} {trace : List JoinEvent}
    (ran : run (joinMachine config) (.fresh config) actions = some (final, trace))
    (apart : .injected own ∉ trace) : Joined config own trace := by
  have initially : TalliedUnlessInjected config own (.fresh config) [] :=
    fun _ => tallied_fresh enabled own
  have tallied : TalliedUnlessInjected config own final ([] ++ trace) :=
    run_invariant tallied_step initially ran
  exact .of_justified (tallied apart).justified

/-- A frame of the inverter and of the cloud with one key. -/
def exchangeFrame (first : UInt8) (payload : Bytes) : Frame :=
  builtFrame marker7f [first, 0x34, 0x56, 0x78] commandEnvelopeFunc payload endF7

def exchangeKey : Bytes := [0x12, 0x34, 0x56, 0x78]

/-- A session registers, the cloud reads a register and writes the ActivePowerLimit, the session
reads for itself, and each answer of the inverter comes twice. -/
def exchangeActions : List JoinAction :=
  let world : SessionWorld := ⟨0, 0, none⟩
  let response := exchangeFrame 0x92 [0x01, 0x03, 0x02, 0x00, 0x05]
  let written := exchangeFrame 0x92 [0x01, 0x06]
  [.client world (registrationFrame 'A'.toUInt8).frame,
    .upstream world (exchangeFrame 0x12 [0x01, 0x03, 0xc4, 0x19, 0x00, 0x01]),
    .upstream world (exchangeFrame 0x12 [0x01, 0x06, 0xca, 0x5a, 0x00, 0x46]),
    .injectRead true none, .client world response, .client world response,
    .client world written, .client world written]

def exchangeTrace : List JoinEvent :=
  [.readRequested exchangeKey (0xC419, 1), .writeRequested exchangeKey (0xCA5A, 70),
    .injected [0x11, 0x01, 0xf0, 0xaa], .readAnswered exchangeKey [some (0xC419, 1)],
    .readAnswered exchangeKey [none], .writeAnswered exchangeKey (some ['A']) [(['A'], 70)],
    .writeAnswered exchangeKey (some ['A']) []]

theorem cloudRequests_joined_twice : Joined .everything exchangeKey exchangeTrace := by
  have check : (run (joinMachine .everything) (.fresh .everything) exchangeActions).map Prod.snd =
      some exchangeTrace := by decide +kernel
  obtain ⟨⟨final, trace⟩, ran, rfl⟩ := Option.map_eq_some_iff.mp check
  exact cloudRequests_joined rfl ran (by decide)

end Joining

end FoxessGateway.Server
