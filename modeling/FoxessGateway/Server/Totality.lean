import FoxessGateway.Protocol.Extraction
import FoxessGateway.Server.FirmwareGate
import FoxessGateway.Server.Handlers

/-! # Which frames the handlers survive

`handleFrame` returns for every frame that extraction can give it; `handleUpstreamFrame` for
every one but a write of several registers that ends before its byte count. -/

namespace FoxessGateway.Server

open ByteOrder Protocol Firmware Effectful Action

/-! ## Texts stay short -/

theorem printableAscii_length (data : Bytes) : (printableAscii data).length ≤ data.length := by
  refine (strip_inside _).length_le.trans ?_
  rw [List.length_map]
  exact List.length_filter_le _ _

theorem length_le_intercalate {α : Type} {separator part : List α} {parts : List (List α)}
    (member : part ∈ parts) : part.length ≤ (separator.intercalate parts).length := by
  induction parts with
  | nil => cases member
  | cons first parts inductionHypothesis =>
    cases parts with
    | nil =>
      obtain rfl : part = first := by simpa using member
      simp
    | cons second parts =>
      rw [List.intercalate_cons_cons, List.length_append, List.length_append]
      rcases List.mem_cons.mp member with rfl | later
      · omega
      · have := inductionHypothesis later
        omega

theorem productStrings_length {payload : Bytes} {text : Text}
    (member : text ∈ productStrings payload) : text.length ≤ payload.length := by
  obtain ⟨part, isPart, rfl⟩ := List.mem_map.mp (List.mem_filter.mp member).1
  have joined : [0].intercalate (payload.splitOn 0) = payload := List.intercalate_splitOn 0
  have bound : part.length ≤ ([0].intercalate (payload.splitOn 0)).length :=
    length_le_intercalate isPart
  rw [joined] at bound
  exact (printableAscii_length part).trans bound

theorem productInfo_firmware_length {frame : Frame} {info : ProductInfo}
    (parsed : productInfo frame = some info) : info.firmware.length ≤ frame.payload.length := by
  rw [productInfo] at parsed
  split at parsed
  · cases parsed
    dsimp only
    cases found : (productStrings frame.payload).find? isFirmwareText with
    | none => simp
    | some text => exact productStrings_length (List.mem_of_find?_eq_some found)
  · cases parsed

/-! ## The firmware version -/

/-- The version of a firmware text that is not too long can be read. -/
theorem supportsActivePowerLimit_ok (model : Text) {firmware : Text}
    (short : firmware.length ≤ 4300) :
    ∃ supported, supportsActivePowerLimit model firmware = .ok supported := by
  obtain ⟨supported, returns, _⟩ :=
    supportsActivePowerLimit_eq model (ShortNumbers.of_length short)
  exact ⟨supported, returns⟩

/-! ## The stages of `handleFrame` -/

/-- The firmware text is short enough for its version to be read. -/
def Bounded (session : Session) : Prop := session.firmware.length ≤ 4300

/-- The action returns, and keeps the firmware text short. -/
abbrev Survives {α : Type} (action : InSession α) : Prop :=
  Completes Bounded action (fun _ => Bounded)

theorem emit_survives (event : SessionEvent) : Survives (emit event) := Completes.perform

theorem mqtt_survives (operation : MqttOperation) : Survives (mqtt operation) := Completes.perform

theorem nothing_survives : Survives (Pure.pure () : InSession Unit) :=
  Completes.pure fun _ bounded => bounded

theorem attempt_survives {α : Type} {result : Except PyError α} {value : α}
    (returned : result = .ok value) : Survives (attempt result : InSession α) :=
  (Completes.attempt value returned).weaken fun _ _ holds => holds.2

theorem confirmInjectedWrite_survives (frame : Frame) : Survives (confirmInjectedWrite frame) := by
  refine Completes.modify fun session bounded => ?_
  split
  · split
    · exact bounded
    · exact bounded
  · exact bounded

theorem confirmCloudWrite_survives (config : SessionConfig) (frame : Frame) :
    Survives (confirmCloudWrite config frame) := by
  refine Completes.doWhen fun _ => Completes.readBind fun session _ => ?_
  dsimp only
  refine Completes.andThen (Completes.modify fun _ bounded => bounded) fun _ => ?_
  split
  · exact Completes.doWhen fun _ => mqtt_survives _
  · exact nothing_survives

theorem register_survives (world : SessionWorld) (frame : Frame) :
    Survives (register world frame) := by
  rw [register]
  refine Completes.andThen (Completes.modify fun _ bounded => bounded) fun _ => ?_
  refine Completes.andThen (Completes.readBind fun session _ => ?_) fun _ => ?_
  · split
    · refine Completes.andThen Completes.perform fun _ => ?_
      refine Completes.andThen (mqtt_survives _) fun _ => ?_
      refine Completes.andThen (mqtt_survives _) fun _ => ?_
      exact Completes.modify fun _ bounded => bounded
    · exact nothing_survives
  · exact Completes.readBind fun session _ => emit_survives _

theorem noteRegistration_survives (world : SessionWorld) (frame : Frame) :
    Survives (noteRegistration world frame) := by
  refine Completes.ite (fun _ => register_survives world frame) fun _ => ?_
  refine Completes.modify fun session bounded => ?_
  split
  · exact bounded
  · exact bounded

theorem maybeSettleInverterControl_survives : Survives maybeSettleInverterControl := by
  refine Completes.readBind fun session _ => Completes.doWhen fun _ => ?_
  exact Completes.andThen (Completes.modify fun _ bounded => bounded) fun _ => Completes.perform

theorem syncActivePowerLimitMqtt_survives : Survives syncActivePowerLimitMqtt := by
  refine Completes.readBind fun session bounded => ?_
  split
  · rename_i serial control _ _
    obtain ⟨supported, isSupported⟩ := supportsActivePowerLimit_ok session.model bounded
    refine Completes.andThen (attempt_survives isSupported) fun supported => ?_
    refine Completes.ite (fun _ => ?_) fun _ => ?_
    · refine Completes.andThen ?_ fun _ => maybeSettleInverterControl_survives
      refine Completes.readBind fun session _ => Completes.doWhen fun _ => ?_
      refine Completes.andThen (mqtt_survives _) fun _ => ?_
      refine Completes.andThen (mqtt_survives _) fun _ => ?_
      exact Completes.modify fun _ bounded => bounded
    · refine Completes.andThen (mqtt_survives _) fun _ => ?_
      refine Completes.andThen (mqtt_survives _) fun _ => ?_
      exact Completes.modify fun _ bounded => bounded
  · exact nothing_survives

theorem noteProductInfo_survives {frame : Frame} (short : frame.payload.length ≤ 4300) :
    Survives (noteProductInfo frame) := by
  rw [noteProductInfo]
  split
  · exact nothing_survives
  · rename_i info parsed
    have fits := productInfo_firmware_length parsed
    refine Completes.andThen (Completes.modify fun session bounded => ?_) fun _ => ?_
    · -- the new firmware text is a part of the payload
      rw [Bounded] at bounded ⊢
      dsimp only [textOr]
      split
      · exact bounded
      · omega
    · refine Completes.readBind fun session _ => ?_
      exact Completes.andThen (emit_survives _) fun _ => syncActivePowerLimitMqtt_survives

theorem noteModuleInfo_survives (frame : Frame) : Survives (noteModuleInfo frame) := by
  refine Completes.doWhen fun _ => ?_
  refine Completes.andThen (Completes.modify fun _ bounded => bounded) fun _ => ?_
  exact Completes.readBind fun session _ => emit_survives _

theorem noteMeshRole_survives (frame : Frame) : Survives (noteMeshRole frame) := by
  rw [noteMeshRole]
  split
  · exact nothing_survives
  · refine Completes.readBind fun session _ => Completes.doWhen fun _ => ?_
    exact Completes.andThen (Completes.modify fun _ bounded => bounded) fun _ => emit_survives _

theorem answerBootstrap_survives {world : SessionWorld} {frame : Frame} (sendBootstrap : Bool)
    (drains : sendBootstrap = true → world.drainFails = none) (device : frame.device.length = 4) :
    Survives (answerBootstrap world frame sendBootstrap) := by
  refine Completes.doWhen fun sends => Completes.readBind fun session _ => ?_
  obtain ⟨response, replied⟩ := responseFor_returns session.bootstrap device
  dsimp only
  refine Completes.andThen (Completes.modify fun _ bounded => bounded) fun _ => ?_
  refine Completes.andThen (attempt_survives replied) fun response => ?_
  split
  · exact nothing_survives
  · rw [writeAndDrain]
    -- the drain is the only thing that can fail here
    rw [drains sends]
    refine Completes.andThen ?_ fun _ => emit_survives _
    exact Completes.andThen Completes.perform fun _ => attempt_survives rfl

theorem updateFaultState_survives (world : SessionWorld) (payload : Bytes) :
    Survives (updateFaultState world payload) := by
  refine Completes.readBind fun session _ => Completes.ite (fun _ => ?_) fun _ => ?_
  · refine Completes.readBind fun session _ => ?_
    dsimp only
    refine Completes.ite (fun _ => ?_) fun _ => ?_
    · exact Completes.andThen (Completes.modify fun _ bounded => bounded) fun _ => emit_survives _
    · refine Completes.andThen (Completes.doWhen fun _ => emit_survives _) fun _ => ?_
      exact Completes.modify fun _ bounded => bounded
  · exact Completes.modify fun _ bounded => bounded

theorem noteTelemetry_survives (world : SessionWorld) (frame : Frame) :
    Survives (noteTelemetry world frame) := by
  refine Completes.doWhen fun telemetry => ?_
  -- the decoder needs all 238 bytes, which `isTelemetry` has checked
  have whole : frame.payload.length = 238 := by
    simp only [isTelemetry, decide_eq_true_eq] at telemetry
    exact telemetry.2.2.2
  refine Completes.andThen (updateFaultState_survives world _) fun _ => ?_
  refine Completes.readBind fun session _ => ?_
  obtain ⟨decoded, isDecoded⟩ := decodeTelemetry_ok session.telemetrySource whole
  refine Completes.andThen (attempt_survives isDecoded) fun _ => ?_
  refine Completes.andThen Completes.perform fun _ => ?_
  refine Completes.andThen (Completes.modify fun _ bounded => bounded) fun _ => ?_
  exact maybeSettleInverterControl_survives

theorem forgetRead_survives (key : Bytes) : Survives (forgetRead key) :=
  Completes.modify fun _ bounded => bounded

theorem noteReadResponse_survives (config : SessionConfig) (frame : Frame) :
    Survives (noteReadResponse config frame) := by
  rw [noteReadResponse]
  split
  · exact nothing_survives
  · refine Completes.readBind fun before _ => ?_
    dsimp only
    refine Completes.andThen (forgetRead_survives _) fun _ => ?_
    refine Completes.andThen (emit_survives _) fun _ => ?_
    split
    · refine Completes.doWhen fun _ => Completes.andThen (mqtt_survives _) fun _ => ?_
      split
      · exact emit_survives _
      · exact nothing_survives
    · exact nothing_survives

theorem noteReadException_survives (config : SessionConfig) (frame : Frame) :
    Survives (noteReadException config frame) := by
  rw [noteReadException]
  split
  · exact nothing_survives
  · refine Completes.readBind fun before _ => ?_
    dsimp only
    refine Completes.andThen (forgetRead_survives _) fun _ => ?_
    refine Completes.andThen (emit_survives _) fun _ => ?_
    split
    · exact emit_survives _
    · exact nothing_survives

/-- **`handleFrame` returns** for a frame with a device field and a payload of the sizes that
extraction allows. -/
theorem handleFrame_survives (config : SessionConfig) {world : SessionWorld} {frame : Frame}
    (sendBootstrap : Bool) (drains : sendBootstrap = true → world.drainFails = none)
    (device : frame.device.length = 4) (short : frame.payload.length ≤ 4300) :
    Survives (Session.handleFrame config world frame sendBootstrap) := by
  refine Completes.readBind fun session _ => Completes.andThen (emit_survives _) fun _ => ?_
  refine Completes.ite (fun _ => emit_survives _) fun _ => ?_
  refine Completes.andThen (confirmInjectedWrite_survives frame) fun _ => ?_
  refine Completes.andThen (confirmCloudWrite_survives config frame) fun _ => ?_
  refine Completes.andThen (noteRegistration_survives world frame) fun _ => ?_
  refine Completes.andThen (noteProductInfo_survives short) fun _ => ?_
  refine Completes.andThen (noteModuleInfo_survives frame) fun _ => ?_
  refine Completes.andThen (noteMeshRole_survives frame) fun _ => ?_
  refine Completes.andThen (answerBootstrap_survives sendBootstrap drains device) fun _ => ?_
  refine Completes.andThen (noteTelemetry_survives world frame) fun _ => ?_
  refine Completes.andThen (noteReadResponse_survives config frame) fun _ => ?_
  exact noteReadException_survives config frame

/-! ## `handleUpstreamFrame` -/

/-- A write of several registers that ends before its byte count: `is_modbus_command` holds of
it and `parse_modbus_command` returns `{}`. -/
def CutWriteMultiple (frame : Frame) : Prop :=
  frame.start = marker7f ∧ frame.payload.length = 6 ∧
    frame.payload[1]? = some modbusFnWriteMultiple

instance (frame : Frame) : Decidable (CutWriteMultiple frame) :=
  inferInstanceAs (Decidable (_ ∧ _ ∧ _))

theorem isModbusCommand_iff {frame : Frame} :
    isModbusCommand frame = true ↔ frame.start = marker7f ∧ 6 ≤ frame.payload.length ∧
      ∃ function ∈ modbusFunctions, frame.payload[1]? = some function := by
  rw [isModbusCommand]
  split
  · rename_i other
    simp only [Bool.false_eq_true, false_iff]
    rintro ⟨start, long, _⟩
    rcases other with notMarked | short
    · exact notMarked start
    · omega
  · rename_i fits
    rw [not_or, not_not, Nat.not_lt] at fits
    simp only [Option.any_eq_true, decide_eq_true_eq, fits, true_and]
    exact ⟨fun ⟨function, found, known⟩ => ⟨function, known, found⟩,
      fun ⟨function, known, found⟩ => ⟨function, found, known⟩⟩

/-- The body of a command has the keys of its function. -/
theorem modbusBody_keys {function : UInt8} {payload : Bytes} {body : ModbusBody}
    (decoded : modbusBody function payload = some body) :
    (function ∈ [modbusFnReadHolding, modbusFnReadInput] → ∃ count, body = .count count) ∧
      (function = modbusFnWriteSingle → ∃ value, body = .value value) := by
  unfold modbusBody at decoded
  dsimp only at decoded
  split at decoded
  · rename_i isRead
    cases decoded
    refine ⟨fun _ => ⟨_, rfl⟩, ?_⟩
    rintro rfl
    exact absurd isRead (by decide)
  split at decoded
  · rename_i notRead _
    cases decoded
    exact ⟨fun isRead => absurd (by simpa using isRead) notRead, fun _ => ⟨_, rfl⟩⟩
  · rename_i notRead notWrite
    exact ⟨fun isRead => absurd (by simpa using isRead) notRead,
      fun isWrite => absurd isWrite notWrite⟩

theorem parseModbusCommand_some {frame : Frame} {command : ModbusCommand}
    (parsed : parseModbusCommand frame = some command) :
    modbusBody command.function frame.payload = some command.body := by
  rw [parseModbusCommand] at parsed
  split at parsed
  · split at parsed
    · obtain ⟨body, decoded, rfl⟩ := Option.map_eq_some_iff.mp parsed
      exact decoded
    · cases parsed
  · cases parsed

/-- What the decoder makes of a frame that counts as a command. -/
theorem parseModbusCommand_none_iff {frame : Frame} (isCommand : isModbusCommand frame = true) :
    parseModbusCommand frame = none ↔ CutWriteMultiple frame := by
  obtain ⟨start, long, function, known, found⟩ := isModbusCommand_iff.mp isCommand
  rw [parseModbusCommand]
  rw [if_pos isCommand]
  match shape : frame.payload with
  | [] | [_] => rw [shape] at long; simp at long
  | slave :: second :: rest =>
    rw [shape] at found long
    obtain rfl : second = function := by simpa using found
    dsimp only
    rw [Option.map_eq_none_iff]
    rw [CutWriteMultiple, modbusBody]
    rw [shape]
    -- the byte count would be the seventh byte
    have beyond : (slave :: second :: rest)[6]? = none ↔ (slave :: second :: rest).length = 6 := by
      rw [List.getElem?_eq_none_iff]
      omega
    simp only [modbusFunctions, List.mem_cons, List.not_mem_nil, or_false] at known
    rcases known with rfl | rfl | rfl | rfl
    · simp [modbusFnReadHolding, modbusFnWriteMultiple]
    · simp [modbusFnReadHolding, modbusFnReadInput, modbusFnWriteMultiple]
    · simp [modbusFnReadHolding, modbusFnReadInput, modbusFnWriteSingle, modbusFnWriteMultiple]
    · have notOther : ¬ (modbusFnWriteMultiple = modbusFnReadHolding ∨
          modbusFnWriteMultiple = modbusFnReadInput) := by decide
      rw [if_neg notOther, if_neg (by decide), if_pos rfl, Option.map_eq_none_iff, beyond]
      simp [start]

/-- The action returns, and keeps what holds of the firmware text. -/
abbrev Proceeds {α : Type} (property : Text → Prop) (action : InSession α) : Prop :=
  Completes (fun session => property session.firmware) action
    (fun _ session => property session.firmware)

theorem attempt_proceeds {α : Type} {property : Text → Prop} {result : Except PyError α} {value : α}
    (returned : result = .ok value) : Proceeds property (attempt result : InSession α) :=
  (Completes.attempt value returned).weaken fun _ _ holds => holds.2

theorem noteCloudCommand_proceeds (property : Text → Prop) {frame : Frame} {command : ModbusCommand}
    (parsed : parseModbusCommand frame = some command) :
    Proceeds property (noteCloudCommand frame) := by
  obtain ⟨isRead, isWrite⟩ := modbusBody_keys (parseModbusCommand_some parsed)
  unfold noteCloudCommand
  dsimp only
  rw [parsed]
  -- the decoded command is the one all later stages work on
  refine Completes.bind (Completes.attempt command rfl) fun found => ?_
  intro session holds
  obtain ⟨rfl, before⟩ := holds
  refine (?_ : Proceeds property _) session before
  refine Completes.andThen (Completes.doWhen fun reads => ?_) fun _ => ?_
  · obtain ⟨count, isCount⟩ := isRead reads
    refine Completes.andThen (attempt_proceeds (show commandCount found = .ok count by
      rw [commandCount, isCount])) fun _ => ?_
    exact Completes.modify fun _ holds => holds
  refine Completes.andThen (Completes.readBind fun session _ => Completes.doWhen fun writes => ?_)
    fun _ => ?_
  · obtain ⟨value, isValue⟩ := isWrite writes.1
    refine Completes.andThen (attempt_proceeds (show commandValue found = .ok value by
      rw [commandValue, isValue])) fun _ => ?_
    exact Completes.modify fun _ holds => holds
  refine Completes.andThen (Completes.readBind fun session _ => ?_) fun _ => ?_
  · split
    · refine Completes.doWhen fun _ => ?_
      dsimp only
      refine Completes.andThen (Completes.modify fun _ holds => holds) fun _ => ?_
      split
      · exact Completes.perform
      · exact Completes.pure fun _ holds => holds
    · exact Completes.pure fun _ holds => holds
  exact Completes.readBind fun session _ => Completes.perform

/-- **`handleUpstreamFrame` returns** unless the command is cut. -/
theorem handleUpstreamFrame_proceeds (property : Text → Prop) (world : SessionWorld) {frame : Frame}
    (uncut : ¬ CutWriteMultiple frame) :
    Proceeds property (Session.handleUpstreamFrame world frame) := by
  refine Completes.readBind fun session _ => Completes.andThen Completes.perform fun _ => ?_
  refine Completes.doWhen fun isCommand => ?_
  cases parsed : parseModbusCommand frame with
  | none => exact absurd ((parseModbusCommand_none_iff isCommand).mp parsed) uncut
  | some command => exact noteCloudCommand_proceeds property parsed

theorem handleUpstreamFrame_survives (world : SessionWorld) {frame : Frame}
    (uncut : ¬ CutWriteMultiple frame) : Survives (Session.handleUpstreamFrame world frame) :=
  handleUpstreamFrame_proceeds (·.length ≤ 4300) world uncut

theorem handleUpstreamFrame_total (world : SessionWorld) {frame : Frame}
    (uncut : ¬ CutWriteMultiple frame) : Total (Session.handleUpstreamFrame world frame) := by
  intro session
  obtain ⟨value, returned, _⟩ :=
    handleUpstreamFrame_proceeds (fun _ => True) world uncut session trivial
  exact ⟨value, returned⟩

/-- A cut command is shown as a frame and ends the handler before it changes the session. -/
theorem handleUpstreamFrame_cut (world : SessionWorld) {frame : Frame}
    (cut : CutWriteMultiple frame) (session : Session) :
    (Session.handleUpstreamFrame world frame).run session =
      ⟨session, [.emit (.upstreamFrame session.serialText frame
        (session.lastTelemetryAt.map fun last => (world.time : Int) - last))],
        .error (.keyError "function")⟩ := by
  have isCommand : isModbusCommand frame = true :=
    isModbusCommand_iff.mpr ⟨cut.1, by rw [cut.2.1], _, by decide, cut.2.2⟩
  have nothing := (parseModbusCommand_none_iff isCommand).mpr cut
  rw [Session.handleUpstreamFrame, noteCloudCommand]
  rw [doWhen, if_pos isCommand, nothing]
  rfl

theorem handleUpstreamFrame_raises (world : SessionWorld) {frame : Frame}
    (cut : CutWriteMultiple frame) (session : Session) :
    ((Session.handleUpstreamFrame world frame).run session).value =
      .error (.keyError "function") := by
  rw [handleUpstreamFrame_cut world cut]

end FoxessGateway.Server
