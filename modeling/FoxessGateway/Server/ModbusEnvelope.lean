import FoxessGateway.Server.LocalControl

/-! # Requests and responses in the Modbus envelope

Both travel in frames of the 7f family under the same functions, and only the shape of the payload
tells them apart.  A request has six bytes, and the third one is the high byte of its address where
a response has its byte count. -/

namespace FoxessGateway.Server

open ByteOrder Protocol

/-! ## Requests -/

theorem toBig_two (number : Nat) : ∃ high low, toBig 2 number = [high, low] :=
  List.length_eq_two.mp (toBig_length 2 number)

/-- A request is built of words that fit their fields, and of no others. -/
theorem buildModbusRequest_inv {function : UInt8} {device raw : Bytes} {address word : Nat}
    (built : buildModbusRequest function device address word = .ok raw) :
    address < 256 ^ 2 ∧ word < 256 ^ 2 ∧ raw = (requestFrame function device address word).raw := by
  by_cases addressFits : address < 256 ^ 2
  · by_cases wordFits : word < 256 ^ 2
    · rw [buildModbusRequest_eq function device addressFits wordFits] at built
      exact ⟨addressFits, wordFits, (Except.ok.inj built).symm⟩
    · rw [buildModbusRequest, toBytes_eq_ok addressFits, toBytes, if_neg wordFits] at built
      cases built
  · rw [buildModbusRequest, toBytes, if_neg addressFits] at built
    cases built

theorem requestFrame_extract (function : UInt8) {device : Bytes} (deviceWidth : device.length = 4)
    (address word : Nat) :
    extractFrames (requestFrame function device address word).raw =
      ([requestFrame function device address word], []) :=
  (builtFrame_wellFormed (.inr ⟨rfl, rfl⟩) deviceWidth (by simp)).extractFrames_raw

/-- The command a request carries. -/
theorem parseModbusCommand_request {function : UInt8} (known : function ∈ modbusFunctions)
    (device : Bytes) {address : Nat} (addressFits : address < 256 ^ 2) (word : Nat) :
    parseModbusCommand (requestFrame function device address word) =
      (modbusBody function ([0x01, function] ++ toBig 2 address ++ toBig 2 word)).map
        fun body => ⟨0x01, function, address, body⟩ := by
  have isAddress := fromBig_toBig addressFits
  obtain ⟨addressHigh, addressLow, addressField⟩ := toBig_two address
  obtain ⟨wordHigh, wordLow, wordField⟩ := toBig_two word
  rw [addressField] at isAddress
  have isCommand : isModbusCommand (requestFrame function device address word) = true := by
    simp [isModbusCommand, requestFrame, builtFrame, addressField, wordField, known]
  rw [parseModbusCommand, if_pos isCommand, requestFrame, addressField, wordField]
  change (modbusBody function _).map (fun body => (⟨0x01, function,
    fromBig [addressHigh, addressLow], body⟩ : ModbusCommand)) = _
  rw [isAddress]
  rfl

theorem slice_request (function : UInt8) (address : Nat) {word : Nat} (fits : word < 256 ^ 2) :
    fromBig (slice ([0x01, function] ++ toBig 2 address ++ toBig 2 word) 4 6) = word := by
  obtain ⟨addressHigh, addressLow, addressField⟩ := toBig_two address
  obtain ⟨wordHigh, wordLow, wordField⟩ := toBig_two word
  have isWord := fromBig_toBig fits
  rw [wordField] at isWord
  rw [addressField, wordField]
  exact isWord

/-- What a builder builds is one frame, and it carries this command. -/
def CarriesCommand (built : Except PyError Bytes) (device : Bytes) (command : ModbusCommand) :
    Prop :=
  ∃ raw frame, built = .ok raw ∧ extractFrames raw = ([frame], []) ∧ frame.validCrc = true ∧
    frame.device = device ∧ parseModbusCommand frame = some command

theorem buildModbusRequest_carries {function : UInt8} (known : function ∈ modbusFunctions)
    {device : Bytes} (deviceWidth : device.length = 4) {address word : Nat}
    (addressFits : address < 256 ^ 2) (wordFits : word < 256 ^ 2) {body : ModbusBody}
    (isBody : modbusBody function ([0x01, function] ++ toBig 2 address ++ toBig 2 word) =
      some body) :
    CarriesCommand (buildModbusRequest function device address word) device
      ⟨0x01, function, address, body⟩ := by
  refine ⟨_, requestFrame function device address word,
    buildModbusRequest_eq function device addressFits wordFits,
    requestFrame_extract function deviceWidth address word, rfl, rfl, ?_⟩
  rw [parseModbusCommand_request known device addressFits word, isBody]
  rfl

/-! ## Responses -/

/-- The payload of a response to a read. -/
def readResponsePdu (slave function : UInt8) (values : List Nat) : Bytes :=
  slave :: function :: UInt8.ofNat (2 * values.length) :: values.flatMap (toBig 2)

theorem words_length (values : List Nat) :
    (values.flatMap (toBig 2)).length = 2 * values.length := by
  induction values with
  | nil => rfl
  | cons value values inductionHypothesis =>
    rw [List.flatMap_cons, List.length_append, toBig_length, inductionHypothesis, List.length_cons]
    omega

/-- The words of a response are its registers. -/
theorem registerValues_words {values : List Nat} (fit : ∀ value ∈ values, value < 256 ^ 2) :
    registerValues values.length (values.flatMap (toBig 2)) = values := by
  induction values with
  | nil => rfl
  | cons value values inductionHypothesis =>
    have later := inductionHypothesis fun other member =>
      fit other (List.mem_cons_of_mem value member)
    have first := fromBig_toBig (fit value List.mem_cons_self)
    obtain ⟨high, low, field⟩ := toBig_two value
    rw [field] at first
    rw [List.flatMap_cons, field, List.length_cons]
    change fromBig [high, low] :: registerValues values.length (values.flatMap (toBig 2)) = _
    rw [first, later]

/-- A response with at least one register is read back. -/
theorem parseModbusReadResponse_pdu {frame : Frame} {slave function : UInt8} {values : List Nat}
    (start : frame.start = marker7f)
    (payload : frame.payload = readResponsePdu slave function values)
    (reads : function = modbusFnReadHolding ∨ function = modbusFnReadInput)
    (nonempty : values ≠ []) (few : values.length ≤ 127)
    (fit : ∀ value ∈ values, value < 256 ^ 2) :
    parseModbusReadResponse frame =
      some ⟨slave, function, UInt8.ofNat (2 * values.length), values⟩ := by
  have positive : 0 < values.length := List.length_pos_iff.mpr nonempty
  -- 127 registers are 254 bytes, which one byte can count
  have byteCount : (UInt8.ofNat (2 * values.length)).toNat = 2 * values.length := by
    rw [UInt8.toNat_ofNat']
    omega
  have total : frame.payload.length = 3 + 2 * values.length := by
    rw [payload, readResponsePdu]
    simp only [List.length_cons, words_length]
    omega
  have long : ¬ (frame.start ≠ marker7f ∨ frame.payload.length < 5) := by
    rw [not_or, not_not]
    exact ⟨start, by omega⟩
  rw [parseModbusReadResponse, if_neg long, payload]
  have shape : (function = modbusFnReadHolding ∨ function = modbusFnReadInput) ∧
      UInt8.ofNat (2 * values.length) > 0 ∧ UInt8.ofNat (2 * values.length) % 2 = 0 ∧
        (values.flatMap (toBig 2)).length = (UInt8.ofNat (2 * values.length)).toNat := by
    refine ⟨reads, ?_, ?_, ?_⟩
    · rw [gt_iff_lt, UInt8.lt_iff_toNat_lt, byteCount]
      change 0 < _
      omega
    · apply UInt8.toNat_inj.mp
      rw [UInt8.toNat_mod, byteCount]
      change 2 * values.length % 2 = 0
      omega
    · rw [byteCount, words_length]
  simp only [readResponsePdu]
  rw [if_pos shape, byteCount, Nat.mul_div_cancel_left _ (by decide), registerValues_words fit]

/-! ## Telling them apart -/

/-- The byte count of six bytes would have to be odd. -/
theorem six_notReadResponse {frame : Frame} (six : frame.payload.length = 6) :
    isModbusReadResponse frame = false := by
  rw [isModbusReadResponse, Option.isSome_eq_false_iff, Option.isNone_iff_eq_none,
    parseModbusReadResponse]
  split
  · rfl
  split
  · rename_i slave function byteCount data payload
    rw [payload] at six
    refine if_neg fun ⟨_, _, even, whole⟩ => ?_
    -- of six bytes three are data
    have odd : byteCount.toNat = 3 := by
      simp only [List.length_cons] at six
      omega
    have half := congrArg UInt8.toNat even
    rw [UInt8.toNat_mod, odd] at half
    exact absurd half (by decide)
  · rfl

theorem six_notReadException {frame : Frame} (six : frame.payload.length = 6) :
    isModbusReadException frame = false := by
  rw [isModbusReadException, Option.isSome_eq_false_iff, Option.isNone_iff_eq_none,
    parseModbusReadException]
  split
  · split
    · rename_i payload
      rw [payload] at six
      cases six
    · rfl
  · rfl

/-- A write succeeds with the function of a write, in its long form and in its short one. -/
theorem six_writeSuccess {frame : Frame} (six : frame.payload.length = 6)
    (succeeds : isModbusWriteSuccessResponse frame = true) :
    (parseModbusCommand frame).map ModbusCommand.function = some modbusFnWriteSingle := by
  rw [isModbusWriteSuccessResponse] at succeeds
  split at succeeds
  · cases succeeds
  split at succeeds
  · rename_i echoes
    exact echoes
  · -- the short form has two bytes
    have two := (of_decide_eq_true succeeds).1
    omega

/-- A frame that answers nothing. -/
structure AnswersNothing (frame : Frame) : Prop where
  noReadResponse : isModbusReadResponse frame = false
  noReadException : isModbusReadException frame = false
  noWriteSuccess : isModbusWriteSuccessResponse frame = false

/-- A request to read is no answer. -/
theorem requestFrame_answersNothing {function : UInt8}
    (reads : function = modbusFnReadHolding ∨ function = modbusFnReadInput) (device : Bytes)
    {address : Nat} (addressFits : address < 256 ^ 2) (word : Nat) :
    AnswersNothing (requestFrame function device address word) := by
  have six : (requestFrame function device address word).payload.length = 6 := by
    simp [requestFrame, builtFrame]
  refine ⟨six_notReadResponse six, six_notReadException six, ?_⟩
  by_contra succeeds
  have writes := six_writeSuccess six (Bool.eq_true_of_not_eq_false succeeds)
  have known : function ∈ modbusFunctions := by
    rcases reads with rfl | rfl <;> decide
  rw [parseModbusCommand_request known device addressFits word, Option.map_map] at writes
  obtain ⟨_, _, isWrite⟩ := Option.map_eq_some_iff.mp writes
  have same : function = modbusFnWriteSingle := isWrite
  rcases reads with rfl | rfl <;> exact absurd same (by decide)

/-- **The Modbus envelope.**  A request is found again as the command it was built from; a response
of up to 127 registers gives the registers; and a request to read is never taken for an answer. -/
theorem modbusEnvelope :
    (∀ device : Bytes, device.length = 4 → ∀ address word, address < 2 ^ 16 → word < 2 ^ 16 →
      CarriesCommand (buildModbusWriteSingle device address word) device
          ⟨1, modbusFnWriteSingle, address, .value word⟩ ∧
        CarriesCommand (buildModbusReadHolding device address word) device
          ⟨1, modbusFnReadHolding, address, .count word⟩ ∧
        CarriesCommand (buildModbusReadInput device address word) device
          ⟨1, modbusFnReadInput, address, .count word⟩) ∧
    (∀ (device : Bytes) (func slave function : UInt8) (values : List Nat), device.length = 4 →
      function = modbusFnReadHolding ∨ function = modbusFnReadInput →
      values ≠ [] → values.length ≤ 127 → (∀ value ∈ values, value < 2 ^ 16) →
      ∃ raw frame,
        makeFrame marker7f device func (readResponsePdu slave function values) endF7 = .ok raw ∧
        extractFrames raw = ([frame], []) ∧ frame.validCrc = true ∧
        isModbusReadResponse frame = true ∧
        parseModbusReadResponse frame =
          some ⟨slave, function, UInt8.ofNat (2 * values.length), values⟩) ∧
    ∀ device : Bytes, device.length = 4 → ∀ address count raw,
      buildModbusReadHolding device address count = .ok raw ∨
        buildModbusReadInput device address count = .ok raw →
      ∃ frame, extractFrames raw = ([frame], []) ∧ AnswersNothing frame := by
  refine ⟨?_, ?_, ?_⟩
  · intro device deviceWidth address word addressFits wordFits
    have isWord := fun function => slice_request function address wordFits
    refine ⟨buildModbusRequest_carries (by decide) deviceWidth addressFits wordFits ?_,
      buildModbusRequest_carries (by decide) deviceWidth addressFits wordFits ?_,
      buildModbusRequest_carries (by decide) deviceWidth addressFits wordFits ?_⟩
    · rw [modbusBody, isWord]
      rfl
    · rw [modbusBody, isWord]
      rfl
    · rw [modbusBody, isWord]
      rfl
  · intro device func slave function values deviceWidth reads nonempty few fit
    have short : (readResponsePdu slave function values).length ≤ 257 := by
      rw [readResponsePdu]
      simp only [List.length_cons, words_length]
      omega
    let frame := builtFrame marker7f device func (readResponsePdu slave function values) endF7
    have wellFormed : frame.WellFormed :=
      builtFrame_wellFormed (.inr ⟨rfl, rfl⟩) deviceWidth (by omega)
    have parsed : parseModbusReadResponse frame = some _ :=
      parseModbusReadResponse_pdu rfl rfl reads nonempty few fit
    refine ⟨frame.raw, frame, makeFrame_eq _ _ _ _ (by omega), wellFormed.extractFrames_raw, rfl,
      ?_, parsed⟩
    rw [isModbusReadResponse, parsed]
    rfl
  · intro device deviceWidth address count raw built
    obtain ⟨function, reads, built⟩ : ∃ function,
        (function = modbusFnReadHolding ∨ function = modbusFnReadInput) ∧
          buildModbusRequest function device address count = .ok raw :=
      built.elim (fun holding => ⟨_, .inl rfl, holding⟩) fun input => ⟨_, .inr rfl, input⟩
    obtain ⟨addressFits, _, rfl⟩ := buildModbusRequest_inv built
    exact ⟨_, requestFrame_extract function deviceWidth address count,
      requestFrame_answersNothing reads device addressFits count⟩

/-- The greatest response, of 127 registers. -/
theorem modbusEnvelope_longest :
    ∃ raw frame,
      makeFrame marker7f [0x12, 0, 1, 0x0B] commandEnvelopeFunc
        (readResponsePdu 1 modbusFnReadInput (List.replicate 127 0xCA5A)) endF7 = .ok raw ∧
      extractFrames raw = ([frame], []) ∧ frame.validCrc = true ∧
      isModbusReadResponse frame = true ∧
      parseModbusReadResponse frame =
        some ⟨1, modbusFnReadInput, UInt8.ofNat (2 * (List.replicate 127 0xCA5A).length),
          List.replicate 127 0xCA5A⟩ := by
  refine modbusEnvelope.2.1 _ _ _ _ _ rfl (.inr rfl) (by simp) (by simp) fun value member => ?_
  rw [List.eq_of_mem_replicate member]
  decide

end FoxessGateway.Server
