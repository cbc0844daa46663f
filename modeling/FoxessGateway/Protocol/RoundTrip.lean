import FoxessGateway.Protocol.Extraction

/-! # Frames made and read back

What `makeFrame` builds, `parseFrame` reads back with a valid CRC, and `extractFrames` finds. -/

namespace FoxessGateway.Protocol

open ByteOrder Streaming

/-- The stretch of a byte string after `front`. -/
theorem slice_middle (front middle back : Bytes) {start stop : Nat} (isStart : start = front.length)
    (isStop : stop = front.length + middle.length) :
    slice (front ++ (middle ++ back)) start stop = middle := by
  subst isStart isStop
  rw [slice, List.take_length_add_append, List.take_left, List.drop_left]

theorem item_middle (front back : Bytes) (byte : UInt8) {index : Nat}
    (isIndex : index = front.length) : item (front ++ (byte :: back)) index = .ok byte := by
  subst isIndex
  rw [item_ok_iff]
  simp

/-- The frame whose bytes `makeFrame` builds. -/
def builtFrame (start device : Bytes) (func : UInt8) (payload endMarker : Bytes) : Frame :=
  let body := device ++ [func] ++ toBig 2 payload.length ++ payload
  { start := start, device := device, func := func, payload := payload, crc := crc16Le body,
    endMarker := endMarker, raw := start ++ body ++ crc16Le body ++ endMarker, validCrc := true }

theorem makeFrame_eq (start device : Bytes) (func : UInt8) {payload : Bytes} (endMarker : Bytes)
    (fits : payload.length < 256 ^ 2) :
    makeFrame start device func payload endMarker =
      .ok (builtFrame start device func payload endMarker).raw := by
  rw [makeFrame, toBytes_eq_ok fits]
  rfl

section Built

variable {start device payload endMarker : Bytes} {func : UInt8}

theorem builtFrame_length (startWidth : start.length = 2) (deviceWidth : device.length = 4)
    (endWidth : endMarker.length = 2) :
    (builtFrame start device func payload endMarker).raw.length = 13 + payload.length := by
  simp only [builtFrame, List.length_append, List.length_singleton, toBig_length, crc16Le_length]
  omega

/-- `parseFrame` gives back the fields, and the CRC is right. -/
theorem parseFrame_builtFrame (startWidth : start.length = 2) (deviceWidth : device.length = 4)
    (endWidth : endMarker.length = 2) (fits : payload.length < 256 ^ 2) :
    parseFrame (builtFrame start device func payload endMarker).raw =
      .ok (builtFrame start device func payload endMarker) := by
  have total : (builtFrame start device func payload endMarker).raw.length = 13 + payload.length :=
    builtFrame_length startWidth deviceWidth endWidth
  let body := device ++ [func] ++ toBig 2 payload.length ++ payload
  have shape : (builtFrame start device func payload endMarker).raw =
      start ++ (body ++ (crc16Le body ++ endMarker)) := by simp [builtFrame, body]
  have bodyWidth : body.length = 7 + payload.length := by
    simp only [body, List.length_append, List.length_singleton, toBig_length]
    omega
  generalize (builtFrame start device func payload endMarker).raw = raw at total shape
  have isStart : raw.take 2 = start := by
    rw [shape, ← startWidth, List.take_left]
  have isDevice : slice raw 2 6 = device := by
    rw [shape]
    simp only [body, List.append_assoc]
    exact slice_middle start device _ startWidth.symm (by omega)
  have isFunc : item raw 6 = .ok func := by
    have split : raw = (start ++ device) ++ (func :: (toBig 2 payload.length ++
        (payload ++ (crc16Le body ++ endMarker)))) := by simp [shape, body]
    rw [split]
    exact item_middle _ _ _ (by rw [List.length_append]; omega)
  have isLength : fromBig (slice raw 7 9) = payload.length := by
    have split : raw = (start ++ (device ++ [func])) ++ (toBig 2 payload.length ++
        (payload ++ (crc16Le body ++ endMarker))) := by simp [shape, body]
    have width : (start ++ (device ++ [func])).length = 7 := by
      simp only [List.length_append, List.length_singleton]
      omega
    rw [split, slice_middle _ (toBig 2 payload.length) _ width.symm (by rw [width, toBig_length]),
      fromBig_toBig fits]
  have isBody : slice raw 2 (9 + payload.length) = body := by
    rw [shape]
    exact slice_middle start body _ startWidth.symm (by omega)
  have isPayload : slice raw 9 (9 + payload.length) = payload := by
    have split : raw = (start ++ (device ++ ([func] ++ toBig 2 payload.length))) ++ (payload ++
        (crc16Le body ++ endMarker)) := by simp [shape, body]
    have width : (start ++ (device ++ ([func] ++ toBig 2 payload.length))).length = 9 := by
      simp only [List.length_append, List.length_singleton, toBig_length]
      omega
    rw [split]
    exact slice_middle _ payload _ width.symm (by rw [width])
  have isCrc : slice raw (9 + payload.length) (11 + payload.length) = crc16Le body := by
    have width : (start ++ body).length = 9 + payload.length := by
      rw [List.length_append]
      omega
    rw [shape, ← List.append_assoc]
    exact slice_middle _ (crc16Le body) _ width.symm (by rw [width, crc16Le_length]; omega)
  have isEnd : lastBytes raw 2 = endMarker := by
    have split : raw = (start ++ body ++ crc16Le body) ++ endMarker := by
      simp only [shape, List.append_assoc]
    have width : (start ++ body ++ crc16Le body).length = raw.length - 2 := by
      rw [total, List.length_append, List.length_append, crc16Le_length]
      omega
    rw [lastBytes, ← width]
    conv_lhs => rw [split]
    exact List.drop_left
  rw [parseFrame]
  rw [if_neg (by omega)]
  dsimp only
  rw [isLength, if_neg (by omega), isStart, isDevice, isFunc, isBody, isPayload, isCrc, isEnd]
  simp only [beq_self_eq_true]
  rw [shape]
  simp [builtFrame, body, bind, Except.bind, pure, Except.pure]

/-- A built frame of one of the two families, within the limit of `extractFrames`. -/
theorem builtFrame_wellFormed
    (marked : (start = marker7e ∧ endMarker = endE7) ∨ (start = marker7f ∧ endMarker = endF7))
    (deviceWidth : device.length = 4) (fits : payload.length ≤ 4083) :
    (builtFrame start device func payload endMarker).WellFormed := by
  have widths : start.length = 2 ∧ endMarker.length = 2 := by
    rcases marked with ⟨rfl, rfl⟩ | ⟨rfl, rfl⟩ <;> exact ⟨rfl, rfl⟩
  refine ⟨?_, marked, ?_⟩
  · exact parseFrame_builtFrame widths.1 deviceWidth widths.2 (by omega)
  · rw [builtFrame_length widths.1 deviceWidth widths.2]
    omega

end Built

/-- A well-formed frame alone in the buffer is extracted and nothing is left. -/
theorem Frame.WellFormed.extractFrames_raw {frame : Frame} (wellFormed : frame.WellFormed) :
    extractFrames frame.raw = ([frame], []) := by
  have seen := wellFormed.recognised []
  rw [List.append_nil] at seen
  have nothing : frameScanner.pass [] = .stop [] := rfl
  rw [extractFrames, Scanner.scan_emit seen, Scanner.scan_stop nothing]

/-! ## Streams of made frames -/

/-- What a frame is made from. -/
structure FrameFields where
  family : Family
  device : Bytes
  func : UInt8
  payload : Bytes
  known : family ≠ .unknown
  deviceWidth : device.length = 4
  fits : payload.length ≤ 4083

def Family.startMarker : Family → Bytes
  | .family7e => marker7e
  | .family7f => marker7f
  | .unknown => []

def Family.endMarker : Family → Bytes
  | .family7e => endE7
  | .family7f => endF7
  | .unknown => []

def FrameFields.encode (fields : FrameFields) : Except PyError Bytes :=
  makeFrame fields.family.startMarker fields.device fields.func fields.payload
    fields.family.endMarker

/-- The frame has these fields, and its CRC is right. -/
structure FrameFields.ReadAs (fields : FrameFields) (frame : Frame) : Prop where
  family : frame.family = fields.family
  device : frame.device = fields.device
  func : frame.func = fields.func
  payload : frame.payload = fields.payload
  validCrc : frame.validCrc = true

/-- The frame whose bytes `encode` gives. -/
def FrameFields.frame (fields : FrameFields) : Frame :=
  builtFrame fields.family.startMarker fields.device fields.func fields.payload
    fields.family.endMarker

theorem FrameFields.encode_eq (fields : FrameFields) : fields.encode = .ok fields.frame.raw := by
  have fits := fields.fits
  exact makeFrame_eq _ _ _ _ (by omega)

theorem FrameFields.frame_wellFormed (fields : FrameFields) : fields.frame.WellFormed := by
  apply builtFrame_wellFormed _ fields.deviceWidth fields.fits
  cases isFamily : fields.family with
  | family7e => exact .inl ⟨rfl, rfl⟩
  | family7f => exact .inr ⟨rfl, rfl⟩
  | unknown => exact absurd isFamily fields.known

theorem FrameFields.readAs_frame (fields : FrameFields) : fields.ReadAs fields.frame where
  family := by
    change (builtFrame fields.family.startMarker _ _ _ _).family = fields.family
    cases isFamily : fields.family with
    | family7e => rfl
    | family7f => rfl
    | unknown => exact absurd isFamily fields.known
  device := rfl
  func := rfl
  payload := rfl
  validCrc := rfl

theorem mapM_encode (elements : List FrameFields) :
    elements.mapM FrameFields.encode = .ok (elements.map fun fields => fields.frame.raw) := by
  induction elements with
  | nil => rfl
  | cons fields elements inductionHypothesis =>
    rw [List.mapM_cons, fields.encode_eq, inductionHypothesis]
    rfl

/-! ## Frames encoded again -/

theorem slice_append_slice (data : Bytes) {start middle stop : Nat} (first : start ≤ middle)
    (second : middle ≤ stop) :
    slice data start middle ++ slice data middle stop = slice data start stop := by
  have early : data.take middle = (data.take stop).take middle := by
    rw [List.take_take, Nat.min_eq_left second]
  have late : (data.take stop).drop middle =
      ((data.take stop).drop start).drop (middle - start) := by
    rw [List.drop_drop, Nat.add_sub_cancel' first]
  simp only [slice]
  rw [early, late, List.drop_take, List.take_append_drop]

theorem slice_singleton {data : Bytes} {index : Nat} {byte : UInt8}
    (found : data[index]? = some byte) : slice data index (index + 1) = [byte] := by
  obtain ⟨bound, _⟩ := List.getElem?_eq_some_iff.mp found
  have width : (data.take index).length = index := by
    rw [List.length_take]
    omega
  rw [slice, List.take_add_one, found, List.drop_append_of_le_length (by omega),
    List.drop_eq_nil_of_le (by omega)]
  rfl

theorem slice_length (data : Bytes) {start stop : Nat} (bound : stop ≤ data.length) :
    (slice data start stop).length = stop - start := by
  rw [slice, List.length_drop, List.length_take]
  omega

/-- A frame that was parsed with a right CRC is made again from its fields. -/
theorem makeFrame_of_parsed {frame : Frame} (parsed : parseFrame frame.raw = .ok frame)
    (short : frame.raw.length ≤ 4096) (validCrc : frame.validCrc = true) :
    makeFrame frame.start frame.device frame.func frame.payload frame.endMarker =
      .ok frame.raw := by
  obtain ⟨_, total, _, start, device, func, payload, endMarker, crc, valid⟩ := parseFrame_ok parsed
  generalize lengthIs : fromBig (slice frame.raw 7 9) = payloadLen at total payload crc valid
  have payloadWidth : frame.payload.length = payloadLen := by
    rw [payload, slice_length _ (by omega)]
    omega
  -- the length field is the one that is written again
  have lengthField : toBig 2 frame.payload.length = slice frame.raw 7 9 := by
    have width : (slice frame.raw 7 9).length = 2 := slice_length _ (by omega)
    have again := toBig_fromBig (slice frame.raw 7 9)
    rwa [width, lengthIs, ← payloadWidth] at again
  -- the fields lie next to each other in the frame
  have body : frame.device ++ [frame.func] ++ toBig 2 frame.payload.length ++ frame.payload =
      slice frame.raw 2 (9 + payloadLen) := by
    rw [lengthField, device, payload, ← slice_singleton func,
      slice_append_slice _ (by omega) (by omega), slice_append_slice _ (by omega) (by omega),
      slice_append_slice _ (by omega) (by omega)]
  have crcField : crc16Le (slice frame.raw 2 (9 + payloadLen)) =
      slice frame.raw (9 + payloadLen) (11 + payloadLen) := by
    rw [valid, beq_iff_eq] at validCrc
    rw [← validCrc, crc]
  have ending : frame.endMarker = slice frame.raw (11 + payloadLen) (13 + payloadLen) := by
    rw [endMarker, lastBytes, slice, ← total, List.take_length]
    congr 1
    omega
  have whole : slice frame.raw 0 (13 + payloadLen) = frame.raw := by
    rw [slice, ← total, List.take_length, List.drop_zero]
  rw [makeFrame, toBytes_eq_ok (show frame.payload.length < 256 ^ 2 by omega)]
  change Except.ok (frame.start ++ (frame.device ++ [frame.func] ++
    toBig 2 frame.payload.length ++ frame.payload) ++ _ ++ frame.endMarker) = _
  rw [body, crcField, start, ending, show frame.raw.take 2 = slice frame.raw 0 2 from rfl,
    slice_append_slice _ (by omega) (by omega), slice_append_slice _ (by omega) (by omega),
    slice_append_slice _ (by omega) (by omega), whole]

/-- **Round trips of frame streams.**  What `makeFrame` encodes, `extractFrames` takes apart
again, whatever the payloads look like; and a frame it finds with a right CRC is encoded to the
bytes it was found in. -/
theorem extractFrames_roundTrip :
    (∀ elements : List FrameFields, ∃ encoded frames,
      elements.mapM FrameFields.encode = .ok encoded ∧
        extractFrames encoded.flatten = (frames, []) ∧
        List.Forall₂ FrameFields.ReadAs elements frames) ∧
      ∀ buffer, ∀ frame ∈ (extractFrames buffer).1, frame.validCrc = true →
        makeFrame frame.start frame.device frame.func frame.payload frame.endMarker =
          .ok frame.raw := by
  constructor
  · intro elements
    refine ⟨_, elements.map FrameFields.frame, mapM_encode elements, ?_, ?_⟩
    · -- each frame is recognised at the front, so the scan never starts inside one
      have recognised : ∀ frame ∈ elements.map FrameFields.frame,
          frameScanner.Recognises Frame.raw frame := by
        intro frame member
        obtain ⟨fields, _, rfl⟩ := List.mem_map.mp member
        exact fields.frame_wellFormed.recognised
      have scanned := Scanner.scan_items _ recognised []
      have nothing : frameScanner.scan [] = ([], []) := Scanner.scan_stop rfl
      rw [nothing, List.append_nil, List.append_nil, List.map_map] at scanned
      exact scanned
    · rw [List.forall₂_map_right_iff, List.forall₂_same]
      exact fun fields _ => fields.readAs_frame
  · intro buffer frame found validCrc
    have wellFormed := extractFrames_wellFormed found
    exact makeFrame_of_parsed wellFormed.parsed wellFormed.short validCrc

end FoxessGateway.Protocol
