import FoxessGateway.Firmware.Uploader

/-! # Stop and wait

The trace of an upload: what it writes, in what order, and which frame it waits for before
it goes on. -/

namespace FoxessGateway.Firmware

open ByteOrder Protocol Runs

/-! ## The variants an upload can use -/

inductive Supported : FirmwareVariant → Prop where
  | variant7eA2 : Supported firmwareVariant7eA2
  | variant7fA2 : Supported firmwareVariant7fA2
  | dynamic (func idHigh idLow : UInt8) :
      Supported (dynamicVariant func ([idHigh, idLow] ++ transferSignature))

theorem selectVariant_supported {protocol : String} {randomFunc idHigh idLow : UInt8}
    {variant : FirmwareVariant}
    (selected : selectVariant protocol randomFunc idHigh idLow = .ok variant) :
    Supported variant := by
  unfold selectVariant at selected
  generalize
    (if protocol = "foxess-7f-func-99" then firmwareVariant7f99.name else protocol) = chosen
    at selected
  dsimp only at selected
  split at selected
  · cases selected; exact .variant7eA2
  split at selected
  · cases selected; exact .variant7fA2
  split at selected
  · cases selected; exact .dynamic randomFunc idHigh idLow
  · cases selected

theorem Supported.magic_length {variant : FirmwareVariant} (supported : Supported variant) :
    variant.magic.length = 5 := by
  cases supported <;> rfl

/-! ## Chunks -/

/-- The first chunks of a list make up its beginning. -/
theorem slices_flatten (data : Bytes) (count width : Nat) :
    ((List.range count).map fun index =>
      slice data (index * width) (index * width + width)).flatten =
      data.take (count * width) := by
  induction count with
  | zero => simp
  | succ count inductionHypothesis =>
    rw [List.range_succ, List.map_append, List.flatten_append, inductionHypothesis,
      List.map_singleton,
      List.flatten_singleton, slice, Nat.succ_mul]
    conv_rhs => rw [← List.take_append_drop (count * width) (data.take (count * width + width))]
    rw [List.take_take, Nat.min_eq_left (by omega)]

theorem FirmwareImage.chunks_take (image : FirmwareImage) {count : Nat}
    (bound : count ≤ image.chunks.length) :
    (image.chunks.take count).flatten = image.data.take (count * firmwareChunkSize) := by
  rw [FirmwareImage.chunks, List.length_map, List.length_range] at bound
  rw [FirmwareImage.chunks, ← List.map_take, List.take_range, Nat.min_eq_left bound, slices_flatten]

theorem FirmwareImage.chunks_length (image : FirmwareImage) :
    image.chunks.length = (image.data.length + 1023) / 1024 := by
  rw [FirmwareImage.chunks, List.length_map, List.length_range, image.sized]
  rfl

theorem FirmwareImage.chunks_flatten (image : FirmwareImage) :
    image.chunks.flatten = image.data := by
  have all := image.chunks_take (Nat.le_refl _)
  have length := image.chunks_length
  rw [List.take_length] at all
  rw [all, List.take_of_length_le]
  rw [length, firmwareChunkSize]
  omega

/-- The size field bounds the number of chunks, so their indices fit into two bytes. -/
theorem FirmwareImage.chunks_le (image : FirmwareImage) : image.chunks.length ≤ 64 := by
  have length := image.chunks_length
  have fits := image.fits
  omega

/-- The request for a chunk of the image, and the answer that ends the transfer or asks for the
next chunk. -/
theorem chunkRequest_eq (transfer : Transfer) {index : Nat} (chunk : Bytes)
    (bound : index < transfer.image.chunks.length) :
    chunkRequest transfer index chunk = .ok {
      firstDeviceByte := 0x22
      payload := transfer.variant.magic ++ toBig 2 index ++ chunk
      expected :=
        if index = transfer.image.chunks.length - 1 then
          transfer.variant.magic ++ transfer.variant.finalAckSuffix
        else transfer.variant.magic ++ toBig 2 (index + 1) ++ [0x05] } := by
  have few := transfer.image.chunks_le
  rw [chunkRequest, expectedChunkAck]
  rw [toBytes_eq_ok (show index < 256 ^ 2 by omega),
    toBytes_eq_ok (show index + 1 < 256 ^ 2 by omega)]
  by_cases last : index = transfer.image.chunks.length - 1
  · rw [if_pos last, if_pos last]
    rfl
  · rw [if_neg last, if_neg last]
    rfl

/-! ## Reading a trace -/

structure WrittenRequest where
  device : Bytes
  payload : Bytes
  raw : Bytes

def writes (trace : List UploadEvent) : List WrittenRequest :=
  trace.filterMap fun event => match event with
    | .wrote device payload raw => some ⟨device, payload, raw⟩
    | _ => none

/-- The frames delivered since the last request was written, the newest first. -/
def sinceWrite (trace : List UploadEvent) : List Frame :=
  trace.foldl (fun frames event => match event with
    | .wrote _ _ _ => []
    | .delivered frame => frame :: frames
    | _ => frames) []

/-- The image data in the chunk requests written. -/
def chunkData (trace : List UploadEvent) : Bytes :=
  ((writes trace).drop 1).flatMap fun request => request.payload.drop 7

section Trace

variable (trace : List UploadEvent)

@[simp] theorem writes_append (later : List UploadEvent) :
    writes (trace ++ later) = writes trace ++ writes later := by
  simp [writes]

@[simp] theorem writes_wrote (device payload raw : Bytes) :
    writes [.wrote device payload raw] = [⟨device, payload, raw⟩] := rfl

@[simp] theorem writes_delivered (frame : Frame) : writes [.delivered frame] = [] := rfl

@[simp] theorem sinceWrite_delivered (frame : Frame) :
    sinceWrite (trace ++ [.delivered frame]) = frame :: sinceWrite trace := by
  simp [sinceWrite]

/-- A frame stays among the newest while nothing is written. -/
theorem mem_sinceWrite (frame : Frame) {late : List UploadEvent} (quiet : writes late = []) :
    frame ∈ sinceWrite (trace ++ .delivered frame :: late) := by
  induction late using List.reverseRecOn with
  | nil => simp
  | append_singleton late event inductionHypothesis =>
    rw [writes_append, List.append_eq_nil_iff] at quiet
    have earlier := inductionHypothesis quiet.1
    rw [← List.cons_append, ← List.append_assoc]
    cases event with
    | wrote device payload raw => cases quiet.2
    | delivered other =>
      rw [sinceWrite_delivered]
      exact List.mem_cons_of_mem _ earlier
    | _ => simpa [sinceWrite] using earlier

@[simp] theorem sinceWrite_chunkAcknowledged (chunk chunks : Nat) :
    sinceWrite (trace ++ [.chunkAcknowledged chunk chunks]) = sinceWrite trace := by
  simp [sinceWrite]

end Trace

/-! ## What a request and its answer look like -/

/-- The device tail of request `index` of an upload that began at `counter`. -/
def requestTail (counter index : Nat) : Bytes := toBig 3 ((counter + index + 1) % 0x1000000)

variable {transfer : Transfer} {counter index : Nat}

/-- The bytes written are request `index` of the transfer. -/
structure Sent (transfer : Transfer) (counter index : Nat) (written : WrittenRequest) : Prop where
  request : ∃ request, uploadRequest transfer index = some (.ok request) ∧
    written.payload = request.payload ∧
    written.device = request.firstDeviceByte :: requestTail counter index
  framed : makeFrame transfer.variant.start written.device transfer.variant.func written.payload
    transfer.variant.endMarker = .ok written.raw

/-- The frame has the tail of request `index`, the function of the transfer and the payload
expected. -/
structure Answers (transfer : Transfer) (counter index : Nat) (frame : Frame) : Prop where
  tail : frame.device.drop 1 = requestTail counter index
  func : frame.func = transfer.variant.func
  expected : ∃ request, uploadRequest transfer index = some (.ok request) ∧
    frame.payload = request.expected

/-- The acknowledgement expected for request `index`. -/
def expectedAck (transfer : Transfer) (index : Nat) : Option Bytes :=
  match uploadRequest transfer index with
  | some (.ok request) => some request.expected
  | _ => none

theorem expectedAck_eq_some {payload : Bytes} :
    expectedAck transfer index = some payload ↔
      ∃ request, uploadRequest transfer index = some (.ok request) ∧
        payload = request.expected := by
  rw [expectedAck]
  split
  · rename_i request asked
    rw [asked]
    constructor
    · intro same
      exact ⟨request, rfl, (Option.some.inj same).symm⟩
    · rintro ⟨other, same, rfl⟩
      cases same
      rfl
  · rename_i other
    constructor
    · intro same; cases same
    · rintro ⟨request, asked, _⟩
      exact absurd asked (other request)

instance (frame : Frame) : Decidable (Answers transfer counter index frame) :=
  decidable_of_iff
    (frame.device.drop 1 = requestTail counter index ∧ frame.func = transfer.variant.func ∧
      expectedAck transfer index = some frame.payload)
    ⟨fun ⟨tail, func, expected⟩ => ⟨tail, func, expectedAck_eq_some.mp expected⟩,
      fun answers => ⟨answers.tail, answers.func, expectedAck_eq_some.mpr answers.expected⟩⟩

/-- The reason for each event: a request is the next of the transfer and the answer to the one
before it has been delivered since that was written; the image is accepted when this holds
of the last chunk. -/
def UploadBecause (transfer : Transfer) (counter : Nat) (before : List UploadEvent) :
    UploadEvent → Prop
  | .wrote device payload raw =>
    Sent transfer counter (writes before).length ⟨device, payload, raw⟩ ∧
      ∀ index, (writes before).length = index + 1 →
        ∃ frame ∈ sinceWrite before, Answers transfer counter index frame
  | .imageAccepted _ =>
    (writes before).length = transfer.image.chunks.length + 1 ∧
      ∃ frame ∈ sinceWrite before, Answers transfer counter transfer.image.chunks.length frame
  | _ => True

/-! ## Spec lemmas -/

/-- A client frame changes the queue and the future of the request it matches, and nothing
else. -/
theorem handleClientFrame_fields (uploader : FirmwareUploader) (frame : Frame) :
    (uploader.handleClientFrame frame).2.variant = uploader.variant ∧
    (uploader.handleClientFrame frame).2.counter = uploader.counter ∧
    (uploader.handleClientFrame frame).2.expectedTail = uploader.expectedTail ∧
    (uploader.handleClientFrame frame).2.active = uploader.active ∧
    ((uploader.handleClientFrame frame).2.ackFuture = uploader.ackFuture ∨
      ∃ variant, uploader.variant = some variant ∧ frame.func = variant.func ∧
        uploader.expectedTail = some (frame.device.drop 1) ∧
        (uploader.handleClientFrame frame).2.ackFuture =
          uploader.ackFuture.map (Future.settle frame.payload)) := by
  rw [FirmwareUploader.handleClientFrame]
  cases inUse : uploader.variant with
  | none => exact ⟨inUse, rfl, rfl, rfl, .inl rfl⟩
  | some variant =>
    dsimp only
    split
    · -- no transfer is active, or the payload is another one's
      exact ⟨inUse, rfl, rfl, rfl, .inl rfl⟩
    split
    · -- a progress frame goes to its queue
      exact ⟨rfl, rfl, rfl, rfl, .inl rfl⟩
    split
    · rename_i matching
      split
      · -- the answer to an earlier request
        exact ⟨inUse, rfl, rfl, rfl, .inl rfl⟩
      · rename_i tail
        exact ⟨rfl, rfl, rfl, rfl, .inr ⟨variant, rfl, matching.2, not_not.mp tail, rfl⟩⟩
    · exact ⟨inUse, rfl, rfl, rfl, .inl rfl⟩

/-- What `_send_and_expect` does before it waits. -/
theorem send_ok {uploader sent : FirmwareUploader} {request : UploadRequest} {device raw : Bytes}
    {variant : FirmwareVariant} (inUse : uploader.variant = some variant)
    (counted : uploader.counter % 0x1000000 = (counter + index) % 0x1000000)
    (wrote : uploader.send request = (sent, .ok (device, raw))) :
    device = request.firstDeviceByte :: requestTail counter index ∧
      makeFrame variant.start device variant.func request.payload variant.endMarker = .ok raw ∧
      sent = { uploader with
        counter := (counter + (index + 1)) % 0x1000000
        expectedTail := some (requestTail counter index)
        ackFuture := some .pending } := by
  have masked : (uploader.counter + 1) &&& 0xFFFFFF = (counter + index + 1) % 0x1000000 := by
    rw [show 0xFFFFFF = 2 ^ 24 - 1 from rfl, Nat.and_two_pow_sub_one_eq_mod]
    omega
  have small : (counter + index + 1) % 0x1000000 < 256 ^ 3 := Nat.mod_lt _ (by decide)
  rw [FirmwareUploader.send] at wrote
  dsimp only at wrote
  rw [masked, toBytes_eq_ok small, inUse] at wrote
  dsimp only at wrote
  cases made : makeFrame variant.start
      (request.firstDeviceByte :: toBig 3 ((counter + index + 1) % 0x1000000)) variant.func
      request.payload variant.endMarker with
  | error raised => rw [made] at wrote; cases wrote
  | ok bytes =>
    rw [made] at wrote
    cases wrote
    refine ⟨rfl, made, ?_⟩
    rw [inUse]
    rfl

/-- What an upload still running for a reply knows about request `index`. -/
structure InFlight (transfer : Transfer) (counter : Nat) (uploader : FirmwareUploader)
    (history : List UploadEvent) (index : Nat) (request : UploadRequest) : Prop where
  isRequest : uploadRequest transfer index = some (.ok request)
  written : (writes history).length = index + 1
  inUse : uploader.variant = some transfer.variant
  counted : uploader.counter % 0x1000000 = (counter + (index + 1)) % 0x1000000
  tail : uploader.expectedTail = some (requestTail counter index)
  future : uploader.ackFuture = some .pending ∨ ∃ received,
    uploader.ackFuture = some (.result received) ∧ ∃ frame ∈ sinceWrite history,
      frame.device.drop 1 = requestTail counter index ∧ frame.func = transfer.variant.func ∧
        frame.payload = received

/-- The invariant of an upload: everything so far had its reason, and the request awaited is in
flight. -/
def UploadInvariant (transfer : Transfer) (counter : Nat) (state : UploadState)
    (history : List UploadEvent) : Prop :=
  Justified (UploadBecause transfer counter) history ∧
    match state.phase with
    | .draining index request => InFlight transfer counter state.uploader history index request
    | .awaiting index request => InFlight transfer counter state.uploader history index request
    | _ => True

/-! ## One step -/

variable {history : List UploadEvent} {uploader : FirmwareUploader}

theorem abort_invariant (error : PyError)
    (justified : Justified (UploadBecause transfer counter) history) :
    UploadInvariant transfer counter (abort uploader error).1
      (history ++ (abort uploader error).2) :=
  ⟨justified_concat.mpr ⟨justified, trivial⟩, trivial⟩

/-- Writing request `index` when the requests before it are written and answered. -/
theorem writeRequest_invariant
    (justified : Justified (UploadBecause transfer counter) history)
    (written : (writes history).length = index)
    (answered : ∀ earlier, index = earlier + 1 →
      ∃ frame ∈ sinceWrite history, Answers transfer counter earlier frame)
    (inUse : uploader.variant = some transfer.variant)
    (counted : uploader.counter % 0x1000000 = (counter + index) % 0x1000000)
    (within : index ≤ transfer.image.chunks.length + 1) :
    UploadInvariant transfer counter (writeRequest transfer uploader index).1
      (history ++ (writeRequest transfer uploader index).2) := by
  rw [writeRequest]
  cases asked : uploadRequest transfer index with
  | none =>
    -- there is no such request, so the last chunk is the one before
    obtain ⟨last, rfl⟩ : ∃ last, index = last + 1 := by
      cases index with
      | zero => cases asked
      | succ last => exact ⟨last, rfl⟩
    have bound : transfer.image.chunks.length ≤ last := by
      have beyond : transfer.image.chunks[last]? = none := Option.map_eq_none_iff.mp asked
      exact List.getElem?_eq_none_iff.mp beyond
    obtain rfl : last = transfer.image.chunks.length := by omega
    exact ⟨justified_concat.mpr ⟨justified, written, answered _ rfl⟩, trivial⟩
  | some built =>
    cases built with
    | error raised => exact abort_invariant raised justified
    | ok request =>
      dsimp only
      cases wrote : uploader.send request with
      | mk sent result =>
        cases result with
        | error raised => exact abort_invariant raised justified
        | ok bytes =>
          obtain ⟨device, raw⟩ := bytes
          obtain ⟨isDevice, framed, isSent⟩ := send_ok inUse counted wrote
          have reason : UploadBecause transfer counter history
              (.wrote device request.payload raw) := by
            refine ⟨?_, fun earlier before => answered earlier (written.symm.trans before)⟩
            rw [written]
            exact ⟨⟨request, asked, rfl, isDevice⟩, framed⟩
          refine ⟨justified_concat.mpr ⟨justified, reason⟩, ?_⟩
          subst isSent
          exact {
            isRequest := asked
            written := by simp [written]
            inUse := inUse
            counted := Nat.mod_mod _ _
            tail := rfl
            future := .inl rfl }

/-- An answer in hand, the next request may be written. -/
theorem receiveAck_invariant {request : UploadRequest} {received : Bytes}
    (justified : Justified (UploadBecause transfer counter) history)
    (flying : InFlight transfer counter uploader history index request)
    (settled : uploader.ackFuture = some (.result received)) :
    UploadInvariant transfer counter (receiveAck transfer uploader index request received).1
      (history ++ (receiveAck transfer uploader index request received).2) := by
  rw [receiveAck]
  by_cases unexpected : received ≠ request.expected
  · rw [if_pos unexpected]
    exact abort_invariant _ justified
  rw [if_neg unexpected]
  obtain rfl : received = request.expected := not_not.mp unexpected
  -- the payload that was received is that of a frame in the trace, with tail and function
  have answer : ∃ frame ∈ sinceWrite history, Answers transfer counter index frame := by
    rcases flying.future with pending | ⟨other, result, frame, member, tail, func, payload⟩
    · cases settled.symm.trans pending
    · cases settled.symm.trans result
      exact ⟨frame, member, tail, func, request, flying.isRequest, payload⟩
  have within : index + 1 ≤ transfer.image.chunks.length + 1 := by
    have known := flying.isRequest
    cases index with
    | zero => omega
    | succ chunk =>
      obtain ⟨_, found, _⟩ := Option.map_eq_some_iff.mp known
      have := (List.getElem?_eq_some_iff.mp found).1
      omega
  -- the report of an acknowledged chunk writes nothing and delivers nothing
  have noted : Justified (UploadBecause transfer counter)
      (history ++ acknowledged transfer index) ∧
      (writes (history ++ acknowledged transfer index)).length = index + 1 ∧
      sinceWrite (history ++ acknowledged transfer index) = sinceWrite history := by
    cases index with
    | zero => exact ⟨by simpa [acknowledged] using justified, by simpa [acknowledged] using
        flying.written, by simp [acknowledged]⟩
    | succ chunk =>
      refine ⟨justified_concat.mpr ⟨justified, trivial⟩, ?_, by simp [acknowledged]⟩
      rw [writes_append]
      simpa [acknowledged, writes] using flying.written
  obtain ⟨stillJustified, stillWritten, stillSince⟩ := noted
  dsimp only
  rw [← List.append_assoc]
  refine writeRequest_invariant stillJustified stillWritten ?_ flying.inUse flying.counted within
  intro earlier same
  obtain rfl : index = earlier := by omega
  rw [stillSince]
  exact answer

/-- A frame delivered to the upload keeps what is in flight in flight. -/
theorem InFlight.deliver {request : UploadRequest}
    (flying : InFlight transfer counter uploader history index request) (frame : Frame) :
    InFlight transfer counter (uploader.handleClientFrame frame).2 (history ++ [.delivered frame])
      index request := by
  obtain ⟨variant, counterSame, tailSame, _, future⟩ := handleClientFrame_fields uploader frame
  refine {
    isRequest := flying.isRequest
    written := by simpa using flying.written
    inUse := variant.trans flying.inUse
    counted := by rw [counterSame, flying.counted]
    tail := tailSame.trans flying.tail
    future := ?_ }
  have before : ∀ received, uploader.ackFuture = some (.result received) →
      ∃ frame' ∈ sinceWrite (history ++ [.delivered frame]),
        frame'.device.drop 1 = requestTail counter index ∧
          frame'.func = transfer.variant.func ∧ frame'.payload = received := by
    intro received settled
    rcases flying.future with pending | ⟨other, result, frame', member, matching⟩
    · cases settled.symm.trans pending
    · cases settled.symm.trans result
      exact ⟨frame', by rw [sinceWrite_delivered]; exact List.mem_cons_of_mem _ member, matching⟩
  rcases future with same | ⟨current, inUse, func, tail, settled⟩
  · rw [same]
    rcases flying.future with pending | ⟨received, result, _⟩
    · exact .inl pending
    · exact .inr ⟨received, result, before received result⟩
  · rw [settled]
    rcases flying.future with pending | ⟨received, result, _⟩
    · -- the frame answers the request: it has its tail and its function
      refine .inr ⟨frame.payload, by rw [pending]; rfl, frame, ?_, ?_, ?_, rfl⟩
      · rw [sinceWrite_delivered]
        exact List.mem_cons_self
      · have same := tail.symm.trans flying.tail
        exact Option.some.inj same
      · have same := inUse.symm.trans flying.inUse
        rw [func, Option.some.inj same]
    · exact .inr ⟨received, by rw [result]; rfl, before received result⟩

theorem uploadStep_invariant {state next : UploadState} {action : UploadAction}
    {shown : List UploadEvent} (invariant : UploadInvariant transfer counter state history)
    (stepped : uploadMachine transfer state action = some (next, shown)) :
    UploadInvariant transfer counter next (history ++ shown) := by
  obtain ⟨justified, standing⟩ := invariant
  cases UploadStep.of_machine stepped with
  | deliver uploader phase frame =>
    -- nothing is written, so only what is in flight is to be kept
    refine ⟨justified_concat.mpr ⟨justified, trivial⟩, ?_⟩
    cases phase with
    | draining index request => exact standing.deliver frame
    | awaiting index request => exact standing.deliver frame
    | _ => trivial
  | drained uploader index request =>
    rw [List.append_nil]
    exact ⟨justified, standing⟩
  | receive settled => exact receiveAck_invariant justified standing settled
  | progress waiting low => exact ⟨justified_concat.mpr ⟨justified, trivial⟩, trivial⟩
  | @flashed uploader progress percent queue waiting high =>
    have reported : Justified (UploadBecause transfer counter) (history ++ [.progress percent]) :=
      justified_concat.mpr ⟨justified, trivial⟩
    rw [show [UploadEvent.progress percent, .flashed (progress ++ [percent])] =
      [.progress percent] ++ [.flashed (progress ++ [percent])] from rfl, ← List.append_assoc]
    exact ⟨justified_concat.mpr ⟨reported, trivial⟩, trivial⟩
  | interrupt uploader error going => exact abort_invariant error justified

/-! ## Whole uploads -/

/-- The invariant holds when `upload` first awaits. -/
theorem upload_invariant (uploader : FirmwareUploader) (image : FirmwareImage) {protocol : String}
    {randomFunc idHigh idLow : UInt8} {variant : FirmwareVariant}
    (selected : selectVariant protocol randomFunc idHigh idLow = .ok variant) :
    UploadInvariant ⟨image, uploader.serial, variant⟩ uploader.counter
      (uploader.upload image protocol randomFunc idHigh idLow).1
      (uploader.upload image protocol randomFunc idHigh idLow).2 := by
  rw [FirmwareUploader.upload]
  by_cases active : uploader.active = true
  · rw [if_pos active]
    exact ⟨justified_concat.mpr ⟨justified_nil, trivial⟩, trivial⟩
  · rw [if_neg active, selected]
    exact writeRequest_invariant justified_nil rfl (fun _ impossible => nomatch impossible) rfl
      rfl (Nat.zero_le _)

/-- Every request written is the one its place in the trace says. -/
theorem justified_sent {trace : List UploadEvent}
    (justified : Justified (UploadBecause transfer counter) trace) :
    ∀ place written, (writes trace)[place]? = some written →
      Sent transfer counter place written := by
  induction trace using List.reverseRecOn with
  | nil => intro place written found; cases found
  | append_singleton trace event inductionHypothesis =>
    obtain ⟨earlier, reason⟩ := justified_concat.mp justified
    intro place written found
    rw [writes_append] at found
    rcases Nat.lt_or_ge place (writes trace).length with inner | last
    · rw [List.getElem?_append_left inner] at found
      exact inductionHypothesis earlier place written found
    · -- the last place is that of the newest event, if it writes
      rw [List.getElem?_append_right last] at found
      cases event with
      | wrote device payload raw =>
        rw [writes_wrote, List.getElem?_singleton] at found
        split at found
        · obtain rfl : place = (writes trace).length := by omega
          cases found
          exact reason.1
        · cases found
      | _ => cases found

/-- The chunk data written is the data of the first chunks. -/
theorem justified_chunkData {trace : List UploadEvent} (supported : Supported transfer.variant)
    (justified : Justified (UploadBecause transfer counter) trace) :
    (writes trace).length - 1 ≤ transfer.image.chunks.length ∧
      chunkData trace = (transfer.image.chunks.take ((writes trace).length - 1)).flatten := by
  have sent := justified_sent justified
  -- the chunk in request `place + 1`
  have chunkOf : ∀ place written, (writes trace)[place + 1]? = some written →
      transfer.image.chunks[place]? = some (written.payload.drop 7) := by
    intro place written found
    obtain ⟨request, asked, payload, _⟩ := (sent _ _ found).request
    obtain ⟨chunk, isChunk, built⟩ := Option.map_eq_some_iff.mp asked
    have bound := (List.getElem?_eq_some_iff.mp isChunk).1
    rw [chunkRequest_eq transfer chunk bound] at built
    cases built
    have front : (transfer.variant.magic ++ toBig 2 place).length = 7 := by
      rw [List.length_append, supported.magic_length, toBig_length]
    rw [isChunk, payload, List.drop_left' front]
  have lengths : (writes trace).length - 1 ≤ transfer.image.chunks.length := by
    by_contra beyond
    have bound : transfer.image.chunks.length + 1 < (writes trace).length := by omega
    have found := chunkOf _ _ (List.getElem?_eq_getElem bound)
    rw [List.getElem?_eq_none (Nat.le_refl _)] at found
    cases found
  refine ⟨lengths, ?_⟩
  rw [chunkData]
  rw [List.flatMap_def]
  congr 1
  refine List.ext_getElem? fun place => ?_
  rw [List.getElem?_map, List.getElem?_drop, List.getElem?_take, Nat.add_comm 1 place]
  cases found : (writes trace)[place + 1]? with
  | none =>
    have beyond := List.getElem?_eq_none_iff.mp found
    rw [if_neg (by omega)]
    rfl
  | some written =>
    have inside := (List.getElem?_eq_some_iff.mp found).1
    rw [if_pos (by omega), chunkOf place written found]
    rfl

/-- **Stop and wait.**  Each request is the next of the transfer, and is written only after a
frame was delivered, since the request before it, that has that request's tail, the function
of the transfer and exactly the payload expected; the chunk data written is a beginning of the
image; and the image is accepted only when all of it was written and acknowledged. -/
theorem upload_stopAndWait (uploader : FirmwareUploader) (image : FirmwareImage)
    (protocol : String) (randomFunc idHigh idLow : UInt8) (variant : FirmwareVariant)
    (selected : selectVariant protocol randomFunc idHigh idLow = .ok variant)
    (actions : List UploadAction) (final : UploadState) (trace : List UploadEvent)
    (ran : run (uploadMachine ⟨image, uploader.serial, variant⟩)
      (uploader.upload image protocol randomFunc idHigh idLow).1 actions = some (final, trace)) :
    let whole := (uploader.upload image protocol randomFunc idHigh idLow).2 ++ trace
    Justified (UploadBecause ⟨image, uploader.serial, variant⟩ uploader.counter) whole ∧
    (∀ before after, whole = before ++ after → chunkData before <+: image.data) ∧
    (∀ before chunks after, whole = before ++ .imageAccepted chunks :: after →
      chunkData before = image.data) := by
  have supported := selectVariant_supported selected
  have justified := (run_invariant uploadStep_invariant
    (upload_invariant uploader image selected) ran).1
  refine ⟨justified, ?_, ?_⟩
  · intro before after split
    rw [split] at justified
    obtain ⟨bound, data⟩ := justified_chunkData supported justified.of_append
    rw [data, image.chunks_take bound]
    exact List.take_prefix _ _
  · intro before chunks after split
    obtain ⟨written, _⟩ := justified before _ after split
    rw [split] at justified
    obtain ⟨_, data⟩ := justified_chunkData supported justified.of_append
    rw [data, written, Nat.add_sub_cancel, List.take_length, image.chunks_flatten]

/-- An image of one byte. -/
def oneByteImage : FirmwareImage where
  data := [0x2a]
  filename := ['f']
  size := 1
  crc := crc16Le [0x2a]
  nonempty := by decide
  fits := by decide
  safe := by decide +kernel
  sized := rfl
  checked := rfl

/-- A frame of the inverter in answer to a 7e transfer. -/
def answerFrame (tail payload : Bytes) : Frame :=
  let body := [0xA1] ++ tail ++ [0xA2] ++ toBig 2 payload.length ++ payload
  { start := marker7f, device := [0xA1] ++ tail, func := 0xA2, payload := payload,
    crc := crc16Le body, endMarker := endF7, raw := marker7f ++ body ++ crc16Le body ++ endF7,
    validCrc := true }

def oneByteTransfer : Transfer := ⟨oneByteImage, ['S'], firmwareVariant7eA2⟩

/-- `upload` of `oneByteImage` up to its first `await`. -/
def oneByteUpload : UploadState × List UploadEvent :=
  (FirmwareUploader.fresh ['S'] 0).upload oneByteImage "foxess-7e-func-a2" 0 0 0

/-- The answers that complete the transfer of `oneByteImage`. -/
def oneByteAnswers : List UploadAction :=
  [.drained, .deliver (answerFrame [0, 0, 1] (firmwareMagic ++ [0, 0, 5])), .receive,
    .drained, .deliver (answerFrame [0, 0, 2] firmwareMagic), .receive]

theorem upload_stopAndWait_oneByte :
    ∃ final trace,
      run (uploadMachine oneByteTransfer) oneByteUpload.1 oneByteAnswers = some (final, trace) ∧
      .imageAccepted 1 ∈ trace ∧
      Justified (UploadBecause oneByteTransfer 0) (oneByteUpload.2 ++ trace) := by
  have accepted : (run (uploadMachine oneByteTransfer) oneByteUpload.1 oneByteAnswers).any
      (fun reached => reached.2.contains (.imageAccepted 1)) = true := by decide +kernel
  obtain ⟨⟨final, trace⟩, ran, member⟩ := (Option.any_eq_true _ _).mp accepted
  exact ⟨final, trace, ran, by simpa using member,
    (upload_stopAndWait (.fresh ['S'] 0) oneByteImage _ 0 0 0 firmwareVariant7eA2 rfl _ final
      trace ran).1⟩

end FoxessGateway.Firmware
