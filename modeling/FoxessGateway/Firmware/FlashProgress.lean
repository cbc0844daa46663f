import FoxessGateway.Firmware.StopAndWait

/-! # The progress of a flash

`upload` reports a flash when it takes a progress value of 100 or more off its queue.  The
queue fills from the moment the upload is active, so what the report is worth depends on
what the queue was given first. -/

namespace FoxessGateway.Firmware

open ByteOrder Protocol Runs

/-! ## Progress in a trace -/

/-- The percentage, if the frame is a progress frame of the transfer. -/
def progressOf (transfer : Transfer) (frame : Frame) : Option UInt8 :=
  if transfer.variant.magic <+: frame.payload then progressPercent frame else none

/-- The percentages of the transfer's progress frames, in the order of their delivery. -/
def percents (transfer : Transfer) (trace : List UploadEvent) : List UInt8 :=
  trace.filterMap fun event => match event with
    | .delivered frame => progressOf transfer frame
    | _ => none

def UploadEvent.ends : UploadEvent → Bool
  | .flashed _ | .raised _ => true
  | _ => false

/-- The upload has neither returned nor raised. -/
def Ongoing (trace : List UploadEvent) : Prop := ∀ event ∈ trace, event.ends = false

/-- The acknowledgement of the final chunk has been received. -/
def FinalAcked (transfer : Transfer) (counter : Nat) (trace : List UploadEvent) : Prop :=
  (writes trace).length = transfer.image.chunks.length + 1 ∧
    ∃ frame ∈ sinceWrite trace, Answers transfer counter transfer.image.chunks.length frame

/-- A flash is reported only after a progress frame of 100 percent that came after the final
acknowledgement. -/
def FinishedFlash (transfer : Transfer) (counter : Nat) (trace : List UploadEvent) : Prop :=
  ∀ before progress after, trace = before ++ .flashed progress :: after →
    ∃ early frame late, before = early ++ .delivered frame :: late ∧
      progressOf transfer frame = some 100 ∧ FinalAcked transfer counter early

/-- The first progress frame of 100 or more that reaches the upload says 100, and comes after
the final acknowledgement. -/
def TimelyProgress (transfer : Transfer) (counter : Nat) (trace : List UploadEvent) : Prop :=
  ∀ before frame after percent, trace = before ++ .delivered frame :: after → Ongoing before →
    progressOf transfer frame = some percent → 100 ≤ percent →
    (∀ earlier ∈ percents transfer before, earlier < 100) →
    percent = 100 ∧ FinalAcked transfer counter before

variable {transfer : Transfer} {counter index : Nat} {history : List UploadEvent}
  {uploader : FirmwareUploader}

@[simp] theorem percents_append (first later : List UploadEvent) :
    percents transfer (first ++ later) = percents transfer first ++ percents transfer later := by
  simp [percents]

theorem Ongoing.append {later : List UploadEvent} (ongoing : Ongoing history)
    (quiet : ∀ event ∈ later, event.ends = false) : Ongoing (history ++ later) := by
  intro event member
  rcases List.mem_append.mp member with before | now
  · exact ongoing event before
  · exact quiet event now

/-- The first percentage of 100 or more was that of a frame delivered. -/
theorem percents_split {front back : List UInt8} {percent : UInt8} {trace : List UploadEvent}
    (split : percents transfer trace = front ++ percent :: back) :
    ∃ early frame late, trace = early ++ .delivered frame :: late ∧
      progressOf transfer frame = some percent ∧ percents transfer early = front := by
  obtain ⟨first, rest, rfl, isFront, isRest⟩ := List.filterMap_eq_append_iff.mp split
  obtain ⟨skipped, event, late, rfl, none, isEvent, _⟩ := List.filterMap_eq_cons_iff.mp isRest
  cases event with
  | delivered frame =>
    refine ⟨first ++ skipped, frame, late, by simp, isEvent, ?_⟩
    have nothing : percents transfer skipped = [] := List.filterMap_eq_nil_iff.mpr none
    rw [percents_append, nothing, List.append_nil]
    exact isFront
  | _ => cases isEvent

/-! ## The queue -/

/-- While an upload runs, what it has taken off the queue and what is left on it are the
percentages delivered. -/
structure Queued (transfer : Transfer) (uploader : FirmwareUploader) (history : List UploadEvent)
    (taken : List UInt8) : Prop where
  active : uploader.active = true
  inUse : uploader.variant = some transfer.variant
  ongoing : Ongoing history
  queue : taken ++ uploader.progressQueue = percents transfer history
  low : ∀ percent ∈ taken, percent < 100

/-- The reason for reporting a flash: of the progress frames of the upload, the first of 100
or more. -/
def FlashedBecause (transfer : Transfer) (before : List UploadEvent) : UploadEvent → Prop
  | .flashed _ => ∃ early frame late percent, before = early ++ .delivered frame :: late ∧
      Ongoing early ∧ progressOf transfer frame = some percent ∧ 100 ≤ percent ∧
      ∀ earlier ∈ percents transfer early, earlier < 100
  | _ => True

def FlashInvariant (transfer : Transfer) (state : UploadState) (history : List UploadEvent) :
    Prop :=
  Justified (FlashedBecause transfer) history ∧
    match state.phase with
    | .draining _ _ => Queued transfer state.uploader history []
    | .awaiting _ _ => Queued transfer state.uploader history []
    | .flashing progress => Queued transfer state.uploader history progress
    | _ => True

theorem abort_flashInvariant (error : PyError)
    (justified : Justified (FlashedBecause transfer) history) :
    FlashInvariant transfer (abort uploader error).1 (history ++ (abort uploader error).2) :=
  ⟨justified_concat.mpr ⟨justified, trivial⟩, trivial⟩

/-- An event that neither ends the upload nor brings progress leaves the queue as it is. -/
theorem Queued.note {taken : List UInt8} (event : UploadEvent)
    (queued : Queued transfer uploader history taken) (quiet : event.ends = false)
    (nothing : percents transfer [event] = []) :
    Queued transfer uploader (history ++ [event]) taken where
  active := queued.active
  inUse := queued.inUse
  ongoing := queued.ongoing.append fun other member => by rwa [List.mem_singleton.mp member]
  queue := by rw [percents_append, nothing, List.append_nil, queued.queue]
  low := queued.low

theorem Queued.deliver {taken : List UInt8} (queued : Queued transfer uploader history taken)
    (frame : Frame) :
    Queued transfer (uploader.handleClientFrame frame).2 (history ++ [.delivered frame]) taken := by
  obtain ⟨variant, _, _, active, _⟩ := handleClientFrame_fields uploader frame
  refine {
    active := active.trans queued.active
    inUse := variant.trans queued.inUse
    ongoing := queued.ongoing.append fun other member => by rw [List.mem_singleton.mp member]; rfl
    queue := ?_
    low := queued.low }
  have delivered : percents transfer [.delivered frame] = (progressOf transfer frame).toList := by
    simp only [percents, List.filterMap_cons, List.filterMap_nil]
    cases progressOf transfer frame <;> rfl
  rw [percents_append, delivered, ← queued.queue, List.append_assoc, List.append_cancel_left_eq]
  -- the percentage of the frame, if it has one, is now the last of the queue
  rw [FirmwareUploader.handleClientFrame, progressOf]
  rw [queued.inUse]
  dsimp only
  by_cases other : transfer.variant.magic <+: frame.payload
  · rw [if_neg (by simp [queued.active, other]), if_pos other]
    cases progressPercent frame with
    | some percent => rfl
    | none =>
      dsimp only
      split
      · split <;> simp
      · simp
  · rw [if_pos (.inr other), if_neg other]
    simp

/-- The event of a written or refused request leaves the queue as it is. -/
theorem writeRequest_flashInvariant
    (justified : Justified (FlashedBecause transfer) history)
    (queued : Queued transfer uploader history []) :
    FlashInvariant transfer (writeRequest transfer uploader index).1
      (history ++ (writeRequest transfer uploader index).2) := by
  rw [writeRequest]
  split
  · exact ⟨justified_concat.mpr ⟨justified, trivial⟩, queued.note _ rfl rfl⟩
  · exact abort_flashInvariant _ justified
  · rename_i request _
    have sent : (uploader.send request).1.active = uploader.active ∧
        (uploader.send request).1.variant = uploader.variant ∧
        (uploader.send request).1.progressQueue = uploader.progressQueue := by
      rw [FirmwareUploader.send]
      dsimp only
      split
      · exact ⟨rfl, rfl, rfl⟩
      split
      · exact ⟨rfl, rfl, rfl⟩
      split <;> exact ⟨rfl, rfl, rfl⟩
    split
    · exact abort_flashInvariant _ justified
    · rename_i after device raw wrote
      rw [wrote] at sent
      obtain ⟨active, variant, queue⟩ := sent
      have kept : Queued transfer after history [] := {
        active := active.trans queued.active
        inUse := variant.trans queued.inUse
        ongoing := queued.ongoing
        queue := by rw [queue, queued.queue]
        low := queued.low }
      exact ⟨justified_concat.mpr ⟨justified, trivial⟩, kept.note _ rfl rfl⟩

theorem receiveAck_flashInvariant (index : Nat) (request : UploadRequest) (received : Bytes)
    (justified : Justified (FlashedBecause transfer) history)
    (queued : Queued transfer uploader history []) :
    FlashInvariant transfer (receiveAck transfer uploader index request received).1
      (history ++ (receiveAck transfer uploader index request received).2) := by
  rw [receiveAck]
  split
  · exact abort_flashInvariant _ justified
  · dsimp only
    rw [← List.append_assoc]
    cases index with
    | zero =>
      rw [acknowledged, List.append_nil]
      exact writeRequest_flashInvariant justified queued
    | succ chunk =>
      exact writeRequest_flashInvariant (justified_concat.mpr ⟨justified, trivial⟩)
        (queued.note _ rfl rfl)

/-- The value that ends the loop is the first of 100 or more that was delivered. -/
theorem Queued.flashed {taken queue : List UInt8} {percent : UInt8}
    (queued : Queued transfer uploader history taken)
    (waiting : uploader.progressQueue = percent :: queue) (high : 100 ≤ percent)
    (progress : List UInt8) : FlashedBecause transfer (history ++ [.progress percent])
      (.flashed progress) := by
  -- nothing below 100 is left before it: those were taken off the queue earlier
  have split := queued.queue.symm
  rw [waiting] at split
  obtain ⟨early, frame, late, rfl, isPercent, isTaken⟩ := percents_split split
  refine ⟨early, frame, late ++ [.progress percent], percent, by simp, ?_, isPercent, high, ?_⟩
  · exact fun event member => queued.ongoing event (by simp [member])
  · rw [isTaken]
    exact queued.low

theorem uploadStep_flashInvariant {state next : UploadState} {action : UploadAction}
    {shown : List UploadEvent} (invariant : FlashInvariant transfer state history)
    (stepped : uploadMachine transfer state action = some (next, shown)) :
    FlashInvariant transfer next (history ++ shown) := by
  obtain ⟨justified, standing⟩ := invariant
  cases UploadStep.of_machine stepped with
  | deliver uploader phase frame =>
    refine ⟨justified_concat.mpr ⟨justified, trivial⟩, ?_⟩
    cases phase with
    | draining index request => exact Queued.deliver standing frame
    | awaiting index request => exact Queued.deliver standing frame
    | flashing progress => exact Queued.deliver standing frame
    | _ => trivial
  | drained uploader index request =>
    rw [List.append_nil]
    exact ⟨justified, standing⟩
  | @receive uploader index request received settled =>
    exact receiveAck_flashInvariant index request received justified standing
  | @progress uploader progress percent queue waiting low =>
    -- below 100: the loop goes on with the value among those taken
    have queued : Queued transfer uploader history progress := standing
    have noted := queued.note (.progress percent) rfl rfl
    refine ⟨justified_concat.mpr ⟨justified, trivial⟩, noted.active, noted.inUse,
      noted.ongoing, ?_, ?_⟩
    · rw [← noted.queue, waiting]
      simp
    · intro other member
      rcases List.mem_append.mp member with before | now
      · exact noted.low other before
      · rwa [List.mem_singleton.mp now]
  | @flashed uploader progress percent queue waiting high =>
    -- 100 or more: the loop ends and the flash is reported
    have queued : Queued transfer uploader history progress := standing
    rw [show [UploadEvent.progress percent, .flashed (progress ++ [percent])] =
      [.progress percent] ++ [.flashed (progress ++ [percent])] from rfl, ← List.append_assoc]
    have reported : Justified (FlashedBecause transfer) (history ++ [.progress percent]) :=
      justified_concat.mpr ⟨justified, trivial⟩
    exact ⟨justified_concat.mpr
      ⟨reported, queued.flashed waiting (UInt8.not_lt.mp high) _⟩, trivial⟩
  | interrupt uploader error going => exact abort_flashInvariant error justified

/-! ## Whole uploads -/

theorem upload_flashInvariant (uploader : FirmwareUploader) (image : FirmwareImage)
    {protocol : String} {randomFunc idHigh idLow : UInt8} {variant : FirmwareVariant}
    (selected : selectVariant protocol randomFunc idHigh idLow = .ok variant) :
    FlashInvariant ⟨image, uploader.serial, variant⟩
      (uploader.upload image protocol randomFunc idHigh idLow).1
      (uploader.upload image protocol randomFunc idHigh idLow).2 := by
  rw [FirmwareUploader.upload]
  by_cases active : uploader.active = true
  · rw [if_pos active]
    exact ⟨justified_concat.mpr ⟨justified_nil, trivial⟩, trivial⟩
  · rw [if_neg active, selected]
    apply writeRequest_flashInvariant justified_nil
    exact ⟨rfl, rfl, List.forall_mem_nil _, rfl, List.forall_mem_nil _⟩

/-- **What a reported flash is worth.**  In every run in which the first progress frame of 100
or more says 100 and comes after the final acknowledgement, a flash is reported only when it
finished. -/
theorem upload_finishedFlash (uploader : FirmwareUploader) (image : FirmwareImage)
    (protocol : String) (randomFunc idHigh idLow : UInt8) (variant : FirmwareVariant)
    (selected : selectVariant protocol randomFunc idHigh idLow = .ok variant)
    (actions : List UploadAction) (final : UploadState) (trace : List UploadEvent)
    (ran : run (uploadMachine ⟨image, uploader.serial, variant⟩)
      (uploader.upload image protocol randomFunc idHigh idLow).1 actions = some (final, trace))
    (timely : TimelyProgress ⟨image, uploader.serial, variant⟩ uploader.counter
      ((uploader.upload image protocol randomFunc idHigh idLow).2 ++ trace)) :
    FinishedFlash ⟨image, uploader.serial, variant⟩ uploader.counter
      ((uploader.upload image protocol randomFunc idHigh idLow).2 ++ trace) := by
  intro before progress after split
  have justified := (run_invariant uploadStep_flashInvariant
    (upload_flashInvariant uploader image selected) ran).1
  obtain ⟨early, frame, late, percent, rfl, ongoing, isPercent, high, low⟩ :=
    justified before _ after split
  rw [List.append_assoc] at split
  obtain ⟨rfl, acked⟩ := timely early frame _ percent split ongoing isPercent high low
  exact ⟨early, frame, late, rfl, isPercent, acked⟩

/-- A single report of 100 percent after the final acknowledgement is timely. -/
theorem timelyProgress_of_single {before after : List UploadEvent} {frame : Frame}
    (acked : FinalAcked transfer counter before) (full : progressOf transfer frame = some 100)
    (noneBefore : percents transfer before = []) (noneAfter : percents transfer after = []) :
    TimelyProgress transfer counter (before ++ .delivered frame :: after) := by
  have delivers : ∀ {early late : List UploadEvent} {other : Frame} {percent : UInt8},
      progressOf transfer other = some percent →
      percents transfer (early ++ .delivered other :: late) ≠ [] := by
    intro early late other percent isPercent
    rw [percents_append]
    simp [percents, isPercent]
  intro early other late percent split _ isPercent _ _
  -- another report before or after it would be among the percentages there
  rcases List.append_eq_append_iff.mp split with ⟨middle, isEarly, rest⟩ | ⟨middle, isBefore, rest⟩
  · cases middle with
    | nil =>
      obtain ⟨same, _⟩ := List.cons.inj rest
      cases same
      rw [isEarly, List.append_nil]
      exact ⟨Option.some.inj (isPercent.symm.trans full), acked⟩
    | cons event middle =>
      obtain ⟨_, isAfter⟩ := List.cons.inj rest
      rw [isAfter] at noneAfter
      exact absurd noneAfter (delivers isPercent)
  · cases middle with
    | nil =>
      obtain ⟨same, _⟩ := List.cons.inj rest
      cases same
      rw [List.append_nil] at isBefore
      rw [← isBefore]
      exact ⟨Option.some.inj (isPercent.symm.trans full), acked⟩
    | cons event middle =>
      obtain ⟨same, _⟩ := List.cons.inj rest
      rw [isBefore, ← same] at noneBefore
      exact absurd noneBefore (delivers isPercent)

/-- The progress frame the inverter sends at the end of a flash. -/
def fullProgress : Frame := answerFrame [0, 0, 9] (firmwareMagic ++ [0, 100])

theorem upload_finishedFlash_oneByte :
    ∃ final trace,
      run (uploadMachine oneByteTransfer) oneByteUpload.1
        (oneByteAnswers ++ [.deliver fullProgress, .takeProgress]) = some (final, trace) ∧
      .flashed [100] ∈ trace ∧ FinishedFlash oneByteTransfer 0 (oneByteUpload.2 ++ trace) := by
  let reached := run (uploadMachine oneByteTransfer) oneByteUpload.1
    (oneByteAnswers ++ [.deliver fullProgress, .takeProgress])
  have shape : reached.any (fun reached =>
      reached.2 == reached.2.take 5 ++ [.delivered fullProgress, .progress 100, .flashed [100]] &&
        (writes (oneByteUpload.2 ++ reached.2.take 5)).length == 2 &&
        (sinceWrite (oneByteUpload.2 ++ reached.2.take 5)).contains
          (answerFrame [0, 0, 2] firmwareMagic) &&
        percents oneByteTransfer (oneByteUpload.2 ++ reached.2.take 5) == []) = true := by
    decide +kernel
  obtain ⟨⟨final, trace⟩, ran, holds⟩ := (Option.any_eq_true _ _).mp shape
  simp only [Bool.and_eq_true, beq_iff_eq, List.contains_iff_mem] at holds
  obtain ⟨⟨⟨ends, written⟩, answered⟩, none⟩ := holds
  have acked : FinalAcked oneByteTransfer 0 (oneByteUpload.2 ++ trace.take 5) :=
    ⟨written, _, answered, by decide +kernel⟩
  have timely : TimelyProgress oneByteTransfer 0 (oneByteUpload.2 ++ trace) := by
    rw [ends, ← List.append_assoc]
    exact timelyProgress_of_single acked (by decide +kernel) none rfl
  exact ⟨final, trace, ran, by rw [ends]; simp,
    upload_finishedFlash (.fresh ['S'] 0) oneByteImage _ 0 0 0 firmwareVariant7eA2 rfl _ final trace
      ran timely⟩

/-! ## A stale report -/

/-- The answers of the transfer, and before them a progress frame of 100 percent that an
earlier transfer left behind. -/
def staleAnswers : List UploadAction :=
  .deliver fullProgress :: oneByteAnswers ++ [.takeProgress]

/-- The stale frame is enough for the report. -/
theorem upload_staleProgress :
    ∃ final trace,
      run (uploadMachine oneByteTransfer) oneByteUpload.1 staleAnswers = some (final, trace) ∧
      .flashed [100] ∈ trace ∧ ¬ FinishedFlash oneByteTransfer 0 (oneByteUpload.2 ++ trace) := by
  let reached := run (uploadMachine oneByteTransfer) oneByteUpload.1 staleAnswers
  have shape : reached.any (fun reached =>
      reached.2 == reached.2.dropLast ++ [.flashed [100]] &&
        (writes (oneByteUpload.2 ++ reached.2.dropLast)).length == 2 &&
        (sinceWrite (oneByteUpload.2 ++ reached.2.dropLast)).all
          (progressOf oneByteTransfer · != some 100)) = true := by decide +kernel
  obtain ⟨⟨final, trace⟩, ran, holds⟩ := (Option.any_eq_true _ _).mp shape
  simp only [Bool.and_eq_true, beq_iff_eq, List.all_eq_true, bne_iff_ne] at holds
  obtain ⟨⟨ends, written⟩, none⟩ := holds
  refine ⟨final, trace, ran, by rw [ends]; simp, fun finished => ?_⟩
  have split : oneByteUpload.2 ++ trace =
      (oneByteUpload.2 ++ trace.dropLast) ++ .flashed [100] :: [] := by
    rw [List.append_assoc, ← ends]
  obtain ⟨early, frame, late, before, percent, acked, _⟩ := finished _ _ _ split
  rw [before] at written none
  have all : (writes early).length = 2 := acked
  have quiet : writes late = [] := by
    have counted : (writes early).length + (writes (.delivered frame :: late)).length = 2 := by
      rw [← List.length_append, ← writes_append, written]
    exact List.length_eq_zero_iff.mp (by
      have same : writes (.delivered frame :: late) = writes late := rfl
      rw [same] at counted
      omega)
  exact none frame (mem_sinceWrite early frame quiet) percent

end FoxessGateway.Firmware
