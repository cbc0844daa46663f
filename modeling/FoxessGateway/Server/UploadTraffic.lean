import FoxessGateway.Firmware.StopAndWait
import FoxessGateway.Server.Excision

/-! # What the relay hides of a local upload

`handle_client_frame` claims the answers to the request the upload waits on.  An answer to an
earlier request has another device tail, and goes to the cloud; so does one whose bytes the relay
finds earlier in the same read. -/

namespace FoxessGateway.Server

open Protocol Firmware Effectful Action Runs Splicing Streaming

/-! ## The tail expected -/

/-- The device tail of the request written last. -/
def latestTail (history : List UploadEvent) : Option Bytes :=
  (writes history).getLast?.map fun written => written.device.drop 1

theorem latestTail_quiet (history : List UploadEvent) {shown : List UploadEvent}
    (quiet : writes shown = []) : latestTail (history ++ shown) = latestTail history := by
  rw [latestTail, writes_append, quiet, List.append_nil]
  rfl

theorem latestTail_wrote (history : List UploadEvent) (device payload raw : Bytes) :
    latestTail (history ++ [.wrote device payload raw]) = some (device.drop 1) := by
  rw [latestTail, writes_append, writes_wrote, List.getLast?_concat]
  rfl

/-- While the upload is active it has its variant, and expects the tail of its latest request. -/
def ExpectsLatest (transfer : Transfer) (state : UploadState) (history : List UploadEvent) :
    Prop :=
  state.uploader.active = true →
    state.uploader.variant = some transfer.variant ∧
      state.uploader.expectedTail = latestTail history

variable {transfer : Transfer} {uploader : FirmwareUploader} {history shown : List UploadEvent}

theorem expectsLatest_abort (error : PyError) :
    ExpectsLatest transfer (abort uploader error).1 history := by
  rintro ⟨⟩

theorem send_tail {sent : FirmwareUploader} {request : UploadRequest} {device raw : Bytes}
    (wrote : uploader.send request = (sent, .ok (device, raw))) :
    sent.active = uploader.active ∧ sent.variant = uploader.variant ∧
      sent.expectedTail = some (device.drop 1) := by
  rw [FirmwareUploader.send] at wrote
  dsimp only at wrote
  split at wrote
  · cases wrote
  split at wrote
  · cases wrote
  split at wrote
  · cases wrote
  · cases wrote
    exact ⟨rfl, rfl, rfl⟩

/-- Writing a request makes its tail the one expected. -/
theorem writeRequest_expectsLatest (history : List UploadEvent) {index : Nat}
    (inUse : uploader.active = true → uploader.variant = some transfer.variant)
    (expects : uploadRequest transfer index = none → uploader.active = true →
      uploader.expectedTail = latestTail history) :
    ExpectsLatest transfer (writeRequest transfer uploader index).1
      (history ++ (writeRequest transfer uploader index).2) := by
  rw [writeRequest]
  cases asked : uploadRequest transfer index with
  | none =>
    intro running
    refine ⟨inUse running, ?_⟩
    rw [latestTail_quiet history rfl]
    exact expects asked running
  | some built =>
    cases built with
    | error raised => exact expectsLatest_abort raised
    | ok request =>
      dsimp only
      cases wrote : uploader.send request with
      | mk sent result =>
        cases result with
        | error raised => exact expectsLatest_abort raised
        | ok bytes =>
          obtain ⟨device, raw⟩ := bytes
          obtain ⟨active, variant, tail⟩ := send_tail wrote
          intro running
          refine ⟨variant.trans (inUse (active.symm.trans running)), ?_⟩
          rw [latestTail_wrote]
          exact tail

/-- The answer awaited ends the upload, or lets it write its next request. -/
theorem receiveAck_expectsLatest (index : Nat) (request : UploadRequest) (received : Bytes)
    {phase : UploadPhase} (holds : ExpectsLatest transfer ⟨uploader, phase⟩ history) :
    ExpectsLatest transfer (receiveAck transfer uploader index request received).1
      (history ++ (receiveAck transfer uploader index request received).2) := by
  rw [receiveAck]
  split
  · exact expectsLatest_abort _
  · have quiet : writes (acknowledged transfer index) = [] := by
      cases index <;> rfl
    dsimp only
    rw [← List.append_assoc]
    refine writeRequest_expectsLatest _ (fun running => (holds running).1) fun _ running => ?_
    rw [latestTail_quiet history quiet]
    exact (holds running).2

theorem uploadStep_expectsLatest {state next : UploadState} {action : UploadAction}
    (holds : ExpectsLatest transfer state history)
    (stepped : uploadMachine transfer state action = some (next, shown)) :
    ExpectsLatest transfer next (history ++ shown) := by
  cases UploadStep.of_machine stepped with
  | deliver uploader phase frame =>
    obtain ⟨variant, _, tail, active, _⟩ := handleClientFrame_fields uploader frame
    intro running
    obtain ⟨inUse, expected⟩ := holds (active.symm.trans running)
    refine ⟨variant.trans inUse, ?_⟩
    rw [latestTail_quiet history rfl]
    exact tail.trans expected
  | drained uploader index request => rwa [List.append_nil]
  | @receive uploader index request received settled =>
    exact receiveAck_expectsLatest index request received holds
  | progress waiting low =>
    intro running
    rw [latestTail_quiet history rfl]
    exact holds running
  | flashed waiting high => rintro ⟨⟩
  | interrupt uploader error going => exact expectsLatest_abort error

/-- The invariant along a run of an upload that was free to begin. -/
theorem upload_expectsLatest (uploader : FirmwareUploader) (image : FirmwareImage)
    {protocol : String} {randomFunc idHigh idLow : UInt8} {variant : FirmwareVariant}
    (inactive : uploader.active = false)
    (selected : selectVariant protocol randomFunc idHigh idLow = .ok variant)
    {actions : List UploadAction} {final : UploadState} {trace : List UploadEvent}
    (ran : run (uploadMachine ⟨image, uploader.serial, variant⟩)
      (uploader.upload image protocol randomFunc idHigh idLow).1 actions = some (final, trace)) :
    ExpectsLatest ⟨image, uploader.serial, variant⟩ final
      ((uploader.upload image protocol randomFunc idHigh idLow).2 ++ trace) := by
  refine run_invariant uploadStep_expectsLatest ?_ ran
  rw [FirmwareUploader.upload, if_neg (by simp [inactive]), selected]
  have first : ∀ transfer : Transfer, uploadRequest transfer 0 ≠ none := by
    rintro transfer ⟨⟩
  exact writeRequest_expectsLatest [] (fun _ => rfl) fun missing => absurd missing (first _)

/-! ## What is hidden -/

/-- The frame answers the upload: it has the transfer id, and is a progress frame or has the
function of the transfer and the device tail of a request already written. -/
structure AnswersUpload (variant : FirmwareVariant) (history : List UploadEvent) (frame : Frame) :
    Prop where
  family : frame.family = .family7f
  opening : variant.magic <+: frame.payload
  kind : (progressPercent frame).isSome = true ∨ frame.func = variant.func ∧
    ∃ written ∈ writes history, frame.device.drop 1 = written.device.drop 1

/-- The uploader claims the frame, and none of the frame's own bytes goes to the cloud: the relay
takes them out when it handles the frame. -/
structure Hidden (config : SessionConfig) (worlds : Nat → SessionWorld) {session : Session}
    {data : Bytes} (spot : RelayedFrame session data) (uploader : FirmwareUploader) : Prop where
  claimed : (uploader.handleClientFrame spot.frame).1 = true
  taken : ∀ place ∈ spot.own, place ∉ spot.forwardAfter config worlds
  unsent : ∀ place ∈ spot.own, place ∉ sentPlaces config worlds session data

/-- A frame that is claimed is hidden where the relay finds it at its own place. -/
theorem hidden_iff {config : SessionConfig} {worlds : Nat → SessionWorld} {session : Session}
    {data : Bytes} {spot : RelayedFrame session data}
    (isUploader : (spot.reached config worlds).firmwareUploader = some uploader) :
    Hidden config worlds spot uploader ↔
      (uploader.handleClientFrame spot.frame).1 = true ∧ spot.FoundAtPlace config worlds := by
  constructor
  · intro hidden
    exact ⟨hidden.claimed, ((spot.takes_iff config worlds).mp hidden.taken).2⟩
  · rintro ⟨claimed, found⟩
    have owned : (spot.reached config worlds).owns spot.frame = true := by
      rw [Session.owns, isUploader, Bool.or_eq_true]
      exact .inr claimed
    have taken := (spot.takes_iff config worlds).mpr ⟨owned, found⟩
    exact ⟨claimed, taken, fun place own sent =>
      taken place own (spot.sentPlaces_subset config worlds sent)⟩

/-- A frame of the transfer is claimed where it is a progress frame or has the tail expected. -/
theorem handleClientFrame_claims_iff {frame : Frame} {variant : FirmwareVariant}
    (running : uploader.active = true) (inUse : uploader.variant = some variant)
    (answers : AnswersUpload variant history frame) :
    (uploader.handleClientFrame frame).1 = true ↔
      (progressPercent frame).isSome = true ∨
        uploader.expectedTail = some (frame.device.drop 1) := by
  rw [FirmwareUploader.handleClientFrame]
  rw [inUse]
  dsimp only
  rw [if_neg (by rw [running, not_or, not_not]; exact ⟨by decide, answers.opening⟩)]
  cases isProgress : progressPercent frame with
  | some percent => exact iff_of_true rfl (.inl rfl)
  | none =>
    rcases answers.kind with progress | ⟨func, _⟩
    · rw [isProgress] at progress
      cases progress
    · dsimp only
      rw [if_pos ⟨by rw [answers.family]; simp, func⟩]
      by_cases expected : uploader.expectedTail = some (frame.device.drop 1)
      · rw [if_neg (not_not.mpr expected)]
        exact iff_of_true rfl (.inr expected)
      · rw [if_pos expected]
        refine iff_of_false Bool.false_ne_true ?_
        rintro (progress | same)
        · cases progress
        · exact expected same

/-- The upload of `oneByteImage` up to its second request. -/
def firstAnswered : List UploadAction :=
  [.drained, .deliver (answerFrame [0, 0, 1] (firmwareMagic ++ [0, 0, 5])), .receive]

/-- The upload is active, its latest request has the tail `00 00 02`, and an earlier one the tail
`00 00 01`. -/
def SecondRequestSent (state : UploadState) (history : List UploadEvent) : Prop :=
  state.uploader.active = true ∧ latestTail history = some [0, 0, 2] ∧
    ∀ tail ∈ [[0, 0, 1], [0, 0, 2]], ∃ written ∈ writes history, tail = written.device.drop 1

instance (state : UploadState) (history : List UploadEvent) :
    Decidable (SecondRequestSent state history) := inferInstanceAs (Decidable (_ ∧ _))

theorem firstAnswered_reaches : ∃ final trace,
    run (uploadMachine oneByteTransfer) oneByteUpload.1 firstAnswered = some (final, trace) ∧
      SecondRequestSent final (oneByteUpload.2 ++ trace) := by
  have sent : (run (uploadMachine oneByteTransfer) oneByteUpload.1 firstAnswered).any
      (fun reached => decide (SecondRequestSent reached.1 (oneByteUpload.2 ++ reached.2))) =
        true := by decide +kernel
  obtain ⟨⟨final, trace⟩, ran, isSent⟩ := (Option.any_eq_true _ _).mp sent
  exact ⟨final, trace, ran, of_decide_eq_true isSent⟩

/-- The answer to the first request. -/
def firstAnswerFrame : Frame := answerFrame [0, 0, 1] (firmwareMagic ++ [0, 0, 5])

/-- The answer to the second request. -/
def secondAnswerFrame : Frame := answerFrame [0, 0, 2] firmwareMagic

theorem answerFrame_wellFormed {tail payload : Bytes} (width : tail.length = 3)
    (fits : payload.length ≤ 4083) : (answerFrame tail payload).WellFormed := by
  have device : ([0xA1] ++ tail : Bytes).length = 4 := by simp [width]
  exact builtFrame_wellFormed (.inr ⟨rfl, rfl⟩) device fits

theorem firstAnswerFrame_wellFormed : firstAnswerFrame.WellFormed :=
  answerFrame_wellFormed rfl (by decide)

theorem secondAnswerFrame_wellFormed : secondAnswerFrame.WellFormed :=
  answerFrame_wellFormed rfl (by decide)

/-- The answer to the first request arrives again. -/
theorem firstAnswerFrame_answers {state : UploadState} {history : List UploadEvent}
    (sent : SecondRequestSent state history) :
    AnswersUpload firmwareVariant7eA2 history firstAnswerFrame where
  family := rfl
  opening := by decide
  kind := .inr ⟨rfl, sent.2.2 [0, 0, 1] (by decide)⟩

/-- It is no progress frame, and does not have the tail of the second request. -/
theorem firstAnswerFrame_late {state : UploadState} {history : List UploadEvent}
    (sent : SecondRequestSent state history) :
    ¬ ((progressPercent firstAnswerFrame).isSome = true ∨
      latestTail history = some (firstAnswerFrame.device.drop 1)) := by
  rw [sent.2.1]
  decide

theorem secondAnswerFrame_answers {state : UploadState} {history : List UploadEvent}
    (sent : SecondRequestSent state history) :
    AnswersUpload firmwareVariant7eA2 history secondAnswerFrame where
  family := rfl
  opening := by decide
  kind := .inr ⟨rfl, sent.2.2 [0, 0, 2] (by decide)⟩

/-- A relay session with an uploader. -/
def uploadingSession (uploader : FirmwareUploader) : Session :=
  { Session.fresh .everything with firmwareUploader := some uploader }

theorem uploadingSession_reachable (uploader : FirmwareUploader) :
    Reachable .everything (uploadingSession uploader) :=
  Reachable.fresh.elsewhere rfl rfl

/-- A frame that is alone in its read. -/
def aloneFrame (uploader : FirmwareUploader) {frame : Frame} (wellFormed : frame.WellFormed) :
    RelayedFrame (uploadingSession uploader) frame.raw where
  early := []
  gap := []
  frame := frame
  late := []
  laid := by
    have joined := Scanner.layout_joined [frame] (recognised (by simp [wellFormed]))
      extractPass_nil
    have same : ([frame].map Frame.raw).flatten ++ [] = frame.raw := by simp
    rw [same] at joined
    exact congrArg Prod.fst joined

theorem aloneFrame_foundAtPlace (config : SessionConfig) (worlds : Nat → SessionWorld)
    (uploader : FirmwareUploader) {frame : Frame} (wellFormed : frame.WellFormed) :
    (aloneFrame uploader wellFormed).FoundAtPlace config worlds :=
  find_eq_some_iff.mpr ⟨List.prefix_rfl, Nat.zero_le _, nofun⟩

end FoxessGateway.Server
