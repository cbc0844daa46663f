import FoxessGateway.Firmware.Control
import FoxessGateway.Firmware.StopAndWait

/-! # The uploads of a session

`Session.upload_firmware`: calls that come in while an upload is under way wait for the lock of the
session.  Each of them has taken the uploader that the session had when it was made, and every
registration gives the session a new one. -/

namespace FoxessGateway.Firmware

open Protocol Runs

/-! ## The machine -/

/-- The function byte and the transfer id that `secrets` gives to an upload. -/
structure Drawn where
  func : UInt8
  idHigh : UInt8
  idLow : UInt8
  deriving DecidableEq, Repr

/-- A call of `upload_firmware` that has its uploader, one of those that the session has had. -/
structure UploadCall where
  order : UpgradeOrder
  uploader : Nat

/-- The call that holds the lock. -/
structure ActiveUpload where
  call : UploadCall
  transfer : Transfer
  phase : UploadPhase

structure UploadSession where
  /-- Every `FirmwareUploader` that was made; the last is the session's own. -/
  uploaders : List FirmwareUploader
  /-- The calls that wait for `_firmware_upload_lock`. -/
  waiting : List UploadCall
  active : Option ActiveUpload

def UploadSession.fresh : UploadSession := ⟨[], [], none⟩

inductive UploadSessionEvent where
  | refused (order : UpgradeOrder) (error : PyError)
  | called (order : UpgradeOrder)
  | upload (event : UploadEvent)

def UpgradeOrder.start (order : UpgradeOrder) (uploader : FirmwareUploader) (drawn : Drawn) :
    UploadState × List UploadEvent :=
  uploader.upload order.image (String.ofList order.protocol) drawn.func drawn.idHigh drawn.idLow

def UpgradeOrder.variant (order : UpgradeOrder) (drawn : Drawn) : Except PyError FirmwareVariant :=
  selectVariant (String.ofList order.protocol) drawn.func drawn.idHigh drawn.idLow

namespace UploadSession

variable (session : UploadSession)

/-- What a step of an upload leaves; the end of the upload releases the lock. -/
def setUpload (call : UploadCall) (transfer : Transfer) (state : UploadState) : UploadSession :=
  { session with
    uploaders := session.uploaders.set call.uploader state.uploader
    active := if state.phase.ended then none else some ⟨call, transfer, state.phase⟩ }

/-- The call holds the lock: `uploader.upload` up to its first `await`. -/
def beginUpload (call : UploadCall) (drawn : Drawn) :
    Option (UploadSession × List UploadSessionEvent) :=
  match session.uploaders[call.uploader]? with
  | none => none
  | some uploader =>
    let (state, shown) := call.order.start uploader drawn
    match call.order.variant drawn with
    | .ok variant =>
      some (session.setUpload call ⟨call.order.image, uploader.serial, variant⟩ state,
        shown.map .upload)
    | .error _ =>
      -- no dialect, and the upload has raised
      some ({ session with uploaders := session.uploaders.set call.uploader state.uploader },
        shown.map .upload)

/-- `upload_firmware` up to its first `await`. -/
def uploadFirmware (order : UpgradeOrder) (closing : Bool) (drawn : Drawn) :
    Option (UploadSession × List UploadSessionEvent) :=
  if session.uploaders = [] then
    some (session, [.refused order
      (.firmwareProtocolError "inverter session is not ready for firmware upload")])
  else if closing then
    some (session, [.refused order (.firmwareProtocolError "inverter connection is closing")])
  else
    let call : UploadCall := ⟨order, session.uploaders.length - 1⟩
    -- a free lock is not given to a call while others wait for it
    if session.active.isNone ∧ session.waiting.isEmpty then
      (session.beginUpload call drawn).map fun reached => (reached.1, .called order :: reached.2)
    else some ({ session with waiting := session.waiting ++ [call] }, [.called order])

/-- `_handle_firmware_upload_frame` -/
def receiveFrame (frame : Frame) : UploadSession × List UploadSessionEvent :=
  match session.uploaders.getLast? with
  | none => (session, [])
  | some uploader =>
    let own := session.uploaders.length - 1
    ({ session with uploaders := session.uploaders.set own (uploader.handleClientFrame frame).2 },
      if session.active.any (·.call.uploader = own) then [.upload (.delivered frame)] else [])

end UploadSession

inductive UploadSessionAction where
  | call (order : UpgradeOrder) (closing : Bool) (drawn : Drawn)
  /-- The first of the calls that wait gets the lock. -/
  | wake (drawn : Drawn)
  | frame (frame : Frame)
  /-- A registration with a serial. -/
  | register (serial : Text) (monotonicNs : Nat)
  /-- The upload under way goes on, in another way than by a frame. -/
  | advance (action : UploadAction)

def uploadSessionMachine : Machine UploadSession UploadSessionAction UploadSessionEvent :=
  fun session action =>
  match action with
  | .call order closing drawn => session.uploadFirmware order closing drawn
  | .wake drawn =>
    match session.active, session.waiting with
    | none, call :: waiting => { session with waiting := waiting }.beginUpload call drawn
    | _, _ => none
  | .frame frame => some (session.receiveFrame frame)
  | .register serial monotonicNs =>
    some ({ session with uploaders := session.uploaders ++ [.fresh serial monotonicNs] }, [])
  | .advance (.deliver _) => none
  | .advance action =>
    match session.active with
    | none => none
    | some active =>
      match session.uploaders[active.call.uploader]? with
      | none => none
      | some uploader =>
        match uploadMachine active.transfer ⟨uploader, active.phase⟩ action with
        | none => none
        | some (state, shown) =>
          some (session.setUpload active.call active.transfer state, shown.map .upload)

/-! ## One upload after the other -/

/-- An upload that began with an idle uploader, as far as it came. -/
structure UploadRun where
  order : UpgradeOrder
  uploader : FirmwareUploader
  drawn : Drawn
  variant : FirmwareVariant
  actions : List UploadAction
  final : UploadState
  later : List UploadEvent
  idle : uploader.active = false
  selected : order.variant drawn = .ok variant ∨ actions = []
  ran : run (uploadMachine ⟨order.image, uploader.serial, variant⟩) (order.start uploader drawn).1
    actions = some (final, later)

namespace UploadRun

/-- Everything that the upload has shown. -/
def shown (upload : UploadRun) : List UploadEvent :=
  (upload.order.start upload.uploader upload.drawn).2 ++ upload.later

def transfer (upload : UploadRun) : Transfer :=
  ⟨upload.order.image, upload.uploader.serial, upload.variant⟩

/-- An upload that has got the lock. -/
def begun (order : UpgradeOrder) {uploader : FirmwareUploader} (idle : uploader.active = false)
    (drawn : Drawn) (variant : FirmwareVariant) : UploadRun where
  order := order
  uploader := uploader
  drawn := drawn
  variant := variant
  actions := []
  final := (order.start uploader drawn).1
  later := []
  idle := idle
  selected := .inr rfl
  ran := rfl

/-- The upload after one more step. -/
def after (upload : UploadRun) (selected : upload.order.variant upload.drawn = .ok upload.variant)
    {action : UploadAction} {state : UploadState} {shown : List UploadEvent}
    (stepped : uploadMachine upload.transfer upload.final action = some (state, shown)) :
    UploadRun :=
  { upload with
    actions := upload.actions ++ [action]
    final := state
    later := upload.later ++ shown
    selected := .inl selected
    ran := by
      have single : run (uploadMachine upload.transfer) upload.final [action] =
          some (state, shown ++ []) := run_step stepped rfl
      rw [List.append_nil] at single
      exact run_trans upload.ran single }

theorem shown_begun (order : UpgradeOrder) {uploader : FirmwareUploader}
    (idle : uploader.active = false) (drawn : Drawn) (variant : FirmwareVariant) :
    (begun order idle drawn variant).shown = (order.start uploader drawn).2 :=
  List.append_nil _

theorem shown_after (upload : UploadRun)
    (selected : upload.order.variant upload.drawn = .ok upload.variant)
    {action : UploadAction} {state : UploadState} {shown : List UploadEvent}
    (stepped : uploadMachine upload.transfer upload.final action = some (state, shown)) :
    (upload.after selected stepped).shown = upload.shown ++ shown :=
  (List.append_assoc _ _ _).symm

end UploadRun

/-- The orders of the calls that were not refused. -/
def calledOrders (history : List UploadSessionEvent) : List UpgradeOrder :=
  history.filterMap fun event => match event with
    | .called order => some order
    | _ => none

def uploadEvents (history : List UploadSessionEvent) : List UploadEvent :=
  history.filterMap fun event => match event with
    | .upload event => some event
    | _ => none

@[simp] theorem calledOrders_append (first later : List UploadSessionEvent) :
    calledOrders (first ++ later) = calledOrders first ++ calledOrders later := by
  simp [calledOrders]

@[simp] theorem uploadEvents_append (first later : List UploadSessionEvent) :
    uploadEvents (first ++ later) = uploadEvents first ++ uploadEvents later := by
  simp [uploadEvents]

@[simp] theorem calledOrders_upload (shown : List UploadEvent) :
    calledOrders (shown.map .upload) = [] := by
  simp [calledOrders]

@[simp] theorem uploadEvents_upload (shown : List UploadEvent) :
    uploadEvents (shown.map .upload) = shown := by
  simp [uploadEvents]

/-- The upload is the one under way. -/
structure Stands (session : UploadSession) (active : ActiveUpload) (upload : UploadRun) : Prop where
  order : active.call.order = upload.order
  transfer : active.transfer = upload.transfer
  selected : upload.order.variant upload.drawn = .ok upload.variant
  uploader : session.uploaders[active.call.uploader]? = some upload.final.uploader
  phase : active.phase = upload.final.phase
  going : active.phase.ended = false

/-- The uploader is that of the upload under way. -/
def UploadSession.InUse (session : UploadSession) (index : Nat) : Prop :=
  ∃ active, session.active = some active ∧ active.call.uploader = index

/-- Uploads that have ended, and perhaps one under way, make up the history; the calls that were
made after them wait. -/
structure Sequential (session : UploadSession) (history : List UploadSessionEvent)
    (done : List UploadRun) (current : Option UploadRun) : Prop where
  ended : ∀ upload ∈ done, upload.final.phase.ended = true
  stands : Option.Rel (Stands session) session.active current
  events : uploadEvents history = (done ++ current.toList).flatMap UploadRun.shown
  calls : calledOrders history =
    (done ++ current.toList).map UploadRun.order ++ session.waiting.map UploadCall.order
  idle : ∀ index uploader, session.uploaders[index]? = some uploader → ¬ session.InUse index →
    uploader.active = false
  known : ∀ call ∈ session.waiting, call.uploader < session.uploaders.length

/-! ### An upload that has ended has released its uploader -/

theorem writeRequest_released {transfer : Transfer} {uploader : FirmwareUploader} {index : Nat}
    (ended : (writeRequest transfer uploader index).1.phase.ended = true) :
    (writeRequest transfer uploader index).1.uploader.active = false := by
  rw [writeRequest] at ended ⊢
  split at ended
  · cases ended
  · rfl
  · split at ended
    · rfl
    · cases ended

theorem start_released {order : UpgradeOrder} {uploader : FirmwareUploader}
    (idle : uploader.active = false) {drawn : Drawn}
    (ended : (order.start uploader drawn).1.phase.ended = true) :
    (order.start uploader drawn).1.uploader.active = false := by
  rw [UpgradeOrder.start, FirmwareUploader.upload] at ended ⊢
  rw [if_neg (by rw [idle]; decide)] at ended ⊢
  dsimp only at ended ⊢
  split at ended
  · rfl
  · exact writeRequest_released ended

/-- Where no dialect is selected the upload has raised. -/
theorem start_unselected {order : UpgradeOrder} {uploader : FirmwareUploader}
    (idle : uploader.active = false) {drawn : Drawn} {error : PyError}
    (unselected : order.variant drawn = .error error) :
    (order.start uploader drawn).1.phase.ended = true := by
  rw [UpgradeOrder.variant] at unselected
  rw [UpgradeOrder.start, FirmwareUploader.upload, if_neg (by rw [idle]; decide)]
  rw [unselected]
  rfl

theorem step_released {transfer : Transfer} {state next : UploadState} {action : UploadAction}
    {shown : List UploadEvent} (going : state.phase.ended = false)
    (stepped : uploadMachine transfer state action = some (next, shown))
    (ended : next.phase.ended = true) : next.uploader.active = false := by
  cases UploadStep.of_machine stepped with
  | deliver uploader phase frame => cases going.symm.trans ended
  | drained uploader index request => cases ended
  | @receive uploader index request received settled =>
    rw [receiveAck] at ended ⊢
    split at ended
    · rename_i other
      rw [if_pos other]
      rfl
    · rename_i same
      rw [if_neg same]
      exact writeRequest_released ended
  | progress waiting low => cases ended
  | flashed waiting high => rfl
  | interrupt uploader error stillGoing => rfl

theorem handleClientFrame_idle {uploader : FirmwareUploader} (idle : uploader.active = false)
    (frame : Frame) : (uploader.handleClientFrame frame).2 = uploader := by
  rw [FirmwareUploader.handleClientFrame]
  cases uploader.variant with
  | none => rfl
  | some variant =>
    dsimp only
    rw [if_pos (.inl idle)]

/-! ### Steps -/

section Steps

variable {session next : UploadSession} {history : List UploadSessionEvent}
  {shown : List UploadSessionEvent} {done : List UploadRun} {current : Option UploadRun}

/-- The history is one of uploads that came one after the other. -/
def IsSequential (session : UploadSession) (history : List UploadSessionEvent) : Prop :=
  ∃ done current, Sequential session history done current

/-- A step of the upload under way, or the first of one that has the lock. -/
theorem setUpload_sequential {call : UploadCall} (upload : UploadRun)
    (isOrder : call.order = upload.order)
    (selected : upload.order.variant upload.drawn = .ok upload.variant)
    (released : upload.final.phase.ended = true → upload.final.uploader.active = false)
    (bound : call.uploader < session.uploaders.length)
    (ended : ∀ upload ∈ done, upload.final.phase.ended = true)
    (events : uploadEvents history = (done ++ [upload]).flatMap UploadRun.shown)
    (calls : calledOrders history =
      (done ++ [upload]).map UploadRun.order ++ session.waiting.map UploadCall.order)
    (idle : ∀ index uploader, session.uploaders[index]? = some uploader →
      index ≠ call.uploader → uploader.active = false)
    (known : ∀ call ∈ session.waiting, call.uploader < session.uploaders.length) :
    IsSequential (session.setUpload call upload.transfer upload.final) history := by
  have found : ∀ index, (session.uploaders.set call.uploader upload.final.uploader)[index]? =
      if index = call.uploader then some upload.final.uploader else session.uploaders[index]? := by
    intro index
    rw [List.getElem?_set]
    by_cases same : index = call.uploader
    · rw [if_pos same.symm, if_pos same, if_pos (same ▸ bound)]
    · rw [if_neg (Ne.symm same), if_neg same]
  have keepsLength : (session.uploaders.set call.uploader upload.final.uploader).length =
      session.uploaders.length := List.length_set
  cases finished : upload.final.phase.ended with
  | true =>
    refine ⟨done ++ [upload], none, ?_⟩
    rw [UploadSession.setUpload, finished, if_pos rfl]
    exact {
      ended := by
        intro other member
        rcases List.mem_append.mp member with early | last
        · exact ended other early
        · rw [List.mem_singleton.mp last]
          exact finished
      stands := .none
      events := by rw [Option.toList_none, List.append_nil, events]
      calls := by rw [Option.toList_none, List.append_nil, calls]
      idle := by
        intro index uploader isThere _
        rw [found] at isThere
        split at isThere
        · rw [← Option.some.inj isThere]
          exact released finished
        · rename_i other
          exact idle index uploader isThere other
      known := fun other member => keepsLength ▸ known other member }
  | false =>
    refine ⟨done, some upload, ?_⟩
    rw [UploadSession.setUpload, finished, if_neg (by decide)]
    exact {
      ended := ended
      stands := .some ⟨isOrder, rfl, selected, by rw [found, if_pos rfl], rfl, finished⟩
      events := events
      calls := calls
      idle := by
        intro index uploader isThere unused
        rw [found] at isThere
        split at isThere
        · rename_i same
          exact absurd ⟨_, rfl, same.symm⟩ unused
        · rename_i other
          exact idle index uploader isThere other
      known := fun other member => keepsLength ▸ known other member }

/-- No upload is under way, so every uploader is idle. -/
theorem Sequential.allIdle (sequential : Sequential session history done current)
    (free : session.active = none) {index : Nat} {uploader : FirmwareUploader}
    (isThere : session.uploaders[index]? = some uploader) : uploader.active = false := by
  refine sequential.idle index uploader isThere ?_
  rintro ⟨active, isActive, _⟩
  rw [free] at isActive
  cases isActive

theorem Sequential.current_eq_none (sequential : Sequential session history done current)
    (free : session.active = none) : current = none := by
  have stands := sequential.stands
  rw [free] at stands
  cases stands
  rfl

/-- A call gets the lock: its order is the next of the history. -/
theorem beginUpload_sequential (session : UploadSession) {call : UploadCall} {drawn : Drawn}
    (free : session.active = none)
    (ended : ∀ upload ∈ done, upload.final.phase.ended = true)
    (events : uploadEvents history = done.flatMap UploadRun.shown)
    (calls : calledOrders history =
      done.map UploadRun.order ++ call.order :: session.waiting.map UploadCall.order)
    (idle : ∀ (index : Nat) (uploader : FirmwareUploader),
      session.uploaders[index]? = some uploader → uploader.active = false)
    (known : ∀ call ∈ session.waiting, call.uploader < session.uploaders.length)
    (began : session.beginUpload call drawn = some (next, shown)) :
    IsSequential next (history ++ shown) := by
  rw [UploadSession.beginUpload] at began
  split at began
  · cases began
  rename_i uploader isThere
  have isIdle := idle call.uploader uploader isThere
  have bound := (List.getElem?_eq_some_iff.mp isThere).1
  have eventsAfter : ∀ variant, uploadEvents
      (history ++ (call.order.start uploader drawn).2.map .upload) =
        (done ++ [UploadRun.begun call.order isIdle drawn variant]).flatMap UploadRun.shown := by
    intro variant
    rw [uploadEvents_append, uploadEvents_upload, events, List.flatMap_append,
      List.flatMap_singleton, UploadRun.shown_begun]
  have callsAfter : ∀ variant, calledOrders
      (history ++ (call.order.start uploader drawn).2.map .upload) =
        (done ++ [UploadRun.begun call.order isIdle drawn variant]).map UploadRun.order ++
          session.waiting.map UploadCall.order := by
    intro variant
    rw [calledOrders_append, calledOrders_upload, List.append_nil, calls, List.map_append,
      List.append_assoc]
    rfl
  dsimp only at began
  split at began
  · rename_i variant selected
    cases began
    exact setUpload_sequential (.begun call.order isIdle drawn variant) rfl selected
      (start_released isIdle) bound ended (eventsAfter variant) (callsAfter variant)
      (fun index other there _ => idle index other there) known
  · rename_i error unselected
    cases began
    have finished := start_unselected isIdle unselected
    -- the run of an upload without a dialect has no steps
    refine ⟨done ++ [.begun call.order isIdle drawn firmwareVariant7eA2], none, ?_⟩
    exact {
      ended := by
        intro other member
        rcases List.mem_append.mp member with early | last
        · exact ended other early
        · rw [List.mem_singleton.mp last]
          exact finished
      stands := by
        change Option.Rel _ session.active none
        rw [free]
        exact .none
      events := by rw [Option.toList_none, List.append_nil, eventsAfter]
      calls := by rw [Option.toList_none, List.append_nil, callsAfter]
      idle := by
        intro index other isOther _
        rw [List.getElem?_set] at isOther
        split at isOther
        · rw [← Option.some.inj isOther]
          exact start_released isIdle finished
        · exact idle index other isOther
      known := fun other member => by
        rw [List.length_set]
        exact known other member }

/-- A step of the upload under way. -/
theorem active_sequential (action : UploadAction)
    (sequential : Sequential session history done current)
    {active : ActiveUpload} (isActive : session.active = some active) {uploader : FirmwareUploader}
    (isThere : session.uploaders[active.call.uploader]? = some uploader)
    {state : UploadState} {shown : List UploadEvent}
    (stepped : uploadMachine active.transfer ⟨uploader, active.phase⟩ action =
      some (state, shown)) :
    IsSequential (session.setUpload active.call active.transfer state)
      (history ++ shown.map .upload) := by
  obtain ⟨ended, stands, events, calls, idle, known⟩ := sequential
  rw [isActive] at stands
  cases stands with
  | @some _ upload stands =>
    have isFinal : (⟨uploader, active.phase⟩ : UploadState) = upload.final := by
      rw [Option.some.inj (isThere.symm.trans stands.uploader), stands.phase]
    have going : upload.final.phase.ended = false := stands.phase ▸ stands.going
    rw [isFinal, stands.transfer] at stepped
    have again : IsSequential (session.setUpload active.call _ _) (history ++ shown.map .upload) :=
      setUpload_sequential (upload.after stands.selected stepped) stands.order stands.selected
        (step_released going stepped) (List.getElem?_eq_some_iff.mp isThere).1 ended ?_ ?_ ?_ known
    · rw [stands.transfer]
      exact again
    · rw [uploadEvents_append, uploadEvents_upload, events, Option.toList_some,
        List.flatMap_append, List.flatMap_append, List.flatMap_singleton, List.flatMap_singleton,
        UploadRun.shown_after, List.append_assoc]
    · rw [calledOrders_append, calledOrders_upload, List.append_nil, calls, Option.toList_some,
        List.map_append, List.map_append]
      rfl
    · intro index other isOther differs
      refine idle index other isOther ?_
      rintro ⟨held, isHeld, same⟩
      cases isActive.symm.trans isHeld
      exact differs same.symm

/-- A step that concerns no upload. -/
theorem Sequential.quiet (sequential : Sequential session history done current)
    (active : next.active = session.active) (waiting : next.waiting = session.waiting)
    (uploaders : session.uploaders <+: next.uploaders)
    (idle : ∀ uploader ∈ next.uploaders.drop session.uploaders.length, uploader.active = false)
    (events : uploadEvents shown = []) (calls : calledOrders shown = []) :
    Sequential next (history ++ shown) done current := by
  obtain ⟨later, extended⟩ := uploaders
  have found : ∀ (index : Nat) (uploader : FirmwareUploader),
      session.uploaders[index]? = some uploader → next.uploaders[index]? = some uploader := by
    intro index uploader isThere
    rw [← extended, List.getElem?_append_left (List.getElem?_eq_some_iff.mp isThere).1, isThere]
  exact {
    ended := sequential.ended
    stands := by
      rw [active]
      have stands := sequential.stands
      generalize session.active = held at stands
      cases stands with
      | none => exact .none
      | some stands => exact .some { stands with uploader := found _ _ stands.uploader }
    events := by rw [uploadEvents_append, events, List.append_nil, sequential.events]
    calls := by rw [calledOrders_append, calls, List.append_nil, sequential.calls, waiting]
    idle := by
      intro index uploader isThere unused
      rcases Nat.lt_or_ge index session.uploaders.length with old | new
      · refine sequential.idle index uploader ?_ ?_
        · rwa [← extended, List.getElem?_append_left old] at isThere
        · rintro ⟨held, isHeld, same⟩
          exact unused ⟨held, active.trans isHeld, same⟩
      · refine idle uploader ?_
        rw [← extended, List.drop_left]
        rw [← extended, List.getElem?_append_right new] at isThere
        exact List.mem_of_getElem? isThere
    known := by
      intro call member
      rw [waiting] at member
      rw [← extended, List.length_append]
      exact Nat.lt_add_right _ (sequential.known call member) }

theorem uploadFirmware_sequential (sequential : Sequential session history done current)
    {order : UpgradeOrder} {closing : Bool} {drawn : Drawn}
    (called : session.uploadFirmware order closing drawn = some (next, shown)) :
    IsSequential next (history ++ shown) := by
  have refused : ∀ error, IsSequential session (history ++ [.refused order error]) := fun error =>
    ⟨done, current, sequential.quiet rfl rfl List.prefix_rfl (by simp) rfl rfl⟩
  rw [UploadSession.uploadFirmware] at called
  split at called
  · cases called
    exact refused _
  rename_i some
  split at called
  · cases called
    exact refused _
  have positive : 0 < session.uploaders.length := List.length_pos_iff.mpr some
  split at called
  · rename_i free
    obtain ⟨⟨reached, events⟩, began, same⟩ := Option.map_eq_some_iff.mp called
    cases same
    have isFree := Option.isNone_iff_eq_none.mp free.1
    have nothing := List.isEmpty_iff.mp free.2
    have alone := sequential.current_eq_none isFree
    subst alone
    have events := sequential.events
    have calls := sequential.calls
    rw [Option.toList_none, List.append_nil] at events calls
    rw [nothing, List.map_nil, List.append_nil] at calls
    rw [← List.singleton_append, ← List.append_assoc]
    refine beginUpload_sequential _ isFree sequential.ended ?_ ?_
      (fun _ _ isThere => sequential.allIdle isFree isThere) sequential.known began
    · rw [uploadEvents_append, events]
      exact List.append_nil _
    · rw [calledOrders_append, calls, nothing]
      rfl
  · cases called
    refine ⟨done, current, ?_⟩
    exact {
      ended := sequential.ended
      stands := by
        have stands := sequential.stands
        generalize session.active = held at stands
        cases stands with
        | none => exact .none
        | some stands => exact .some { stands with }
      events := by
        rw [uploadEvents_append, sequential.events]
        exact List.append_nil _
      calls := by
        let call : UploadCall := ⟨order, session.uploaders.length - 1⟩
        have added : (session.waiting ++ [call]).map UploadCall.order =
          session.waiting.map UploadCall.order ++ [order] := List.map_append
        rw [calledOrders_append, sequential.calls, List.append_assoc]
        exact congrArg (_ ++ ·) added.symm
      idle := sequential.idle
      known := by
        intro call member
        rcases List.mem_append.mp member with early | last
        · exact sequential.known call early
        · rw [List.mem_singleton.mp last]
          exact Nat.sub_lt positive Nat.one_pos }

theorem receiveFrame_sequential (sequential : Sequential session history done current)
    (frame : Frame) :
    IsSequential (session.receiveFrame frame).1 (history ++ (session.receiveFrame frame).2) := by
  rw [UploadSession.receiveFrame]
  cases last : session.uploaders.getLast? with
  | none =>
    rw [List.append_nil]
    exact ⟨done, current, sequential⟩
  | some uploader =>
    have isThere : session.uploaders[session.uploaders.length - 1]? = some uploader := by
      rw [← List.getLast?_eq_getElem?, last]
    dsimp only
    by_cases inUse : session.InUse (session.uploaders.length - 1)
    · obtain ⟨active, isActive, isOwn⟩ := inUse
      -- the session's own uploader is at work, and its upload goes on
      have going : active.phase.ended = false := by
        have stands := sequential.stands
        rw [isActive] at stands
        cases stands with
        | some stands => exact stands.going
      have delivered := active_sequential (.deliver frame) sequential isActive (isOwn ▸ isThere) rfl
      rw [isActive, Option.any_some, if_pos (decide_eq_true isOwn)]
      rw [UploadSession.setUpload, isOwn] at delivered
      dsimp only at delivered
      rw [going, if_neg (by decide)] at delivered
      exact delivered
    · have isIdle := sequential.idle _ uploader isThere inUse
      obtain ⟨bound, isLast⟩ := List.getElem?_eq_some_iff.mp isThere
      have unchanged : session.uploaders.set (session.uploaders.length - 1)
          (uploader.handleClientFrame frame).2 = session.uploaders := by
        rw [handleClientFrame_idle isIdle, ← isLast, List.set_getElem_self]
      have unheld :
          session.active.any (·.call.uploader = session.uploaders.length - 1) = false := by
        cases held : session.active with
        | none => rfl
        | some active =>
          exact decide_eq_false fun isOwn => inUse ⟨active, held, isOwn⟩
      rw [unchanged, unheld, if_neg (by decide), List.append_nil]
      exact ⟨done, current, sequential⟩

theorem uploadSession_step {action : UploadSessionAction}
    (sequential : IsSequential session history)
    (stepped : uploadSessionMachine session action = some (next, shown)) :
    IsSequential next (history ++ shown) := by
  obtain ⟨done, current, sequential⟩ := sequential
  unfold uploadSessionMachine at stepped
  split at stepped
  · exact uploadFirmware_sequential sequential stepped
  · split at stepped
    · rename_i call waiting isFree isWaiting
      have alone := sequential.current_eq_none isFree
      subst alone
      have events := sequential.events
      have calls := sequential.calls
      rw [Option.toList_none, List.append_nil] at events calls
      rw [isWaiting, List.map_cons] at calls
      have known := sequential.known
      rw [isWaiting] at known
      exact beginUpload_sequential { session with waiting := waiting } isFree
        sequential.ended events calls (fun _ _ isThere => sequential.allIdle isFree isThere)
        (fun other member => known other (List.mem_cons_of_mem _ member)) stepped
    · cases stepped
  · rename_i frame
    have received := receiveFrame_sequential sequential frame
    rwa [Option.some.inj stepped] at received
  · cases stepped
    refine ⟨done, current, sequential.quiet rfl rfl (List.prefix_append _ _) ?_ rfl rfl⟩
    intro uploader member
    dsimp only at member
    rw [List.drop_left, List.mem_singleton] at member
    rw [member]
    rfl
  · cases stepped
  · split at stepped
    · cases stepped
    rename_i active isActive
    split at stepped
    · cases stepped
    rename_i uploader isThere
    split at stepped
    · cases stepped
    rename_i state events advanced
    cases stepped
    exact active_sequential _ sequential isActive isThere advanced

end Steps

theorem uploadSession_run {actions : List UploadSessionAction} {final : UploadSession}
    {trace : List UploadSessionEvent}
    (ran : run uploadSessionMachine .fresh actions = some (final, trace)) :
    IsSequential final trace := by
  have initially : IsSequential .fresh [] := by
    refine ⟨[], none, ?_⟩
    exact {
      ended := by simp
      stands := .none
      events := rfl
      calls := rfl
      idle := nofun
      known := by simp [UploadSession.fresh] }
  have holds : IsSequential final ([] ++ trace) :=
    run_invariant uploadSession_step initially ran
  exact holds

/-- **Uploads wait for one another.**  However calls, frames, registrations and steps of the uploads
come, a session's uploads come one after the other, each from its beginning on an uploader that is
idle, in the order of the calls; calls that come after them wait, and while no upload is under way
the first of them can begin. -/
theorem uploads_sequential (actions : List UploadSessionAction) (final : UploadSession)
    (trace : List UploadSessionEvent)
    (ran : run uploadSessionMachine .fresh actions = some (final, trace)) :
    ∃ (done : List UploadRun) (current : Option UploadRun),
      (∀ upload ∈ done, upload.final.phase.ended = true) ∧
      (∀ upload ∈ current, upload.final.phase.ended = false) ∧
      uploadEvents trace = (done ++ current.toList).flatMap UploadRun.shown ∧
      calledOrders trace =
        (done ++ current.toList).map UploadRun.order ++ final.waiting.map UploadCall.order ∧
      (current = none → final.waiting ≠ [] → ∀ drawn,
        (uploadSessionMachine final (.wake drawn)).isSome = true) := by
  obtain ⟨done, current, sequential⟩ := uploadSession_run ran
  have stands := sequential.stands
  refine ⟨done, current, sequential.ended, ?_, sequential.events, sequential.calls, ?_⟩
  · rintro upload ⟨⟩
    generalize final.active = held at stands
    cases stands with
    | some stands => exact stands.phase ▸ stands.going
  · rintro rfl some drawn
    have free : final.active = none := by
      generalize final.active = held at stands
      cases stands
      rfl
    obtain ⟨call, waiting, isWaiting⟩ := List.exists_cons_of_ne_nil some
    have bound := sequential.known call (isWaiting ▸ List.mem_cons_self)
    unfold uploadSessionMachine
    dsimp only
    rw [free, isWaiting]
    dsimp only
    rw [UploadSession.beginUpload, List.getElem?_eq_getElem bound]
    dsimp only
    split <;> rfl

/-- What is registered, called and answered in a session with two calls, of which the second gets
the lock when the first has timed out. -/
def twoCalls : List UploadSessionAction :=
  let order : UpgradeOrder := ⟨oneByteImage, ['S'], "foxess-7e-func-a2".toList⟩
  [.register ['S'] 0, .call order false ⟨0, 0, 0⟩, .call order false ⟨0, 0, 0⟩,
    .frame (answerFrame [0, 0, 1] (firmwareMagic ++ [0, 0, 5])), .advance .drained,
    .advance (.interrupt (.timeoutError "")), .wake ⟨0, 0, 0⟩]

theorem uploads_sequential_twoCalls : ∃ final trace,
    run uploadSessionMachine .fresh twoCalls = some (final, trace) ∧
      (calledOrders trace).length = 2 ∧ ∃ (done : List UploadRun) (current : Option UploadRun),
        (∀ upload ∈ done, upload.final.phase.ended = true) ∧
        uploadEvents trace = (done ++ current.toList).flatMap UploadRun.shown := by
  have calls : (run uploadSessionMachine .fresh twoCalls).any (fun reached =>
      (calledOrders reached.2).length = 2) = true := by decide +kernel
  obtain ⟨⟨final, trace⟩, ran, two⟩ := (Option.any_eq_true _ _).mp calls
  obtain ⟨done, current, ended, _, events, _⟩ := uploads_sequential twoCalls final trace ran
  exact ⟨final, trace, ran, of_decide_eq_true two, done, current, ended, events⟩

end FoxessGateway.Firmware
