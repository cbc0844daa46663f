import FoxessGateway.Firmware.UpgradeRequest
import FoxessGateway.Firmware.UploadSession

/-! # Checked uploads

The control socket, the sessions it leads to and their uploads.  In every run, what a session
writes of an image to its inverter was asked for with the hash of the image, or without any by a
request that waives it. -/

namespace FoxessGateway.Firmware

open Protocol Runs JsonText

/-! ## The machine -/

/-- The sessions and the registry that the control socket looks them up in. -/
structure ControlDaemon where
  sessions : Nat → UploadSession
  sessionsBySerial : Dict Text Nat

def ControlDaemon.fresh : ControlDaemon := ⟨fun _ => .fresh, .empty⟩

inductive ControlEvent where
  /-- A connection to the control socket brought the bytes. -/
  | received (stream : Bytes)
  | refused (error : ControlError)
  | session (session : Nat) (event : UploadSessionEvent)

inductive ControlAction where
  | control (stream : Bytes) (closing : Bool) (drawn : Drawn)
  | register (session : Nat) (serial : Text) (monotonicNs : Nat)
  | wake (session : Nat) (drawn : Drawn)
  | frame (session : Nat) (frame : Frame)
  | advance (session : Nat) (action : UploadAction)
  /-- `handle_client` of a session is done, which has the serial. -/
  | finish (session : Nat) (serial : Text)

namespace ControlDaemon

variable (daemon : ControlDaemon)

/-- A step of one session. -/
def stepSession (session : Nat) (action : UploadSessionAction) :
    Option (ControlDaemon × List ControlEvent) :=
  (uploadSessionMachine (daemon.sessions session) action).map fun reached =>
    ({ daemon with sessions := Function.update daemon.sessions session reached.1 },
      reached.2.map (.session session))

/-- `handle_firmware_control` up to the first `await` of `upload_firmware`. -/
def handleFirmwareControl (world : ControlWorld) (stream : Bytes) (closing : Bool)
    (drawn : Drawn) : Option (ControlDaemon × List ControlEvent) :=
  match receiveOrder world (fun serial => (daemon.sessionsBySerial.get serial).isSome) stream with
  | .error error => some (daemon, [.received stream, .refused error])
  | .ok order =>
    match daemon.sessionsBySerial.get order.serial with
    | none => none
    | some session =>
      (daemon.stepSession session (.call order closing drawn)).map fun reached =>
        (reached.1, .received stream :: reached.2)

end ControlDaemon

def controlMachine (world : ControlWorld) : Machine ControlDaemon ControlAction ControlEvent :=
  fun daemon action =>
  match action with
  | .control stream closing drawn => daemon.handleFirmwareControl world stream closing drawn
  | .register session serial monotonicNs =>
    { daemon with sessionsBySerial := daemon.sessionsBySerial.set serial session }.stepSession
      session (.register serial monotonicNs)
  | .wake session drawn => daemon.stepSession session (.wake drawn)
  | .frame session frame => daemon.stepSession session (.frame frame)
  | .advance session action => daemon.stepSession session (.advance action)
  | .finish session serial =>
    some (if daemon.sessionsBySerial.get serial = some session then
      { daemon with sessionsBySerial := daemon.sessionsBySerial.pop serial } else daemon, [])

/-! ## What an upload writes -/

/-- The chunk data is a beginning of the image, and all of it once the image is accepted. -/
structure WritesImage (image : FirmwareImage) (shown : List UploadEvent) : Prop where
  inFront : ∀ before after, shown = before ++ after → chunkData before <+: image.data
  whole : ∀ before chunks after, shown = before ++ .imageAccepted chunks :: after →
    chunkData before = image.data

theorem WritesImage.of_justified (transfer : Transfer) {counter : Nat} {shown : List UploadEvent}
    (supported : Supported transfer.variant)
    (justified : Justified (UploadBecause transfer counter) shown) :
    WritesImage transfer.image shown where
  inFront before after split := by
    rw [split] at justified
    obtain ⟨bound, data⟩ := justified_chunkData supported justified.of_append
    rw [data, transfer.image.chunks_take bound]
    exact List.take_prefix _ _
  whole before chunks after split := by
    obtain ⟨written, _⟩ := justified before _ after split
    rw [split] at justified
    obtain ⟨_, data⟩ := justified_chunkData supported justified.of_append
    rw [data, written, Nat.add_sub_cancel, List.take_length, transfer.image.chunks_flatten]

theorem WritesImage.raised (image : FirmwareImage) (error : PyError) :
    WritesImage image [.raised error] where
  inFront before after split := by
    rcases before with _ | ⟨first, later⟩
    · exact List.nil_prefix
    · obtain ⟨rfl, nothing⟩ := List.cons.inj split
      obtain ⟨rfl, _⟩ := List.append_eq_nil_iff.mp nothing.symm
      exact List.nil_prefix
  whole before chunks after split := by
    rcases before with _ | ⟨first, later⟩
    · cases (List.cons.inj split).1
    · have nothing := (List.cons.inj split).2.symm
      simp at nothing

/-- The run of an upload is that of its dialect, or has raised at once. -/
theorem UploadRun.writesImage (upload : UploadRun) :
    WritesImage upload.order.image upload.shown := by
  cases selected : upload.order.variant upload.drawn with
  | ok variant =>
    have begun := upload_invariant upload.uploader upload.order.image selected
    have ran : run (uploadMachine ⟨upload.order.image, upload.uploader.serial, variant⟩)
        (upload.order.start upload.uploader upload.drawn).1 upload.actions =
          some (upload.final, upload.later) := by
      rcases upload.selected with same | still
      · obtain rfl : variant = upload.variant := Except.ok.inj (selected.symm.trans same)
        exact upload.ran
      · have ran := upload.ran
        rw [still] at ran ⊢
        exact ran
    exact .of_justified ⟨upload.order.image, upload.uploader.serial, variant⟩
      (selectVariant_supported selected) (run_invariant uploadStep_invariant begun ran).1
  | error error =>
    have still : upload.actions = [] := by
      rcases upload.selected with same | still
      · cases selected.symm.trans same
      · exact still
    have ran := upload.ran
    rw [still] at ran
    have nothing := (run_nil_eq_some.mp ran).2
    have start : (upload.order.start upload.uploader upload.drawn).2 = [.raised error] := by
      rw [UpgradeOrder.variant] at selected
      rw [UpgradeOrder.start, FirmwareUploader.upload, if_neg (by rw [upload.idle]; decide),
        selected]
      rfl
    rw [UploadRun.shown, ← nothing, List.append_nil, start]
    exact .raised _ _

/-! ## The orders of a session -/

theorem beginUpload_quiet {session next : UploadSession} {call : UploadCall} {drawn : Drawn}
    {shown : List UploadSessionEvent}
    (began : session.beginUpload call drawn = some (next, shown)) : calledOrders shown = [] := by
  rw [UploadSession.beginUpload] at began
  split at began
  · cases began
  dsimp only at began
  split at began
  · cases began
    exact calledOrders_upload _
  · cases began
    exact calledOrders_upload _

/-- Only a call brings an order. -/
theorem calledOrders_step {session next : UploadSession} {action : UploadSessionAction}
    {shown : List UploadSessionEvent}
    (stepped : uploadSessionMachine session action = some (next, shown)) :
    ∀ order ∈ calledOrders shown, ∃ closing drawn, action = .call order closing drawn := by
  unfold uploadSessionMachine at stepped
  split at stepped
  · rename_i order closing drawn
    intro other member
    refine ⟨closing, drawn, ?_⟩
    rw [UploadSession.uploadFirmware] at stepped
    split at stepped
    · cases stepped
      cases member
    split at stepped
    · cases stepped
      cases member
    split at stepped
    · obtain ⟨⟨reached, events⟩, began, same⟩ := Option.map_eq_some_iff.mp stepped
      cases same
      have quiet := beginUpload_quiet began
      change other ∈ order :: calledOrders events at member
      rw [quiet, List.mem_singleton] at member
      rw [member]
    · cases stepped
      rw [List.mem_singleton.mp member]
  · split at stepped
    · rw [beginUpload_quiet stepped]
      exact List.forall_mem_nil _
    · cases stepped
  · rename_i frame
    have quiet : calledOrders (session.receiveFrame frame).2 = [] := by
      rw [UploadSession.receiveFrame]
      split
      · rfl
      · dsimp only
        split <;> rfl
    rw [Option.some.inj stepped] at quiet
    rw [quiet]
    exact List.forall_mem_nil _
  · cases stepped
    exact List.forall_mem_nil _
  · cases stepped
  · split at stepped
    · cases stepped
    split at stepped
    · cases stepped
    split at stepped
    · cases stepped
    cases stepped
    rw [calledOrders_upload]
    exact List.forall_mem_nil _

/-! ## Every session of the daemon -/

def eventsOf (session : Nat) (history : List ControlEvent) : List UploadSessionEvent :=
  history.filterMap fun event => match event with
    | .session other event => if other = session then some event else none
    | _ => none

theorem eventsOf_append (session : Nat) (first later : List ControlEvent) :
    eventsOf session (first ++ later) = eventsOf session first ++ eventsOf session later := by
  simp [eventsOf]

theorem eventsOf_session (session other : Nat) (shown : List UploadSessionEvent) :
    eventsOf session (shown.map (.session other)) = if other = session then shown else [] := by
  rw [eventsOf, List.filterMap_map]
  split
  · rename_i same
    simp [same]
  · rename_i differs
    simp [differs]

/-- A request came in that asks for the order, and the image was checked against it. -/
def CameChecked (world : ControlWorld) (history : List ControlEvent) (order : UpgradeOrder) :
    Prop :=
  ∃ stream entries, .received stream ∈ history ∧ Requests world stream entries order ∧
    Checked world entries order.image

theorem CameChecked.append {world : ControlWorld} {history : List ControlEvent}
    {order : UpgradeOrder} (came : CameChecked world history order) (later : List ControlEvent) :
    CameChecked world (history ++ later) order := by
  obtain ⟨stream, entries, member, rest⟩ := came
  exact ⟨stream, entries, List.mem_append_left _ member, rest⟩

/-- The uploads of every session come one after the other, and each order came checked. -/
def AllChecked (world : ControlWorld) (daemon : ControlDaemon) (history : List ControlEvent) :
    Prop :=
  ∀ session, IsSequential (daemon.sessions session) (eventsOf session history) ∧
    ∀ order ∈ calledOrders (eventsOf session history), CameChecked world history order

section Steps

variable {world : ControlWorld} {daemon next : ControlDaemon} {history shown : List ControlEvent}

/-- A step of one session, with what was read in front of it. -/
theorem stepSession_checked (checked : AllChecked world daemon history) {session : Nat}
    {action : UploadSessionAction} (front : List ControlEvent)
    (quiet : ∀ session, eventsOf session front = [])
    (orders : ∀ order closing drawn, action = .call order closing drawn →
      CameChecked world (history ++ front) order)
    (stepped : daemon.stepSession session action = some (next, shown)) :
    AllChecked world next (history ++ (front ++ shown)) := by
  obtain ⟨⟨reached, events⟩, moved, same⟩ := Option.map_eq_some_iff.mp stepped
  cases same
  intro other
  obtain ⟨sequential, came⟩ := checked other
  rw [eventsOf_append, eventsOf_append, quiet, List.nil_append, eventsOf_session]
  by_cases isSession : session = other
  · subst isSession
    rw [if_pos rfl]
    dsimp only
    rw [Function.update_self]
    refine ⟨uploadSession_step sequential moved, fun order member => ?_⟩
    rw [calledOrders_append] at member
    rw [← List.append_assoc]
    rcases List.mem_append.mp member with early | now
    · exact ((came order early).append front).append _
    · obtain ⟨closing, drawn, isCall⟩ := calledOrders_step moved order now
      exact (orders order closing drawn isCall).append _
  · rw [if_neg isSession, List.append_nil]
    dsimp only
    rw [Function.update_of_ne (Ne.symm isSession)]
    exact ⟨sequential, fun order member => (came order member).append _⟩

/-- What is only shown changes no session. -/
theorem AllChecked.show (checked : AllChecked world daemon history)
    (sessions : next.sessions = daemon.sessions)
    (quiet : ∀ session, eventsOf session shown = []) :
    AllChecked world next (history ++ shown) := by
  intro session
  obtain ⟨sequential, came⟩ := checked session
  rw [eventsOf_append, quiet, List.append_nil, sessions]
  exact ⟨sequential, fun order member => (came order member).append _⟩

theorem controlStep_checked {action : ControlAction} (checked : AllChecked world daemon history)
    (stepped : controlMachine world daemon action = some (next, shown)) :
    AllChecked world next (history ++ shown) := by
  have other : ∀ {session action}, (∀ order closing drawn, action ≠ .call order closing drawn) →
      daemon.stepSession session action = some (next, shown) →
      AllChecked world next (history ++ shown) := by
    intro session action noCall moved
    exact stepSession_checked checked [] (fun _ => rfl)
      (fun order closing drawn isCall => absurd isCall (noCall order closing drawn)) moved
  cases action with
  | control stream closing drawn =>
    change daemon.handleFirmwareControl world stream closing drawn = _ at stepped
    rw [ControlDaemon.handleFirmwareControl] at stepped
    split at stepped
    · cases stepped
      exact checked.show rfl fun _ => rfl
    · rename_i order received
      split at stepped
      · cases stepped
      obtain ⟨⟨reached, events⟩, moved, same⟩ := Option.map_eq_some_iff.mp stepped
      cases same
      obtain ⟨entries, requests, isChecked, _⟩ := receiveOrder_ok received
      refine stepSession_checked checked [.received stream] (fun _ => rfl) ?_ moved
      rintro other closing drawn ⟨⟩
      exact ⟨stream, entries, List.mem_append_right _ (List.mem_singleton_self _), requests,
        isChecked⟩
  | register session serial monotonicNs =>
    have registered : AllChecked world { daemon with
        sessionsBySerial := daemon.sessionsBySerial.set serial session } history := checked
    exact stepSession_checked registered [] (fun _ => rfl) (by rintro _ _ _ ⟨⟩) stepped
  | wake session drawn => exact other (by rintro _ _ _ ⟨⟩) stepped
  | frame session frame => exact other (by rintro _ _ _ ⟨⟩) stepped
  | advance session action => exact other (by rintro _ _ _ ⟨⟩) stepped
  | finish session serial =>
    cases stepped
    refine checked.show ?_ fun _ => rfl
    split <;> rfl

end Steps

/-- **Only checked images are written.**  However control requests, registrations, frames and steps
of uploads come, what a session writes are uploads one after the other; the order of each came in
over the control socket, with the hash of the image or without any in a request that waives it; and
the chunk data of each is a beginning of its image, and all of it once the image is accepted. -/
theorem uploads_checked (world : ControlWorld) (actions : List ControlAction)
    (final : ControlDaemon) (trace : List ControlEvent)
    (ran : run (controlMachine world) .fresh actions = some (final, trace)) (session : Nat) :
    ∃ uploads : List UploadRun,
      uploadEvents (eventsOf session trace) = uploads.flatMap UploadRun.shown ∧
      ∀ upload ∈ uploads, CameChecked world trace upload.order ∧
        WritesImage upload.order.image upload.shown := by
  have initially : AllChecked world .fresh [] := by
    intro session
    refine ⟨⟨[], none, ?_⟩, nofun⟩
    exact ⟨by simp, .none, rfl, rfl, nofun, by simp [UploadSession.fresh, ControlDaemon.fresh]⟩
  have checked : AllChecked world final ([] ++ trace) :=
    run_invariant controlStep_checked initially ran
  obtain ⟨⟨done, current, sequential⟩, came⟩ := checked session
  refine ⟨done ++ current.toList, sequential.events, fun upload member => ?_⟩
  refine ⟨came upload.order ?_, upload.writesImage⟩
  rw [sequential.calls]
  exact List.mem_append_left _ (List.mem_map_of_mem member)

/-- The inverter `S` registers, and the tool sends an image of one byte for it. -/
def starActions : List ControlAction :=
  [.register 0 ['S'] 0, .control (ByteOrder.toBig 4 starUpgrade.encodedHeader.length ++
    starUpgrade.encodedHeader ++ starUpgrade.data) false ⟨0, 0, 0⟩]

theorem uploads_checked_star : ∃ final trace,
    run (controlMachine plainWorld) .fresh starActions = some (final, trace) ∧
      (uploadEvents (eventsOf 0 trace)).length = 1 ∧ ∃ uploads : List UploadRun,
        uploadEvents (eventsOf 0 trace) = uploads.flatMap UploadRun.shown ∧
        ∀ upload ∈ uploads, CameChecked plainWorld trace upload.order := by
  have writes : (run (controlMachine plainWorld) .fresh starActions).any (fun reached =>
      (uploadEvents (eventsOf 0 reached.2)).length = 1) = true := by decide +kernel
  obtain ⟨⟨final, trace⟩, ran, one⟩ := (Option.any_eq_true _ _).mp writes
  obtain ⟨uploads, events, checked⟩ := uploads_checked plainWorld starActions final trace ran 0
  exact ⟨final, trace, ran, of_decide_eq_true one, uploads, events,
    fun upload member => (checked upload member).1⟩

end FoxessGateway.Firmware
