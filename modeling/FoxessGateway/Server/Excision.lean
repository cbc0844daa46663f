import FoxessGateway.Server.Reachable
import FoxessGateway.Server.Relay
import FoxessGateway.Server.Stages

/-! # What the relay forwards to the cloud

A round of `relay_client_to_upstream` writes the bytes it consumes, less the owned frames, each
cut out where `find` sees it first. -/

namespace FoxessGateway.Server

open ByteOrder Protocol Firmware Effectful Action Streaming Splicing

/-! ## What handling a frame leaves alone -/

/-- The keys of the injected requests. -/
def Session.outstanding (session : Session) : Option (Finset Bytes) :=
  session.localControl.map LocalControl.outstanding

/-- Local control, and the inverter's bytes in the buffer. -/
def Session.clientView (session : Session) : Option LocalControl × Bytes :=
  (session.localControl, session.buffer)

/-- The keys of the injected requests, and the inverter's bytes in the buffer. -/
def Session.keysView (session : Session) : Option (Finset Bytes) × Bytes :=
  (session.outstanding, session.buffer)

/-- The action writes nothing, and keeps local control and the buffer. -/
abbrev Aside {α : Type} (action : InSession α) : Prop := Leaves Session.clientView IsSilent action

theorem Session.isOurFrame_congr {session other : Session} (frame : Frame)
    (same : other.outstanding = session.outstanding) :
    other.isOurFrame frame = session.isOurFrame frame := by
  unfold Session.outstanding at same
  unfold Session.isOurFrame LocalControl.isOurFrame
  cases known : session.localControl <;> cases otherKnown : other.localControl <;>
    simp_all

theorem emit_aside (event : SessionEvent) : Aside (emit event) := Leaves.perform nofun

/-- A response changes futures, and no key. -/
theorem confirmInjectedWrite_keys (frame : Frame) :
    Leaves Session.keysView IsSilent (confirmInjectedWrite frame) := by
  refine confirmInjectedWrite_leaves frame fun session control confirmed known => ?_
  simp only [Session.keysView, Session.outstanding, known, Option.map_some,
    LocalControl.resolveResponse_outstanding]

theorem confirmCloudWrite_aside (config : SessionConfig) (frame : Frame) :
    Aside (confirmCloudWrite config frame) :=
  confirmCloudWrite_leaves config frame (fun _ _ => rfl) fun _ _ => nofun

theorem noteRegistration_aside (world : SessionWorld) (frame : Frame) :
    Aside (noteRegistration world frame) :=
  noteRegistration_leaves world frame (fun _ _ _ _ => rfl) (fun _ _ => rfl) (fun _ _ => rfl)
    (fun _ => nofun) (fun _ => nofun) fun _ => nofun

theorem maybeSettleInverterControl_aside : Aside maybeSettleInverterControl :=
  maybeSettleInverterControl_leaves (fun _ _ => rfl) nofun

theorem noteProductInfo_aside (frame : Frame) : Aside (noteProductInfo frame) :=
  noteProductInfo_leaves (fun _ _ => rfl) nofun frame (fun _ _ _ => rfl) (fun _ _ => rfl)
    (fun _ => nofun) fun _ _ => nofun

theorem noteModuleInfo_aside (frame : Frame) : Aside (noteModuleInfo frame) :=
  noteModuleInfo_leaves frame (fun _ _ => rfl) fun _ _ => nofun

theorem noteMeshRole_aside (frame : Frame) : Aside (noteMeshRole frame) :=
  noteMeshRole_leaves frame (fun _ _ _ => rfl) fun _ _ _ => nofun

/-- The relay sends no bootstrap answers. -/
theorem answerBootstrap_aside (world : SessionWorld) (frame : Frame) :
    Aside (answerBootstrap world frame false) := Leaves.pure

theorem noteTelemetry_aside (world : SessionWorld) (frame : Frame) :
    Aside (noteTelemetry world frame) :=
  noteTelemetry_leaves world frame
    (updateFaultState_leaves world _ (fun _ _ _ _ => rfl) (fun _ _ => rfl)
      (fun _ _ _ _ _ => nofun) fun _ _ _ => nofun)
    (fun _ _ => rfl) (fun _ _ => nofun) maybeSettleInverterControl_aside

theorem noteReadResponse_aside (config : SessionConfig) (frame : Frame) :
    Aside (noteReadResponse config frame) :=
  noteReadResponse_leaves (fun _ _ _ => rfl) (fun _ => nofun) config frame (fun _ _ => nofun)
    fun _ _ _ _ => nofun

theorem noteReadException_aside (config : SessionConfig) (frame : Frame) :
    Aside (noteReadException config frame) :=
  noteReadException_leaves (fun _ _ _ => rfl) (fun _ => nofun) config frame fun _ _ _ _ => nofun

/-- What comes after the confirmation of an injected write, where nothing is answered. -/
theorem laterStages_aside (config : SessionConfig) (world : SessionWorld) (frame : Frame) :
    Aside (do
      confirmCloudWrite config frame
      noteRegistration world frame
      noteProductInfo frame
      noteModuleInfo frame
      noteMeshRole frame
      answerBootstrap world frame false
      noteTelemetry world frame
      noteReadResponse config frame
      noteReadException config frame) := by
  refine Leaves.bind (confirmCloudWrite_aside config frame) fun _ => ?_
  refine Leaves.bind (noteRegistration_aside world frame) fun _ => ?_
  refine Leaves.bind (noteProductInfo_aside frame) fun _ => ?_
  refine Leaves.bind (noteModuleInfo_aside frame) fun _ => ?_
  refine Leaves.bind (noteMeshRole_aside frame) fun _ => ?_
  refine Leaves.bind (answerBootstrap_aside world frame) fun _ => ?_
  refine Leaves.bind (noteTelemetry_aside world frame) fun _ => ?_
  refine Leaves.bind (noteReadResponse_aside config frame) fun _ => ?_
  exact noteReadException_aside config frame

/-- In a relay, `handle_frame` writes nothing, and keeps the buffer and the keys of the injected
requests. -/
theorem handleFrame_leaves (config : SessionConfig) (world : SessionWorld) (frame : Frame) :
    Leaves Session.keysView IsSilent (Session.handleFrame config world frame false) := by
  have coarse : ∀ {α : Type} {action : InSession α}, Aside action →
      Leaves Session.keysView IsSilent action :=
    fun aside => aside.coarsen fun view => (view.1.map LocalControl.outstanding, view.2)
  refine Leaves.bind Leaves.get fun _ => Leaves.bind (coarse (emit_aside _)) fun _ => ?_
  refine Leaves.ite (coarse (emit_aside _)) ?_
  refine Leaves.bind (confirmInjectedWrite_keys frame) fun _ => ?_
  exact coarse (laterStages_aside config world frame)

/-! ## One round -/

/-- The frame is owned, as the session stands when the loop reaches it. -/
def Session.owns (session : Session) (frame : Frame) : Bool :=
  session.isOurFrame frame ||
    session.firmwareUploader.any fun uploader => (uploader.handleClientFrame frame).1

/-- The session after the loop has handled a frame. -/
def Session.handled (config : SessionConfig) (world : SessionWorld) (session : Session)
    (frame : Frame) : Session :=
  ((Session.handleFrame config world frame false).run (session.hooked frame)).state

/-- Which of the frames are owned, each asked when the loop reaches it. -/
def ownership (config : SessionConfig) :
    (Nat → SessionWorld) → Session → List Frame → List Bool
  | _, _, [] => []
  | worlds, session, frame :: frames =>
    session.owns frame :: ownership config (fun index => worlds (index + 1))
      (session.handled config (worlds 0) frame) frames

theorem hooked_bounded {session : Session} (bounded : Bounded session) (frame : Frame) :
    Bounded (session.hooked frame) := bounded

theorem handled_buffer (config : SessionConfig) (world : SessionWorld) (session : Session)
    (frame : Frame) : (session.handled config world frame).buffer = session.buffer :=
  congrArg Prod.snd ((handleFrame_leaves config world frame).keeps (session.hooked frame))

theorem handled_bounded {config : SessionConfig} {world : SessionWorld} {session : Session}
    {frame : Frame} (bounded : Bounded session) (wellFormed : frame.WellFormed) :
    Bounded (session.handled config world frame) :=
  handleFrame_maintains config world false (wellFormed_sizes wellFormed).2 _
    (hooked_bounded bounded frame)

/-- One frame of a round is handled, and cut out of the copy where it is owned. -/
theorem relayClientFrame_run (config : SessionConfig) (world : SessionWorld) {session : Session}
    {frame : Frame} (bounded : Bounded session) (wellFormed : frame.WellFormed) (forward : Bytes) :
    ∃ effects, (∀ effect ∈ effects, IsSilent effect) ∧
      (relayClientFrame config world frame forward).run session =
        ⟨session.handled config world frame, effects,
          .ok (cutFrame (session.owns frame) frame.raw forward)⟩ := by
  obtain ⟨device, short⟩ := wellFormed_sizes wellFormed
  have hook := handleFirmwareUploadFrame_run frame session
  have returned : ((Session.handleFrame config world frame false).run
      (session.hooked frame)).value = .ok () :=
    (handleFrame_survives config false nofun device short).returns (hooked_bounded bounded frame)
  have leaves := handleFrame_leaves config world frame
  -- the keys do not change while the frame is handled, so it may be asked before as well
  have ours : (session.handled config world frame).isOurFrame frame = session.isOurFrame frame :=
    Session.isOurFrame_congr frame (congrArg Prod.fst (leaves.keeps (session.hooked frame)))
  obtain ⟨events, filtered⟩ := filterOwned_run frame
    ((session.handled config world frame).isOurFrame frame)
    (session.firmwareUploader.any fun uploader => (uploader.handleClientFrame frame).1) forward
    (session.handled config world frame)
  refine ⟨((Session.handleFrame config world frame false).run (session.hooked frame)).effects ++
    events.map SessionEffect.emit, ?_, ?_⟩
  · intro effect member
    rcases List.mem_append.mp member with early | late
    · exact leaves.shows _ effect early
    · obtain ⟨event, _, rfl⟩ := List.mem_map.mp late
      exact nofun
  · rw [relayClientFrame]
    rw [run_bind_ok (by rw [hook]), hook]
    dsimp only
    rw [Session.handled] at filtered ours ⊢
    rw [run_bind_ok returned, run_get_bind, filtered, ours, List.nil_append]
    rfl

/-- The frames of one read: what is left of the copy is `cutOwned` of the owned ones. -/
theorem relayClientFrames_run (config : SessionConfig) (worlds : Nat → SessionWorld)
    {session : Session} (laid : List (Bytes × Frame)) (bounded : Bounded session)
    (wellFormed : ∀ spot ∈ laid, spot.2.WellFormed) (forward : Bytes) :
    ∃ after effects, (Bounded after ∧ after.buffer = session.buffer) ∧
      (∀ effect ∈ effects, IsSilent effect) ∧
      (relayClientFrames config worlds (laid.map Prod.snd) forward).run session =
        ⟨after, effects, .ok (cutOwned id
          (framePieces (ownership config worlds session (laid.map Prod.snd)) laid) forward)⟩ := by
  -- each frame meets the session and the copy that the frames before it left
  induction laid generalizing worlds session forward with
  | nil => exact ⟨session, [], ⟨bounded, rfl⟩, nofun, rfl⟩
  | cons spot laid inductionHypothesis =>
    obtain ⟨gap, frame⟩ := spot
    have here : frame.WellFormed := wellFormed (gap, frame) (by simp)
    obtain ⟨first, firstSilent, handled⟩ :=
      relayClientFrame_run config (worlds 0) bounded here forward
    obtain ⟨after, later, ⟨stillBounded, sameBuffer⟩, laterSilent, rest⟩ := inductionHypothesis
      (fun index => worlds (index + 1)) (handled_bounded bounded here)
      (fun spot member => wellFormed spot (by simp [member]))
      (cutFrame (session.owns frame) frame.raw forward)
    refine ⟨after, first ++ later, ⟨stillBounded, ?_⟩, ?_, ?_⟩
    · rw [sameBuffer, handled_buffer]
    · intro effect member
      rcases List.mem_append.mp member with early | late
      · exact firstSilent effect early
      · exact laterSilent effect late
    · rw [List.map_cons, relayClientFrames, run_bind_ok (by rw [handled]), handled]
      dsimp only
      rw [rest]
      simp only [ownership, framePieces, List.zip_cons_cons, List.map_cons, cutOwned, cutFrame,
        List.map_id]

theorem ownership_length (config : SessionConfig) (worlds : Nat → SessionWorld) (session : Session)
    (frames : List Frame) : (ownership config worlds session frames).length = frames.length := by
  induction frames generalizing worlds session with
  | nil => rfl
  | cons frame frames inductionHypothesis =>
    rw [ownership, List.length_cons, inductionHypothesis, List.length_cons]

/-! ## A round -/

/-- The session with the read taken into its buffer and the frames out of it. -/
def Session.taking (session : Session) (data : Bytes) : Session :=
  { session with buffer := (extractFrames (session.buffer ++ data)).2 }

/-- The consumed bytes of a round: the frames found, each owned or not, and what is around
them. -/
def roundPieces (config : SessionConfig) (worlds : Nat → SessionWorld) (session : Session)
    (data : Bytes) : List (Piece UInt8) :=
  framePieces
    (ownership config worlds (session.taking data) (extractFrames (session.buffer ++ data)).1)
    (layoutOf (session.buffer ++ data)).1

/-- The bytes skipped after the last frame of a round. -/
def roundTail (session : Session) (data : Bytes) : Bytes := (layoutOf (session.buffer ++ data)).2

theorem consumed_eq_whole (config : SessionConfig) (worlds : Nat → SessionWorld)
    (session : Session) (data : Bytes) :
    consumed (session.buffer ++ data) =
      whole (roundPieces config worlds session data) (roundTail session data) := by
  have sameLength := ownership_length config worlds (session.taking data)
    (extractFrames (session.buffer ++ data)).1
  rw [consumed_eq_spelled, roundPieces, whole_framePieces]
  · rfl
  · rw [sameLength, ← layoutOf_frames, List.length_map]

theorem roundPieces_nonempty {config : SessionConfig} {worlds : Nat → SessionWorld}
    {session : Session} {data : Bytes} :
    ∀ piece ∈ roundPieces config worlds session data, piece.body ≠ [] := by
  intro piece member empty
  obtain ⟨spot, inside, isRaw⟩ := framePieces_body member
  have long := (layoutOf_wellFormed inside).long
  rw [← isRaw, empty] at long
  simp at long

/-- A round takes the read into the buffer, handles the frames, and comes to its write. -/
theorem relayClientRead_run (config : SessionConfig) (worlds : Nat → SessionWorld)
    (write : SessionWorld) {session : Session} (bounded : Bounded session) (data : Bytes) :
    ∃ after effects, (Bounded after ∧ after.buffer = (extractFrames (session.buffer ++ data)).2) ∧
      (∀ effect ∈ effects, IsSilent effect) ∧
      let forward := cutOwned id (roundPieces config worlds session data)
        (consumed (session.buffer ++ data))
      let outcome := (doWhen (forward ≠ []) (writeAndDrain write forward)).run after
      (relayClientRead config worlds write data).run session =
        ⟨outcome.state, effects ++ outcome.effects, outcome.value⟩ := by
  obtain ⟨after, effects, kept, silent, ran⟩ := relayClientFrames_run config worlds
    (layoutOf (session.buffer ++ data)).1 (show Bounded (session.taking data) from bounded)
    (fun spot member => layoutOf_wellFormed member) (consumed (session.buffer ++ data))
  rw [layoutOf_frames] at ran
  refine ⟨after, .emit (.relayDecrypted true data) :: effects, kept, ?_, ?_⟩
  · intro effect member
    rcases List.mem_cons.mp member with rfl | later
    · exact nofun
    · exact silent effect later
  · have finished : (relayClientFrames config worlds (extractFrames (session.buffer ++ data)).1
        (consumed (session.buffer ++ data)) >>= fun forward =>
          doWhen (forward ≠ []) (writeAndDrain write forward)).run (session.taking data) = _ :=
      run_bind_ok (by rw [ran])
    rw [ran] at finished
    exact congrArg (fun outcome : Outcome Session SessionEffect PyError Unit =>
      Outcome.mk outcome.state (.emit (.relayDecrypted true data) :: outcome.effects) outcome.value)
      finished

/-- **A round writes what search and cut leaves** of the consumed bytes. -/
theorem written_relayClientRead (config : SessionConfig) (worlds : Nat → SessionWorld)
    (write : SessionWorld) {session : Session} (bounded : Bounded session) (data : Bytes) :
    written ((relayClientRead config worlds write data).run session).effects =
      cutOwned id (roundPieces config worlds session data) (consumed (session.buffer ++ data)) := by
  obtain ⟨after, effects, _, silent, ran⟩ := relayClientRead_run config worlds write bounded data
  rw [ran]
  dsimp only
  rw [written_append, written_silent silent, (writeAndDrain_round write _ after).1]
  rfl

/-- **What the relay removes are the owned frames themselves** exactly when none of them is
found too early: `places` follows search and cut on the consumed bytes with their places. -/
theorem relayClientRead_excises_iff {config : SessionConfig} {session : Session}
    (reachable : Reachable config session) (worlds : Nat → SessionWorld) (write : SessionWorld)
    (data : Bytes) :
    let pieces := roundPieces config worlds session data
    let tail := roundTail session data
    let sent := written ((relayClientRead config worlds write data).run session).effects
    let places := cutOwned Prod.fst (placed 0 pieces) (consumed (session.buffer ++ data)).zipIdx
    consumed (session.buffer ++ data) = whole pieces tail ∧
    sent = places.map Prod.fst ∧
    (places = exact (placed 0 pieces) (tail.zipIdx (pieces.map Piece.all).flatten.length) ↔
      Unshadowed id [] pieces) ∧
    (Unshadowed id [] pieces → sent = exact pieces tail) := by
  intro pieces tail sent places
  have layout : consumed (session.buffer ++ data) = whole pieces tail :=
    consumed_eq_whole config worlds session data
  have wrote : sent = cutOwned id pieces (consumed (session.buffer ++ data)) :=
    written_relayClientRead config worlds write reachable.bounded data
  refine ⟨layout, ?_, ?_, fun unshadowed => ?_⟩
  · rw [wrote]
    exact (cutOwned_places pieces _).symm
  · show cutOwned Prod.fst (placed 0 pieces) (consumed (session.buffer ++ data)).zipIdx = _ ↔ _
    rw [layout]
    exact cutOwned_placed_iff pieces tail roundPieces_nonempty
  · rw [wrote, layout]
    exact cutOwned_eq_exact id [] pieces tail unshadowed

/-! ## One frame of a round -/

/-- A frame of a read, with what the read has before and after it. -/
structure RelayedFrame (session : Session) (data : Bytes) where
  early : List (Bytes × Frame)
  gap : Bytes
  frame : Frame
  late : List (Bytes × Frame)
  laid : (layoutOf (session.buffer ++ data)).1 = early ++ (gap, frame) :: late

/-- The session after the loop has handled some frames. -/
def Session.handledAll (config : SessionConfig) :
    (Nat → SessionWorld) → Session → List Frame → Session
  | _, session, [] => session
  | worlds, session, frame :: frames =>
    Session.handledAll config (fun index => worlds (index + 1))
      (session.handled config (worlds 0) frame) frames

theorem ownership_append (config : SessionConfig) (worlds : Nat → SessionWorld) (session : Session)
    (early late : List Frame) :
    ownership config worlds session (early ++ late) = ownership config worlds session early ++
      ownership config (fun index => worlds (index + early.length))
        (session.handledAll config worlds early) late := by
  induction early generalizing worlds session with
  | nil => rfl
  | cons frame early inductionHypothesis =>
    rw [List.cons_append, ownership, inductionHypothesis, ownership, Session.handledAll,
      List.cons_append]
    simp only [List.length_cons, Nat.add_assoc]

/-- The bytes of a round that are written to the cloud, with their places among those consumed. -/
def sentPlaces (config : SessionConfig) (worlds : Nat → SessionWorld) (session : Session)
    (data : Bytes) : List (UInt8 × Nat) :=
  cutOwned Prod.fst (placed 0 (roundPieces config worlds session data))
    (consumed (session.buffer ++ data)).zipIdx

theorem written_sentPlaces (config : SessionConfig) (worlds : Nat → SessionWorld)
    (write : SessionWorld) {session : Session} (bounded : Bounded session) (data : Bytes) :
    written ((relayClientRead config worlds write data).run session).effects =
      (sentPlaces config worlds session data).map Prod.fst := by
  rw [written_relayClientRead config worlds write bounded data, sentPlaces, cutOwned_places]

namespace RelayedFrame

variable {session : Session} {data : Bytes} (config : SessionConfig)
  (worlds : Nat → SessionWorld) (spot : RelayedFrame session data)

/-- The session when the loop comes to the frame. -/
def reached : Session :=
  (session.taking data).handledAll config worlds (spot.early.map Prod.snd)

/-- The bytes before the frame. -/
def front : Bytes := Scanner.spelled Frame.raw (spot.early, spot.gap)

/-- The frame's own bytes, with their places. -/
def own : List (UInt8 × Nat) := spot.frame.raw.zipIdx spot.front.length

/-- The frames before it, each owned or not. -/
def before : List (Piece UInt8) :=
  framePieces (ownership config worlds (session.taking data) (spot.early.map Prod.snd)) spot.early

def piece : Piece UInt8 :=
  ⟨spot.gap, spot.frame.raw, (spot.reached config worlds).owns spot.frame⟩

/-- What is left to forward of the bytes before the frame, when the loop comes to it. -/
def forwardBefore : Bytes := cutOwned id (spot.before config worlds) spot.front

/-- What is left to forward once the frame has been handled, with its places. -/
def forwardAfter : List (UInt8 × Nat) :=
  cutOwned Prod.fst (placed 0 (spot.before config worlds ++ [spot.piece config worlds]))
    (consumed (session.buffer ++ data)).zipIdx

/-- The bytes of the frame do not occur earlier, in what is left to forward, than at its own
place. -/
def FoundAtPlace : Prop :=
  find spot.frame.raw (spot.forwardBefore config worlds ++ spot.frame.raw) =
    some (spot.forwardBefore config worlds).length

theorem whole_before : whole (spot.before config worlds) spot.gap = spot.front := by
  rw [before, whole_framePieces]
  · rfl
  · rw [ownership_length, List.length_map]

/-- The pieces of the frames up to this one, and of those after it. -/
theorem pieces_split (late : List (Bytes × Frame)) :
    framePieces (ownership config worlds (session.taking data)
        ((spot.early ++ (spot.gap, spot.frame) :: late).map Prod.snd))
      (spot.early ++ (spot.gap, spot.frame) :: late) =
    spot.before config worlds ++ spot.piece config worlds ::
      framePieces (ownership config (fun index => worlds (index + spot.early.length + 1))
        ((spot.reached config worlds).handled config (worlds spot.early.length) spot.frame)
        (late.map Prod.snd)) late := by
  -- each frame before it has been asked for its owner, so that the pairs can be taken apart here
  have sameLength : (ownership config worlds (session.taking data)
      (spot.early.map Prod.snd)).length = spot.early.length := by
    rw [ownership_length, List.length_map]
  rw [List.map_append, ownership_append, framePieces, List.zip_append sameLength, List.map_append,
    List.length_map, List.map_cons, ownership, Nat.zero_add]
  simp only [Nat.add_right_comm _ 1]
  rfl

theorem roundPieces_split : ∃ late, roundPieces config worlds session data =
    spot.before config worlds ++ spot.piece config worlds :: late := by
  have split := spot.pieces_split config worlds spot.late
  rw [← spot.laid, layoutOf_frames] at split
  exact ⟨_, split⟩

/-- What the loop has left to forward once it has handled the frame. -/
theorem forwardAfter_run (bounded : Bounded session) :
    ((relayClientFrames config worlds (spot.early.map Prod.snd ++ [spot.frame])
        (consumed (session.buffer ++ data))).run (session.taking data)).value =
      .ok ((spot.forwardAfter config worlds).map Prod.fst) := by
  have wellFormed : ∀ other ∈ spot.early ++ [(spot.gap, spot.frame)], other.2.WellFormed := by
    intro other member
    have inside : other ∈ (layoutOf (session.buffer ++ data)).1 := by
      rw [spot.laid]
      exact List.mem_append.mpr ((List.mem_append.mp member).imp_right fun last =>
        List.mem_cons.mpr (.inl (List.mem_singleton.mp last)))
    exact layoutOf_wellFormed inside
  obtain ⟨after, effects, _, _, ran⟩ := relayClientFrames_run config worlds _
    (show Bounded (session.taking data) from bounded) wellFormed
    (consumed (session.buffer ++ data))
  rw [spot.pieces_split config worlds [], List.map_append] at ran
  rw [forwardAfter, cutOwned_places]
  exact congrArg Outcome.value ran

/-- **The relay takes a frame out of what it forwards** exactly if it owns the frame, and does not
find its bytes earlier. -/
theorem takes_iff : (∀ place ∈ spot.own, place ∉ spot.forwardAfter config worlds) ↔
    (spot.reached config worlds).owns spot.frame = true ∧ spot.FoundAtPlace config worlds := by
  obtain ⟨late, split⟩ := spot.roundPieces_split config worlds
  have layout := consumed_eq_whole config worlds session data
  -- the bytes up to the frame, and whatever the read has after it
  have shape : consumed (session.buffer ++ data) =
      whole (spot.before config worlds ++ [spot.piece config worlds])
        (whole late (roundTail session data)) := by
    rw [layout, split]
    simp [whole]
  have nonempty : (spot.piece config worlds).body ≠ [] :=
    roundPieces_nonempty _ (by rw [split]; exact List.mem_append_right _ List.mem_cons_self)
  have taken := placed_takes_iff (spot.before config worlds) (spot.piece config worlds)
    (whole late (roundTail session data)) nonempty
  rw [← shape] at taken
  dsimp only [piece] at taken
  rw [whole_before] at taken
  exact taken

/-- What has been taken out is not written. -/
theorem sentPlaces_subset {place : UInt8 × Nat}
    (sent : place ∈ sentPlaces config worlds session data) :
    place ∈ spot.forwardAfter config worlds := by
  obtain ⟨late, split⟩ := spot.roundPieces_split config worlds
  have pieces : roundPieces config worlds session data =
      (spot.before config worlds ++ [spot.piece config worlds]) ++ late := by
    rw [split, List.append_assoc]
    rfl
  -- the frames after it only take more away
  rw [sentPlaces, pieces, placed_append, cutOwned_pieces_append] at sent
  exact (cutOwned_sublist Prod.fst _ _).subset sent

end RelayedFrame

/-! ## A response that is found too early -/

/-- A session that has injected one write. -/
def awaitingSession : Session :=
  { Session.fresh .everything with
    localControl := some (LocalControl.fresh.addOutstanding [0x12, 0x01, 0xf0, 0xaa]) }

theorem awaitingSession_reachable : Reachable .everything awaitingSession :=
  Reachable.fresh.elsewhere rfl rfl

/-- The inverter's acknowledgement of that write. -/
def ownResponse : Frame :=
  builtFrame marker7f [0x92, 0x01, 0xf0, 0xaa] commandEnvelopeFunc [0x01, 0x06] endF7

/-- A frame for the cloud with the same bytes in its payload. -/
def quotingFrame : Frame :=
  builtFrame marker7e [0x00, 0x00, 0x00, 0x00] 0x02 ownResponse.raw endE7

theorem ownResponse_wellFormed : ownResponse.WellFormed :=
  builtFrame_wellFormed (.inr ⟨rfl, rfl⟩) rfl (by decide)

theorem quotingFrame_wellFormed : quotingFrame.WellFormed :=
  builtFrame_wellFormed (.inl ⟨rfl, rfl⟩) rfl (by decide +kernel)

/-- A frame of the `7e` family and then the response, in one read. -/
theorem awaitingSession_round (config : SessionConfig) (worlds : Nat → SessionWorld) {first : Frame}
    (wellFormed : first.WellFormed) (isOther : first.start = marker7e) :
    roundPieces config worlds awaitingSession (first.raw ++ ownResponse.raw) =
        [⟨[], first.raw, false⟩, ⟨[], ownResponse.raw, true⟩] ∧
      roundTail awaitingSession (first.raw ++ ownResponse.raw) = [] := by
  have laid : layoutOf (first.raw ++ ownResponse.raw) = ([([], first), ([], ownResponse)], []) := by
    have joined := Scanner.layout_joined [first, ownResponse]
      (recognised (by simp [wellFormed, ownResponse_wellFormed])) extractPass_nil
    show frameScanner.layout Frame.raw _ = _
    simpa using joined
  have frames : (extractFrames (first.raw ++ ownResponse.raw)).1 = [first, ownResponse] := by
    rw [← layoutOf_frames, laid]
    rfl
  have notOurs : (awaitingSession.taking (first.raw ++ ownResponse.raw)).owns first = false := by
    have other : ¬ first.start = marker7f := by
      rw [isOther]
      decide
    simp [Session.owns, Session.isOurFrame, LocalControl.isOurFrame, other, Session.taking,
      awaitingSession, Session.fresh]
  -- the keys are the same after the first frame, so the response is still owned
  have ours : ((awaitingSession.taking (first.raw ++ ownResponse.raw)).handled config (worlds 0)
      first).owns ownResponse = true := by
    have kept : (((awaitingSession.taking (first.raw ++ ownResponse.raw)).handled config (worlds 0)
        first)).outstanding = awaitingSession.outstanding :=
      congrArg Prod.fst ((handleFrame_leaves config (worlds 0) first).keeps
        ((awaitingSession.taking (first.raw ++ ownResponse.raw)).hooked first))
    have mine : awaitingSession.isOurFrame ownResponse = true := by decide +kernel
    rw [Session.owns, Session.isOurFrame_congr ownResponse kept, Bool.or_eq_true]
    exact .inl mine
  constructor
  · rw [roundPieces]
    show framePieces (ownership config worlds _ (extractFrames (first.raw ++ ownResponse.raw)).1)
      (layoutOf (first.raw ++ ownResponse.raw)).1 = _
    rw [frames, laid, ownership, ownership, ownership, notOurs, ours]
    rfl
  · show (layoutOf (first.raw ++ ownResponse.raw)).2 = []
    rw [laid]

/-- The response is removed and the frame before it is forwarded. -/
theorem relayClientRead_excises_ownResponse :
    written ((relayClientRead .everything (fun _ => ⟨0, 0, none⟩) ⟨0, 0, none⟩
      ((emptyFrame 0x7e).raw ++ ownResponse.raw)).run awaitingSession).effects =
        (emptyFrame 0x7e).raw := by
  obtain ⟨pieces, tail⟩ := awaitingSession_round .everything (fun _ => ⟨0, 0, none⟩)
    (emptyFrame_wellFormed (.inl rfl)) rfl
  have sent := (relayClientRead_excises_iff awaitingSession_reachable (fun _ => ⟨0, 0, none⟩)
    ⟨0, 0, none⟩ ((emptyFrame 0x7e).raw ++ ownResponse.raw)).2.2.2
  rw [pieces, tail] at sent
  refine (sent ⟨nofun, fun _ => ?_, trivial⟩).trans (by decide)
  decide +kernel

/-- The response is found in the payload of the frame before it: that frame is damaged and the
response goes to the cloud. -/
theorem relayClientRead_quotingFrame :
    ¬ ∀ (config : SessionConfig) (session : Session) (worlds : Nat → SessionWorld)
      (write : SessionWorld) (data : Bytes), Reachable config session →
      written ((relayClientRead config worlds write data).run session).effects =
        exact (roundPieces config worlds session data) (roundTail session data) := by
  intro claimed
  have sent := claimed .everything awaitingSession (fun _ => ⟨0, 0, none⟩) ⟨0, 0, none⟩
    (quotingFrame.raw ++ ownResponse.raw) awaitingSession_reachable
  obtain ⟨pieces, tail⟩ := awaitingSession_round .everything (fun _ => ⟨0, 0, none⟩)
    quotingFrame_wellFormed rfl
  have layout := consumed_eq_whole .everything (fun _ => ⟨0, 0, none⟩) awaitingSession
    (quotingFrame.raw ++ ownResponse.raw)
  rw [written_relayClientRead _ _ _ awaitingSession_reachable.bounded, layout, pieces, tail] at sent
  exact absurd sent (by decide +kernel)

end FoxessGateway.Server
