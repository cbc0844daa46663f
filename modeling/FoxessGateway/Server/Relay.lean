import FoxessGateway.Protocol.ReadBoundary
import FoxessGateway.Server.Handlers

/-! # The relay

The frame loops of `run_local`, `relay_client_to_upstream` and `relay_upstream_to_client`.  A
loop that relays copies the bytes it consumes, and cuts the frames it keeps back out of the
copy where `find` sees them first. -/

namespace FoxessGateway.Server

open ByteOrder Protocol Firmware Effectful Action Streaming Splicing

/-! ## Bytes -/

/-- `snapshot[: len(snapshot) - len(leftover)]` -/
def consumed (snapshot : Bytes) : Bytes :=
  snapshot.take (snapshot.length - (extractFrames snapshot).2.length)

/-- `idx = forward.find(raw)` and the deletion, where the frame is to be kept back. -/
def cutFrame (keepBack : Bool) (raw forward : Bytes) : Bytes :=
  if keepBack then cutFirst id raw forward else forward

/-- What is written to the connection of a relay loop. -/
def written (effects : List SessionEffect) : Bytes :=
  (effects.filterMap fun effect => match effect with
    | .write raw => some raw
    | _ => none).flatten

@[simp] theorem written_nil : written [] = [] := rfl

@[simp] theorem written_append (first later : List SessionEffect) :
    written (first ++ later) = written first ++ written later := by
  simp [written]

@[simp] theorem written_write (raw : Bytes) (effects : List SessionEffect) :
    written (.write raw :: effects) = raw ++ written effects := rfl

/-- Anything but a write to the connection. -/
def IsSilent (effect : SessionEffect) : Prop := ∀ raw, effect ≠ .write raw

theorem written_silent {effects : List SessionEffect}
    (silent : ∀ effect ∈ effects, IsSilent effect) :
    written effects = [] := by
  induction effects with
  | nil => rfl
  | cons effect effects inductionHypothesis =>
    have later := inductionHypothesis fun other member => silent other (by simp [member])
    have first := silent effect (by simp)
    cases effect with
    | write raw => exact absurd rfl (first raw)
    | _ => exact later

/-- The write at the end of a round, whether or not its drain fails. -/
theorem writeAndDrain_round (world : SessionWorld) (forward : Bytes) (session : Session) :
    let outcome := (doWhen (forward ≠ []) (writeAndDrain world forward)).run session
    written outcome.effects = forward ∧ outcome.state = session := by
  intro outcome
  by_cases empty : forward = []
  · have skipped : outcome = ⟨session, [], .ok ()⟩ := by
      show (doWhen _ _).run session = _
      rw [doWhen, if_neg (not_not.mpr empty)]
      rfl
    rw [skipped, empty]
    exact ⟨rfl, rfl⟩
  · have done : outcome = (writeAndDrain world forward).run session := by
      show (doWhen _ _).run session = _
      rw [doWhen, if_pos empty]
    rw [done, writeAndDrain, run_perform_bind]
    exact ⟨List.append_nil forward, rfl⟩

/-! ## The consumed bytes

The frames of a buffer and what lies around them, as pieces that a loop may cut out. -/

/-- The frames `extract_frames` finds in the buffer, each with the bytes skipped before it, and
the bytes skipped after the last one. -/
def layoutOf (snapshot : Bytes) : List (Bytes × Frame) × Bytes :=
  frameScanner.layout Frame.raw snapshot

theorem layoutOf_frames (snapshot : Bytes) :
    (layoutOf snapshot).1.map Prod.snd = (extractFrames snapshot).1 :=
  Scanner.layout_items frameScanner Frame.raw snapshot

theorem layoutOf_wellFormed {snapshot : Bytes} {spot : Bytes × Frame}
    (member : spot ∈ (layoutOf snapshot).1) : spot.2.WellFormed := by
  apply extractFrames_wellFormed
  rw [← layoutOf_frames]
  exact List.mem_map_of_mem member

theorem take_front {α : Type} {front back joined : List α} (split : front ++ back = joined) :
    joined.take (joined.length - back.length) = front := by
  subst split
  simp

theorem consumed_eq_spelled (snapshot : Bytes) :
    consumed snapshot = Scanner.spelled Frame.raw (layoutOf snapshot) :=
  take_front (frameScanner_reads.layout_spelled snapshot)

theorem consumed_append_rest (snapshot : Bytes) :
    consumed snapshot ++ (extractFrames snapshot).2 = snapshot := by
  rw [consumed_eq_spelled]
  exact frameScanner_reads.layout_spelled snapshot

/-- The bytes of a frame stand in the buffer it is found in. -/
theorem raw_infix_of_extracted {snapshot : Bytes} {frame : Frame}
    (found : frame ∈ (extractFrames snapshot).1) : frame.raw <:+: snapshot := by
  rw [← layoutOf_frames] at found
  obtain ⟨⟨gap, frame⟩, inside, rfl⟩ := List.mem_map.mp found
  have spot : gap ++ frame.raw ∈ (layoutOf snapshot).1.map fun piece => piece.1 ++ piece.2.raw :=
    List.mem_map.mpr ⟨_, inside, rfl⟩
  have spelled := consumed_eq_spelled snapshot
  have whole := consumed_append_rest snapshot
  rw [spelled, Scanner.spelled, List.append_assoc] at whole
  rw [← whole]
  exact ((List.suffix_append gap _).isInfix.trans (List.infix_of_mem_flatten spot)).trans
    (List.prefix_append _ _).isInfix

/-- The frames of a layout as pieces of the consumed bytes. -/
def framePieces (owned : List Bool) (laid : List (Bytes × Frame)) : List (Piece UInt8) :=
  (owned.zip laid).map fun spot => ⟨spot.2.1, spot.2.2.raw, spot.1⟩

theorem whole_framePieces {owned : List Bool} {laid : List (Bytes × Frame)}
    (sameLength : owned.length = laid.length) (tail : Bytes) :
    whole (framePieces owned laid) tail = Scanner.spelled Frame.raw (laid, tail) := by
  rw [whole, Scanner.spelled, framePieces]
  congr 2
  induction laid generalizing owned with
  | nil => rw [List.length_eq_zero_iff.mp sameLength]; rfl
  | cons spot laid inductionHypothesis =>
    cases owned with
    | nil => cases sameLength
    | cons keepBack owned =>
      rw [List.zip_cons_cons, List.map_cons, List.map_cons, List.map_cons,
        inductionHypothesis (by simpa using sameLength)]
      rfl

theorem framePieces_body {owned : List Bool} {laid : List (Bytes × Frame)} {piece : Piece UInt8}
    (member : piece ∈ framePieces owned laid) : ∃ spot ∈ laid, piece.body = spot.2.raw := by
  obtain ⟨⟨keepBack, spot⟩, both, rfl⟩ := List.mem_map.mp member
  exact ⟨spot, (List.of_mem_zip both).2, rfl⟩

/-! ## From the inverter -/

/-- The session after the hook has seen a frame. -/
def Session.hooked (session : Session) (frame : Frame) : Session :=
  { session with
    firmwareUploader := session.firmwareUploader.map fun uploader =>
      (uploader.handleClientFrame frame).2 }

theorem handleFirmwareUploadFrame_run (frame : Frame) (session : Session) :
    (handleFirmwareUploadFrame frame).run session =
      ⟨session.hooked frame, [],
        .ok (session.firmwareUploader.any fun uploader =>
          (uploader.handleClientFrame frame).1)⟩ := by
  rw [handleFirmwareUploadFrame, Session.hooked]
  cases session with
  | mk =>
    rename_i uploader _
    cases uploader <;> rfl

/-- What `run_local` does with a frame. -/
def localFrame (config : SessionConfig) (world : SessionWorld) (frame : Frame) :
    InSession Unit := do
  let _ ← handleFirmwareUploadFrame frame
  Session.handleFrame config world frame true

/-- The end of a round: the frame is cut out where it is owned, and that is reported. -/
def filterOwned (frame : Frame) (localControlOwned firmwareOwned : Bool) (forward : Bytes) :
    InSession Bytes := do
  doWhen (localControlOwned = true)
    (emit (.injectedResponseFiltered frame.device frame.raw.length))
  doWhen (firmwareOwned = true)
    (emit (.firmwareUploadResponseFiltered frame.device frame.raw.length))
  pure (cutFrame (localControlOwned || firmwareOwned) frame.raw forward)

def relayClientFrame (config : SessionConfig) (world : SessionWorld) (frame : Frame)
    (forward : Bytes) : InSession Bytes := do
  let firmwareOwned ← handleFirmwareUploadFrame frame
  Session.handleFrame config world frame false
  let session ← get
  filterOwned frame (session.isOurFrame frame) firmwareOwned forward

theorem filterOwned_run (frame : Frame) (localControlOwned firmwareOwned : Bool) (forward : Bytes)
    (session : Session) : ∃ events : List SessionEvent,
    (filterOwned frame localControlOwned firmwareOwned forward).run session =
      ⟨session, events.map SessionEffect.emit,
        .ok (cutFrame (localControlOwned || firmwareOwned) frame.raw forward)⟩ := by
  cases localControlOwned <;> cases firmwareOwned
  · exact ⟨[], rfl⟩
  · exact ⟨[_], rfl⟩
  · exact ⟨[_], rfl⟩
  · exact ⟨[_, _], rfl⟩

/-- The frames of one read; `worlds` gives the clocks at each of them. -/
def relayClientFrames (config : SessionConfig) (worlds : Nat → SessionWorld) :
    List Frame → Bytes → InSession Bytes
  | [], forward => pure forward
  | frame :: frames, forward => do
    let forward ← relayClientFrame config (worlds 0) frame forward
    relayClientFrames config (fun index => worlds (index + 1)) frames forward

/-- One round of `relay_client_to_upstream`; `write` is the world of the final write. -/
def relayClientRead (config : SessionConfig) (worlds : Nat → SessionWorld) (write : SessionWorld)
    (data : Bytes) : InSession Unit := do
  emit (.relayDecrypted true data)
  let session ← get
  let snapshot := session.buffer ++ data
  modify fun session => { session with buffer := (extractFrames snapshot).2 }
  let forward ← relayClientFrames config worlds (extractFrames snapshot).1 (consumed snapshot)
  doWhen (forward ≠ []) (writeAndDrain write forward)

/-! ## From the cloud -/

/-- What the other tasks of a session do to it while a relay loop waits.  Only the loop itself
touches the buffer of the cloud's bytes and the capture. -/
structure Elsewhere where
  change : Session → Session
  buffer_kept : ∀ session, (change session).upstreamBuffer = session.upstreamBuffer
  capture_kept : ∀ session, (change session).firmwareCapture = session.firmwareCapture

def Elsewhere.nothing : Elsewhere := ⟨id, fun _ => rfl, fun _ => rfl⟩

/-- What the world does while one frame of the cloud is handled, and after it while the capture
waits for the cloud's connection. -/
structure UpstreamWorld where
  session : SessionWorld
  capture : CaptureWorld
  elsewhere : Elsewhere

/-- A world in which nothing fails and nothing else runs. -/
def UpstreamWorld.calm : UpstreamWorld := ⟨⟨0, 0, none⟩, ⟨none, none, true⟩, .nothing⟩

/-- The arguments the session gives its capture with a frame. -/
def Session.captureCall (session : Session) (world : CaptureWorld) (frame : Frame) : CaptureCall :=
  ⟨frame, session.serialText, session.clientDeviceTail, session.lastClientFunc, world⟩

/-- The capture of the session, if it has one, gets a frame of the cloud. -/
def captureUpstreamFrame (world : CaptureWorld) (frame : Frame) : InSession Bool := do
  let session ← get
  match session.firmwareCapture with
  | none => pure false
  | some capture =>
    onPart capture (fun capture session => { session with firmwareCapture := some capture })
      SessionEffect.capture
      (FirmwareCapture.handleUpstreamFrame (session.captureCall world frame))

theorem captureUpstreamFrame_none {session : Session} (world : CaptureWorld) (frame : Frame)
    (known : session.firmwareCapture = none) :
    (captureUpstreamFrame world frame).run session = ⟨session, [], .ok false⟩ := by
  rw [captureUpstreamFrame]
  rw [run_get_bind, known]
  rfl

theorem captureUpstreamFrame_some {session : Session} {capture : FirmwareCapture}
    (world : CaptureWorld) (frame : Frame) (known : session.firmwareCapture = some capture) :
    (captureUpstreamFrame world frame).run session =
      let outcome :=
        (FirmwareCapture.handleUpstreamFrame (session.captureCall world frame)).run capture
      ⟨{ session with firmwareCapture := some outcome.state },
        outcome.effects.map SessionEffect.capture, outcome.value⟩ := by
  rw [captureUpstreamFrame]
  rw [run_get_bind, known]
  rfl

def relayUpstreamFrame (world : UpstreamWorld) (frame : Frame) (forward : Bytes) :
    InSession Bytes := do
  Session.handleUpstreamFrame world.session frame
  let captured ← captureUpstreamFrame world.capture frame
  pure (cutFrame captured frame.raw forward)

def relayUpstreamFrames (worlds : Nat → UpstreamWorld) : List Frame → Bytes → InSession Bytes
  | [], forward => pure forward
  | frame :: frames, forward => do
    let forward ← relayUpstreamFrame (worlds 0) frame forward
    modify (worlds 0).elsewhere.change
    relayUpstreamFrames (fun index => worlds (index + 1)) frames forward

/-- A read of the cloud's bytes, with what happened while the loop waited for it. -/
structure UpstreamRead where
  data : Bytes
  elsewhere : Elsewhere
  worlds : Nat → UpstreamWorld
  write : SessionWorld

/-- Handle the frames of a buffer and write what is left of its consumed bytes. -/
def relaySnapshot (read : UpstreamRead) (snapshot : Bytes) : InSession Unit := do
  let forward ← relayUpstreamFrames read.worlds (extractFrames snapshot).1 (consumed snapshot)
  doWhen (forward ≠ []) (writeAndDrain read.write forward)

/-- One round of `relay_upstream_to_client`. -/
def relayUpstreamRead (read : UpstreamRead) : InSession Unit := do
  modify read.elsewhere.change
  emit (.relayDecrypted false read.data)
  let session ← get
  let snapshot := session.upstreamBuffer ++ read.data
  modify fun session => { session with upstreamBuffer := (extractFrames snapshot).2 }
  relaySnapshot read snapshot

theorem relayUpstreamRead_run (read : UpstreamRead) (session : Session) :
    let snapshot := session.upstreamBuffer ++ read.data
    let outcome := (relaySnapshot read snapshot).run
      { read.elsewhere.change session with upstreamBuffer := (extractFrames snapshot).2 }
    (relayUpstreamRead read).run session =
      ⟨outcome.state, .emit (.relayDecrypted false read.data) :: outcome.effects,
        outcome.value⟩ := by
  have sameBuffer := read.elsewhere.buffer_kept session
  rw [relayUpstreamRead, emit]
  rw [run_modify_bind, run_perform_bind, run_get_bind]
  dsimp only
  rw [sameBuffer]
  rfl

/-- `relay_upstream_to_client` over the reads of a connection. -/
def relayUpstream : List UpstreamRead → InSession Unit
  | [] => pure ()
  | read :: reads => do
    relayUpstreamRead read
    relayUpstream reads

end FoxessGateway.Server
