import FoxessGateway.Firmware.CaptureSteps
import FoxessGateway.Protocol.RoundTrip
import FoxessGateway.Server.Relay

/-! # What the relay lets through to the inverter

A round of `relay_upstream_to_client` writes the bytes it consumes, less the frames of a firmware
transfer that it recognises, each cut out where `find` sees it first. -/

namespace FoxessGateway.Server

open ByteOrder Protocol Firmware Effectful Action Streaming Splicing

/-! ## What a round leaves alone -/

/-- The cloud's bytes in the buffer, and whether transfers are captured. -/
def Session.upstreamView (session : Session) : Bytes × Bool :=
  (session.upstreamBuffer, session.firmwareCapture.isSome)

/-- The action writes nothing and keeps the buffer, and the capture switched on or off. -/
abbrev Beside {α : Type} (action : InSession α) : Prop :=
  Leaves Session.upstreamView IsSilent action

theorem observeCloudMarker_beside (frame : Frame) : Beside (observeCloudMarker frame) := by
  refine Leaves.bind Leaves.get fun session => ?_
  split
  · refine Leaves.doWhen ?_
    dsimp only
    refine Leaves.bind (Leaves.modify fun _ => rfl) fun _ => ?_
    split
    · exact Leaves.perform nofun
    · exact Leaves.pure
  · exact Leaves.pure

theorem handleUpstreamFrame_beside (world : SessionWorld) (frame : Frame) :
    Beside (Session.handleUpstreamFrame world frame) := by
  refine Leaves.bind Leaves.get fun _ => Leaves.bind (Leaves.perform nofun) fun _ => ?_
  refine Leaves.doWhen (Leaves.bind Leaves.attempt fun command => ?_)
  refine Leaves.bind (Leaves.doWhen ?_) fun _ => Leaves.bind (Leaves.bind Leaves.get fun _ => ?_)
    fun _ => Leaves.bind (observeCloudMarker_beside frame) fun _ => ?_
  · exact Leaves.bind Leaves.attempt fun _ => Leaves.modify fun _ => rfl
  · exact Leaves.doWhen (Leaves.bind Leaves.attempt fun _ => Leaves.modify fun _ => rfl)
  · exact Leaves.bind Leaves.get fun _ => Leaves.perform nofun

theorem captureUpstreamFrame_beside (world : CaptureWorld) (frame : Frame) :
    Beside (captureUpstreamFrame world frame) := by
  constructor
  · intro session
    cases known : session.firmwareCapture with
    | none => rw [captureUpstreamFrame_none world frame known]
    | some capture =>
      rw [captureUpstreamFrame_some world frame known]
      unfold Session.upstreamView
      rw [known]
      rfl
  · intro session effect member
    cases known : session.firmwareCapture with
    | none =>
      rw [captureUpstreamFrame_none world frame known] at member
      cases member
    | some capture =>
      rw [captureUpstreamFrame_some world frame known] at member
      obtain ⟨shown, _, rfl⟩ := List.mem_map.mp member
      exact nofun

theorem relayUpstreamFrame_beside (world : UpstreamWorld) (frame : Frame) (forward : Bytes) :
    Beside (relayUpstreamFrame world frame forward) := by
  refine Leaves.bind (handleUpstreamFrame_beside _ frame) fun _ => ?_
  exact Leaves.bind (captureUpstreamFrame_beside _ frame) fun _ => Leaves.pure

theorem relayUpstreamFrames_beside (worlds : Nat → UpstreamWorld) (frames : List Frame)
    (forward : Bytes) : Beside (relayUpstreamFrames worlds frames forward) := by
  induction frames generalizing worlds forward with
  | nil => exact Leaves.pure
  | cons frame frames inductionHypothesis =>
    refine Leaves.bind (relayUpstreamFrame_beside _ frame forward) fun passed =>
      Leaves.bind (Leaves.modify fun session => ?_) fun _ => inductionHypothesis _ passed
    rw [Session.upstreamView, (worlds 0).elsewhere.buffer_kept, (worlds 0).elsewhere.capture_kept]
    rfl

/-! ## What a round withholds -/

/-- Transfers are captured. -/
def Captures (session : Session) : Prop := session.firmwareCapture.isSome = true

/-- The frames found in a buffer, those of a transfer to be cut out. -/
def transferPieces (snapshot : Bytes) : List (Piece UInt8) :=
  framePieces ((extractFrames snapshot).1.map isFirmwareTransferFrame) (layoutOf snapshot).1

theorem captureUpstreamFrame_meets (world : CaptureWorld) (frame : Frame) :
    Meets Captures (captureUpstreamFrame world frame)
      (fun captured session => captured = isFirmwareTransferFrame frame ∧ Captures session) := by
  intro session captures captured returned
  have kept := (captureUpstreamFrame_beside world frame).keeps session
  refine ⟨?_, (congrArg Prod.snd kept).trans captures⟩
  obtain ⟨capture, known⟩ := Option.isSome_iff_exists.mp captures
  rw [captureUpstreamFrame_some world frame known] at returned
  exact handleUpstreamFrame_withholds (session.captureCall world frame) capture captured returned

theorem relayUpstreamFrame_meets (world : UpstreamWorld) (frame : Frame) (forward : Bytes) :
    Meets Captures (relayUpstreamFrame world frame forward)
      (fun passed session =>
        passed = cutFrame (isFirmwareTransferFrame frame) frame.raw forward ∧
          Captures session) := by
  have handled : Meets Captures (Session.handleUpstreamFrame world.session frame)
      (fun _ => Captures) := fun session captures _ _ =>
    (congrArg Prod.snd
      ((handleUpstreamFrame_beside world.session frame).keeps session)).trans captures
  refine handled.bind fun _ => ?_
  refine (captureUpstreamFrame_meets world.capture frame).bind fun captured => ?_
  refine Meets.pure fun session holds => ?_
  rw [holds.1]
  exact ⟨rfl, holds.2⟩

theorem relayUpstreamFrames_meets (worlds : Nat → UpstreamWorld) (laid : List (Bytes × Frame))
    (forward : Bytes) :
    Meets Captures (relayUpstreamFrames worlds (laid.map Prod.snd) forward)
      (fun passed _ => passed = cutOwned id
        (framePieces ((laid.map Prod.snd).map isFirmwareTransferFrame) laid) forward) := by
  induction laid generalizing worlds forward with
  | nil => exact Meets.pure fun _ _ => rfl
  | cons spot laid inductionHypothesis =>
    refine (relayUpstreamFrame_meets (worlds 0) spot.2 forward).bind fun passed => ?_
    have elsewhere : Meets (fun session =>
          passed = cutFrame (isFirmwareTransferFrame spot.2) spot.2.raw forward ∧ Captures session)
        (modify (worlds 0).elsewhere.change : InSession Unit)
        (fun _ session =>
          passed = cutFrame (isFirmwareTransferFrame spot.2) spot.2.raw forward ∧
            Captures session) := by
      intro session holds _ _
      refine ⟨holds.1, ?_⟩
      show ((worlds 0).elsewhere.change session).firmwareCapture.isSome = true
      rw [(worlds 0).elsewhere.capture_kept]
      exact holds.2
    refine elsewhere.bind fun _ => ?_
    intro session holds result returned
    have later := inductionHypothesis (fun index => worlds (index + 1)) passed session
      holds.2 result
      returned
    rw [later, holds.1]
    simp only [framePieces, List.map_cons, List.zip_cons_cons, cutOwned, cutFrame, List.map_id]

/-! ## Rounds -/

/-- What a round that comes to its write writes. -/
def passedOn (snapshot : Bytes) : Bytes := cutOwned id (transferPieces snapshot) (consumed snapshot)

theorem relaySnapshot_round (read : UpstreamRead) (snapshot : Bytes) {session : Session}
    (captures : Captures session) :
    let outcome := (relaySnapshot read snapshot).run session
    outcome.state.upstreamView = session.upstreamView ∧
      ((∃ raised, outcome.value = .error raised) ∧ written outcome.effects = [] ∨
        written outcome.effects = passedOn snapshot) := by
  intro outcome
  have beside := relayUpstreamFrames_beside read.worlds (extractFrames snapshot).1
    (consumed snapshot)
  have silent := written_silent (beside.shows session)
  obtain ⟨raised, ran⟩ | ⟨passed, returned, ran⟩ := run_bind_cases
    (relayUpstreamFrames read.worlds (extractFrames snapshot).1 (consumed snapshot))
    (fun forward => doWhen (forward ≠ []) (writeAndDrain read.write forward)) session
  · have ended : outcome = _ := ran
    -- raised before the write, so nothing is written
    rw [ended]
    exact ⟨beside.keeps session, .inl ⟨⟨raised, rfl⟩, silent⟩⟩
  · have ended : outcome = _ := ran
    have meets := relayUpstreamFrames_meets read.worlds (layoutOf snapshot).1 (consumed snapshot)
      session captures passed (by rw [layoutOf_frames]; exact returned)
    obtain ⟨wrote, kept⟩ := writeAndDrain_round read.write passed
      ((relayUpstreamFrames read.worlds (extractFrames snapshot).1 (consumed snapshot)).run
        session).state
    rw [ended]
    dsimp only
    rw [written_append, silent, wrote, kept, meets, layoutOf_frames]
    exact ⟨beside.keeps session, .inr rfl⟩

/-- A round ends the loop before its write, or writes what it passes on; the rest of the bytes
stays in the buffer. -/
theorem relayUpstreamRead_round (read : UpstreamRead) {session : Session}
    (captures : Captures session) :
    let outcome := (relayUpstreamRead read).run session
    let snapshot := session.upstreamBuffer ++ read.data
    outcome.state.upstreamBuffer = (extractFrames snapshot).2 ∧ Captures outcome.state ∧
      ((∃ raised, outcome.value = .error raised) ∧ written outcome.effects = [] ∨
        written outcome.effects = passedOn snapshot) := by
  intro outcome snapshot
  let started : Session := { read.elsewhere.change session with
    upstreamBuffer := (extractFrames snapshot).2 }
  have starts : Captures started := by
    show (read.elsewhere.change session).firmwareCapture.isSome = true
    rw [read.elsewhere.capture_kept]
    exact captures
  have ran : outcome = _ := relayUpstreamRead_run read session
  obtain ⟨kept, result⟩ := relaySnapshot_round read snapshot starts
  rw [ran]
  exact ⟨congrArg Prod.fst kept, (congrArg Prod.snd kept).trans starts, result⟩

/-- What the rounds of a connection pass on, if none of them ends the loop. -/
def passedOnAll : Bytes → List Bytes → Bytes
  | _, [] => []
  | buffer, data :: reads =>
    passedOn (buffer ++ data) ++ passedOnAll (extractFrames (buffer ++ data)).2 reads

/-- **The loop writes what its rounds pass on**, up to the round that ends it. -/
theorem written_relayUpstream (reads : List UpstreamRead) {session : Session}
    (captures : Captures session) :
    written ((relayUpstream reads).run session).effects <+:
      passedOnAll session.upstreamBuffer (reads.map UpstreamRead.data) := by
  induction reads generalizing session with
  | nil => exact List.nil_prefix
  | cons read reads inductionHypothesis =>
    obtain ⟨rest, stillCaptures, result⟩ := relayUpstreamRead_round read captures
    rw [List.map_cons, passedOnAll]
    obtain ⟨raised, ran⟩ | ⟨_, returned, ran⟩ :=
      run_bind_cases (relayUpstreamRead read) (fun _ => relayUpstream reads) session
    · have ended : (relayUpstream (read :: reads)).run session = _ := ran
      rw [ended]
      obtain ⟨_, nothing⟩ | wrote := result
      · exact nothing ▸ List.nil_prefix
      · exact wrote ▸ List.prefix_append _ _
    · have continued : (relayUpstream (read :: reads)).run session = _ := ran
      rw [continued]
      obtain ⟨⟨raised, failed⟩, _⟩ | wrote := result
      · cases failed.symm.trans returned
      · dsimp only
        rw [written_append, wrote, List.prefix_append_right_inj, ← rest]
        exact inductionHypothesis stillCaptures

/-! ## Leaks -/

/-- A whole frame of a firmware transfer stands in the bytes. -/
def Leaks (bytes : Bytes) : Prop :=
  ∃ frame : Frame, frame.WellFormed ∧ isFirmwareTransferFrame frame = true ∧ frame.raw <:+: bytes

theorem Leaks.mono {bytes more : Bytes} (leaks : Leaks bytes) (inside : bytes <:+: more) :
    Leaks more := by
  obtain ⟨frame, wellFormed, transfer, stands⟩ := leaks
  exact ⟨frame, wellFormed, transfer, stands.trans inside⟩

/-! ### Bytes without transfer frames -/

theorem passedOn_of_not_leaks {snapshot : Bytes} (clean : ¬ Leaks snapshot) :
    passedOn snapshot = consumed snapshot := by
  apply cutOwned_nothing
  intro piece member
  obtain ⟨⟨keepBack, spot⟩, both, rfl⟩ := List.mem_map.mp member
  obtain ⟨frame, found, isTransfer⟩ := List.mem_map.mp (List.of_mem_zip both).1
  cases keepBack with
  | false => rfl
  | true =>
    exact absurd ⟨frame, extractFrames_wellFormed found, isTransfer, raw_infix_of_extracted found⟩
      clean

theorem passedOnAll_of_not_leaks {buffer : Bytes} {reads : List Bytes}
    (clean : ¬ Leaks (buffer ++ reads.flatten)) :
    passedOnAll buffer reads <+: buffer ++ reads.flatten := by
  induction reads generalizing buffer with
  | nil => exact List.nil_prefix
  | cons data reads inductionHypothesis =>
    have split : buffer ++ (data :: reads).flatten =
        consumed (buffer ++ data) ++ ((extractFrames (buffer ++ data)).2 ++ reads.flatten) := by
      rw [← List.append_assoc (consumed _), consumed_append_rest, List.flatten_cons,
        List.append_assoc]
    have here : ¬ Leaks (buffer ++ data) := fun leaks => clean (leaks.mono
      (by rw [List.flatten_cons, ← List.append_assoc]; exact (List.prefix_append _ _).isInfix))
    have later : ¬ Leaks ((extractFrames (buffer ++ data)).2 ++ reads.flatten) := fun leaks =>
      clean (leaks.mono (by rw [split]; exact (List.suffix_append _ _).isInfix))
    rw [passedOnAll, passedOn_of_not_leaks here, split, List.prefix_append_right_inj]
    exact inductionHypothesis later

/-! ### Reads of one byte -/

/-- A read of one byte in a calm world. -/
def byteRead (byte : UInt8) : UpstreamRead :=
  ⟨[byte], .nothing, fun _ => .calm, ⟨0, 0, none⟩⟩

/-- A buffer of one byte is cleared: half of a marker is no marker. -/
theorem extractFrames_byte (byte : UInt8) : extractFrames [byte] = ([], []) := by
  have unmarked : findMarker [byte] = none := by
    rw [findMarker_cons, if_neg (not_startsWithMarker_short (by simp)), findMarker_nil,
      Option.map_none]
  have stopped : frameScanner.pass [byte] = .stop [] := by
    show extractPass [byte] = _
    rw [extractPass, unmarked]
  exact Scanner.scan_stop stopped

theorem relaySnapshot_byte (byte : UInt8) (session : Session) :
    (relaySnapshot (byteRead byte) [byte]).run session = ⟨session, [.write [byte]], .ok ()⟩ := by
  have nothing := extractFrames_byte byte
  have all : consumed [byte] = [byte] := by
    rw [consumed, nothing]
    rfl
  rw [relaySnapshot, nothing, all]
  rfl

theorem relayUpstreamRead_byte (byte : UInt8) {session : Session}
    (empty : session.upstreamBuffer = []) :
    (relayUpstreamRead (byteRead byte)).run session =
      ⟨{ session with upstreamBuffer := [] },
        [.emit (.relayDecrypted false [byte]), .write [byte]], .ok ()⟩ := by
  have snapshot : session.upstreamBuffer ++ (byteRead byte).data = [byte] := by
    rw [empty]
    rfl
  rw [relayUpstreamRead_run, snapshot, extractFrames_byte, relaySnapshot_byte]
  rfl

theorem written_byteReads (stream : Bytes) {session : Session}
    (empty : session.upstreamBuffer = []) :
    written ((relayUpstream (stream.map byteRead)).run session).effects = stream := by
  induction stream generalizing session with
  | nil => rfl
  | cons byte stream inductionHypothesis =>
    have first := relayUpstreamRead_byte byte empty
    rw [List.map_cons, relayUpstream, run_bind_ok (by rw [first]), first]
    dsimp only
    rw [written_append, inductionHypothesis rfl]
    rfl

/-! ### Reads that cut no marker -/

/-- The bytes of frames side by side. -/
def joined (frames : List Frame) : Bytes := (frames.map Frame.raw).flatten

/-- The frames that are not of a transfer. -/
def ordinary (frames : List Frame) : List Frame :=
  frames.filter fun frame => !isFirmwareTransferFrame frame

/-- In no round is a frame of a transfer found earlier than where it stands. -/
def UnshadowedRounds : Bytes → List Bytes → Prop
  | _, [] => True
  | buffer, data :: reads =>
    Unshadowed id [] (transferPieces (buffer ++ data)) ∧
      UnshadowedRounds (extractFrames (buffer ++ data)).2 reads

theorem exact_framePieces (frames : List Frame) :
    exact (framePieces (frames.map isFirmwareTransferFrame) (frames.map fun frame => ([], frame)))
      [] = joined (ordinary frames) := by
  induction frames with
  | nil => rfl
  | cons frame frames inductionHypothesis =>
    simp only [exact, framePieces, List.map_cons, List.zip_cons_cons, List.flatten_cons,
      List.append_assoc] at inductionHypothesis ⊢
    rw [inductionHypothesis]
    cases transfer : isFirmwareTransferFrame frame <;>
      simp [Piece.kept, joined, ordinary, transfer]

/-- A buffer of whole frames and the beginning of another is taken apart at their ends. -/
theorem transferPieces_joined {frames : List Frame}
    (wellFormed : ∀ frame ∈ frames, frame.WellFormed)
    {part : Bytes} (rests : frameScanner.pass part = .stop part) :
    extractFrames (joined frames ++ part) = (frames, part) ∧
      layoutOf (joined frames ++ part) = (frames.map fun frame => ([], frame), []) ∧
      transferPieces (joined frames ++ part) =
        framePieces (frames.map isFirmwareTransferFrame) (frames.map fun frame => ([], frame)) := by
  have known := recognised wellFormed
  have scanned : extractFrames (joined frames ++ part) = (frames, part) := by
    have scan := Scanner.scan_items frames known part
    rw [Scanner.scan_stop rests, List.append_nil] at scan
    exact scan
  have laid : layoutOf (joined frames ++ part) = (frames.map fun frame => ([], frame), []) :=
    Scanner.layout_joined frames known rests
  refine ⟨scanned, laid, ?_⟩
  rw [transferPieces, scanned, laid]

/-- A round that consumes whole frames passes on those that are not of a transfer. -/
theorem passedOn_joined {frames : List Frame} (wellFormed : ∀ frame ∈ frames, frame.WellFormed)
    {part : Bytes} (rests : frameScanner.pass part = .stop part)
    (unshadowed : Unshadowed id [] (transferPieces (joined frames ++ part))) :
    passedOn (joined frames ++ part) = joined (ordinary frames) := by
  obtain ⟨_, laid, pieces⟩ := transferPieces_joined wellFormed rests
  have spelled : consumed (joined frames ++ part) =
      whole (transferPieces (joined frames ++ part)) [] := by
    rw [consumed_eq_spelled, pieces, whole_framePieces (by simp), laid]
  have cut := cutOwned_eq_exact id [] (transferPieces (joined frames ++ part)) [] unshadowed
  rw [List.nil_append, List.nil_append] at cut
  rw [passedOn, spelled, cut, pieces, exact_framePieces]

/-- Reads that cut no marker pass on the frames that are not of a transfer.  `buffer` is what
the reads so far have left of the frames still to come. -/
theorem passedOnAll_joined {frames : List Frame} (wellFormed : ∀ frame ∈ frames, frame.WellFormed)
    {buffer : Bytes} {reads : List Bytes} (stream : buffer ++ reads.flatten = joined frames)
    (uncut : ∀ early frame late first later, frames = early ++ frame :: late →
      reads = first ++ later → buffer.length + first.flatten.length ≠ (joined early).length + 1)
    (unshadowed : UnshadowedRounds buffer reads) :
    passedOnAll buffer reads <+: joined (ordinary frames) := by
  induction reads generalizing buffer frames with
  | nil => exact List.nil_prefix
  | cons data reads inductionHypothesis =>
    rw [List.flatten_cons, ← List.append_assoc] at stream
    -- the read ends after the frames `early` and a part of the next
    obtain ⟨early, late, part, rfl, split, continued, place⟩ :=
      Scanner.cut_items Frame.raw frames stream
    have rests : frameScanner.pass part = .stop part := by
      rcases place with rfl | ⟨frame, later, rfl, inside, proper⟩
      · exact extractPass_nil
      · refine (wellFormed frame (by simp)).rests inside proper fun single => ?_
        -- a part of one byte would be a marker that is cut
        refine uncut early frame later [data] reads rfl rfl ?_
        have length := congrArg List.length split
        rw [List.length_append, List.length_append, single] at length
        simpa [joined] using length
    have whole : buffer ++ data = joined early ++ part := split
    obtain ⟨here, later⟩ := unshadowed
    rw [whole] at here later
    have earlyFormed : ∀ frame ∈ early, frame.WellFormed :=
      fun frame member => wellFormed frame (by simp [member])
    have scanned := (transferPieces_joined earlyFormed rests).1
    have passes := passedOn_joined earlyFormed rests here
    rw [scanned] at later
    have rest := inductionHypothesis (fun frame member => wellFormed frame (by simp [member]))
      continued ?_ later
    · rw [passedOnAll, whole, passes, scanned]
      have parts : joined (ordinary (early ++ late)) =
          joined (ordinary early) ++ joined (ordinary late) := by
        simp [joined, ordinary]
      rw [parts, List.prefix_append_right_inj]
      exact rest
    · rintro earlyLater frame lateLater first readsLater rfl rfl
      have shifted := uncut (early ++ earlyLater) frame lateLater (data :: first) readsLater
        (by simp) rfl
      have length := congrArg List.length whole
      simp only [joined, List.flatten_cons, List.length_append, List.map_append,
        List.flatten_append] at shifted length ⊢
      omega

/-! ## What reaches the inverter -/

/-- **Which streams are safe.**  For a stream of frames, the relay keeps transfer frames from
the inverter under every split into reads exactly if there is none in the stream; a split that
cuts no marker, and shadows no frame of a transfer, lets none through but those that the other
frames spell. -/
theorem relayUpstream_withholds_iff {frames : List Frame}
    (wellFormed : ∀ frame ∈ frames, frame.WellFormed) :
    ((∀ (reads : List UpstreamRead) (session : Session),
        (reads.map UpstreamRead.data).flatten = joined frames → session.upstreamBuffer = [] →
        Captures session → ¬ Leaks (written ((relayUpstream reads).run session).effects)) ↔
      ¬ Leaks (joined frames)) ∧
    (∀ (reads : List UpstreamRead) (session : Session),
      (reads.map UpstreamRead.data).flatten = joined frames → session.upstreamBuffer = [] →
      Captures session → ¬ CutsMarker frames (reads.map UpstreamRead.data) →
      UnshadowedRounds [] (reads.map UpstreamRead.data) → ¬ Leaks (joined (ordinary frames)) →
      ¬ Leaks (written ((relayUpstream reads).run session).effects)) := by
  refine ⟨⟨?_, ?_⟩, ?_⟩
  · -- read byte by byte, the stream is forwarded as it is
    intro safe leaks
    have empty : Session.upstreamBuffer (.fresh .everything) = [] := rfl
    have wrote := written_byteReads (joined frames) empty
    have bytes : (((joined frames).map byteRead).map UpstreamRead.data).flatten =
      joined frames := by
      rw [List.map_map]
      show ((joined frames).map fun byte => [byte]).flatten = _
      simp [List.flatten_eq_flatMap, List.flatMap_map]
    apply safe ((joined frames).map byteRead) (.fresh .everything) bytes rfl rfl
    rw [wrote]
    exact leaks
  · intro clean reads session stream empty captures leaks
    have wrote := written_relayUpstream reads captures
    rw [empty] at wrote
    have safe : ¬ Leaks ([] ++ (reads.map UpstreamRead.data).flatten) := by
      rwa [List.nil_append, stream]
    have passes := passedOnAll_of_not_leaks safe
    rw [List.nil_append, stream] at passes
    exact clean (leaks.mono (wrote.trans passes).isInfix)
  · intro reads session stream empty captures uncut unshadowed clean leaks
    have wrote := written_relayUpstream reads captures
    rw [empty] at wrote
    refine clean (leaks.mono (wrote.trans ?_).isInfix)
    refine passedOnAll_joined wellFormed (by rwa [List.nil_append]) ?_ unshadowed
    intro early frame late first later isFrames isReads place
    rw [List.length_nil, Nat.zero_add] at place
    exact uncut ⟨early, frame, late, first, later, isFrames, isReads, place⟩

/-- A frame of a transfer, with its transfer id and nothing else. -/
def transferFrame : Frame :=
  builtFrame marker7e [0x21, 0x00, 0x00, 0x01] firmwareEnvelopeFunc firmwareMagic endE7

theorem transferFrame_wellFormed : transferFrame.WellFormed :=
  builtFrame_wellFormed (.inl ⟨rfl, rfl⟩) rfl (by decide)

theorem transferFrame_isTransfer : isFirmwareTransferFrame transferFrame = true := by decide

/-- In one read, the frame does not reach the inverter. -/
theorem relayUpstream_withholds_transferFrame :
    ¬ Leaks (written ((relayUpstream
      [⟨transferFrame.raw, .nothing, fun _ => .calm, ⟨0, 0, none⟩⟩]).run
      (.fresh .everything)).effects) := by
  have wellFormed : ∀ frame ∈ [transferFrame], frame.WellFormed := by
    simp [transferFrame_wellFormed]
  have nothing : ordinary [transferFrame] = [] := by decide
  refine (relayUpstream_withholds_iff wellFormed).2 _ _ (by simp [joined]) rfl rfl
    ?_ ⟨?_, trivial⟩ ?_
  · rintro ⟨early, frame, late, first, later, isFrames, isReads, place⟩
    obtain rfl : early = [] := by
      cases early with
      | nil => rfl
      | cons _ early => simp at isFrames
    cases first with
    | nil => simp at place
    | cons read first =>
      rw [List.map_cons, List.map_nil, List.cons_append, List.cons.injEq] at isReads
      rw [List.flatten_cons, ← isReads.1, List.length_append] at place
      have long : 13 ≤ transferFrame.raw.length := transferFrame_wellFormed.long
      simp at place
      omega
  · have pieces := (transferPieces_joined wellFormed extractPass_nil).2.2
    rw [List.append_nil] at pieces
    show Unshadowed id [] (transferPieces transferFrame.raw)
    have alone : joined [transferFrame] = transferFrame.raw := List.append_nil _
    rw [← alone, pieces]
    exact ⟨fun _ => by decide +kernel, trivial⟩
  · rw [nothing]
    rintro ⟨frame, framed, _, stands⟩
    have long := framed.long
    rw [joined, List.map_nil, List.flatten_nil, List.infix_nil] at stands
    rw [stands] at long
    simp at long

/-- Byte by byte, it does. -/
theorem relayUpstream_leaks_transferFrame :
    ¬ ∀ (frames : List Frame) (reads : List UpstreamRead) (session : Session),
      (∀ frame ∈ frames, frame.WellFormed) →
      (reads.map UpstreamRead.data).flatten = joined frames → session.upstreamBuffer = [] →
      Captures session → ¬ Leaks (written ((relayUpstream reads).run session).effects) := by
  intro claimed
  have empty : Session.upstreamBuffer (.fresh .everything) = [] := rfl
  apply claimed [transferFrame] (transferFrame.raw.map byteRead) (.fresh .everything)
    (by simp [transferFrame_wellFormed]) (by decide +kernel) empty rfl
  rw [written_byteReads _ empty]
  exact ⟨transferFrame, transferFrame_wellFormed, transferFrame_isTransfer, List.infix_rfl⟩

end FoxessGateway.Server
