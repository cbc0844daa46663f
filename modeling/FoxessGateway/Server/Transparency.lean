import FoxessGateway.Server.Excision
import FoxessGateway.Server.Withholding

/-! # Transparency of the relay

Where nothing is kept back, each round of a relay loop writes the bytes it consumes, and what
it does not consume stays in the buffer. -/

namespace FoxessGateway.Server

open ByteOrder Protocol Firmware Effectful Action Streaming Splicing

/-! ## Loops of rounds -/

/-- What was written and what is held back are the bytes read, in their order. -/
structure Transparent (sent leftover received : Bytes) : Prop where
  bytes : sent ++ leftover = received
  short : leftover.length < 4096

/-- A round is transparent from whatever is in its buffer, and returns where its drain does. -/
structure RoundPasses (buffer : Session → Bytes) (data : Bytes) (drains : Prop) (session : Session)
    (outcome : Outcome Session SessionEffect PyError Unit) : Prop where
  transparent : Transparent (written outcome.effects) (buffer outcome.state)
    (buffer session ++ data)
  returns : drains → outcome.value = .ok ()

section Rounds

variable {ρ : Type} {round : ρ → InSession Unit} {loop : List ρ → InSession Unit}

/-- The outcome of a loop that its first round does not end. -/
theorem loop_continues (loop_cons : ∀ read reads, loop (read :: reads) = do round read; loop reads)
    {session : Session} {read : ρ} {reads : List ρ}
    (returned : ((round read).run session).value = .ok ()) :
    let outcome := (round read).run session
    let later := (loop reads).run outcome.state
    (loop (read :: reads)).run session =
      ⟨later.state, outcome.effects ++ later.effects, later.value⟩ := by
  rw [loop_cons, run_bind_ok returned]

/-- The last round of a loop may end it as well. -/
theorem loop_last (loop_nil : loop [] = pure ())
    (loop_cons : ∀ read reads, loop (read :: reads) = do round read; loop reads) (session : Session)
    (read : ρ) : (loop [read]).run session = (round read).run session := by
  rw [loop_cons, loop_nil]
  change _ = Outcome.mk ((round read).run session).state ((round read).run session).effects
    ((round read).run session).value
  cases returned : ((round read).run session).value with
  | ok value => rw [run_bind_ok returned, run_pure, List.append_nil]
  | error raised => rw [run_bind_error returned]

/-- **Rounds that pass what they consume make a transparent loop**, after every read that it
takes.  `fits` is what the rounds need, of the session and of the reads to come. -/
theorem rounds_transparent (round : ρ → InSession Unit) (loop : List ρ → InSession Unit)
    (buffer : Session → Bytes) (data : ρ → Bytes) (loop_nil : loop [] = pure ())
    (loop_cons : ∀ read reads, loop (read :: reads) = do round read; loop reads)
    (fits : Session → List ρ → Prop) (drains : ρ → Prop)
    (passes : ∀ {session read reads}, fits session (read :: reads) →
      RoundPasses buffer (data read) (drains read) session ((round read).run session) ∧
        fits ((round read).run session).state reads)
    {session : Session} {read : ρ} {taken later : List ρ}
    (initially : fits session (read :: taken ++ later))
    (drained : ∀ early ∈ (read :: taken).dropLast, drains early) :
    Transparent (written ((loop (read :: taken)).run session).effects)
      (buffer ((loop (read :: taken)).run session).state)
      (buffer session ++ ((read :: taken).map data).flatten) := by
  induction taken generalizing session read with
  | nil =>
    have passed := (passes initially).1.transparent
    rw [loop_last loop_nil loop_cons, List.map_singleton, List.flatten_singleton]
    exact passed
  | cons next taken inductionHypothesis =>
    obtain ⟨passed, stillFits⟩ := passes initially
    have returned := passed.returns (drained read (by simp [List.dropLast]))
    have rest := inductionHypothesis stillFits fun early member =>
      drained early (by simp only [List.dropLast_cons_cons] at member ⊢; simp [member])
    rw [loop_continues loop_cons returned]
    refine ⟨?_, rest.short⟩
    -- the round's leftover is where the rest of the loop begins
    rw [written_append, List.append_assoc, rest.bytes, ← List.append_assoc,
      passed.transparent.bytes, List.append_assoc]
    rfl

end Rounds

theorem writeAndDrain_returns {world : SessionWorld} {forward : Bytes} {session : Session}
    (drains : world.drainFails = none) :
    ((doWhen (forward ≠ []) (writeAndDrain world forward)).run session).value = .ok () := by
  rw [doWhen]
  split
  · rw [writeAndDrain, run_perform_bind, run_attempt, drains]
  · rfl

/-- The consumed bytes and the rest of a buffer. -/
theorem transparent_consumed {sent leftover snapshot : Bytes} (wrote : sent = consumed snapshot)
    (left : leftover = (extractFrames snapshot).2) : Transparent sent leftover snapshot where
  bytes := by rw [wrote, left, consumed_append_rest]
  short := left ▸ extractFrames_rest_short snapshot

/-! ## From the inverter -/

/-- What the other tasks of a session do to it while the loop that reads from the inverter waits.
Only the loop itself touches the buffer and the firmware text. -/
structure ClientElsewhere where
  change : Session → Session
  buffer_kept : ∀ session, (change session).buffer = session.buffer
  firmware_kept : ∀ session, (change session).firmware = session.firmware

/-- A read of the inverter's bytes, with what happened while the loop waited for it. -/
structure ClientRead where
  data : Bytes
  elsewhere : ClientElsewhere
  worlds : Nat → SessionWorld
  write : SessionWorld

def relayClientRound (config : SessionConfig) (read : ClientRead) : InSession Unit := do
  modify read.elsewhere.change
  relayClientRead config read.worlds read.write read.data

/-- `relay_client_to_upstream` over the reads of a connection. -/
def relayClient (config : SessionConfig) : List ClientRead → InSession Unit
  | [] => pure ()
  | read :: reads => do
    relayClientRound config read
    relayClient config reads

/-- No frame of the reads is owned, each asked when the loop reaches it. -/
def Unowned (config : SessionConfig) : Session → List ClientRead → Prop
  | _, [] => True
  | session, read :: reads =>
    let begun := read.elsewhere.change session
    (∀ owned ∈ ownership config read.worlds (begun.taking read.data)
        (extractFrames (begun.buffer ++ read.data)).1, owned = false) ∧
      Unowned config ((relayClientRound config read).run session).state reads

/-- Without owned frames, search and cut leave the consumed bytes as they are. -/
theorem cutOwned_unowned {config : SessionConfig} {worlds : Nat → SessionWorld} {session : Session}
    {data : Bytes} (unowned : ∀ owned ∈ ownership config worlds (session.taking data)
      (extractFrames (session.buffer ++ data)).1, owned = false) (forward : Bytes) :
    cutOwned id (roundPieces config worlds session data) forward = forward := by
  apply cutOwned_nothing
  intro piece member
  obtain ⟨spot, both, rfl⟩ := List.mem_map.mp member
  exact unowned _ (List.of_mem_zip both).1

theorem relayClientRound_passes {config : SessionConfig} {session : Session} {read : ClientRead}
    {reads : List ClientRead}
    (fits : Bounded session ∧ Unowned config session (read :: reads)) :
    let outcome := (relayClientRound config read).run session
    RoundPasses Session.buffer read.data (read.write.drainFails = none) session outcome ∧
      Bounded outcome.state ∧ Unowned config outcome.state reads := by
  intro outcome
  obtain ⟨bounded, unowned, later⟩ := fits
  have sameBuffer := read.elsewhere.buffer_kept session
  have begunBounded : Bounded (read.elsewhere.change session) := by
    rw [Bounded, read.elsewhere.firmware_kept]
    exact bounded
  obtain ⟨after, effects, ⟨stillBounded, left⟩, silent, ran⟩ :=
    relayClientRead_run config read.worlds read.write begunBounded read.data
  have forwarded := cutOwned_unowned unowned (consumed (session.buffer ++ read.data))
  rw [sameBuffer] at ran left
  rw [forwarded] at ran
  obtain ⟨wrote, kept⟩ := writeAndDrain_round read.write
    (consumed (session.buffer ++ read.data)) after
  have ended : outcome = _ := ran
  have sent : written outcome.effects = consumed (session.buffer ++ read.data) := by
    rw [ended, written_append, written_silent silent, wrote]
    rfl
  have sameState : outcome.state = after := by
    rw [ended]
    exact kept
  refine ⟨⟨transparent_consumed sent (sameState ▸ left), fun drains => ?_⟩,
    sameState ▸ stillBounded, later⟩
  rw [ended]
  exact writeAndDrain_returns drains

/-! ## From the cloud -/

/-- The capture, if there is one, takes none of the frames: it takes those of a transfer. -/
def Untaken (session : Session) (frames : List Frame) : Prop :=
  session.firmwareCapture.isSome = true → ∀ frame ∈ frames, isFirmwareTransferFrame frame = false

/-- The capture declines a frame that is of no transfer. -/
theorem captureUpstreamFrame_declines (world : CaptureWorld) {frame : Frame} {session : Session}
    (other : session.firmwareCapture.isSome = true → isFirmwareTransferFrame frame = false) :
    ((captureUpstreamFrame world frame).run session).value = .ok false := by
  cases known : session.firmwareCapture with
  | none => rw [captureUpstreamFrame_none world frame known]
  | some capture =>
    have notTransfer := other (known ▸ rfl)
    rw [isFirmwareTransferFrame, Option.isSome_eq_false_iff, Option.isNone_iff_eq_none]
      at notTransfer
    rw [captureUpstreamFrame_some world frame known]
    have sameFrame : (session.captureCall world frame).frame = frame := rfl
    simp only [FirmwareCapture.handleUpstreamFrame, sameFrame, notTransfer, run_pure]

theorem relayUpstreamFrame_value (world : UpstreamWorld) {frame : Frame} {session : Session}
    (other : session.firmwareCapture.isSome = true → isFirmwareTransferFrame frame = false)
    (forward : Bytes) :
    ((relayUpstreamFrame world frame forward).run session).value =
      if CutWriteMultiple frame then .error (.keyError "function") else .ok forward := by
  rw [relayUpstreamFrame]
  split
  · rename_i cut
    rw [run_bind_error (handleUpstreamFrame_raises world.session cut session)]
  · rename_i uncut
    obtain ⟨_, returned⟩ := handleUpstreamFrame_total world.session uncut session
    have sameCapture := congrArg Prod.snd
      ((handleUpstreamFrame_beside world.session frame).keeps session)
    have declined : ((captureUpstreamFrame world.capture frame).run
        ((Session.handleUpstreamFrame world.session frame).run session).state).value = .ok false :=
      captureUpstreamFrame_declines world.capture
        fun captures => other (sameCapture.symm.trans captures)
    rw [run_bind_ok returned, run_bind_ok declined, run_pure]
    rfl

/-- The frames of a round come to its write exactly if none of them is a cut command. -/
theorem relayUpstreamFrames_value (worlds : Nat → UpstreamWorld) {frames : List Frame}
    {session : Session} (untaken : Untaken session frames) (forward : Bytes) :
    ((∀ frame ∈ frames, ¬ CutWriteMultiple frame) ∧
        ((relayUpstreamFrames worlds frames forward).run session).value = .ok forward) ∨
      ((∃ frame ∈ frames, CutWriteMultiple frame) ∧
        ∃ raised, ((relayUpstreamFrames worlds frames forward).run session).value =
          .error raised) := by
  induction frames generalizing worlds session with
  | nil => exact .inl ⟨fun _ member => (nomatch member), rfl⟩
  | cons frame frames inductionHypothesis =>
    have value : ((relayUpstreamFrame (worlds 0) frame forward).run session).value =
        if CutWriteMultiple frame then .error (.keyError "function") else .ok forward :=
      relayUpstreamFrame_value (worlds 0) (fun captures => untaken captures frame (by simp)) forward
    rw [relayUpstreamFrames]
    by_cases cut : CutWriteMultiple frame
    · -- the handler raises, and the frames after it are not handled
      rw [if_pos cut] at value
      exact .inr ⟨⟨frame, by simp, cut⟩, _, by rw [run_bind_error value]⟩
    · rw [if_neg cut] at value
      rw [run_bind_ok value, run_modify_bind]
      dsimp only
      have stillUntaken : Untaken ((worlds 0).elsewhere.change
          ((relayUpstreamFrame (worlds 0) frame forward).run session).state) frames := by
        intro captures other member
        rw [(worlds 0).elsewhere.capture_kept] at captures
        have sameCapture := congrArg Prod.snd
          ((relayUpstreamFrame_beside (worlds 0) frame forward).keeps session)
        exact untaken (sameCapture.symm.trans captures) other (List.mem_cons_of_mem _ member)
      rcases inductionHypothesis (fun index => worlds (index + 1)) stillUntaken with
        ⟨uncut, returned⟩ | ⟨⟨other, member, isCut⟩, raised, failed⟩
      · refine .inl ⟨?_, returned⟩
        intro other member
        rcases List.mem_cons.mp member with rfl | later
        · exact cut
        · exact uncut other later
      · exact .inr ⟨⟨other, List.mem_cons_of_mem _ member, isCut⟩, raised, failed⟩

/-- What a round needs of the frames it finds, and of those to come. -/
def Carried (session : Session) (reads : List UpstreamRead) : Prop :=
  Untaken session (frameScanner.feed session.upstreamBuffer (reads.map UpstreamRead.data)).1

/-- The frames of the first read, and those of the later ones. -/
theorem feed_reads (buffer : Bytes) (read : UpstreamRead) (reads : List UpstreamRead) :
    (frameScanner.feed buffer ((read :: reads).map UpstreamRead.data)).1 =
      (extractFrames (buffer ++ read.data)).1 ++
        (frameScanner.feed (extractFrames (buffer ++ read.data)).2
          (reads.map UpstreamRead.data)).1 := rfl

/-- A round that finds no cut command is transparent, and one that finds one writes nothing. -/
theorem relayUpstreamRead_cases {session : Session} {read : UpstreamRead}
    {reads : List UpstreamRead}
    (carried : Carried session (read :: reads)) :
    let outcome := (relayUpstreamRead read).run session
    let snapshot := session.upstreamBuffer ++ read.data
    (outcome.state.upstreamBuffer = (extractFrames snapshot).2 ∧ Carried outcome.state reads) ∧
      (((∀ frame ∈ (extractFrames snapshot).1, ¬ CutWriteMultiple frame) ∧
          written outcome.effects = consumed snapshot ∧
          (read.write.drainFails = none → outcome.value = .ok ())) ∨
        ((∃ frame ∈ (extractFrames snapshot).1, CutWriteMultiple frame) ∧
          written outcome.effects = [])) := by
  intro outcome snapshot
  -- the session when the frames of the read are handled
  let begun : Session := { read.elsewhere.change session with
    upstreamBuffer := (extractFrames snapshot).2 }
  have ran : outcome = _ := relayUpstreamRead_run read session
  have beside := relayUpstreamFrames_beside read.worlds (extractFrames snapshot).1
    (consumed snapshot)
  have silent := written_silent (beside.shows begun)
  have captureKept : begun.firmwareCapture.isSome = session.firmwareCapture.isSome :=
    congrArg Option.isSome (read.elsewhere.capture_kept session)
  have untaken : Untaken begun (extractFrames snapshot).1 := by
    intro captures frame member
    apply carried (captureKept.symm.trans captures)
    rw [feed_reads]
    exact List.mem_append_left _ member
  have endsWith : ∀ state : Session, state.upstreamView = begun.upstreamView →
      state.upstreamBuffer = (extractFrames snapshot).2 ∧ Carried state reads := by
    intro state sameView
    have sameBuffer : state.upstreamBuffer = (extractFrames snapshot).2 :=
      congrArg Prod.fst sameView
    refine ⟨sameBuffer, fun captures frame member => ?_⟩
    have sameCapture : state.firmwareCapture.isSome = begun.firmwareCapture.isSome :=
      congrArg Prod.snd sameView
    apply carried (captureKept.symm.trans (sameCapture.symm.trans captures))
    rw [feed_reads]
    rw [sameBuffer] at member
    exact List.mem_append_right _ member
  obtain ⟨uncut, returned⟩ | ⟨cut, raised, failed⟩ :=
    relayUpstreamFrames_value read.worlds untaken (consumed snapshot)
  · -- every frame is handled, and what the read consumed is written
    have passed : (relaySnapshot read snapshot).run begun = _ := run_bind_ok returned
    obtain ⟨wrote, kept⟩ := writeAndDrain_round read.write (consumed snapshot)
      ((relayUpstreamFrames read.worlds (extractFrames snapshot).1 (consumed snapshot)).run
        begun).state
    rw [ran]
    refine ⟨endsWith _ ?_, .inl ⟨uncut, ?_, fun drains => ?_⟩⟩
    · dsimp only
      rw [passed, kept]
      exact beside.keeps begun
    · dsimp only
      rw [passed]
      change written (_ ++ _) = _
      rw [written_append, silent, wrote]
      rfl
    · dsimp only
      rw [passed]
      exact writeAndDrain_returns drains
  · -- the exception leaves the round before its write
    have ended : (relaySnapshot read snapshot).run begun = _ := run_bind_error failed
    rw [ran]
    refine ⟨endsWith _ ?_, .inr ⟨cut, ?_⟩⟩
    · dsimp only
      rw [ended]
      exact beside.keeps begun
    · dsimp only
      rw [ended]
      exact silent

/-- What the loop needs to pass every byte on. -/
def Uncut (session : Session) (reads : List UpstreamRead) : Prop :=
  ∀ frame ∈ (frameScanner.feed session.upstreamBuffer (reads.map UpstreamRead.data)).1,
    ¬ CutWriteMultiple frame

theorem relayUpstreamRead_passes {session : Session} {read : UpstreamRead}
    {reads : List UpstreamRead}
    (fits : Carried session (read :: reads) ∧ Uncut session (read :: reads)) :
    let outcome := (relayUpstreamRead read).run session
    RoundPasses Session.upstreamBuffer read.data (read.write.drainFails = none) session outcome ∧
      Carried outcome.state reads ∧ Uncut outcome.state reads := by
  intro outcome
  obtain ⟨carried, uncut⟩ := fits
  obtain ⟨⟨left, stillCarried⟩, ⟨_, wrote, returns⟩ | ⟨⟨frame, member, cut⟩, _⟩⟩ :=
    relayUpstreamRead_cases carried
  · refine ⟨⟨transparent_consumed wrote left, returns⟩, stillCarried, fun frame member => ?_⟩
    apply uncut frame
    rw [feed_reads]
    rw [left] at member
    exact List.mem_append_right _ member
  · apply absurd cut (uncut frame _)
    rw [feed_reads]
    exact List.mem_append_left _ member

/-- A frame that is found is consumed. -/
theorem consumed_ne_nil {snapshot : Bytes} {frame : Frame}
    (found : frame ∈ (extractFrames snapshot).1) : consumed snapshot ≠ [] := by
  intro empty
  rw [consumed_eq_spelled, Scanner.spelled, List.append_eq_nil_iff,
    List.flatten_eq_nil_iff] at empty
  rw [← layoutOf_frames] at found
  obtain ⟨spot, inside, rfl⟩ := List.mem_map.mp found
  have nothing := empty.1 _ (List.mem_map_of_mem inside)
  have long := (layoutOf_wellFormed inside).long
  rw [(List.append_eq_nil_iff.mp nothing).2] at long
  simp at long

/-- The bytes that went through the loop and those it still holds, after each of its reads. -/
def TransparentAfter (session : Session) (reads : List UpstreamRead) : Prop :=
  ∀ taken, taken ≠ [] → taken <+: reads →
    let outcome := (relayUpstream taken).run session
    Transparent (written outcome.effects) outcome.state.upstreamBuffer
      (session.upstreamBuffer ++ (taken.map UpstreamRead.data).flatten)

/-- A loop that is transparent after each of its reads has found no cut command. -/
theorem uncut_of_transparent {session : Session} {reads : List UpstreamRead}
    (carried : Carried session reads)
    (drained : ∀ read ∈ reads.dropLast, read.write.drainFails = none)
    (transparent : TransparentAfter session reads) : Uncut session reads := by
  induction reads generalizing session with
  | nil => exact fun frame member => nomatch member
  | cons read reads inductionHypothesis =>
    have first := (transparent [read] (by simp) (by simp)).bytes
    rw [loop_last rfl (fun _ _ => rfl), List.map_singleton, List.flatten_singleton] at first
    obtain ⟨⟨left, stillCarried⟩, ⟨uncut, wrote, returns⟩ | ⟨⟨frame, member, _⟩, silent⟩⟩ :=
      relayUpstreamRead_cases carried
    · -- the first read passes, so what is missing later is missing from the whole
      have later : Uncut ((relayUpstreamRead read).run session).state reads := by
        cases reads with
        | nil => exact fun frame member => nomatch member
        | cons next reads =>
          have returned := returns (drained read (by simp [List.dropLast]))
          apply inductionHypothesis stillCarried
          · intro early member
            apply drained early
            rw [List.dropLast_cons_cons]
            exact List.mem_cons_of_mem _ member
          · intro taken nonempty inside
            have whole := transparent (read :: taken) (by simp) (by simpa using inside)
            rw [loop_continues (fun _ _ => rfl) returned] at whole
            obtain ⟨bytes, short⟩ := whole
            refine ⟨?_, short⟩
            rw [List.map_cons, List.flatten_cons, ← List.append_assoc, ← first, written_append,
              List.append_assoc, List.append_assoc, List.append_cancel_left_eq] at bytes
            exact bytes
      intro frame member
      rw [feed_reads] at member
      rcases List.mem_append.mp member with now | after
      · exact uncut frame now
      · apply later frame
        rwa [left]
    · -- the frames of the first read were consumed, and nothing was written
      rw [silent, left] at first
      have whole := first.trans (consumed_append_rest (session.upstreamBuffer ++ read.data)).symm
      exact absurd (List.append_cancel_right whole).symm (consumed_ne_nil member)

/-- **Relay transparency.**  Where no frame is owned or captured, the bytes written and the bytes
held back are after every read the bytes read: from the inverter always, and from the cloud
exactly if no frame found is a cut command.  A read after a drain that fails is not taken. -/
theorem relay_transparent {config : SessionConfig} {session : Session}
    (reachable : Reachable config session) :
    (∀ reads : List ClientRead, session.buffer = [] →
      (∀ read ∈ reads.dropLast, read.write.drainFails = none) → Unowned config session reads →
      ∀ taken, taken ≠ [] → taken <+: reads →
        let outcome := (relayClient config taken).run session
        Transparent (written outcome.effects) outcome.state.buffer
          (taken.map ClientRead.data).flatten) ∧
      ∀ reads : List UpstreamRead, session.upstreamBuffer = [] →
        (∀ read ∈ reads.dropLast, read.write.drainFails = none) →
        Untaken session (frameScanner.feed [] (reads.map UpstreamRead.data)).1 →
        ((∀ taken, taken ≠ [] → taken <+: reads →
            let outcome := (relayUpstream taken).run session
            Transparent (written outcome.effects) outcome.state.upstreamBuffer
              (taken.map UpstreamRead.data).flatten) ↔
          ∀ frame ∈ (frameScanner.feed [] (reads.map UpstreamRead.data)).1,
            ¬ CutWriteMultiple frame) := by
  -- only the last of the reads that are taken may have a drain that fails
  have early : ∀ {ρ : Type} {drains : ρ → Prop} {taken reads : List ρ}, taken <+: reads →
      (∀ read ∈ reads.dropLast, drains read) → ∀ read ∈ taken.dropLast, drains read := by
    rintro ρ drains taken reads ⟨later, rfl⟩ drained read member
    apply drained read
    cases later with
    | nil => rwa [List.append_nil]
    | cons next later =>
      rw [List.dropLast_append_of_ne_nil (by simp)]
      exact List.mem_append_left _ (List.dropLast_subset taken member)
  constructor
  · intro reads empty drained unowned taken nonempty inside
    obtain ⟨read, rest, rfl⟩ := List.exists_cons_of_ne_nil nonempty
    obtain ⟨later, rfl⟩ := inside
    have transparent := rounds_transparent (relayClientRound config) (relayClient config)
      Session.buffer ClientRead.data rfl (fun _ _ => rfl)
      (fun session reads => Bounded session ∧ Unowned config session reads)
      (fun read => read.write.drainFails = none) relayClientRound_passes
      ⟨reachable.bounded, unowned⟩ (early (List.prefix_append _ _) drained)
    rw [empty, List.nil_append] at transparent
    exact transparent
  · intro reads empty drained untaken
    have carried : Carried session reads := by
      rw [Carried, empty]
      exact untaken
    have uncut_iff : Uncut session reads ↔
        ∀ frame ∈ (frameScanner.feed [] (reads.map UpstreamRead.data)).1,
          ¬ CutWriteMultiple frame := by
      rw [Uncut, empty]
    rw [← uncut_iff]
    constructor
    · intro transparent
      apply uncut_of_transparent carried drained
      intro taken nonempty inside
      rw [empty, List.nil_append]
      exact transparent taken nonempty inside
    · intro uncut taken nonempty inside
      obtain ⟨read, rest, rfl⟩ := List.exists_cons_of_ne_nil nonempty
      obtain ⟨later, rfl⟩ := inside
      have transparent := rounds_transparent relayUpstreamRead relayUpstream
        Session.upstreamBuffer UpstreamRead.data rfl (fun _ _ => rfl)
        (fun session reads => Carried session reads ∧ Uncut session reads)
        (fun read => read.write.drainFails = none) relayUpstreamRead_passes
        ⟨carried, uncut⟩ (early (List.prefix_append _ _) drained)
      rw [empty, List.nil_append] at transparent
      exact transparent

/-! ## Reads without failures -/

/-- A read of the cloud while nothing fails and nothing else runs. -/
def calmRead (data : Bytes) : UpstreamRead := ⟨data, .nothing, fun _ => .calm, ⟨0, 0, none⟩⟩

theorem feed_calmRead {frame : Frame} (wellFormed : frame.WellFormed) :
    (frameScanner.feed [] ([calmRead frame.raw].map UpstreamRead.data)).1 = [frame] := by
  rw [feed_reads, calmRead, List.nil_append, wellFormed.extractFrames_raw]
  rfl

/-- A read of the inverter while nothing fails and nothing else runs. -/
def calmClientRead (data : Bytes) : ClientRead :=
  ⟨data, ⟨id, fun _ => rfl, fun _ => rfl⟩, fun _ => ⟨0, 0, none⟩, ⟨0, 0, none⟩⟩

/-- A frame that the end of a read cuts, with bytes of no frame around it, and another frame. -/
def cutReads (frame : Frame) : List Bytes :=
  [[0x01, 0x02] ++ frame.raw.take 9, frame.raw.drop 9 ++ [0x03], (emptyFrame 0x7e).raw]

/-- The relay of these reads from the inverter, in a new session. -/
def relayedClient (frame : Frame) : Outcome Session SessionEffect PyError Unit :=
  (relayClient .everything ((cutReads frame).map calmClientRead)).run (.fresh .everything)

/-- The relay of these reads from the cloud. -/
def relayedUpstream (frame : Frame) : Outcome Session SessionEffect PyError Unit :=
  (relayUpstream ((cutReads frame).map calmRead)).run (.fresh .everything)

/-- The registration of the inverter, and a write of the cloud, each cut by the end of a read. -/
theorem relay_transparent_cutReads :
    Transparent (written (relayedClient (registration 'A'.toUInt8)).effects)
        (relayedClient (registration 'A'.toUInt8)).state.buffer
        (cutReads (registration 'A'.toUInt8)).flatten ∧
      Transparent (written (relayedUpstream wholeWriteFrame).effects)
        (relayedUpstream wholeWriteFrame).state.upstreamBuffer
        (cutReads wholeWriteFrame).flatten := by
  have clientData : ∀ data : List Bytes, (data.map calmClientRead).map
      ClientRead.data = data := fun data => by
    rw [List.map_map]
    exact List.map_id data
  have cloudData : ∀ data : List Bytes, (data.map calmRead).map
      UpstreamRead.data = data := fun data => by
    rw [List.map_map]
    exact List.map_id data
  obtain ⟨fromInverter, fromCloud⟩ := relay_transparent (.fresh : Reachable .everything _)
  constructor
  · -- nothing was injected or uploaded, so that no frame is the relay's own
    have unowned : Unowned .everything (.fresh .everything)
        ((cutReads (registration 'A'.toUInt8)).map calmClientRead) :=
      ⟨by decide +kernel, by decide +kernel, by decide +kernel, trivial⟩
    have transparent := fromInverter _ rfl (fun read member => ?_) unowned _ (by simp [cutReads])
      (List.prefix_refl _)
    · rwa [clientData] at transparent
    · obtain ⟨data, _, rfl⟩ := List.mem_map.mp (List.dropLast_subset _ member)
      rfl
  · have found : (frameScanner.feed [] (((cutReads wholeWriteFrame).map calmRead).map
        UpstreamRead.data)).1 = [wholeWriteFrame, emptyFrame 0x7e] := by
      rw [cloudData]
      decide +kernel
    have both : ∀ frame ∈ [wholeWriteFrame, emptyFrame 0x7e],
        isFirmwareTransferFrame frame = false ∧ ¬ CutWriteMultiple frame := by decide +kernel
    have passes := fromCloud ((cutReads wholeWriteFrame).map calmRead) rfl
      (fun read member => ?_) (by rw [found]; exact fun _ frame member => (both frame member).1)
    · have transparent := passes.mpr (by rw [found]; exact fun frame member =>
        (both frame member).2) _ (by simp [cutReads]) (List.prefix_refl _)
      rwa [cloudData] at transparent
    · obtain ⟨data, _, rfl⟩ := List.mem_map.mp (List.dropLast_subset _ member)
      rfl

/-- The cut command ends the loop before its bytes are written. -/
theorem relay_drops_cutWriteFrame :
    ¬ ∀ (config : SessionConfig) (session : Session) (reads : List UpstreamRead),
      Reachable config session → session.upstreamBuffer = [] →
      (∀ read ∈ reads.dropLast, read.write.drainFails = none) →
      Untaken session (frameScanner.feed [] (reads.map UpstreamRead.data)).1 →
      ∀ taken, taken ≠ [] → taken <+: reads →
        let outcome := (relayUpstream taken).run session
        Transparent (written outcome.effects) outcome.state.upstreamBuffer
          (taken.map UpstreamRead.data).flatten := by
  intro claimed
  have found := feed_calmRead cutWriteFrame_wellFormed
  have untaken : Untaken (.fresh .everything) (frameScanner.feed []
      ([calmRead cutWriteFrame.raw].map UpstreamRead.data)).1 := by
    rw [found]
    intro _ frame member
    rw [List.mem_singleton.mp member]
    decide
  have uncut := uncut_of_transparent untaken (fun _ _ => by contradiction)
    (claimed .everything (.fresh .everything) [calmRead cutWriteFrame.raw] .fresh rfl
      (fun _ _ => by contradiction) untaken)
  have member : cutWriteFrame ∈ (frameScanner.feed []
      ([calmRead cutWriteFrame.raw].map UpstreamRead.data)).1 := by
    rw [found]
    exact List.mem_singleton_self _
  exact uncut cutWriteFrame member (by decide)

end FoxessGateway.Server
