import FoxessGateway.Protocol.Extraction

/-! # Read boundaries

A session appends each read to its buffer and calls `extractFrames` once, which is
`frameScanner.feed`.  The frames do not depend on where the reads are cut, with one
exception: a buffer that holds no start marker is cleared, and the first byte of a marker
may be the last byte of what is cleared. -/

namespace FoxessGateway.Protocol

open ByteOrder Streaming Splicing

/-! ## A buffer that holds the beginning of a frame -/

theorem extractPass_nil : frameScanner.pass [] = .stop [] := rfl

theorem Frame.WellFormed.long {frame : Frame} (wellFormed : frame.WellFormed) :
    13 ≤ frame.raw.length :=
  (parseFrame_ok wellFormed.parsed).1

theorem Frame.WellFormed.startsWithMarker {frame : Frame} (wellFormed : frame.WellFormed) :
    StartsWithMarker frame.raw := by
  obtain ⟨_, _, _, start, _⟩ := parseFrame_ok wellFormed.parsed
  rcases wellFormed.marked with ⟨isMarker, _⟩ | ⟨isMarker, _⟩ <;> rw [isMarker] at start
  · exact .inl (start ▸ List.take_prefix _ _)
  · exact .inr (start ▸ List.take_prefix _ _)

theorem startsWithMarker_part {part raw : Bytes} (inside : part <+: raw)
    (long : 2 ≤ part.length) (marked : StartsWithMarker raw) : StartsWithMarker part := by
  obtain ⟨more, rfl⟩ := inside
  exact (startsWithMarker_append more long).mp marked

/-- The loop waits on a proper part of a frame that shows the whole start marker. -/
theorem Frame.WellFormed.pass_part {frame : Frame} (wellFormed : frame.WellFormed) {part : Bytes}
    (inside : part <+: frame.raw) (proper : part ≠ frame.raw) (long : 2 ≤ part.length) :
    frameScanner.pass part = .stop part := by
  change extractPass part = _
  rw [extractPass_of_startsWithMarker
    (startsWithMarker_part inside long wellFormed.startsWithMarker)]
  obtain ⟨_, total, _⟩ := parseFrame_ok wellFormed.parsed
  have fits := wellFormed.short
  obtain ⟨more, split⟩ := inside
  have shorter : part.length < frame.raw.length := by
    rw [← split, List.length_append]
    have : more ≠ [] := by
      rintro rfl
      exact proper (by rw [← split, List.append_nil])
    have := List.length_pos_iff.mpr this
    omega
  rw [markedPass]
  by_cases header : part.length < 13
  · rw [if_pos header]
  · have length : slice frame.raw 7 9 = slice part 7 9 := by
      rw [← split, slice_append more (by omega)]
    rw [length] at total
    rw [if_neg header]
    dsimp only
    rw [if_neg (by omega), if_pos (by omega)]

theorem Frame.WellFormed.pass_first {frame : Frame} (wellFormed : frame.WellFormed) {part : Bytes}
    (inside : part <+: frame.raw) (single : part.length = 1) :
    frameScanner.pass part = .stop [] ∧ EndsInHalfMarker part := by
  obtain ⟨byte, rfl⟩ := List.length_eq_one_iff.mp single
  obtain ⟨more, split⟩ := inside
  have long := wellFormed.long
  have marked := wellFormed.startsWithMarker
  have unmarked : findMarker [byte] = none := by
    rw [findMarker_cons, if_neg (not_startsWithMarker_short (by simp))]
    rfl
  rw [← split] at marked long
  cases more with
  | nil => simp at long
  | cons second more =>
    obtain ⟨_, half⟩ := (startsWithMarker_cons_cons byte second more).mp marked
    refine ⟨?_, unmarked, byte, half, rfl⟩
    change extractPass [byte] = _
    rw [extractPass, unmarked]

/-! ## Where a stream of frames may be cut -/

/-- A read ends one byte into a frame, between the two bytes of its start marker. -/
def CutsMarker (frames : List Frame) (reads : List Bytes) : Prop :=
  ∃ early frame late first later, frames = early ++ frame :: late ∧ reads = first ++ later ∧
    first.flatten.length = (early.map Frame.raw).flatten.length + 1

variable {frames : List Frame}

theorem recognised (wellFormed : ∀ frame ∈ frames, frame.WellFormed) :
    ∀ frame ∈ frames, frameScanner.Recognises Frame.raw frame :=
  fun frame member => (wellFormed frame member).recognised

/-- The beginning of a frame rests in the buffer, unless it is one byte. -/
theorem Frame.WellFormed.rests {frame : Frame} (wellFormed : frame.WellFormed) {part : Bytes}
    (inside : part <+: frame.raw) (proper : part ≠ frame.raw) (notOne : part.length ≠ 1) :
    frameScanner.pass part = .stop part := by
  rcases Nat.lt_or_ge part.length 2 with short | long
  · obtain rfl : part = [] := List.length_eq_zero_iff.mp (by omega)
    exact extractPass_nil
  · exact wellFormed.pass_part inside proper long

/-- What rests of a frame in the buffer holds the whole start marker, if it holds anything. -/
theorem Frame.WellFormed.rests_intact {frame : Frame} (wellFormed : frame.WellFormed)
    {part : Bytes} (inside : part <+: frame.raw) (notOne : part.length ≠ 1) (more : Bytes) :
    ¬ LosesMarker part more := by
  rintro ⟨unmarked, half, _, atEnd, _⟩
  rcases Nat.lt_or_ge part.length 2 with short | long
  · obtain rfl : part = [] := List.length_eq_zero_iff.mp (by omega)
    cases atEnd
  · have marked := startsWithMarker_part inside long wellFormed.startsWithMarker
    rw [findMarker_of_startsWithMarker marked] at unmarked
    cases unmarked

/-- Reads that cut no marker are intact.  `buffer` is what the reads so far have left of the
frames still to come: nothing, or the beginning of the next frame with its marker. -/
theorem intact_of_not_cutsMarker (wellFormed : ∀ frame ∈ frames, frame.WellFormed)
    {buffer : Bytes} {reads : List Bytes}
    (stream : buffer ++ reads.flatten = (frames.map Frame.raw).flatten)
    (uncut : ∀ early frame late first later, frames = early ++ frame :: late →
      reads = first ++ later →
      buffer.length + first.flatten.length ≠ (early.map Frame.raw).flatten.length + 1) :
    frameScanner.Intact LosesMarker buffer reads := by
  induction reads generalizing buffer frames with
  | nil => trivial
  | cons read reads inductionHypothesis =>
    rw [List.flatten_cons, ← List.append_assoc] at stream
    obtain ⟨early, late, part, rfl, consumed, continued, place⟩ :=
      Scanner.cut_items Frame.raw frames stream
    have known : ∀ frame ∈ early, frameScanner.Recognises Frame.raw frame :=
      fun frame member => (wellFormed frame (by simp [member])).recognised
    have scanned := Scanner.scan_items early known part
    have last := Scanner.last_items early known part
    have length : buffer.length + read.length =
        (early.map Frame.raw).flatten.length + part.length := by
      rw [← List.length_append, ← List.length_append, consumed]
    have resting : frameScanner.pass part = .stop part ∧ ∀ more, ¬ LosesMarker part more := by
      rcases place with rfl | ⟨frame, later, rfl, inside, proper⟩
      · exact ⟨extractPass_nil, fun more ⟨_, _, _, atEnd, _⟩ => by cases atEnd⟩
      · -- the read ends inside a frame, and not behind its first byte
        have frameFormed := wellFormed frame (by simp)
        have notOne : part.length ≠ 1 := by
          intro single
          refine uncut early frame later [read] reads rfl rfl ?_
          rw [List.flatten_cons, List.flatten_nil, List.append_nil, length, single]
        exact ⟨frameFormed.rests inside proper notOne, frameFormed.rests_intact inside notOne⟩
    have lastPart : frameScanner.last part = part := Scanner.last_stop resting.1
    refine ⟨?_, ?_⟩
    · rw [consumed, last, lastPart]
      exact resting.2 _
    · have left : (frameScanner.scan (buffer ++ read)).2 = part := by
        rw [consumed, scanned, Scanner.scan_stop resting.1]
      have lateFormed : ∀ frame ∈ late, frame.WellFormed :=
        fun frame member => wellFormed frame (by simp [member])
      rw [left]
      refine inductionHypothesis lateFormed continued ?_
      rintro earlyLater frame lateLater first later rfl rfl
      have shifted := uncut (early ++ earlyLater) frame lateLater (read :: first) later
        (by simp) rfl
      simp only [List.flatten_cons, List.length_append, List.map_append, List.flatten_append]
        at shifted
      omega

theorem feed_append (buffer : Bytes) (first later : List Bytes) :
    frameScanner.feed buffer (first ++ later) =
      ((frameScanner.feed buffer first).1 ++
          (frameScanner.feed (frameScanner.feed buffer first).2 later).1,
        (frameScanner.feed (frameScanner.feed buffer first).2 later).2) := by
  induction first generalizing buffer with
  | nil => rfl
  | cons read first inductionHypothesis =>
    rw [List.cons_append, Scanner.feed, inductionHypothesis, Scanner.feed]
    simp

/-- Reads that cut a marker end with the first byte of a frame. -/
theorem flatten_of_cutsMarker {early late : List Frame} {frame : Frame}
    (long : 13 ≤ frame.raw.length)
    {first later : List Bytes}
    (stream : (first ++ later).flatten = ((early ++ frame :: late).map Frame.raw).flatten)
    (place : first.flatten.length = (early.map Frame.raw).flatten.length + 1) :
    ∃ part, part.length = 1 ∧ part <+: frame.raw ∧
      first.flatten = (early.map Frame.raw).flatten ++ part := by
  rw [List.flatten_append, List.map_append, List.map_cons, List.flatten_append,
    List.flatten_cons] at stream
  have before : (early.map Frame.raw).flatten <+: first.flatten :=
    List.prefix_of_prefix_length_le ⟨_, stream.symm⟩ (List.prefix_append _ _) (by omega)
  obtain ⟨part, split⟩ := before
  rw [← split, List.append_assoc, List.append_cancel_left_eq] at stream
  rw [← split, List.length_append] at place
  have inside : part <+: frame.raw :=
    List.prefix_of_prefix_length_le ⟨_, stream⟩ (List.prefix_append _ _) (by omega)
  exact ⟨part, by omega, inside, split.symm⟩

/-- Reads that cut a marker lose its first byte. -/
theorem not_delivered_of_cutsMarker (wellFormed : ∀ frame ∈ frames, frame.WellFormed)
    {reads : List Bytes} (stream : reads.flatten = (frames.map Frame.raw).flatten)
    (cut : CutsMarker frames reads) : frameScanner.feed [] reads ≠ (frames, []) := by
  intro delivered
  obtain ⟨early, frame, late, first, later, rfl, rfl, place⟩ := cut
  have known : ∀ frame ∈ early, frameScanner.Recognises Frame.raw frame :=
    fun frame member => (wellFormed frame (by simp [member])).recognised
  have frameFormed := wellFormed frame (by simp)
  have lost : ((frameScanner.feed [] first).1.map fun frame => frame.raw.length).sum +
      (frameScanner.feed [] first).2.length < first.flatten.length := by
    by_cases intact : frameScanner.Intact LosesMarker [] first
    · obtain ⟨part, single, inside, consumed⟩ :=
        flatten_of_cutsMarker frameFormed.long stream place
      have stopped := (frameFormed.pass_first inside single).1
      rw [frameScanner_resumable.feed_eq_scan extractPass_nil first intact, List.nil_append, place,
        consumed, Scanner.scan_items early known, Scanner.scan_stop stopped]
      simp [List.length_flatten, Function.comp_def]
    · have short := frameScanner_reads.feed_length_lt losesMarker_drops [] first intact
      rwa [List.length_nil, Nat.zero_add] at short
  -- with fewer bytes than were fed, not all of the frames can be there
  have rest := frameScanner_reads.feed_length (frameScanner.feed [] first).2 later
  have total := congrArg List.length stream
  rw [feed_append, Prod.mk.injEq] at delivered
  obtain ⟨frames, nothing⟩ := delivered
  rw [nothing] at rest
  have sum := congrArg (fun frames => (frames.map fun frame => frame.raw.length).sum) frames
  simp only [List.map_append, List.sum_append, List.flatten_append, List.length_append,
    List.length_flatten, List.map_map, Function.comp_def, List.length_nil] at sum total rest lost
  omega

/-- The frames of a stream arrive exactly when no read cuts a start marker. -/
theorem feed_frames_iff (wellFormed : ∀ frame ∈ frames, frame.WellFormed) {reads : List Bytes}
    (stream : reads.flatten = (frames.map Frame.raw).flatten) :
    frameScanner.feed [] reads = (frames, []) ↔ ¬ CutsMarker frames reads := by
  constructor
  · exact fun delivered cut => not_delivered_of_cutsMarker wellFormed stream cut delivered
  · intro uncut
    rw [frameScanner_resumable.feed_items_iff frameScanner_reads losesMarker_drops extractPass_nil
      frames (recognised wellFormed) reads stream]
    refine intact_of_not_cutsMarker wellFormed (by rwa [List.nil_append]) ?_
    intro early frame late first later isFrames isReads place
    rw [List.length_nil, Nat.zero_add] at place
    exact uncut ⟨early, frame, late, first, later, isFrames, isReads, place⟩

/-! ## Every frame is lost somewhere -/

/-- A frame of no payload whose bytes after the first hold no marker. -/
def emptyFrame (half : UInt8) : Frame :=
  let ending := if half = 0x7e then 0xe7 else 0xf7
  { start := [half, half], device := [0, 0, 0, 0], func := 0, payload := [], crc := [27, 0],
    endMarker := [ending, ending],
    raw := [half, half, 0, 0, 0, 0, 0, 0, 0, 27, 0, ending, ending], validCrc := true }

theorem emptyFrame_wellFormed {half : UInt8} (isHalf : half = 0x7e ∨ half = 0x7f) :
    (emptyFrame half).WellFormed := by
  rcases isHalf with rfl | rfl <;>
  exact ⟨by decide +kernel, by decide, by decide⟩

theorem emptyFrame_tail_unmarked {half : UInt8} (isHalf : half = 0x7e ∨ half = 0x7f) :
    findMarker (emptyFrame half).raw.tail = none := by
  rcases isHalf with rfl | rfl <;> decide +kernel

/-- The uncut bytes show the frame that begins with the last byte of a buffer without markers. -/
theorem pass_emptyFrame {last : Bytes} {half : UInt8} (isHalf : half = 0x7e ∨ half = 0x7f)
    (unmarked : findMarker last = none) (atEnd : last.getLast? = some half) :
    frameScanner.pass (last ++ (emptyFrame half).raw.tail) = .emit (emptyFrame half) [] := by
  have found : findMarker (last ++ (emptyFrame half).raw.tail) = some (last.length - 1) :=
    findMarker_of_losesMarker ⟨unmarked, half, isHalf, atEnd, rfl⟩
  have front : last = last.take (last.length - 1) ++ [half] := by
    rw [← List.dropLast_eq_take]
    exact (List.dropLast_append_getLast? half atEnd).symm
  have dropped : (last ++ (emptyFrame half).raw.tail).drop (last.length - 1) =
      (emptyFrame half).raw := by
    conv_lhs => rw [front]
    rw [List.append_assoc, List.drop_append_of_le_length (by simp)]
    simp [emptyFrame]
  have formed := emptyFrame_wellFormed isHalf
  have again := formed.recognised []
  rw [List.append_nil] at again
  change extractPass _ = _
  rw [extractPass, found]
  dsimp only
  rw [dropped, ← extractPass_of_startsWithMarker formed.startsWithMarker]
  exact again

/-- Where the buffer ends in half a marker, the frame that begins there is found only in the
uncut bytes. -/
theorem feed_loses_emptyFrame {buffer read : Bytes} {half : UInt8}
    (isHalf : half = 0x7e ∨ half = 0x7f)
    (unmarked : findMarker (frameScanner.last (buffer ++ read)) = none)
    (atEnd : (frameScanner.last (buffer ++ read)).getLast? = some half) :
    frameScanner.feed buffer [read, (emptyFrame half).raw.tail] ≠
      frameScanner.feed buffer [read ++ (emptyFrame half).raw.tail] := by
  have stopped : frameScanner.pass (frameScanner.last (buffer ++ read)) = .stop [] := by
    change extractPass _ = _
    rw [extractPass, unmarked]
  have emptied : (frameScanner.scan (buffer ++ read)).2 = [] := by
    have same := (frameScanner.pass_last (buffer ++ read)).symm.trans stopped
    rwa [Verdict.stop.injEq] at same
  have nothing : frameScanner.scan (emptyFrame half).raw.tail = ([], []) := by
    refine Scanner.scan_stop ?_
    change extractPass _ = _
    rw [extractPass, emptyFrame_tail_unmarked isHalf]
  have whole : frameScanner.scan
      (frameScanner.last (buffer ++ read) ++ (emptyFrame half).raw.tail) =
      ([emptyFrame half], []) := by
    rw [Scanner.scan_emit (pass_emptyFrame isHalf unmarked atEnd),
      Scanner.scan_stop extractPass_nil]
  intro same
  have items := congrArg (fun fed => fed.1.length) same
  have uncut := frameScanner_resumable.scan_append_last (buffer ++ read) (emptyFrame half).raw.tail
  rw [whole] at uncut
  simp only [Scanner.feed, emptied, List.nil_append, nothing, ← List.append_assoc, uncut,
    List.append_nil, List.length_append, List.length_singleton] at items
  omega

/-! ## Read-boundary independence -/

/-- **When the frames do not depend on the read boundaries.**  Two ways of cutting a stream
agree when neither loses half a marker; a boundary can be moved, whatever follows, exactly
when the buffer does not end in half a marker there; and a stream of frames is delivered
exactly when no read ends between the two bytes of a start marker. -/
theorem feed_readBoundaries (left right : List Bytes) (stream : left.flatten = right.flatten) :
    (frameScanner.Intact LosesMarker [] left → frameScanner.Intact LosesMarker [] right →
      frameScanner.feed [] left = frameScanner.feed [] right) ∧
    (∀ (buffer read : Bytes),
      (∀ next, frameScanner.feed buffer [read, next] = frameScanner.feed buffer [read ++ next]) ↔
        ¬ EndsInHalfMarker (frameScanner.last (buffer ++ read))) ∧
    (∀ (frames : List Frame), (∀ frame ∈ frames, frame.WellFormed) →
      left.flatten = (frames.map Frame.raw).flatten →
      (frameScanner.feed [] left = (frames, []) ↔ ¬ CutsMarker frames left)) := by
  refine ⟨?_, ?_, ?_⟩
  · intro leftIntact rightIntact
    rw [frameScanner_resumable.feed_eq_scan extractPass_nil left leftIntact,
      frameScanner_resumable.feed_eq_scan extractPass_nil right rightIntact, stream]
  · intro buffer read
    constructor
    · rintro movable ⟨unmarked, half, isHalf, atEnd⟩
      exact feed_loses_emptyFrame isHalf unmarked atEnd (movable _)
    · intro notHalf next
      have kept : ¬ LosesMarker (frameScanner.last (buffer ++ read)) next :=
        fun ⟨unmarked, half, isHalf, atEnd, _⟩ => notHalf ⟨unmarked, half, isHalf, atEnd⟩
      simp only [Scanner.feed, List.append_nil]
      rw [← List.append_assoc, frameScanner_resumable.scan_append kept]
  · intro frames wellFormed spelled
    exact feed_frames_iff wellFormed spelled

/-- Every other way of cutting a frame in two delivers it. -/
theorem feed_readBoundaries_emptyFrame :
    frameScanner.feed [] [(emptyFrame 0x7e).raw.take 5, (emptyFrame 0x7e).raw.drop 5] =
      ([emptyFrame 0x7e], []) := by
  have formed : ∀ frame ∈ [emptyFrame 0x7e], frame.WellFormed := by
    intro frame member
    rw [List.mem_singleton.mp member]
    exact emptyFrame_wellFormed (.inl rfl)
  have stream : [(emptyFrame 0x7e).raw.take 5, (emptyFrame 0x7e).raw.drop 5].flatten =
      [(emptyFrame 0x7e).raw].flatten := rfl
  refine ((feed_readBoundaries _ _ stream).2.2 [emptyFrame 0x7e] formed stream).mpr ?_
  rintro ⟨early, frame, late, first, later, isFrames, isReads, place⟩
  obtain ⟨rfl, _⟩ : early = [] ∧ _ := by simpa [List.singleton_eq_append_iff] using isFrames
  match first, isReads with
  | [], _ => simp at place
  | [_], isReads | [_, _], isReads =>
    simp only [List.cons_append, List.nil_append, List.cons.injEq] at isReads
    simp [← isReads.1, emptyFrame] at place
  | _ :: _ :: _ :: _, isReads => simp at isReads

/-- The first byte of a frame in a read of its own: the frame is not delivered. -/
theorem feed_splitFrame :
    (emptyFrame 0x7e).WellFormed ∧
    frameScanner.feed [] [(emptyFrame 0x7e).raw] = ([emptyFrame 0x7e], []) ∧
    frameScanner.feed [] [[0x7e], (emptyFrame 0x7e).raw.tail] = ([], []) ∧
    ¬ ∀ (left right : List Bytes), left.flatten = right.flatten →
      frameScanner.feed [] left = frameScanner.feed [] right := by
  have whole : frameScanner.feed [] [(emptyFrame 0x7e).raw] = ([emptyFrame 0x7e], []) := by
    decide +kernel
  have split : frameScanner.feed [] [[0x7e], (emptyFrame 0x7e).raw.tail] = ([], []) := by
    decide +kernel
  refine ⟨emptyFrame_wellFormed (.inl rfl), whole, split, fun independent => ?_⟩
  have same := independent [(emptyFrame 0x7e).raw] [[0x7e], (emptyFrame 0x7e).raw.tail] rfl
  rw [whole, split] at same
  cases same

end FoxessGateway.Protocol
