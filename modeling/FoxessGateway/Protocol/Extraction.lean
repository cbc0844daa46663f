import FoxessGateway.Protocol.Frame

/-! # The extraction loop as an incremental scanner

The passes of `extractFrames` obey the laws of `Streaming`: they may be resumed unless the
buffer was cleared on half of a start marker (`LosesMarker`), and an emitted frame is
well formed and was read from its own raw bytes. -/

namespace FoxessGateway.Protocol

open ByteOrder Streaming Splicing

/-! ## Finding a marker -/

/-- A start marker stands at the head of the buffer. -/
def StartsWithMarker (buffer : Bytes) : Prop :=
  marker7e <+: buffer ∨ marker7f <+: buffer

instance (buffer : Bytes) : Decidable (StartsWithMarker buffer) :=
  inferInstanceAs (Decidable (_ ∨ _))

theorem startsWithMarker_cons_cons (first second : UInt8) (buffer : Bytes) :
    StartsWithMarker (first :: second :: buffer) ↔
      first = second ∧ (first = 0x7e ∨ first = 0x7f) := by
  simp only [StartsWithMarker, marker7e, marker7f, List.cons_prefix_cons, List.nil_prefix, and_true]
  constructor
  · rintro (⟨rfl, rfl⟩ | ⟨rfl, rfl⟩) <;> simp
  · rintro ⟨rfl, rfl | rfl⟩ <;> simp

theorem not_startsWithMarker_short {buffer : Bytes} (short : buffer.length < 2) :
    ¬ StartsWithMarker buffer := by
  rintro (occurs | occurs) <;>
  · have length := occurs.length_le
    simp only [marker7e, marker7f, List.length_cons, List.length_nil] at length
    omega

@[simp] theorem findMarker_nil : findMarker [] = none := rfl

theorem findMarker_cons (first : UInt8) (buffer : Bytes) :
    findMarker (first :: buffer) =
      if StartsWithMarker (first :: buffer) then some 0 else (findMarker buffer).map (· + 1) := by
  simp only [findMarker, List.filterMap_cons, List.filterMap_nil, find, StartsWithMarker]
  by_cases at7e : marker7e <+: first :: buffer <;> by_cases at7f : marker7f <+: first :: buffer <;>
    simp only [at7e, at7f, or_true, true_or, or_self, if_true, if_false] <;>
    cases find marker7e buffer <;> cases find marker7f buffer <;>
    simp [List.min?_cons, Nat.add_min_add_right]

theorem findMarker_of_startsWithMarker {buffer : Bytes} (marked : StartsWithMarker buffer) :
    findMarker buffer = some 0 := by
  cases buffer with
  | nil => exact absurd marked (not_startsWithMarker_short (by simp))
  | cons first buffer => rw [findMarker_cons, if_pos marked]

theorem startsWithMarker_append {buffer : Bytes} (more : Bytes) (long : 2 ≤ buffer.length) :
    StartsWithMarker (buffer ++ more) ↔ StartsWithMarker buffer := by
  match buffer, long with
  | first :: second :: buffer, _ =>
    rw [List.cons_append, List.cons_append, startsWithMarker_cons_cons, startsWithMarker_cons_cons]

theorem startsWithMarker_drop {buffer : Bytes} {startIdx : Nat}
    (found : findMarker buffer = some startIdx) : StartsWithMarker (buffer.drop startIdx) := by
  induction buffer generalizing startIdx with
  | nil => cases found
  | cons first buffer inductionHypothesis =>
    rw [findMarker_cons] at found
    split at found
    · cases found
      assumption
    · obtain ⟨later, foundLater, rfl⟩ := Option.map_eq_some_iff.mp found
      exact inductionHypothesis foundLater

theorem findMarker_le {buffer : Bytes} {startIdx : Nat}
    (found : findMarker buffer = some startIdx) : startIdx + 2 ≤ buffer.length := by
  by_contra short
  refine not_startsWithMarker_short ?_ (startsWithMarker_drop found)
  rw [List.length_drop]
  omega

theorem findMarker_append {buffer : Bytes} {startIdx : Nat} (more : Bytes)
    (found : findMarker buffer = some startIdx) : findMarker (buffer ++ more) = some startIdx := by
  induction buffer generalizing startIdx with
  | nil => cases found
  | cons first buffer inductionHypothesis =>
    have bound := findMarker_le found
    rw [findMarker_cons] at found
    rw [List.cons_append, findMarker_cons]
    split at found
    · rename_i marked
      have stillMarked : StartsWithMarker (first :: (buffer ++ more)) :=
        (startsWithMarker_append more (by omega)).mpr marked
      rw [if_pos stillMarked]
      exact found
    · rename_i unmarked
      obtain ⟨later, foundLater, rfl⟩ := Option.map_eq_some_iff.mp found
      have stillUnmarked : ¬ StartsWithMarker (first :: (buffer ++ more)) :=
        fun marked => unmarked ((startsWithMarker_append more (by omega)).mp marked)
      rw [if_neg stillUnmarked, inductionHypothesis foundLater]
      rfl

/-! ## The half marker at the end of a cleared buffer -/

/-- The buffer holds no start marker, but its last byte and the first byte of `more` make
one. -/
def LosesMarker (buffer more : Bytes) : Prop :=
  findMarker buffer = none ∧
    ∃ half, (half = 0x7e ∨ half = 0x7f) ∧ buffer.getLast? = some half ∧ more.head? = some half

/-- The buffer holds no start marker, but ends in one half of one. -/
def EndsInHalfMarker (buffer : Bytes) : Prop :=
  findMarker buffer = none ∧ ∃ half, (half = 0x7e ∨ half = 0x7f) ∧ buffer.getLast? = some half

instance (buffer more : Bytes) : Decidable (LosesMarker buffer more) :=
  decidable_of_iff
    (findMarker buffer = none ∧
      ((buffer.getLast? = some 0x7e ∧ more.head? = some 0x7e) ∨
        (buffer.getLast? = some 0x7f ∧ more.head? = some 0x7f))) (by simp [LosesMarker])

instance (buffer : Bytes) : Decidable (EndsInHalfMarker buffer) :=
  decidable_of_iff
    (findMarker buffer = none ∧ (buffer.getLast? = some 0x7e ∨ buffer.getLast? = some 0x7f))
    (by simp [EndsInHalfMarker])

theorem findMarker_append_none {buffer more : Bytes} (unmarked : findMarker buffer = none)
    (kept : ¬ LosesMarker buffer more) :
    findMarker (buffer ++ more) = (findMarker more).map (· + buffer.length) := by
  induction buffer with
  | nil => simp
  | cons first buffer inductionHypothesis =>
    have unmarkedAll := unmarked
    rw [findMarker_cons] at unmarked
    split at unmarked
    · cases unmarked
    · rename_i notHere
      have unmarkedTail : findMarker buffer = none := by simpa using unmarked
      have notThere : ¬ StartsWithMarker (first :: (buffer ++ more)) := by
        intro marked
        match buffer, more with
        | second :: buffer, more =>
          exact notHere ((startsWithMarker_cons_cons first second buffer).mpr
            ((startsWithMarker_cons_cons first second (buffer ++ more)).mp marked))
        | [], second :: more =>
          obtain ⟨rfl, half⟩ := (startsWithMarker_cons_cons first second more).mp marked
          exact kept ⟨unmarkedAll, first, half, rfl, rfl⟩
        | [], [] => exact not_startsWithMarker_short (by simp) marked
      have keptTail : ¬ LosesMarker buffer more := by
        rintro ⟨_, half, isHalf, atEnd, atHead⟩
        refine kept ⟨unmarkedAll, half, isHalf, ?_, atHead⟩
        cases buffer with
        | nil => cases atEnd
        | cons second buffer => rw [List.getLast?_cons_cons]; exact atEnd
      rw [List.cons_append, findMarker_cons, if_neg notThere,
        inductionHypothesis unmarkedTail keptTail, Option.map_map]
      congr 1

/-- Where a half marker is lost, the uncut bytes hold the whole marker. -/
theorem findMarker_of_losesMarker {buffer more : Bytes} (loses : LosesMarker buffer more) :
    findMarker (buffer ++ more) = some (buffer.length - 1) := by
  obtain ⟨unmarked, half, isHalf, atEnd, atHead⟩ := loses
  induction buffer with
  | nil => cases atEnd
  | cons first buffer inductionHypothesis =>
    rw [findMarker_cons] at unmarked
    split at unmarked
    · cases unmarked
    · rename_i notHere
      have unmarkedTail : findMarker buffer = none := by simpa using unmarked
      cases buffer with
      | nil =>
        cases more with
        | nil => cases atHead
        | cons second more =>
          have sameFirst : first = half := by simpa using atEnd
          have sameSecond : second = half := by simpa using atHead
          have marked : StartsWithMarker (first :: second :: more) := by
            rw [startsWithMarker_cons_cons, sameFirst, sameSecond]
            exact ⟨rfl, isHalf⟩
          exact findMarker_of_startsWithMarker marked
      | cons second buffer =>
        rw [List.getLast?_cons_cons] at atEnd
        have later := inductionHypothesis unmarkedTail atEnd
        have notThere : ¬ StartsWithMarker (first :: second :: (buffer ++ more)) := by
          rw [startsWithMarker_cons_cons] at notHere ⊢
          exact notHere
        rw [List.cons_append, findMarker_cons, List.cons_append, if_neg notThere,
          ← List.cons_append, later]
        simp

/-! ## Resuming a pass -/

theorem slice_append {buffer : Bytes} {start stop : Nat} (more : Bytes)
    (enough : stop ≤ buffer.length) :
    slice (buffer ++ more) start stop = slice buffer start stop := by
  rw [slice, slice, List.take_append_of_le_length enough]

theorem acceptRaw_append (raw endMarker rest more : Bytes) :
    acceptRaw raw endMarker (rest ++ more) = (acceptRaw raw endMarker rest).extend more := by
  unfold acceptRaw
  split
  · rfl
  · split <;> rfl

/-- A pass that does not wait for more bytes decides the same on a longer buffer. -/
theorem markedPass_append {buffer : Bytes} (more : Bytes)
    (decided : markedPass buffer ≠ .stop buffer) :
    markedPass (buffer ++ more) = (markedPass buffer).extend more := by
  obtain ⟨_, stopped⟩ | ⟨⟨enough, long⟩, skipped⟩ | ⟨⟨fits, enough⟩, accepted⟩ :=
    markedPass_cases buffer
  · exact absurd stopped decided
  -- the pass saw the whole header, so the longer buffer meets the same guards
  all_goals
    have length : slice (buffer ++ more) 7 9 = slice buffer 7 9 := slice_append more (by omega)
    have head : (buffer ++ more).take 2 = buffer.take 2 :=
      List.take_append_of_le_length (by omega)
    obtain ⟨guard, _⟩ | ⟨guard, skipped'⟩ | ⟨guard, accepted'⟩ :=
      markedPass_cases (buffer ++ more) <;>
    rw [length, List.length_append] at guard
  · omega
  · rw [skipped, skipped', List.drop_append_of_le_length (by omega)]
    rfl
  · omega
  · omega
  · omega
  · rw [accepted, accepted', length, head, List.take_append_of_le_length enough,
      List.drop_append_of_le_length enough, acceptRaw_append]

theorem acceptRaw_ne_stop (raw endMarker rest left : Bytes) :
    acceptRaw raw endMarker rest ≠ .stop left := by
  obtain skipped | ⟨_, _, _, emitted⟩ := acceptRaw_cases raw endMarker rest
  · rw [skipped]
    nofun
  · rw [emitted]
    nofun

theorem markedPass_stop {buffer rest : Bytes} (passed : markedPass buffer = .stop rest) :
    rest = buffer := by
  obtain ⟨_, known⟩ | ⟨_, known⟩ | ⟨_, known⟩ := markedPass_cases buffer <;> rw [known] at passed
  · cases passed
    rfl
  · cases passed
  · exact absurd passed (acceptRaw_ne_stop _ _ _ _)

/-- A pass that stops at a marker waits for the rest of a frame that fits. -/
theorem markedPass_stop_short {buffer rest : Bytes} (passed : markedPass buffer = .stop rest) :
    rest.length < 4096 := by
  obtain rfl := markedPass_stop passed
  obtain ⟨waits, _⟩ | ⟨_, known⟩ | ⟨_, known⟩ := markedPass_cases rest
  · omega
  · rw [known] at passed
    cases passed
  · rw [known] at passed
    exact absurd passed (acceptRaw_ne_stop _ _ _ _)

/-- The exits of one pass: the buffer is cleared, or the pass is made at the first marker. -/
theorem extractPass_cases (buffer : Bytes) :
    (findMarker buffer = none ∧ extractPass buffer = .stop []) ∨
      ∃ startIdx, findMarker buffer = some startIdx ∧
        extractPass buffer = markedPass (buffer.drop startIdx) := by
  rw [extractPass]
  cases found : findMarker buffer with
  | none => exact .inl ⟨rfl, rfl⟩
  | some startIdx => exact .inr ⟨startIdx, rfl, rfl⟩

theorem extractPass_append_of_found {buffer : Bytes} {startIdx : Nat} (more : Bytes)
    (found : findMarker buffer = some startIdx) :
    extractPass (buffer ++ more) = markedPass (buffer.drop startIdx ++ more) := by
  have bound := findMarker_le found
  rw [extractPass]
  rw [findMarker_append more found]
  dsimp only
  rw [List.drop_append_of_le_length (by omega)]

theorem extractPass_of_startsWithMarker {buffer : Bytes} (marked : StartsWithMarker buffer) :
    extractPass buffer = markedPass buffer := by
  rw [extractPass]
  rw [findMarker_of_startsWithMarker marked]
  rfl

/-- The stretch before the first marker plays no part in a pass. -/
theorem extractPass_eq_of_findMarker_map {buffer more : Bytes}
    (found : findMarker (buffer ++ more) = (findMarker more).map (· + buffer.length)) :
    extractPass (buffer ++ more) = extractPass more := by
  unfold extractPass
  rw [found]
  cases findMarker more with
  | none => rfl
  | some startIdx =>
    simp only [Option.map_some]
    rw [Nat.add_comm, List.drop_append, List.drop_eq_nil_of_le (by omega), List.nil_append]
    congr 2
    omega

theorem frameScanner_resumable : frameScanner.Resumable LosesMarker where
  stop := by
    intro buffer rest more passed kept
    change extractPass (buffer ++ more) = extractPass (rest ++ more)
    obtain ⟨unmarked, known⟩ | ⟨startIdx, found, known⟩ := extractPass_cases buffer
    · -- the buffer was cleared
      obtain rfl : rest = [] := by
        have stopped : Verdict.stop rest = .stop [] := passed.symm.trans known
        cases stopped
        rfl
      exact extractPass_eq_of_findMarker_map (findMarker_append_none unmarked kept)
    · -- the buffer waits at its first marker
      obtain rfl := markedPass_stop (known.symm.trans passed)
      have marked := startsWithMarker_drop found
      have long : 2 ≤ (buffer.drop startIdx).length := by
        have := findMarker_le found
        rw [List.length_drop]
        omega
      rw [extractPass_append_of_found more found,
        extractPass_of_startsWithMarker ((startsWithMarker_append more long).mpr marked)]
  skip := by
    intro buffer rest more passed
    change extractPass (buffer ++ more) = _
    obtain ⟨_, known⟩ | ⟨startIdx, found, known⟩ := extractPass_cases buffer
    · cases known.symm.trans passed
    · have here := known.symm.trans passed
      rw [extractPass_append_of_found more found,
        markedPass_append more (by rw [here]; nofun), here]
      rfl
  emit := by
    intro buffer frame rest more passed
    change extractPass (buffer ++ more) = _
    obtain ⟨_, known⟩ | ⟨startIdx, found, known⟩ := extractPass_cases buffer
    · cases known.symm.trans passed
    · have here := known.symm.trans passed
      rw [extractPass_append_of_found more found,
        markedPass_append more (by rw [here]; nofun), here]
      rfl
  settled := by
    intro buffer rest passed
    obtain ⟨_, known⟩ | ⟨startIdx, found, known⟩ := extractPass_cases buffer
    · have stopped : Verdict.stop rest = .stop [] := passed.symm.trans known
      cases stopped
      rfl
    · obtain rfl := markedPass_stop (known.symm.trans passed)
      change extractPass _ = _
      rw [extractPass_of_startsWithMarker (startsWithMarker_drop found)]
      exact known.symm.trans passed

/-- A lost half marker is a byte the cleared buffer no longer holds. -/
theorem losesMarker_drops {buffer more rest : Bytes} (loses : LosesMarker buffer more)
    (passed : frameScanner.pass buffer = .stop rest) : rest.length < buffer.length := by
  obtain ⟨unmarked, half, _, atEnd, _⟩ := loses
  obtain ⟨_, known⟩ | ⟨_, found, _⟩ := extractPass_cases buffer
  · cases passed.symm.trans known
    cases buffer with
    | nil => cases atEnd
    | cons first buffer => simp
  · rw [unmarked] at found
    cases found

/-! ## Well-formed frames -/

/-- A frame as it may stand on the wire: it is the parse of its raw bytes, carries the markers
of its family and keeps the length limit of `extractFrames`.  Its CRC may be wrong. -/
structure Frame.WellFormed (frame : Frame) : Prop where
  parsed : parseFrame frame.raw = .ok frame
  marked : (frame.start = marker7e ∧ frame.endMarker = endE7) ∨
    (frame.start = marker7f ∧ frame.endMarker = endF7)
  short : frame.raw.length ≤ 4096

/-- A byte string of the length that its length field says is parsed. -/
theorem parseFrame_of_length {raw : Bytes} (total : raw.length = 13 + fromBig (slice raw 7 9)) :
    ∃ frame, parseFrame raw = .ok frame := by
  have bound : 6 < raw.length := by omega
  have six : item raw 6 = .ok raw[6] := item_eq_ok bound
  rw [parseFrame]
  rw [if_neg (by omega)]
  dsimp only
  rw [if_neg (by omega), six]
  exact ⟨_, rfl⟩

/-- What `parseFrame` reads off the raw bytes it accepts. -/
theorem parseFrame_ok {raw : Bytes} {frame : Frame} (parsed : parseFrame raw = .ok frame) :
    13 ≤ raw.length ∧ raw.length = 13 + fromBig (slice raw 7 9) ∧ frame.raw = raw ∧
      frame.start = raw.take 2 ∧ frame.device = slice raw 2 6 ∧ raw[6]? = some frame.func ∧
      frame.payload = slice raw 9 (9 + fromBig (slice raw 7 9)) ∧
      frame.endMarker = lastBytes raw 2 ∧
      frame.crc = slice raw (9 + fromBig (slice raw 7 9)) (11 + fromBig (slice raw 7 9)) ∧
      frame.validCrc =
        (frame.crc == crc16Le (slice raw 2 (9 + fromBig (slice raw 7 9)))) := by
  rw [parseFrame] at parsed
  split at parsed
  · cases parsed
  · rename_i long
    dsimp only at parsed
    split at parsed
    · cases parsed
    · rename_i exactLength
      have bound : 6 < raw.length := by omega
      have six : item raw 6 = .ok raw[6] := item_eq_ok bound
      rw [six] at parsed
      cases parsed
      refine ⟨by omega, by omega, rfl, rfl, rfl, ?_, rfl, rfl, rfl, rfl⟩
      exact List.getElem?_eq_getElem bound

theorem take_two_of_startsWithMarker {buffer : Bytes} (marked : StartsWithMarker buffer) :
    buffer.take 2 = marker7e ∨ buffer.take 2 = marker7f := by
  match buffer with
  | [] | [_] => exact absurd marked (not_startsWithMarker_short (by simp))
  | first :: second :: buffer =>
    obtain ⟨rfl, rfl | rfl⟩ := (startsWithMarker_cons_cons _ _ _).mp marked
    · exact .inl rfl
    · exact .inr rfl

theorem markedPass_emit_wellFormed {buffer rest : Bytes} {frame : Frame}
    (marked : StartsWithMarker buffer) (passed : markedPass buffer = .emit frame rest) :
    frame.WellFormed ∧ buffer = frame.raw ++ rest := by
  obtain ⟨_, known⟩ | ⟨_, known⟩ | ⟨⟨fits, enough⟩, known⟩ := markedPass_cases buffer
  · cases known.symm.trans passed
  · cases known.symm.trans passed
  obtain skipped | ⟨found, parsed, ending, emitted⟩ :=
    acceptRaw_cases (buffer.take _) _ (buffer.drop _)
  · cases (known.trans skipped).symm.trans passed
  cases (known.trans emitted).symm.trans passed
  obtain ⟨long, _, rawEq, start, _, _, _, endMarker, _⟩ := parseFrame_ok parsed
  rw [List.take_take, Nat.min_eq_left (by omega)] at start
  rw [← endMarker] at ending
  refine ⟨⟨?_, ?_, ?_⟩, ?_⟩
  · rw [rawEq]
    exact parsed
  · rcases take_two_of_startsWithMarker marked with isMarker | isMarker
    · rw [isMarker, if_pos rfl] at ending
      exact .inl ⟨start.trans isMarker, ending⟩
    · rw [isMarker, if_neg (by decide)] at ending
      exact .inr ⟨start.trans isMarker, ending⟩
  · rw [rawEq, List.length_take]
    omega
  · rw [rawEq, List.take_append_drop]

/-- Every frame the loop emits is well formed and was read from its own raw bytes. -/
theorem extractPass_emit {buffer rest : Bytes} {frame : Frame}
    (passed : extractPass buffer = .emit frame rest) :
    frame.WellFormed ∧ ∃ gap, buffer = gap ++ frame.raw ++ rest := by
  obtain ⟨_, known⟩ | ⟨startIdx, found, known⟩ := extractPass_cases buffer
  · cases known.symm.trans passed
  · obtain ⟨wellFormed, split⟩ :=
      markedPass_emit_wellFormed (startsWithMarker_drop found) (known.symm.trans passed)
    refine ⟨wellFormed, buffer.take startIdx, ?_⟩
    rw [List.append_assoc, ← split, List.take_append_drop]

theorem markedPass_skip_suffix {buffer rest : Bytes} (passed : markedPass buffer = .skip rest) :
    ∃ gap, buffer = gap ++ rest := by
  obtain ⟨_, known⟩ | ⟨_, known⟩ | ⟨_, known⟩ := markedPass_cases buffer
  · cases known.symm.trans passed
  · cases known.symm.trans passed
    exact ⟨buffer.take 2, (List.take_append_drop _ _).symm⟩
  · obtain skipped | ⟨_, _, _, emitted⟩ := acceptRaw_cases (buffer.take _) _ (buffer.drop _)
    · cases (known.trans skipped).symm.trans passed
      exact ⟨_, (List.take_append_drop _ _).symm⟩
    · cases (known.trans emitted).symm.trans passed

theorem frameScanner_reads : frameScanner.Reads Frame.raw where
  stop := by
    intro buffer rest passed
    obtain ⟨_, known⟩ | ⟨startIdx, _, known⟩ := extractPass_cases buffer
    · cases known.symm.trans passed
      exact ⟨buffer, (List.append_nil _).symm⟩
    · obtain rfl := markedPass_stop (known.symm.trans passed)
      exact ⟨buffer.take startIdx, (List.take_append_drop _ _).symm⟩
  skip := by
    intro buffer rest passed
    obtain ⟨_, known⟩ | ⟨startIdx, _, known⟩ := extractPass_cases buffer
    · cases known.symm.trans passed
    · obtain ⟨gap, split⟩ := markedPass_skip_suffix (known.symm.trans passed)
      exact ⟨buffer.take startIdx ++ gap, by
        rw [List.append_assoc, ← split, List.take_append_drop]⟩
  emit := fun passed => (extractPass_emit passed).2

/-- A well-formed frame is recognised at the head of any buffer. -/
theorem Frame.WellFormed.recognised {frame : Frame} (wellFormed : frame.WellFormed) :
    frameScanner.Recognises Frame.raw frame := by
  intro more
  obtain ⟨long, total, _, start, _, _, _, endMarker, _⟩ := parseFrame_ok wellFormed.parsed
  have fits := wellFormed.short
  have takeTwo : (frame.raw ++ more).take 2 = frame.start := by
    rw [List.take_append_of_le_length (by omega), start]
  have marked : StartsWithMarker (frame.raw ++ more) := by
    rw [startsWithMarker_append more (by omega)]
    rcases wellFormed.marked with ⟨isMarker, _⟩ | ⟨isMarker, _⟩ <;>
      rw [isMarker] at start
    · exact .inl (start ▸ List.take_prefix _ _)
    · exact .inr (start ▸ List.take_prefix _ _)
  change extractPass _ = _
  rw [extractPass_of_startsWithMarker marked]
  have length : 13 + fromBig (slice (frame.raw ++ more) 7 9) = frame.raw.length := by
    rw [slice_append more (by omega), ← total]
  have ending : lastBytes frame.raw 2 = if frame.start = marker7e then endE7 else endF7 := by
    rcases wellFormed.marked with ⟨isStart, isEnd⟩ | ⟨isStart, isEnd⟩ <;>
      rw [isStart, ← endMarker, isEnd] <;> rfl
  obtain ⟨guard, _⟩ | ⟨guard, _⟩ | ⟨_, known⟩ := markedPass_cases (frame.raw ++ more)
  · rw [length, List.length_append] at guard
    omega
  · rw [length] at guard
    omega
  · rw [known, length, takeTwo, List.take_left, List.drop_left, acceptRaw,
      if_neg (not_not.mpr ending), wellFormed.parsed]

/-- The bytes that are held back are always fewer than the longest frame has. -/
theorem extractFrames_rest_short (buffer : Bytes) : (extractFrames buffer).2.length < 4096 := by
  have passed : extractPass (frameScanner.last buffer) = .stop (extractFrames buffer).2 :=
    frameScanner.pass_last buffer
  obtain ⟨_, cleared⟩ | ⟨startIdx, _, marked⟩ := extractPass_cases (frameScanner.last buffer)
  · rw [passed] at cleared
    obtain nothing := Verdict.stop.inj cleared
    rw [nothing]
    exact Nat.zero_lt_succ _
  · exact markedPass_stop_short (marked.symm.trans passed)

theorem extractFrames_wellFormed {buffer : Bytes} {frame : Frame}
    (found : frame ∈ (extractFrames buffer).1) : frame.WellFormed := by
  rw [extractFrames] at found
  induction buffer using frameScanner.passes_induction with
  | stop buffer rest passed =>
    rw [Scanner.scan_stop passed] at found
    cases found
  | skip buffer rest passed inductionHypothesis =>
    rw [Scanner.scan_skip passed] at found
    exact inductionHypothesis found
  | emit buffer emitted rest passed inductionHypothesis =>
    rw [Scanner.scan_emit passed] at found
    rcases List.mem_cons.mp found with rfl | later
    · exact (extractPass_emit passed).1
    · exact inductionHypothesis later

end FoxessGateway.Protocol
