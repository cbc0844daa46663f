import FoxessGateway.Protocol.Extraction

/-! # What extraction finds and what it leaves

The frames found stand in the buffer one after the other, and the rest waits for more bytes: no
frame is in it, and it begins with a start marker. -/

namespace FoxessGateway.Protocol

open ByteOrder Streaming

/-! ## The loop -/

/-- `extract_frames` for so many rounds of its `while True` loop at most. -/
def extractLoop (rounds : Nat) (buffer : Bytes) : Option (List Frame × Bytes) :=
  loop extractPass rounds buffer

theorem extractLoop_eq {rounds : Nat} {buffer : Bytes} (enough : buffer.length < rounds) :
    extractLoop rounds buffer = some (extractFrames buffer) :=
  frameScanner.loop_eq_scan enough

/-! ## Candidates -/

/-- The bytes that a round hands to `parse_frame`, where it comes to that. -/
def candidate (buffer : Bytes) : Option Bytes :=
  (findMarker buffer).bind fun startIdx =>
    let marked := buffer.drop startIdx
    let totalLen := 13 + fromBig (slice marked 7 9)
    let endMarker := if marked.take 2 = marker7e then endE7 else endF7
    if totalLen ≤ 4096 ∧ totalLen ≤ marked.length ∧
        lastBytes (marked.take totalLen) 2 = endMarker then
      some (marked.take totalLen)
    else none

/-- A candidate has the length that its length field says, so that it is parsed. -/
theorem parseFrame_candidate {buffer raw : Bytes} (isCandidate : candidate buffer = some raw) :
    ∃ frame, parseFrame raw = .ok frame := by
  obtain ⟨startIdx, _, handed⟩ := Option.bind_eq_some_iff.mp isCandidate
  obtain ⟨⟨_, complete, _⟩, handed⟩ := Option.ite_none_right_eq_some.mp handed
  cases handed
  generalize buffer.drop startIdx = marked at complete ⊢
  apply parseFrame_of_length
  -- the length field is inside what is cut out
  have field : slice (marked.take (13 + fromBig (slice marked 7 9))) 7 9 = slice marked 7 9 := by
    rw [slice, List.take_take, Nat.min_eq_left (by omega), ← slice]
  rw [field, List.length_take, Nat.min_eq_left complete]

/-- A round with a candidate emits the frame that it is. -/
theorem extractPass_candidate {buffer raw : Bytes} {frame : Frame}
    (isCandidate : candidate buffer = some raw) (parsed : parseFrame raw = .ok frame) :
    ∃ rest, extractPass buffer = .emit frame rest := by
  obtain ⟨startIdx, found, handed⟩ := Option.bind_eq_some_iff.mp isCandidate
  obtain ⟨⟨fits, complete, ending⟩, handed⟩ := Option.ite_none_right_eq_some.mp handed
  cases handed
  rw [extractPass, found]
  obtain ⟨guard, _⟩ | ⟨guard, _⟩ | ⟨_, accepted⟩ := markedPass_cases (buffer.drop startIdx)
  · omega
  · omega
  · dsimp only
    rw [accepted, acceptRaw, if_neg (not_not.mpr ending), parsed]
    exact ⟨_, rfl⟩

/-! ## The rest -/

/-- What is left is empty or begins with a start marker. -/
theorem extractFrames_rest_marked (buffer : Bytes) :
    (extractFrames buffer).2 = [] ∨ StartsWithMarker (extractFrames buffer).2 := by
  have passed : extractPass (frameScanner.last buffer) = .stop (extractFrames buffer).2 :=
    frameScanner.pass_last buffer
  obtain ⟨_, cleared⟩ | ⟨startIdx, found, marked⟩ := extractPass_cases (frameScanner.last buffer)
  · exact .inl (Verdict.stop.inj (passed.symm.trans cleared))
  · right
    rw [markedPass_stop (marked.symm.trans passed)]
    exact startsWithMarker_drop found

/-- There is no frame in what is left. -/
theorem extractFrames_rest_settled (buffer : Bytes) :
    extractFrames (extractFrames buffer).2 = ([], (extractFrames buffer).2) :=
  Scanner.scan_stop (frameScanner_resumable.settled (frameScanner.pass_last buffer))

/-! ## Normal form -/

/-- The frames and the rest that extraction may give for a buffer. -/
structure NormalForm (buffer : Bytes) (frames : List Frame) (rest : Bytes) : Prop where
  /-- Each frame with the bytes dropped before it, and the bytes dropped after the last one. -/
  segments : ∃ laid : List (Bytes × Frame) × Bytes, laid.1.map Prod.snd = frames ∧
    buffer = (laid.1.map fun piece => piece.1 ++ piece.2.raw).flatten ++ laid.2 ++ rest
  sized : ∀ frame ∈ frames, 13 ≤ frame.raw.length ∧ frame.raw.length ≤ 4096
  marked : ∀ frame ∈ frames,
    (frame.raw.take 2 = marker7e ∧ lastBytes frame.raw 2 = endE7) ∨
      (frame.raw.take 2 = marker7f ∧ lastBytes frame.raw 2 = endF7)
  waits : rest = [] ∨ StartsWithMarker rest
  short : rest.length < 4096
  settled : extractFrames rest = ([], rest)

/-- **Extraction is sound and leaves a normal form.**  The loop ends, what a round hands to
`parse_frame` is parsed, and the result is in normal form. -/
theorem extractFrames_normalForm (buffer : Bytes) :
    (∀ rounds, buffer.length < rounds →
      extractLoop rounds buffer = some (extractFrames buffer)) ∧
    (∀ seen raw, candidate seen = some raw →
      ∃ frame rest, parseFrame raw = .ok frame ∧ extractPass seen = .emit frame rest) ∧
    NormalForm buffer (extractFrames buffer).1 (extractFrames buffer).2 := by
  refine ⟨fun rounds => extractLoop_eq, ?_, ?_⟩
  · intro seen raw isCandidate
    obtain ⟨frame, parsed⟩ := parseFrame_candidate isCandidate
    obtain ⟨rest, emitted⟩ := extractPass_candidate isCandidate parsed
    exact ⟨frame, rest, parsed, emitted⟩
  constructor
  case segments =>
    refine ⟨frameScanner.layout Frame.raw buffer, frameScanner.layout_items _ _, ?_⟩
    exact (frameScanner_reads.layout_spelled buffer).symm
  case sized =>
    intro frame found
    have wellFormed := extractFrames_wellFormed found
    exact ⟨(parseFrame_ok wellFormed.parsed).1, wellFormed.short⟩
  case marked =>
    intro frame found
    have wellFormed := extractFrames_wellFormed found
    obtain ⟨_, _, _, start, _, _, _, endMarker, _⟩ := parseFrame_ok wellFormed.parsed
    rw [← start, ← endMarker]
    exact wellFormed.marked
  case waits =>
    exact extractFrames_rest_marked buffer
  case short =>
    exact extractFrames_rest_short buffer
  case settled =>
    exact extractFrames_rest_settled buffer

end FoxessGateway.Protocol
