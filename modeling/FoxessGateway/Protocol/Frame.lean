import FoxessGateway.Python
import FoxessGateway.Library.Streaming
import FoxessGateway.Library.Splicing

/-! # Frames of the TCP/14431 protocol

`makeFrame`, `parseFrame` and `extractFrames` of `protocol.py`.  The loop of `extractFrames`
is a `Streaming.Scanner`: `extractPass` is its body. -/

namespace FoxessGateway.Protocol

open ByteOrder Streaming Splicing

/-! ## The CRC -/

def crcBit (crc : Nat) : Nat :=
  if crc &&& 1 = 1 then (crc >>> 1) ^^^ 0xA001 else crc >>> 1

def crcByte (crc : Nat) (byte : UInt8) : Nat := crcBit^[8] (crc ^^^ byte.toNat)

def crc16 (data : Bytes) : Nat := data.foldl crcByte 0xFFFF

/-- `crc.to_bytes(2, "little")`; `crc16_lt` is why it cannot overflow. -/
def crc16Le (data : Bytes) : Bytes := (toBig 2 (crc16 data)).reverse

theorem crcBit_lt {crc : Nat} (small : crc < 2 ^ 16) : crcBit crc < 2 ^ 16 := by
  have half : crc >>> 1 < 2 ^ 16 := by rw [Nat.shiftRight_eq_div_pow]; omega
  rw [crcBit]
  split
  · exact Nat.xor_lt_two_pow half (by decide)
  · exact half

theorem crcByte_lt {crc : Nat} (small : crc < 2 ^ 16) (byte : UInt8) :
    crcByte crc byte < 2 ^ 16 := by
  have byteSmall : byte.toNat < 2 ^ 16 := by have := byte.toNat_lt; omega
  exact Function.Iterate.rec (· < 2 ^ 16) (Nat.xor_lt_two_pow small byteSmall)
    (fun _ => crcBit_lt) 8

theorem crc16_lt (data : Bytes) : crc16 data < 2 ^ 16 := by
  rw [crc16]
  induction data using List.reverseRecOn with
  | nil => decide
  | append_singleton data byte inductionHypothesis =>
    rw [List.foldl_append]
    exact crcByte_lt inductionHypothesis byte

@[simp] theorem crc16Le_length (data : Bytes) : (crc16Le data).length = 2 := by simp [crc16Le]

/-! ## Frames -/

inductive Family where
  | family7e
  | family7f
  | unknown
  deriving DecidableEq, Repr

def marker7e : Bytes := [0x7e, 0x7e]
def marker7f : Bytes := [0x7f, 0x7f]
def endE7 : Bytes := [0xe7, 0xe7]
def endF7 : Bytes := [0xf7, 0xf7]

structure Frame where
  start : Bytes
  device : Bytes
  func : UInt8
  payload : Bytes
  crc : Bytes
  endMarker : Bytes
  raw : Bytes
  validCrc : Bool
  deriving DecidableEq, Repr

def Frame.payloadLen (frame : Frame) : Nat := frame.payload.length

def Frame.family (frame : Frame) : Family :=
  if frame.start = marker7e then .family7e
  else if frame.start = marker7f then .family7f
  else .unknown

def makeFrame (start device : Bytes) (func : UInt8) (payload endMarker : Bytes) :
    Except PyError Bytes := do
  let length ← toBytes payload.length 2
  let body := device ++ [func] ++ length ++ payload
  return start ++ body ++ crc16Le body ++ endMarker

def parseFrame (raw : Bytes) : Except PyError Frame :=
  if raw.length < 13 then .error (.valueError "frame too short")
  else
    let start := raw.take 2
    let endMarker := lastBytes raw 2
    let payloadLen := fromBig (slice raw 7 9)
    let expectedLen := 2 + 4 + 1 + 2 + payloadLen + 2 + 2
    if raw.length ≠ expectedLen then
      .error (.valueError s!"wrong frame length: got {raw.length}, expected {expectedLen}")
    else do
      let body := slice raw 2 (9 + payloadLen)
      let crc := slice raw (9 + payloadLen) (11 + payloadLen)
      return {
        start := start
        device := slice raw 2 6
        func := ← item raw 6
        payload := slice raw 9 (9 + payloadLen)
        crc := crc
        endMarker := endMarker
        raw := raw
        validCrc := crc == crc16Le body }

/-! ## Extraction -/

/-- The first offset in the buffer at which one of the two start markers stands. -/
def findMarker (buffer : Bytes) : Option Nat :=
  ([marker7e, marker7f].filterMap (find · buffer)).min?

/-- The end of a pass: `raw` is cut off the buffer, and is a frame or is dropped. -/
def acceptRaw (raw endMarker rest : Bytes) : Verdict UInt8 Frame :=
  if lastBytes raw 2 ≠ endMarker then .skip rest
  else
    match parseFrame raw with
    | .ok frame => .emit frame rest
    | .error _ => .skip rest

/-- The pass of `extract_frames` once the buffer begins with a start marker. -/
def markedPass (buffer : Bytes) : Verdict UInt8 Frame :=
  if buffer.length < 13 then .stop buffer
  else
    let start := buffer.take 2
    let endMarker := if start = marker7e then endE7 else endF7
    let payloadLen := fromBig (slice buffer 7 9)
    let totalLen := 2 + 4 + 1 + 2 + payloadLen + 2 + 2
    -- only the marker is deleted: the next pass looks for one in what was taken for a header
    if totalLen < 13 ∨ totalLen > 4096 then .skip (buffer.drop 2)
    else if buffer.length < totalLen then .stop buffer
    else acceptRaw (buffer.take totalLen) endMarker (buffer.drop totalLen)

/-- One round of the `while True` loop of `extract_frames`. -/
def extractPass (buffer : Bytes) : Verdict UInt8 Frame :=
  match findMarker buffer with
  -- `buffer.clear()`, also when the last byte is the first half of a marker
  | none => .stop []
  | some startIdx => markedPass (buffer.drop startIdx)

theorem acceptRaw_cases (raw endMarker rest : Bytes) :
    acceptRaw raw endMarker rest = .skip rest ∨
      ∃ frame, parseFrame raw = .ok frame ∧ lastBytes raw 2 = endMarker ∧
        acceptRaw raw endMarker rest = .emit frame rest := by
  rw [acceptRaw]
  by_cases ending : lastBytes raw 2 = endMarker
  · rw [if_neg (not_not.mpr ending)]
    cases parseFrame raw with
    | ok frame => exact .inr ⟨frame, rfl, ending, rfl⟩
    | error _ => exact .inl rfl
  · exact .inl (if_pos ending)

/-- What the pass at a marker does, with the guard each exit stands behind. -/
theorem markedPass_cases (buffer : Bytes) :
    let totalLen := 13 + fromBig (slice buffer 7 9)
    let endMarker := if buffer.take 2 = marker7e then endE7 else endF7
    (buffer.length < 13 ∨ (totalLen ≤ 4096 ∧ buffer.length < totalLen)) ∧
        markedPass buffer = .stop buffer ∨
      (13 ≤ buffer.length ∧ 4096 < totalLen) ∧ markedPass buffer = .skip (buffer.drop 2) ∨
      (totalLen ≤ 4096 ∧ totalLen ≤ buffer.length) ∧
        markedPass buffer =
          acceptRaw (buffer.take totalLen) endMarker (buffer.drop totalLen) := by
  intro totalLen endMarker
  have total : 2 + 4 + 1 + 2 + fromBig (slice buffer 7 9) + 2 + 2 = totalLen := by
    simp only [totalLen]; omega
  have least : 13 ≤ totalLen := by simp only [totalLen]; omega
  rw [markedPass]
  simp only [total]
  by_cases short : buffer.length < 13
  · exact .inl ⟨.inl short, if_pos short⟩
  rw [if_neg short]
  by_cases long : 4096 < totalLen
  · exact .inr (.inl ⟨⟨by omega, long⟩, if_pos (.inr long)⟩)
  rw [if_neg (by omega)]
  by_cases incomplete : buffer.length < totalLen
  · exact .inl ⟨.inr ⟨by omega, incomplete⟩, if_pos incomplete⟩
  rw [if_neg incomplete]
  exact .inr (.inr ⟨⟨by omega, by omega⟩, rfl⟩)

theorem markedPass_shrinks (buffer : Bytes) :
    (∃ rest, markedPass buffer = .stop rest) ∨
      (markedPass buffer).rest.length < buffer.length := by
  obtain ⟨_, passed⟩ | ⟨⟨long, _⟩, passed⟩ | ⟨⟨_, enough⟩, passed⟩ := markedPass_cases buffer
  · exact .inl ⟨_, passed⟩
  · right
    rw [passed, Verdict.rest, List.length_drop]
    omega
  · right
    obtain skipped | ⟨_, _, _, emitted⟩ := acceptRaw_cases _ _ (buffer.drop _)
    · rw [passed, skipped, Verdict.rest, List.length_drop]
      omega
    · rw [passed, emitted, Verdict.rest, List.length_drop]
      omega

theorem extractPass_shrinks (buffer : Bytes) :
    (∃ rest, extractPass buffer = .stop rest) ∨
      (extractPass buffer).rest.length < buffer.length := by
  rw [extractPass]
  split
  · exact .inl ⟨_, rfl⟩
  · rename_i startIdx _
    refine (markedPass_shrinks (buffer.drop startIdx)).imp_right fun shorter => ?_
    rw [List.length_drop] at shorter
    omega

/-- The loop of `extract_frames` as a scanner. -/
def frameScanner : Scanner UInt8 Frame where
  pass := extractPass
  skip_shrinks := by
    intro buffer rest passed
    have shorter := extractPass_shrinks buffer
    rw [passed] at shorter
    exact shorter.resolve_left nofun
  emit_shrinks := by
    intro buffer frame rest passed
    have shorter := extractPass_shrinks buffer
    rw [passed] at shorter
    exact shorter.resolve_left nofun

/-- The frames found in the buffer, and what stays in it. -/
def extractFrames (buffer : Bytes) : List Frame × Bytes := frameScanner.scan buffer

end FoxessGateway.Protocol
