import FoxessGateway.Library.ShiftRegister
import FoxessGateway.Protocol.RoundTrip

/-! # Errors that the CRC detects

The CRC of a frame is what a shift register holds after the fields before it.  Fed with the CRC as
well, the register is empty; after an error in two neighbouring bytes it is not. -/

namespace FoxessGateway.Protocol

open ByteOrder ShiftRegister

/-! ## The CRC as a shift register -/

def crcRegister : Register where
  width := 16
  polynomial := 0xA001
  fits := by decide
  reversible := by decide

theorem crc16_eq_feed (data : Bytes) :
    crc16 data = (data.map UInt8.toNat).foldl (crcRegister.feed 8) 0xFFFF := by
  rw [List.foldl_map]
  rfl

theorem toNat_narrow (data : Bytes) : ∀ symbol ∈ data.map UInt8.toNat, symbol < 2 ^ 8 := by
  intro symbol member
  obtain ⟨byte, _, rfl⟩ := List.mem_map.mp member
  exact byte.toNat_lt

/-- The register is empty after data and a CRC exactly where the CRC is that of the data. -/
theorem crc16_eq_zero_iff (body : Bytes) {crc : Bytes} (width : crc.length = 2) :
    crc16 (body ++ crc) = 0 ↔ crc = crc16Le body := by
  have small := crc16_lt body
  have residue := crcRegister.feed_eq_zero_iff (by decide) (toNat_narrow crc)
    (by rw [List.length_map, width]; decide) small
  have split : crc16 (body ++ crc) =
      (crc.map UInt8.toNat).foldl (crcRegister.feed 8) (crc16 body) := by
    rw [crc16_eq_feed, crc16_eq_feed, List.map_append, List.foldl_append]
  rw [split, residue]
  obtain ⟨low, high, rfl⟩ := List.length_eq_two.mp width
  have lowSmall := low.toNat_lt
  have highSmall := high.toNat_lt
  -- the register takes the low byte first, as the frame has it
  have number : Nat.ofDigits (2 ^ 8) ([low, high].map UInt8.toNat) = fromBig [high, low] := by
    simp [Nat.ofDigits_cons, fromBig]
    omega
  rw [number, crc16Le]
  constructor
  · intro same
    rw [← same, show 2 = [high, low].length from rfl, toBig_fromBig]
    rfl
  · intro same
    rw [show [high, low] = [low, high].reverse from rfl, same, List.reverse_reverse,
      fromBig_toBig small]

/-- Byte strings that differ in nothing but two neighbouring bytes have different CRCs. -/
theorem crc16_burst_ne {front burst altered back : Bytes}
    (sameLength : altered.length = burst.length) (short : burst.length ≤ 2)
    (differs : altered ≠ burst) :
    crc16 (front ++ altered ++ back) ≠ crc16 (front ++ burst ++ back) := by
  simp only [crc16_eq_feed, List.map_append]
  apply crcRegister.burst_ne (by decide) (by decide)
  · rw [← List.map_append, ← List.map_append]
    exact toNat_narrow _
  · exact toNat_narrow altered
  · rw [List.length_map, List.length_map, sameLength]
  · rw [List.length_map]
    change 8 * burst.length ≤ 16
    omega
  · exact fun same => differs (List.map_injective_iff.mpr (fun _ _ => UInt8.toNat_inj.mp) same)
  · decide

/-! ## What the CRC covers -/

/-- The bytes between the start and the end of a frame: its body and the CRC. -/
def codeword (raw : Bytes) : Bytes := slice raw 2 (raw.length - 2)

theorem codeword_getElem? {raw : Bytes} {index : Nat} (inside : index + 4 < raw.length) :
    (codeword raw)[index]? = raw[index + 2]? := by
  rw [codeword, slice, List.getElem?_drop, List.getElem?_take, if_pos (by omega), Nat.add_comm]

theorem codeword_length (raw : Bytes) : (codeword raw).length = raw.length - 4 := by
  rw [codeword, slice, List.length_drop, List.length_take]
  omega

/-- A frame is its start, its codeword and its end. -/
theorem eq_append_codeword {raw : Bytes} (long : 4 ≤ raw.length) :
    raw = raw.take 2 ++ codeword raw ++ lastBytes raw 2 := by
  have start : raw.take 2 = (raw.take (raw.length - 2)).take 2 := by
    rw [List.take_take, Nat.min_eq_left (by omega)]
  rw [codeword, slice, lastBytes, start, List.take_append_drop, List.take_append_drop]

/-- A parsed frame has a right CRC exactly where its codeword empties the register. -/
theorem validCrc_iff {raw : Bytes} {frame : Frame} (parsed : parseFrame raw = .ok frame) :
    frame.validCrc = true ↔ crc16 (codeword raw) = 0 := by
  obtain ⟨_, total, _, _, _, _, _, _, crc, valid⟩ := parseFrame_ok parsed
  have split : codeword raw = slice raw 2 (9 + fromBig (slice raw 7 9)) ++ frame.crc := by
    rw [crc, slice_append_slice _ (by omega) (by omega), codeword, total]
    congr 1
    omega
  have width : frame.crc.length = 2 := by
    rw [crc, slice_length _ (by omega)]
    omega
  rw [valid, beq_iff_eq, split, crc16_eq_zero_iff _ width]

/-! ## Two neighbouring bytes -/

/-- A list that agrees with another but for two neighbouring places. -/
theorem eq_of_agrees_outside {data altered : Bytes} {position : Nat}
    (agrees : ∀ index, index ≠ position → index ≠ position + 1 → altered[index]? = data[index]?) :
    altered = data.take position ++ (altered.drop position).take 2 ++ data.drop (position + 2) := by
  have before : altered.take position = data.take position := by
    apply List.ext_getElem?
    intro index
    rw [List.getElem?_take, List.getElem?_take]
    split
    · exact agrees index (by omega) (by omega)
    · rfl
  have after : altered.drop (position + 2) = data.drop (position + 2) := by
    apply List.ext_getElem?
    intro index
    rw [List.getElem?_drop, List.getElem?_drop]
    exact agrees _ (by omega) (by omega)
  rw [← before, ← after, List.append_assoc, ← List.drop_drop, List.take_append_drop,
    List.take_append_drop]

/-- An alteration of a frame that is confined to two neighbouring bytes and leaves its start, length
and end as they are. -/
structure Alters (raw altered : Bytes) (position : Nat) : Prop where
  sameLength : altered.length = raw.length
  confined : ∀ index, index ≠ position → index ≠ position + 1 → altered[index]? = raw[index]?
  start : altered.take 2 = raw.take 2
  lengthField : slice altered 7 9 = slice raw 7 9
  ending : lastBytes altered 2 = lastBytes raw 2
  changed : altered ≠ raw

/-- It changes the codeword, in two neighbouring bytes at most. -/
theorem Alters.codeword_burst {raw altered : Bytes} {position : Nat}
    (alters : Alters raw altered position) (long : 4 ≤ raw.length) :
    ∃ front burst other back, codeword raw = front ++ burst ++ back ∧
      codeword altered = front ++ other ++ back ∧ other.length = burst.length ∧
      burst.length ≤ 2 ∧ other ≠ burst := by
  have sameLength : (codeword altered).length = (codeword raw).length := by
    rw [codeword_length, codeword_length, alters.sameLength]
  have agrees : ∀ index, index ≠ position - 2 → index ≠ position - 2 + 1 →
      (codeword altered)[index]? = (codeword raw)[index]? := by
    intro index notFirst notSecond
    by_cases inside : index + 4 < raw.length
    · rw [codeword_getElem? inside, codeword_getElem? (alters.sameLength ▸ inside)]
      exact alters.confined _ (by omega) (by omega)
    · have outside : (codeword raw).length ≤ index := by
        rw [codeword_length]
        omega
      rw [List.getElem?_eq_none outside, List.getElem?_eq_none (sameLength ▸ outside)]
  -- the codeword begins after the start marker, two bytes further on
  have isRaw : codeword raw = (codeword raw).take (position - 2) ++
      ((codeword raw).drop (position - 2)).take 2 ++ (codeword raw).drop (position - 2 + 2) :=
    eq_of_agrees_outside fun _ _ _ => rfl
  have isAltered := eq_of_agrees_outside agrees
  refine ⟨_, _, _, _, isRaw, isAltered, ?_, ?_, ?_⟩
  · rw [List.length_take, List.length_take, List.length_drop, List.length_drop, sameLength]
  · exact List.length_take_le 2 _
  · intro same
    apply alters.changed
    calc altered = altered.take 2 ++ codeword altered ++ lastBytes altered 2 :=
          eq_append_codeword (alters.sameLength ▸ long)
      _ = raw.take 2 ++ codeword raw ++ lastBytes raw 2 := by
          rw [alters.start, alters.ending, isAltered, same, ← isRaw]
      _ = raw := (eq_append_codeword long).symm

/-- **Errors that the CRC detects.**  A frame that `makeFrame` made is parsed after an alteration of
two neighbouring bytes of its device, function, payload and CRC, but never with a right CRC. -/
theorem twoByteError_detected {start device payload endMarker : Bytes} (func : UInt8)
    (startWidth : start.length = 2) (deviceWidth : device.length = 4)
    (endWidth : endMarker.length = 2) (fits : payload.length ≤ 65535) :
    ∃ raw, makeFrame start device func payload endMarker = .ok raw ∧
      ∀ altered position, Alters raw altered position →
        ∃ frame, parseFrame altered = .ok frame ∧ frame.validCrc = false := by
  have made := makeFrame_eq start device func endMarker (show payload.length < 256 ^ 2 by omega)
  have parsed : parseFrame (builtFrame start device func payload endMarker).raw = .ok _ :=
    parseFrame_builtFrame startWidth deviceWidth endWidth (by omega)
  generalize builtIs : builtFrame start device func payload endMarker = built at made parsed
  have valid : built.validCrc = true := builtIs ▸ rfl
  refine ⟨built.raw, made, fun altered position alters => ?_⟩
  obtain ⟨long, total, _⟩ := parseFrame_ok parsed
  -- the length field is as it was, so the altered bytes are parsed too
  have alteredTotal : altered.length = 13 + fromBig (slice altered 7 9) := by
    rw [alters.sameLength, alters.lengthField, total]
  obtain ⟨frame, alteredParsed⟩ := parseFrame_of_length alteredTotal
  refine ⟨frame, alteredParsed, Bool.eq_false_iff.mpr fun alteredValid => ?_⟩
  obtain ⟨front, burst, other, back, isRaw, isAltered, sameLength, short, differs⟩ :=
    alters.codeword_burst (by omega)
  apply crc16_burst_ne sameLength short differs
  rw [← isRaw, ← isAltered, (validCrc_iff parsed).mp valid, (validCrc_iff alteredParsed).mp
    alteredValid]

/-- The last payload byte and the first byte of the CRC are altered together. -/
theorem twoByteError_detected_straddling : ∃ raw,
    makeFrame marker7e [0x00, 0x00, 0x00, 0x01] 0x02 [0x05] endE7 = .ok raw ∧
      ∃ frame, parseFrame (raw.take 9 ++ [0x06, 0x00] ++ raw.drop 11) = .ok frame ∧
        frame.validCrc = false := by
  have detects : ∃ raw, makeFrame marker7e [0x00, 0x00, 0x00, 0x01] 0x02 [0x05] endE7 = .ok raw ∧
      ∀ altered position, Alters raw altered position →
        ∃ frame, parseFrame altered = .ok frame ∧ frame.validCrc = false :=
    twoByteError_detected 0x02 rfl rfl rfl (by decide)
  obtain ⟨raw, made, detected⟩ := detects
  refine ⟨raw, made, detected _ 9 ?_⟩
  obtain rfl := Except.ok.inj ((makeFrame_eq _ _ _ _ (by decide)).symm.trans made)
  have elsewhere : ∀ index < 14, index ≠ 9 → index ≠ 10 →
      ((builtFrame marker7e [0x00, 0x00, 0x00, 0x01] 0x02 [0x05] endE7).raw.take 9 ++
        [0x06, 0x00] ++
        (builtFrame marker7e [0x00, 0x00, 0x00, 0x01] 0x02 [0x05] endE7).raw.drop 11)[index]? =
      (builtFrame marker7e [0x00, 0x00, 0x00, 0x01] 0x02 [0x05] endE7).raw[index]? := by
    decide +kernel
  exact
    { sameLength := by decide
      confined := fun index notFirst notSecond => by
        by_cases inside : index < 14
        · exact elsewhere index inside notFirst notSecond
        · rw [List.getElem?_eq_none (Nat.not_lt.mp inside),
            List.getElem?_eq_none (Nat.not_lt.mp inside)]
      start := by decide
      lengthField := by decide
      ending := by decide
      changed := by decide }

end FoxessGateway.Protocol
