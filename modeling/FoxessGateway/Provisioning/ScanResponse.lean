import FoxessGateway.Library.Utf8
import FoxessGateway.Protocol.RoundTrip

/-! # Wi-Fi scan lists

`parse_scan_response` of `ble_provision.py`.  Whatever stretch of a list has arrived, the networks
whose records are complete are read, and no others. -/

namespace FoxessGateway.Provisioning

open Protocol

def fnScan : UInt8 := 0xA1

structure ScannedNetwork where
  ssid : Text
  rssi : Int
  deriving DecidableEq, Repr

/-- Two lower-case digits for each byte. -/
def hex (data : Bytes) : String :=
  String.ofList (data.flatMap fun byte =>
    [Nat.digitChar (byte.toNat / 16), Nat.digitChar (byte.toNat % 16)])

/-- The loop over the records, from the offset on. -/
def readNetworks (body : Bytes) : Nat → Nat → Except PyError (List ScannedNetwork)
  | 0, _ => .ok []
  | count + 1, off =>
    if off + 2 > body.length then .ok []
    else do
      let recLen ← item body off
      if recLen.toNat < 1 ∨ off + 1 + recLen.toNat > body.length then .ok []
      else
        let rssiByte ← item body (off + 1)
        let ssidBytes := slice body (off + 2) (off + 1 + recLen.toNat)
        let rssi : Int := if rssiByte.toNat > 127 then rssiByte.toNat - 256 else rssiByte.toNat
        let later ← readNetworks body count (off + 1 + recLen.toNat)
        return ⟨Utf8.decode ssidBytes, rssi⟩ :: later

def parseScanResponse (frame : Frame) : Except PyError (List ScannedNetwork) :=
  if frame.start ≠ marker7f ∨ frame.func ≠ fnScan then
    .error (.valueError
      s!"not a scan response: start={hex frame.start} func=0x{hex [frame.func]}")
  else if frame.payload.length < 2 then .ok []
  else do
    let count ← item frame.payload 1
    readNetworks frame.payload count.toNat 2

/-! ## Any payload -/

/-- The loop reads no more networks than it was told, and nothing outside the payload. -/
theorem readNetworks_total (body : Bytes) (count off : Nat) :
    ∃ networks, readNetworks body count off = .ok networks ∧ networks.length ≤ count := by
  induction count generalizing off with
  | zero => exact ⟨[], rfl, Nat.le_refl 0⟩
  | succ count inductionHypothesis =>
    rw [readNetworks]
    split
    · exact ⟨[], rfl, Nat.zero_le _⟩
    rename_i room
    rw [item_eq_ok (show off < body.length by omega)]
    simp only [ok_bind]
    split
    · exact ⟨[], rfl, Nat.zero_le _⟩
    obtain ⟨later, read, few⟩ := inductionHypothesis (off + 1 + (body[off]).toNat)
    rw [item_eq_ok (show off + 1 < body.length by omega), read]
    exact ⟨_, rfl, Nat.succ_le_succ few⟩

/-! ## Encoded lists -/

/-- The record of a network: its length, the signal strength and the name. -/
def ScannedNetwork.record (network : ScannedNetwork) : Bytes :=
  UInt8.ofNat (1 + (Utf8.encode network.ssid).length) ::
    UInt8.ofNat (network.rssi % 256).toNat :: Utf8.encode network.ssid

/-- The payload of a scan response. -/
def encodeNetworks (leading : UInt8) (networks : List ScannedNetwork) : Bytes :=
  leading :: UInt8.ofNat networks.length :: networks.flatMap ScannedNetwork.record

/-- A network that a record can carry. -/
structure ScannedNetwork.Encodable (network : ScannedNetwork) : Prop where
  short : (Utf8.encode network.ssid).length ≤ 254
  weakest : -128 ≤ network.rssi
  strongest : network.rssi ≤ 127

/-- The networks whose records fit into so many bytes. -/
def wholeRecords : Nat → List ScannedNetwork → List ScannedNetwork
  | _, [] => []
  | room, network :: networks =>
    if network.record.length ≤ room then
      network :: wholeRecords (room - network.record.length) networks
    else []

theorem wholeRecords_begins (room : Nat) (networks : List ScannedNetwork) :
    wholeRecords room networks <+: networks := by
  induction networks generalizing room with
  | nil => exact List.prefix_refl _
  | cons network networks inductionHypothesis =>
    rw [wholeRecords]
    split
    · exact (List.prefix_cons_inj network).mpr (inductionHypothesis _)
    · exact List.nil_prefix

theorem wholeRecords_fit (room : Nat) (networks : List ScannedNetwork) :
    ((wholeRecords room networks).flatMap ScannedNetwork.record).length ≤ room := by
  induction networks generalizing room with
  | nil => exact Nat.zero_le _
  | cons network networks inductionHypothesis =>
    rw [wholeRecords]
    split
    · have later := inductionHypothesis (room - network.record.length)
      rw [List.flatMap_cons, List.length_append]
      omega
    · exact Nat.zero_le _

/-- No longer beginning of the list fits. -/
theorem wholeRecords_longest {room : Nat} {networks other : List ScannedNetwork}
    (begins : other <+: networks)
    (fits : (other.flatMap ScannedNetwork.record).length ≤ room) :
    other <+: wholeRecords room networks := by
  induction networks generalizing room other with
  | nil => exact begins
  | cons network networks inductionHypothesis =>
    cases other with
    | nil => exact List.nil_prefix
    | cons first other =>
      obtain ⟨rfl, later⟩ := List.cons_prefix_cons.mp begins
      rw [List.flatMap_cons, List.length_append] at fits
      rw [wholeRecords, if_pos (by omega)]
      exact (List.prefix_cons_inj first).mpr (inductionHypothesis later (by omega))

/-! ## Cut lists -/

theorem record_length (network : ScannedNetwork) :
    network.record.length = (Utf8.encode network.ssid).length + 2 := rfl

/-- The signal strength is read as it was written, in two's complement. -/
theorem rssi_of_byte {rssi : Int} (weakest : -128 ≤ rssi) (strongest : rssi ≤ 127) :
    (if (UInt8.ofNat (rssi % 256).toNat).toNat > 127 then
      ((UInt8.ofNat (rssi % 256).toNat).toNat : Int) - 256
    else ((UInt8.ofNat (rssi % 256).toNat).toNat : Int)) = rssi := by
  rw [UInt8.toNat_ofNat']
  split <;> omega

/-- The loop reads the records that are whole in a cut list. -/
theorem readNetworks_cut {networks : List ScannedNetwork}
    (encodable : ∀ network ∈ networks, network.Encodable) (front : Bytes) (room : Nat) :
    readNetworks (front ++ (networks.flatMap ScannedNetwork.record).take room) networks.length
      front.length = .ok (wholeRecords room networks) := by
  induction networks generalizing front room with
  | nil => rfl
  | cons network networks inductionHypothesis =>
    have fits := encodable network List.mem_cons_self
    have lengthField : (UInt8.ofNat (1 + (Utf8.encode network.ssid).length)).toNat =
        1 + (Utf8.encode network.ssid).length := by
      have short := fits.short
      rw [UInt8.toNat_ofNat']
      omega
    rw [List.length_cons, List.flatMap_cons, readNetworks, wholeRecords]
    by_cases whole : network.record.length ≤ room
    · -- the record is there, and the rest of the list is cut as before
      have later := inductionHypothesis
        (fun other member => encodable other (List.mem_cons_of_mem _ member))
        (front ++ network.record) (room - network.record.length)
      rw [List.take_append, List.take_of_length_le whole, if_pos whole]
      rw [List.append_assoc] at later
      generalize (networks.flatMap ScannedNetwork.record).take (room - network.record.length) =
        rest at later ⊢
      have total : (front ++ (network.record ++ rest)).length =
          front.length + (Utf8.encode network.ssid).length + 2 + rest.length := by
        rw [List.length_append, List.length_append, record_length]
        omega
      have recLen : item (front ++ (network.record ++ rest)) front.length =
          .ok (UInt8.ofNat (1 + (Utf8.encode network.ssid).length)) := item_middle front _ _ rfl
      have rssiByte : item (front ++ (network.record ++ rest)) (front.length + 1) =
          .ok (UInt8.ofNat (network.rssi % 256).toNat) := by
        have split : front ++ (network.record ++ rest) =
            (front ++ [UInt8.ofNat (1 + (Utf8.encode network.ssid).length)]) ++
              (UInt8.ofNat (network.rssi % 256).toNat :: (Utf8.encode network.ssid ++ rest)) := by
          simp [ScannedNetwork.record]
        rw [split]
        exact item_middle _ _ _ (by simp)
      have name : slice (front ++ (network.record ++ rest)) (front.length + 2)
          (front.length + 1 + (1 + (Utf8.encode network.ssid).length)) =
            Utf8.encode network.ssid := by
        have split : front ++ (network.record ++ rest) =
            (front ++ [UInt8.ofNat (1 + (Utf8.encode network.ssid).length),
              UInt8.ofNat (network.rssi % 256).toNat]) ++ (Utf8.encode network.ssid ++ rest) := by
          simp [ScannedNetwork.record]
        rw [split]
        exact slice_middle _ _ _ (by simp) (by simp; omega)
      have next : (front ++ network.record).length =
          front.length + 1 + (1 + (Utf8.encode network.ssid).length) := by
        rw [List.length_append, record_length]
        omega
      rw [next] at later
      rw [if_neg (by omega), recLen]
      simp only [ok_bind]
      rw [lengthField, if_neg (by omega), rssiByte]
      simp only [ok_bind]
      rw [name, Utf8.decode_encode, later, rssi_of_byte fits.weakest fits.strongest]
      rfl
    · -- the record is cut off, in its first two bytes or later
      have total : (front ++ (network.record ++
          networks.flatMap ScannedNetwork.record).take room).length = front.length + room := by
        rw [List.length_append, List.length_take, List.length_append]
        omega
      rw [if_neg whole]
      split
      · rfl
      rename_i enough
      obtain ⟨room, rfl⟩ : ∃ less, room = less + 1 := ⟨room - 1, by omega⟩
      have recLen : item (front ++ (network.record ++
          networks.flatMap ScannedNetwork.record).take (room + 1)) front.length =
            .ok (UInt8.ofNat (1 + (Utf8.encode network.ssid).length)) := item_middle front _ _ rfl
      rw [record_length] at whole
      rw [recLen]
      simp only [ok_bind]
      rw [lengthField, if_pos (by omega)]

/-- The networks of the longest beginning of the list whose records the first bytes of its payload
hold. -/
structure IsWholePart (networks parsed : List ScannedNetwork) (available : Nat) : Prop where
  begins : parsed <+: networks
  held : parsed = [] ∨ 2 + (parsed.flatMap ScannedNetwork.record).length ≤ available
  longest : ∀ other, other <+: networks →
    2 + (other.flatMap ScannedNetwork.record).length ≤ available → other <+: parsed

theorem records_length_le {some all : List ScannedNetwork} (begins : some <+: all) :
    (some.flatMap ScannedNetwork.record).length ≤ (all.flatMap ScannedNetwork.record).length := by
  obtain ⟨rest, rfl⟩ := begins
  rw [List.flatMap_append, List.length_append]
  exact Nat.le_add_right _ _

/-- Before the count has arrived there is nothing to read. -/
theorem isWholePart_nil (networks : List ScannedNetwork) {available : Nat}
    (short : available < 2) : IsWholePart networks [] available where
  begins := List.nil_prefix
  held := .inl rfl
  longest _ _ held := by omega

/-- After it, what is read is as long as the payload allows. -/
theorem isWholePart_wholeRecords (networks : List ScannedNetwork) (room : Nat) :
    IsWholePart networks (wholeRecords room networks)
      (2 + ((networks.flatMap ScannedNetwork.record).take room).length) where
  begins := wholeRecords_begins room networks
  held := by
    have fits := wholeRecords_fit room networks
    have inside := records_length_le (wholeRecords_begins room networks)
    rw [List.length_take]
    omega
  longest other begins held := by
    rw [List.length_take] at held
    exact wholeRecords_longest begins (by omega)

theorem encodeNetworks_length (leading : UInt8) (networks : List ScannedNetwork) :
    (encodeNetworks leading networks).length =
      2 + (networks.flatMap ScannedNetwork.record).length := by
  simp only [encodeNetworks, List.length_cons]
  omega

/-- What the whole payload holds is the whole list. -/
theorem IsWholePart.eq_all {networks parsed : List ScannedNetwork} {available : Nat}
    (part : IsWholePart networks parsed available)
    (all : 2 + (networks.flatMap ScannedNetwork.record).length ≤ available) :
    parsed = networks :=
  part.begins.eq_of_length_le (part.longest networks (List.prefix_refl _) all).length_le

/-- The parser on a cut list. -/
theorem parseScanResponse_take {leading : UInt8} {networks : List ScannedNetwork}
    (few : networks.length ≤ 255) (encodable : ∀ network ∈ networks, network.Encodable)
    {cut : Nat} {frame : Frame} (start : frame.start = marker7f) (func : frame.func = fnScan)
    (payload : frame.payload = (encodeNetworks leading networks).take cut) :
    ∃ parsed, parseScanResponse frame = .ok parsed ∧
      IsWholePart networks parsed frame.payload.length := by
  rw [parseScanResponse, if_neg (by simp [start, func])]
  by_cases short : frame.payload.length < 2
  · -- not even the count has arrived
    rw [if_pos short]
    exact ⟨[], rfl, isWholePart_nil networks short⟩
  rw [if_neg short]
  -- two bytes stand in front, and the records are cut after `room` more
  obtain ⟨room, rfl⟩ : ∃ room, cut = room + 2 := by
    rw [payload, List.length_take] at short
    exact ⟨cut - 2, by omega⟩
  have counted : (UInt8.ofNat networks.length).toNat = networks.length := by
    rw [UInt8.toNat_ofNat']
    omega
  have spelled : frame.payload = [leading, UInt8.ofNat networks.length] ++
      (networks.flatMap ScannedNetwork.record).take room := payload
  have count : item frame.payload 1 = .ok (UInt8.ofNat networks.length) := by
    rw [spelled]
    rfl
  have read := readNetworks_cut encodable [leading, UInt8.ofNat networks.length] room
  rw [← spelled] at read
  refine ⟨wholeRecords room networks, ?_, ?_⟩
  · rw [count]
    simp only [ok_bind]
    rw [counted]
    exact read
  · rw [spelled, List.length_append]
    exact isWholePart_wholeRecords networks room

/-- **Scan lists, cut anywhere.**  Of an encoded list the networks are read whose records have
arrived, which are all of them where nothing is cut off; and no other payload of a scan response
raises, or gives more networks than it declares. -/
theorem parseScanResponse_cut :
    (∀ (leading : UInt8) (networks : List ScannedNetwork), networks.length ≤ 255 →
      (∀ network ∈ networks, network.Encodable) → ∀ (cut : Nat) (frame : Frame),
      frame.start = marker7f → frame.func = fnScan →
      frame.payload = (encodeNetworks leading networks).take cut →
      ∃ parsed, parseScanResponse frame = .ok parsed ∧
        IsWholePart networks parsed frame.payload.length ∧
        ((encodeNetworks leading networks).length ≤ cut → parsed = networks)) ∧
    ∀ frame : Frame, frame.start = marker7f → frame.func = fnScan →
      ∃ parsed, parseScanResponse frame = .ok parsed ∧
        parsed.length ≤ (frame.payload[1]?.map UInt8.toNat).getD 0 := by
  constructor
  · intro leading networks few encodable cut frame start func payload
    obtain ⟨parsed, read, part⟩ := parseScanResponse_take few encodable start func payload
    refine ⟨parsed, read, part, fun whole => part.eq_all ?_⟩
    rw [payload, List.take_of_length_le whole, encodeNetworks_length]
  · intro frame start func
    rw [parseScanResponse, if_neg (by simp [start, func])]
    split
    · exact ⟨[], rfl, Nat.zero_le _⟩
    · have two : 1 < frame.payload.length := by omega
      rw [item_eq_ok two, List.getElem?_eq_getElem two]
      exact readNetworks_total frame.payload (frame.payload[1]).toNat 2

def hiddenAndCafe : List ScannedNetwork := [⟨[], -60⟩, ⟨"Café".toList, 5⟩]

/-- A list whose last name has lost its last byte. -/
theorem parseScanResponse_cut_lastName :
    ∃ parsed, parseScanResponse
        (builtFrame marker7f [0, 0, 0, 0] fnScan [0, 2, 1, 0xC4, 6, 5, 0x43, 0x61, 0x66, 0xC3]
          endF7) = .ok parsed ∧
      IsWholePart hiddenAndCafe parsed 10 ∧ (11 ≤ 10 → parsed = hiddenAndCafe) := by
  refine parseScanResponse_cut.1 0 hiddenAndCafe (by decide) ?_ 10 _ rfl rfl (by decide)
  intro network member
  rcases List.mem_pair.mp member with rfl | rfl
  · exact ⟨by decide, by decide, by decide⟩
  · exact ⟨by decide, by decide, by decide⟩

end FoxessGateway.Provisioning
