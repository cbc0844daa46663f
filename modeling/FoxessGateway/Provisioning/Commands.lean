import FoxessGateway.Provisioning.ScanResponse

/-! # Commissioning commands

The 7f frames that `ble_provision.py` sends to an inverter over Bluetooth: a scan of the networks,
and the selection, the credentials and the commit that make it join one. -/

namespace FoxessGateway.Provisioning

open ByteOrder Protocol

def mfgSig : Bytes := [0x03, 0xF3, 0xBA, 0x40]
def selectToken : Bytes := [0x09]
def commitPayload : Bytes := [0x04]

def altHighByte : UInt8 := 0x3A
def setCredsHighByte : UInt8 := 0x3B

def fnSelect : UInt8 := 0xAD
def fnSetCreds : UInt8 := 0xAE
def fnCommit : UInt8 := 0xB1

/-- `_alt_frame` -/
def altFrame (device : Bytes) (func : UInt8) (payload : Bytes) : Except PyError Bytes :=
  makeFrame marker7f device func payload endF7

/-- `_alt_device` -/
def altDevice (tail : Bytes) (highByte : UInt8) : Bytes := highByte :: tail

def makeScanRequest (tail : Bytes) : Except PyError Bytes :=
  altFrame (altDevice tail altHighByte) fnScan [0x06]

def makeSelectRequest (tail : Bytes) : Except PyError Bytes :=
  altFrame (altDevice tail altHighByte) fnSelect selectToken

def makeSetCredentials (tail : Bytes) (ssid passphrase : Text) : Except PyError Bytes :=
  let ssidBytes := Utf8.encode ssid
  let passBytes := Utf8.encode passphrase
  if ¬ (1 ≤ ssidBytes.length ∧ ssidBytes.length ≤ 32) then
    .error (.valueError s!"SSID must be 1..32 bytes, got {ssidBytes.length}")
  else if ¬ (8 ≤ passBytes.length ∧ passBytes.length ≤ 63) then
    .error (.valueError
      s!"WPA passphrase must be 8..63 bytes (WPA2 PSK standard), got {passBytes.length}")
  else do
    let ssidLen ← byteOf ssidBytes.length
    let passLen ← byteOf passBytes.length
    altFrame (altDevice tail setCredsHighByte) fnSetCreds
      (mfgSig ++ [ssidLen] ++ ssidBytes ++ [passLen] ++ passBytes)

def makeCommit (tail : Bytes) : Except PyError Bytes :=
  altFrame (altDevice tail altHighByte) fnCommit commitPayload

/-! ## The frames -/

/-- The frame of a command with a device tail of three bytes. -/
def commandFrame (highByte : UInt8) (tail : Bytes) (func : UInt8) (payload : Bytes) : Frame :=
  builtFrame marker7f (highByte :: tail) func payload endF7

theorem altFrame_eq (tail : Bytes) (highByte func : UInt8) {payload : Bytes}
    (fits : payload.length < 256 ^ 2) :
    altFrame (altDevice tail highByte) func payload =
      .ok (commandFrame highByte tail func payload).raw :=
  makeFrame_eq _ _ _ _ fits

theorem commandFrame_wellFormed {tail : Bytes} (width : tail.length = 3) (highByte func : UInt8)
    {payload : Bytes} (short : payload.length ≤ 4083) :
    (commandFrame highByte tail func payload).WellFormed :=
  builtFrame_wellFormed (.inr ⟨rfl, rfl⟩) (by rw [List.length_cons, width]) short

/-! ## Credentials -/

/-- A network name and a passphrase that a WPA2 network can have. -/
structure Acceptable (ssid passphrase : Text) : Prop where
  ssidNonempty : 1 ≤ (Utf8.encode ssid).length
  ssidShort : (Utf8.encode ssid).length ≤ 32
  passphraseLong : 8 ≤ (Utf8.encode passphrase).length
  passphraseShort : (Utf8.encode passphrase).length ≤ 63

/-- The signature, then the name and the passphrase with a length in front of each. -/
def credentialsPayload (ssid passphrase : Text) : Bytes :=
  mfgSig ++ [UInt8.ofNat (Utf8.encode ssid).length] ++ Utf8.encode ssid ++
    [UInt8.ofNat (Utf8.encode passphrase).length] ++ Utf8.encode passphrase

theorem credentialsPayload_length (ssid passphrase : Text) :
    (credentialsPayload ssid passphrase).length =
      6 + (Utf8.encode ssid).length + (Utf8.encode passphrase).length := by
  simp only [credentialsPayload, mfgSig, List.length_append, List.length_cons, List.length_nil]
  omega

theorem makeSetCredentials_eq (tail : Bytes) {ssid passphrase : Text}
    (acceptable : Acceptable ssid passphrase) :
    makeSetCredentials tail ssid passphrase =
      .ok (commandFrame setCredsHighByte tail fnSetCreds
        (credentialsPayload ssid passphrase)).raw := by
  have ssidShort := acceptable.ssidShort
  have passphraseShort := acceptable.passphraseShort
  rw [makeSetCredentials, if_neg (not_not.mpr ⟨acceptable.ssidNonempty, ssidShort⟩),
    if_neg (not_not.mpr ⟨acceptable.passphraseLong, passphraseShort⟩),
    byteOf_eq_ok (by omega), byteOf_eq_ok (by omega)]
  have fits : (credentialsPayload ssid passphrase).length < 256 ^ 2 := by
    rw [credentialsPayload_length]
    omega
  exact altFrame_eq tail setCredsHighByte fnSetCreds fits

/-- Credentials that are not acceptable are refused. -/
theorem makeSetCredentials_refused (tail : Bytes) {ssid passphrase : Text}
    (unacceptable : ¬ Acceptable ssid passphrase) :
    ∃ message, makeSetCredentials tail ssid passphrase = .error (.valueError message) := by
  rw [makeSetCredentials]
  split
  · exact ⟨_, rfl⟩
  rename_i ssidFits
  split
  · exact ⟨_, rfl⟩
  rename_i passphraseFits
  rw [not_not] at ssidFits passphraseFits
  exact absurd ⟨ssidFits.1, ssidFits.2, passphraseFits.1, passphraseFits.2⟩ unacceptable

/-- A text with its length in one byte in front of it ends where it says. -/
theorem lengthPrefixed_inj {first second : Text} {afterFirst afterSecond : Bytes}
    (firstFits : (Utf8.encode first).length ≤ 255) (secondFits : (Utf8.encode second).length ≤ 255)
    (same : UInt8.ofNat (Utf8.encode first).length :: (Utf8.encode first ++ afterFirst) =
      UInt8.ofNat (Utf8.encode second).length :: (Utf8.encode second ++ afterSecond)) :
    first = second ∧ afterFirst = afterSecond := by
  obtain ⟨sameByte, rest⟩ := List.cons.inj same
  have sameLength : (Utf8.encode first).length = (Utf8.encode second).length := by
    have counts := congrArg UInt8.toNat sameByte
    rw [UInt8.toNat_ofNat', UInt8.toNat_ofNat'] at counts
    omega
  obtain ⟨sameBytes, sameRest⟩ := List.append_inj rest sameLength
  refine ⟨?_, sameRest⟩
  rw [← Utf8.decode_encode first, sameBytes, Utf8.decode_encode]

/-- Two acceptable pairs of credentials are never sent in the same payload. -/
theorem credentialsPayload_inj {ssid passphrase otherSsid otherPassphrase : Text}
    (acceptable : Acceptable ssid passphrase)
    (otherAcceptable : Acceptable otherSsid otherPassphrase)
    (same : credentialsPayload ssid passphrase = credentialsPayload otherSsid otherPassphrase) :
    ssid = otherSsid ∧ passphrase = otherPassphrase := by
  have ssidShort := acceptable.ssidShort
  have passphraseShort := acceptable.passphraseShort
  have otherSsidShort := otherAcceptable.ssidShort
  have otherPassphraseShort := otherAcceptable.passphraseShort
  simp only [credentialsPayload, List.append_assoc, List.singleton_append] at same
  obtain ⟨sameSsid, rest⟩ := lengthPrefixed_inj (by omega) (by omega)
    (List.append_cancel_left same)
  have padded : ∀ text : Text, UInt8.ofNat (Utf8.encode text).length :: Utf8.encode text =
      UInt8.ofNat (Utf8.encode text).length :: (Utf8.encode text ++ []) := by simp
  rw [padded passphrase, padded otherPassphrase] at rest
  exact ⟨sameSsid, (lengthPrefixed_inj (by omega) (by omega) rest).1⟩

/-- Credentials that are sent are acceptable. -/
theorem acceptable_of_sent {tail : Bytes} {ssid passphrase : Text} {raw : Bytes}
    (sent : makeSetCredentials tail ssid passphrase = .ok raw) : Acceptable ssid passphrase := by
  by_contra unacceptable
  obtain ⟨message, refused⟩ := makeSetCredentials_refused tail unacceptable
  cases sent.symm.trans refused

theorem credentialsFrame_wellFormed {tail : Bytes} (width : tail.length = 3)
    {ssid passphrase : Text} (acceptable : Acceptable ssid passphrase) :
    (commandFrame setCredsHighByte tail fnSetCreds
      (credentialsPayload ssid passphrase)).WellFormed := by
  have ssidShort := acceptable.ssidShort
  have passphraseShort := acceptable.passphraseShort
  apply commandFrame_wellFormed width
  rw [credentialsPayload_length]
  omega

/-- **Credentials on the wire.**  Acceptable credentials are sent in one frame with their name and
passphrase, others are refused, and what is sent is read in one way only. -/
theorem setCredentials_codec :
    (∀ (tail : Bytes) (ssid passphrase : Text), tail.length = 3 → Acceptable ssid passphrase →
      ∃ frame, makeSetCredentials tail ssid passphrase = .ok frame.raw ∧
        extractFrames frame.raw = ([frame], []) ∧ frame.validCrc = true ∧
        frame.start = marker7f ∧ frame.func = fnSetCreds ∧
        frame.device = setCredsHighByte :: tail ∧
        frame.payload = credentialsPayload ssid passphrase) ∧
    (∀ (tail : Bytes) (ssid passphrase : Text), ¬ Acceptable ssid passphrase →
      ∃ message, makeSetCredentials tail ssid passphrase = .error (.valueError message)) ∧
    ∀ (tail otherTail : Bytes) (ssid passphrase otherSsid otherPassphrase : Text) (raw : Bytes),
      tail.length = 3 → otherTail.length = 3 →
      makeSetCredentials tail ssid passphrase = .ok raw →
      makeSetCredentials otherTail otherSsid otherPassphrase = .ok raw →
      tail = otherTail ∧ ssid = otherSsid ∧ passphrase = otherPassphrase := by
  refine ⟨?_, fun tail ssid passphrase => makeSetCredentials_refused tail, ?_⟩
  · intro tail ssid passphrase width acceptable
    exact ⟨_, makeSetCredentials_eq tail acceptable,
      (credentialsFrame_wellFormed width acceptable).extractFrames_raw, rfl, rfl, rfl, rfl, rfl⟩
  · intro tail otherTail ssid passphrase otherSsid otherPassphrase raw width otherWidth sent
      otherSent
    have acceptable := acceptable_of_sent sent
    have otherAcceptable := acceptable_of_sent otherSent
    have extracted := (credentialsFrame_wellFormed width acceptable).extractFrames_raw
    have otherExtracted :=
      (credentialsFrame_wellFormed otherWidth otherAcceptable).extractFrames_raw
    rw [makeSetCredentials_eq tail acceptable] at sent
    rw [makeSetCredentials_eq otherTail otherAcceptable] at otherSent
    rw [Except.ok.inj (sent.trans otherSent.symm), otherExtracted] at extracted
    obtain ⟨sameFrame, _⟩ := List.cons.inj (Prod.mk.inj extracted).1
    have sameDevice := congrArg Frame.device sameFrame
    have samePayload := congrArg Frame.payload sameFrame
    obtain ⟨sameSsid, samePassphrase⟩ :=
      credentialsPayload_inj otherAcceptable acceptable samePayload
    exact ⟨(List.cons.inj sameDevice).2.symm, sameSsid.symm, samePassphrase.symm⟩

/-- The shortest name, and a passphrase with a character of two bytes. -/
theorem setCredentials_codec_umlaut :
    ∃ frame, makeSetCredentials [0, 0, 0x0B] ['x'] "schlüssel".toList = .ok frame.raw ∧
      extractFrames frame.raw = ([frame], []) ∧ frame.validCrc = true ∧
      frame.start = marker7f ∧ frame.func = fnSetCreds ∧
      frame.device = [0x3B, 0, 0, 0x0B] ∧
      frame.payload = credentialsPayload ['x'] "schlüssel".toList :=
  setCredentials_codec.1 _ _ _ rfl ⟨by decide, by decide, by decide, by decide⟩

end FoxessGateway.Provisioning
