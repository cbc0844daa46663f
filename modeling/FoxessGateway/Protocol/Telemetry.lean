import FoxessGateway.Python
import Mathlib.Data.List.Infix

/-! # Telemetry payloads

`telemetry.py`: the words of a 238-byte payload, and the AC fault codes in them.  A value that
the source divides and rounds is kept as its word, divisor and number of digits. -/

namespace FoxessGateway.Protocol

open ByteOrder

/-! ## Fault codes -/

def acFaultBits : Nat := 14
def acFaultMask : Nat := (1 <<< acFaultBits) - 1

def supportsAcFaultHistory (model : Text) : Bool := ['M', '1'] <+: upper (strip model)

/-- `f"{value}"` -/
def decimal (value : Nat) : Text := Nat.toDigits 10 value

/-- `f"{value:04X}"` -/
def hex4 (value : Nat) : Text :=
  let digits := (Nat.toDigits 16 value).map Char.toUpper
  List.replicate (4 - digits.length) '0' ++ digits

def rawPrefix : Text := "raw:".toList

/-- The codes whose bits are set, in ascending order. -/
def acFaultCodes (word : Nat) : List Nat :=
  ((List.range acFaultBits).reverse.filter fun bit => word.testBit bit).map fun bit => 4160 - bit

def faultCodeFor (offsets : List Nat) (offset98 : Nat) : Text :=
  match offsets.reverse.find? (· ≠ 0) with
  | none => if offset98 ≠ 0 then rawPrefix ++ "offset98=".toList ++ hex4 offset98 else []
  | some newest =>
    if newest &&& acFaultMask ≠ newest then rawPrefix ++ hex4 newest
    else [','].intercalate ((acFaultCodes newest).map decimal)

def isKnownFaultCode (code : Text) : Bool := code ≠ [] ∧ ¬ rawPrefix <+: code

def faultCodeNames : List (String × String) := [
  ("4029", "PV1 Internal Short-Circuit"), ("4030", "PV1 Low Input Voltage"),
  ("4031", "PV1 Over Voltage"), ("4032", "PV1 Over Current"),
  ("4061", "PV2 Internal Short-Circuit"), ("4062", "PV2 Low Input Voltage"),
  ("4063", "PV2 Over Voltage"), ("4064", "PV2 Over Current"),
  ("4093", "PV3 Internal Short-Circuit"), ("4094", "PV3 Low Input Voltage"),
  ("4095", "PV3 Over Voltage"), ("4096", "PV3 Over Current"),
  ("4125", "PV4 Internal Short-Circuit"), ("4126", "PV4 Low Input Voltage"),
  ("4127", "PV4 Over Voltage"), ("4128", "PV4 Over Current"),
  ("4147", "Inverter bridge is asymmetrical"),
  ("4148", "Voltage at both ends of relay is not equal"),
  ("4149", "High or Low Voltage Ride Through"), ("4150", "Remote Switch"), ("4151", "Lost AC"),
  ("4152", "BUS Over Voltage"), ("4153", "GFDI"), ("4154", "AC Under Temperature"),
  ("4155", "AC Over Temperature"), ("4156", "AC Under Frequency"),
  ("4157", "AC Over Frequency"), ("4158", "AC Under Voltage"), ("4159", "AC Over Voltage"),
  ("4160", "AC Over Current")]

def faultCodeName (code : Text) : Text :=
  match faultCodeNames.find? (fun entry => entry.1.toList = code) with
  | some entry => entry.2.toList
  | none => "Unknown ".toList ++ code

def faultCodeMessageFor (codeString : Text) : Text :=
  if codeString = [] then []
  else if rawPrefix <+: codeString then "Unknown fault (".toList ++ codeString ++ [')']
  else
    let parts := ((codeString.splitOn ',').map strip).filter (· ≠ [])
    [',', ' '].intercalate (parts.map faultCodeName)

/-! ## Words -/

def u16 (payload : Bytes) (offset : Nat) : Nat := fromBig (slice payload offset (offset + 2))

def s16 (payload : Bytes) (offset : Nat) : Int :=
  let word := u16 payload offset
  if word < 0x8000 then word else word - 0x10000

def u32WordSwapped (payload : Bytes) (offset : Nat) : Nat :=
  (u16 payload (offset + 2) <<< 16) ||| u16 payload offset

/-- The words that are not zero, with their offsets. -/
def nonzeroU16Words (payload : Bytes) : List (Nat × Nat) :=
  ((List.range (payload.length / 2)).map fun index => (2 * index, u16 payload (2 * index))).filter
    fun entry => entry.2 ≠ 0

/-- `round(word / divisor, digits)` -/
structure Reading where
  word : Nat
  divisor : Nat
  digits : Nat
  deriving DecidableEq, Repr

inductive OperatingState where
  | standby
  | running
  | unknown
  deriving DecidableEq, Repr

def operatingState (code : Nat) : OperatingState :=
  if code = 2 then .standby else if code = 4 then .running else .unknown

def supportsFourPv (model : Text) : Bool :=
  let normalized := (upper model).map fun char => if char = '_' then '-' else char
  ['Q', '1'] <+: normalized ∨ ['-', 'Q', '1'] <:+: normalized ∨ ['Q', '1', '-'] <:+: normalized

/-! ## Decoding -/

/-- One string of panels. -/
structure PvString where
  powerW : Nat
  voltageV : Reading
  currentA : Reading
  deriving DecidableEq, Repr

def pvString (payload : Bytes) (offset : Nat) : PvString where
  voltageV := ⟨u16 payload offset, 256, 3⟩
  currentA := ⟨u16 payload (offset + 2), 512, 3⟩
  powerW := u16 payload (offset + 4)

/-- A voltage or current that is not zero is not rounded to zero either. -/
def PvString.isActive (string : PvString) : Bool :=
  string.powerW ≠ 0 ∨ string.voltageV.word ≠ 0 ∨ string.currentA.word ≠ 0

structure Telemetry where
  serial : Text
  rPowerW : Int
  exportPowerW : Int
  rVoltageV : Reading
  rCurrentA : Reading
  rFrequencyHz : Reading
  pvPowerW : Nat
  pv1 : PvString
  pv2 : PvString
  pv34 : Option (PvString × PvString)
  inverterTemperatureC : Reading
  generationKwh : Reading
  exportTotalKwh : Reading
  faultActive : Bool
  operatingState : OperatingState
  operatingStateCode : Nat
  sequence : Nat
  rawWords : List (Nat × Nat)
  model : Text
  firmware : Text
  module : Text
  lastFaultCode : Text
  lastFaultMessage : Text
  lastFaultTimestamp : Option Nat
  meshRole : Text
  meshPeerSerial : Text
  deriving DecidableEq, Repr

/-- What the session knows about the inverter that sent the payload. -/
structure TelemetrySource where
  serial : Text
  model : Text
  firmware : Text
  module : Text
  lastFaultCode : Text
  lastFaultTimestamp : Option Nat
  meshRole : Text
  meshPeerSerial : Text
  deriving DecidableEq, Repr

/-- The two further strings of an inverter that has four. -/
def includedStrings (payload : Bytes) (model : Text) : Option (PvString × PvString) :=
  let pv3 := pvString payload 48
  let pv4 := pvString payload 54
  if supportsFourPv model ∨ u16 payload 156 ≥ 4 ∨ pv3.isActive ∨ pv4.isActive then some (pv3, pv4)
  else none

def decodeTelemetry (payload : Bytes) (source : TelemetrySource) : Except PyError Telemetry :=
  if payload.length ≠ 238 then
    .error (.valueError s!"expected 238-byte payload, got {payload.length}")
  else
    let pv1 := pvString payload 36
    let pv2 := pvString payload 42
    let pv34 := includedStrings payload source.model
    let further := match pv34 with
      | some (pv3, pv4) => pv3.powerW + pv4.powerW
      | none => 0
    .ok {
      serial := source.serial
      rPowerW := s16 payload 6
      exportPowerW := - s16 payload 2
      rVoltageV := ⟨u16 payload 12, 32, 3⟩
      rCurrentA := ⟨u16 payload 14, 512, 3⟩
      rFrequencyHz := ⟨u16 payload 16, 128, 3⟩
      pvPowerW := pv1.powerW + pv2.powerW + further
      pv1 := pv1
      pv2 := pv2
      pv34 := pv34
      inverterTemperatureC := ⟨u16 payload 62, 32, 2⟩
      generationKwh := ⟨u32WordSwapped payload 70, 128, 3⟩
      exportTotalKwh := ⟨u32WordSwapped payload 74, 128, 3⟩
      faultActive := supportsAcFaultHistory source.model ∧
        [98, 100, 102, 104, 106].any fun offset => u16 payload offset ≠ 0
      operatingState := operatingState (u16 payload 154)
      operatingStateCode := u16 payload 154
      sequence := u16 payload 66
      rawWords := [0, 2, 96, 98, 100, 102, 104, 106, 154, 156].map fun offset =>
        (offset, u16 payload offset)
      model := source.model
      firmware := source.firmware
      module := source.module
      lastFaultCode := source.lastFaultCode
      lastFaultMessage := faultCodeMessageFor source.lastFaultCode
      lastFaultTimestamp := source.lastFaultTimestamp
      meshRole := source.meshRole
      meshPeerSerial := source.meshPeerSerial }

theorem decodeTelemetry_ok {payload : Bytes} (source : TelemetrySource)
    (whole : payload.length = 238) :
    ∃ telemetry, decodeTelemetry payload source = .ok telemetry := by
  rw [decodeTelemetry]
  rw [if_neg (not_not.mpr whole)]
  exact ⟨_, rfl⟩

end FoxessGateway.Protocol
