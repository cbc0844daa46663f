import FoxessGateway.Protocol.Frame

/-! # Kinds of frames

The predicates and decoders of `protocol.py` for registration, telemetry, product, module,
Modbus and mesh frames.  A decoder that returns `{}` for a frame of another kind returns
`none` here. -/

namespace FoxessGateway.Protocol

open ByteOrder

/-! ## Texts -/

def printableAscii (data : Bytes) : Text :=
  strip ((data.filter fun byte => 32 ≤ byte ∧ byte ≤ 126).map fun byte => Char.ofNat byte.toNat)

/-! ## Registration, telemetry, product and module -/

def isRegistration (frame : Frame) : Bool :=
  frame.start = marker7e ∧ frame.payloadLen = 28 ∧ frame.payload.length ≥ 20 ∧
    frame.payload.take 4 ∈ [[(0x01 : UInt8), 0x00, 0x01, 0x31], [0x01, 0x00, 0x01, 0x30]]

def registrationSerial (frame : Frame) : Option Text :=
  if isRegistration frame then
    let serial := do
      let length ← item frame.payload 4
      decodeAscii (slice frame.payload 5 (5 + length.toNat))
    serial.toOption
  else none

def isTelemetry (frame : Frame) : Bool :=
  frame.start = marker7e ∧ frame.device = [0x02, 0x00, 0x00, 0x00] ∧ frame.func = 0 ∧
    frame.payloadLen = 238

def isProductInfo (frame : Frame) : Bool :=
  frame.start = marker7e ∧ frame.device = [0x01, 0x00, 0x00, 0x00] ∧ frame.func = 0 ∧
    frame.payloadLen ≥ 32

def isModuleInfo (frame : Frame) : Bool :=
  frame.start = marker7e ∧ frame.device = [0x06, 0x00, 0x00, 0x00] ∧ frame.func = 0 ∧
    frame.payloadLen = 38

/-- The ASCII characters up to the first NUL; `errors="ignore"` drops the other bytes. -/
def moduleInfo (frame : Frame) : Text :=
  if isModuleInfo frame then
    let head := frame.payload.takeWhile (· ≠ 0)
    strip ((head.filter (· < 128)).map fun byte => Char.ofNat byte.toNat)
  else []

structure ProductInfo where
  module : Text
  family : Text
  model : Text
  firmware : Text
  deriving DecidableEq, Repr

/-- The texts between the NULs that hold a letter or a digit. -/
def productStrings (payload : Bytes) : List Text :=
  ((payload.splitOn 0).map printableAscii).filter fun part => part ≠ [] ∧ part.any Char.isAlphanum

def isFamilyName (part : Text) : Bool :=
  (['M'] <+: part ∨ ['Q'] <+: part) ∧ '-' ∉ part ∧ ¬ ['V', '1', '8', '0'] <:+ part

def isFirmwareText (part : Text) : Bool :=
  (part.take 1).any Char.isDigit ∧ '.' ∈ part

def productInfo (frame : Frame) : Option ProductInfo :=
  if isProductInfo frame then
    let strings := productStrings frame.payload
    some {
      module := strings.head?.getD []
      family := (strings.find? isFamilyName).getD []
      model := (strings.find? ('-' ∈ ·)).getD []
      firmware := (strings.find? isFirmwareText).getD [] }
  else none

/-! ## Modbus -/

def modbusFnReadHolding : UInt8 := 0x03
def modbusFnReadInput : UInt8 := 0x04
def modbusFnWriteSingle : UInt8 := 0x06
def modbusFnWriteMultiple : UInt8 := 0x10

def modbusFunctions : List UInt8 :=
  [modbusFnReadHolding, modbusFnReadInput, modbusFnWriteSingle, modbusFnWriteMultiple]

def commandEnvelopeFunc : UInt8 := 0xE2

/-- What follows the address in a decoded command: the keys its dictionary has. -/
inductive ModbusBody where
  | count (count : Nat)
  | value (value : Nat)
  | multiple (count : Nat) (byteCount : UInt8) (values : List Nat)
  deriving DecidableEq, Repr

structure ModbusCommand where
  slave : UInt8
  function : UInt8
  address : Nat
  body : ModbusBody
  deriving DecidableEq, Repr

def isModbusCommand (frame : Frame) : Bool :=
  if frame.start ≠ marker7f ∨ frame.payload.length < 6 then false
  else (frame.payload[1]?).any (· ∈ modbusFunctions)

/-- At most `count` two-byte words, as far as the data reaches. -/
def registerValues : Nat → Bytes → List Nat
  | count + 1, high :: low :: data => fromBig [high, low] :: registerValues count data
  | _, _ => []

/-- A command of the function `function`; writes of several registers need a byte count. -/
def modbusBody (function : UInt8) (payload : Bytes) : Option ModbusBody :=
  let word := fromBig (slice payload 4 6)
  if function = modbusFnReadHolding ∨ function = modbusFnReadInput then some (.count word)
  else if function = modbusFnWriteSingle then some (.value word)
  else if function = modbusFnWriteMultiple then
    -- `len(payload) >= 7`: without the byte count the decoder returns `{}`
    (payload[6]?).map fun byteCount =>
      .multiple word byteCount (registerValues word (payload.drop 7))
  else none

def parseModbusCommand (frame : Frame) : Option ModbusCommand :=
  if isModbusCommand frame then
    match frame.payload with
    | slave :: function :: _ =>
      (modbusBody function frame.payload).map fun body =>
        ⟨slave, function, fromBig (slice frame.payload 2 4), body⟩
    | _ => none
  else none

def isModbusWriteSuccessResponse (frame : Frame) : Bool :=
  if frame.start ≠ marker7f then false
  else if (parseModbusCommand frame).map ModbusCommand.function = some modbusFnWriteSingle then true
  else frame.payload.length = 2 ∧ frame.payload[1]? = some modbusFnWriteSingle

structure ModbusReadResponse where
  slave : UInt8
  function : UInt8
  byteCount : UInt8
  values : List Nat
  deriving DecidableEq, Repr

/-- A read function, an even byte count and exactly that many bytes of data. -/
def parseModbusReadResponse (frame : Frame) : Option ModbusReadResponse :=
  if frame.start ≠ marker7f ∨ frame.payload.length < 5 then none
  else
    match frame.payload with
    | slave :: function :: byteCount :: data =>
      if (function = modbusFnReadHolding ∨ function = modbusFnReadInput) ∧ byteCount > 0 ∧
          byteCount % 2 = 0 ∧ data.length = byteCount.toNat then
        some ⟨slave, function, byteCount, registerValues (byteCount.toNat / 2) data⟩
      else none
    | _ => none

def isModbusReadResponse (frame : Frame) : Bool := (parseModbusReadResponse frame).isSome

structure ModbusReadException where
  slave : UInt8
  function : UInt8
  exceptionCode : UInt8
  deriving DecidableEq, Repr

def parseModbusReadException (frame : Frame) : Option ModbusReadException :=
  if frame.start = marker7f then
    match frame.payload with
    | [slave, function, exceptionCode] =>
      if function = modbusFnReadHolding ||| 0x80 ∨ function = modbusFnReadInput ||| 0x80 then
        some ⟨slave, function &&& 0x7F, exceptionCode⟩
      else none
    | _ => none
  else none

def isModbusReadException (frame : Frame) : Bool := (parseModbusReadException frame).isSome

/-! ## Mesh -/

def isMeshRootFrame (frame : Frame) : Bool :=
  frame.start = marker7f ∧ frame.payload.length ≥ 12 ∧
    frame.payload.take 4 = [0x01, 0x05, 0x01, 0x01]

def isMeshFollowerFrame (frame : Frame) : Bool :=
  if frame.start ≠ marker7f ∨ frame.payload.length < 5 then false
  else if frame.payload.take 4 ≠ [0x01, 0x05, 0x01, 0x02] then false
  else
    (frame.payload[4]?).any fun serialLen =>
      1 ≤ serialLen ∧ serialLen ≤ 32 ∧ frame.payload.length ≥ 5 + serialLen.toNat

/-- The serial of the root, or nothing when it is not ASCII. -/
def meshPeerSerial (frame : Frame) : Text :=
  if isMeshFollowerFrame frame then
    let serial := do
      let serialLen ← item frame.payload 4
      decodeAscii (slice frame.payload 5 (5 + serialLen.toNat))
    serial.toOption.getD []
  else []

end FoxessGateway.Protocol
