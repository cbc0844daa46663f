import FoxessGateway.Firmware.Image
import FoxessGateway.Protocol.RoundTrip

/-! # Metadata written and read back

`buildFirmwareMetadata` spells the fields of an image; `parseFirmwareMetadata` gives them
back, and takes no chunk payload for metadata that is longer than metadata can be. -/

namespace FoxessGateway.Firmware

open ByteOrder Protocol

/-! ## The layout -/

/-- The layout of a metadata payload whose filename has a length prefix. -/
def metadataPayload (magic : Bytes) (size : Nat) (crc name serial : Bytes) : Bytes :=
  magic ++ ([0x00, 0x00] ++ (toBig 2 size ++ (crc ++ (UInt8.ofNat name.length :: (name ++
    (0x00 :: (UInt8.ofNat serial.length :: (serial ++ toBig 2 firmwareTimeoutSeconds))))))))

theorem metadataPayload_length {magic crc : Bytes} (size : Nat) (name serial : Bytes)
    (magicWidth : magic.length = 5) (crcWidth : crc.length = 2) :
    (metadataPayload magic size crc name serial).length = 16 + name.length + serial.length := by
  simp only [metadataPayload, List.length_append, List.length_cons, List.length_nil, toBig_length]
  omega

theorem FirmwareVariant.crcField_length (variant : FirmwareVariant) (data : Bytes) :
    (variant.crcField (crc16Le data)).length = 2 := by
  rw [FirmwareVariant.crcField]
  split <;> simp

/-- What stands before a filename: its length, or nothing. -/
def namePrefix (variant : FirmwareVariant) (name : Bytes) : Bytes :=
  if variant.filenameHasLength then [UInt8.ofNat name.length] else []

theorem filenameField_eq {name : Bytes} (nameFits : name.length ≤ 255) (variant : FirmwareVariant) :
    filenameField name variant = .ok (namePrefix variant name ++ name ++ [0x00]) := by
  rw [filenameField, namePrefix]
  split
  · rw [byteOf_eq_ok (by omega)]
    rfl
  · rfl

/-- The payload that is built, split where the parser looks for the filename. -/
theorem buildFirmwareMetadata_spelled {image : FirmwareImage} {serial : Text}
    {name serialBytes : Bytes} (isName : encodeAscii image.filename = .ok name)
    (nameFits : name.length ≤ 255) (isSerial : encodeAscii serial = .ok serialBytes)
    (known : serialBytes ≠ []) (serialFits : serialBytes.length ≤ 255)
    (variant : FirmwareVariant) :
    buildFirmwareMetadata image serial variant =
      .ok (variant.magic ++ [0x00, 0x00] ++ (toBig 2 image.size ++ (variant.crcField image.crc ++
        (namePrefix variant name ++ name ++ (0x00 :: (UInt8.ofNat serialBytes.length ::
          (serialBytes ++ toBig 2 firmwareTimeoutSeconds))))))) := by
  have sizeFits : image.size < 256 ^ 2 := by
    have fits := image.fits
    rw [image.sized]
    omega
  rw [buildFirmwareMetadata]
  rw [isSerial, isName]
  simp only [bind, Except.bind]
  rw [if_neg (by simp [known]; omega), filenameField_eq nameFits, toBytes_eq_ok sizeFits,
    byteOf_eq_ok (by omega), toBytes_eq_ok (show firmwareTimeoutSeconds < 256 ^ 2 by decide)]
  simp [pure, Except.pure]

/-- `buildFirmwareMetadata` on an image and a serial it accepts. -/
theorem buildFirmwareMetadata_eq {image : FirmwareImage} {serial : Text} {variant : FirmwareVariant}
    {name serialBytes : Bytes} (prefixed : variant.filenameHasLength = true)
    (isName : encodeAscii image.filename = .ok name) (nameFits : name.length ≤ 255)
    (isSerial : encodeAscii serial = .ok serialBytes) (known : serialBytes ≠ [])
    (serialFits : serialBytes.length ≤ 255) :
    buildFirmwareMetadata image serial variant = .ok (metadataPayload variant.magic image.size
      (variant.crcField image.crc) name serialBytes) := by
  rw [buildFirmwareMetadata_spelled isName nameFits isSerial known serialFits, namePrefix,
    if_pos prefixed]
  simp [metadataPayload]

/-! ## Reading it back -/

/-- The fields of a metadata payload after the chunk index, for any size and timeout. -/
def metadataFields (size crc name serial timeout : Bytes) : Bytes :=
  size ++ (crc ++ (UInt8.ofNat name.length :: (name ++ (0x00 :: (UInt8.ofNat serial.length ::
    (serial ++ timeout))))))

theorem metadataPayload_eq (magic : Bytes) (size : Nat) (crc name serial : Bytes) :
    metadataPayload magic size crc name serial =
      magic ++ [0x00, 0x00] ++ metadataFields (toBig 2 size) crc name serial
        (toBig 2 firmwareTimeoutSeconds) := by
  rw [List.append_assoc]
  rfl

theorem toNat_ofNat_length {bytes : Bytes} (fits : bytes.length ≤ 255) :
    (UInt8.ofNat bytes.length).toNat = bytes.length := by
  rw [UInt8.toNat_ofNat']
  omega

/-- The five fields, as the parser needs them: three of two bytes, a filename it accepts and a
serial in ASCII. -/
structure FieldsFit (size crc name serial timeout : Bytes) (filename target : Text) : Prop where
  sizeWidth : size.length = 2
  crcWidth : crc.length = 2
  timeoutWidth : timeout.length = 2
  nameFits : name.length ≤ 255
  serialFits : serial.length ≤ 255
  isName : decodeAscii name = .ok filename
  safe : ∃ safeName, safeFirmwareFilename filename = .ok safeName
  isSerial : decodeAscii serial = .ok target

section Parse

variable {magic size crc name serial timeout : Bytes} {filename target : Text}
  {variant : FirmwareVariant}

theorem metadataFields_length (fit : FieldsFit size crc name serial timeout filename target) :
    (metadataFields size crc name serial timeout).length = 9 + name.length + serial.length := by
  have sizeWidth := fit.sizeWidth
  have crcWidth := fit.crcWidth
  have timeoutWidth := fit.timeoutWidth
  simp only [metadataFields, List.length_append, List.length_cons]
  omega

/-- The fields after the filename, whatever stands before them. -/
theorem parseMetadataTail_append (front : Bytes) (serialFits : serial.length ≤ 255)
    (timeoutWidth : timeout.length = 2) (isSerial : decodeAscii serial = .ok target) :
    parseMetadataTail (front ++ (0x00 :: (UInt8.ofNat serial.length :: (serial ++ timeout))))
      front.length = .ok (target, fromBig timeout) := by
  have total : (front ++ (0x00 :: (UInt8.ofNat serial.length :: (serial ++ timeout)))).length =
      front.length + serial.length + 4 := by
    simp only [List.length_append, List.length_cons]
    omega
  have terminator : item (front ++ (0x00 :: (UInt8.ofNat serial.length :: (serial ++ timeout))))
      front.length = .ok 0x00 := item_middle _ _ _ rfl
  -- the same payload, split at each field that is read
  have atSerialLen : front ++ (0x00 :: (UInt8.ofNat serial.length :: (serial ++ timeout))) =
      (front ++ [0x00]) ++ (UInt8.ofNat serial.length :: (serial ++ timeout)) := by simp
  have atSerial : front ++ (0x00 :: (UInt8.ofNat serial.length :: (serial ++ timeout))) =
      (front ++ [0x00, UInt8.ofNat serial.length]) ++ (serial ++ timeout) := by simp
  have atTimeout : front ++ (0x00 :: (UInt8.ofNat serial.length :: (serial ++ timeout))) =
      (front ++ [0x00, UInt8.ofNat serial.length] ++ serial) ++ (timeout ++ []) := by simp
  generalize front ++ (0x00 :: (UInt8.ofNat serial.length :: (serial ++ timeout))) = payload at *
  have serialLen : item payload (front.length + 1) = .ok (UInt8.ofNat serial.length) := by
    rw [atSerialLen]
    exact item_middle _ _ _ (by simp)
  have serialField : slice payload (front.length + 2) (front.length + 2 + serial.length) =
      serial := by
    rw [atSerial]
    exact slice_middle _ _ _ (by simp) (by simp)
  have timeoutField : slice payload (front.length + 2 + serial.length)
      (front.length + 2 + serial.length + 2) = timeout := by
    rw [atTimeout]
    exact slice_middle _ _ _ (by simp; omega) (by simp [timeoutWidth]; omega)
  rw [parseMetadataTail]
  rw [terminator]
  simp only [bind, Except.bind]
  rw [if_neg (by simp), serialLen]
  dsimp only
  rw [toNat_ofNat_length serialFits, if_neg (by omega), serialField, decodeField, isSerial,
    timeoutField]
  rfl

/-- What the parser reads where the filename stands between `front` and its NUL. -/
theorem parseFirmwareMetadata_spelled {payload front : Bytes}
    (spelled : payload = front ++ name ++
      (0x00 :: (UInt8.ofNat serial.length :: (serial ++ timeout))))
    (long : 15 ≤ payload.length) (opened : variant.magic ++ [0x00, 0x00] <+: payload)
    (bounds : filenameBounds payload variant = .ok (front.length, front.length + name.length))
    (isName : decodeAscii name = .ok filename)
    (safe : ∃ safeName, safeFirmwareFilename filename = .ok safeName)
    (serialFits : serial.length ≤ 255) (timeoutWidth : timeout.length = 2)
    (isSerial : decodeAscii serial = .ok target) :
    parseFirmwareMetadata payload (some variant) =
      .ok { size := fromBig (slice payload 7 9), crc := slice payload 9 11, filename := filename,
            serial := target, timeoutSeconds := fromBig timeout, variant := variant } := by
  have tail := parseMetadataTail_append (front ++ name) serialFits timeoutWidth isSerial
  rw [← spelled, List.length_append] at tail
  have nameField : slice payload front.length (front.length + name.length) = name := by
    rw [spelled, List.append_assoc]
    exact slice_middle _ _ _ rfl rfl
  have total : payload.length = front.length + name.length + serial.length + 4 := by
    simp only [spelled, List.length_append, List.length_cons]
    omega
  obtain ⟨safeName, safe⟩ := safe
  unfold parseFirmwareMetadata
  rw [Option.some_or]
  dsimp only
  rw [if_neg (by rw [not_or, not_not]; exact ⟨by omega, opened⟩), bounds]
  simp only [bind, Except.bind, pure, Except.pure]
  rw [if_neg (by omega), nameField, decodeField, isName]
  dsimp only
  rw [safe]
  dsimp only
  rw [tail]

/-- The size and the CRC after the transfer id and the chunk index. -/
theorem metadata_header (magicWidth : magic.length = 5) (sizeWidth : size.length = 2)
    (crcWidth : crc.length = 2) (rest : Bytes) :
    slice (magic ++ [0x00, 0x00] ++ (size ++ (crc ++ rest))) 7 9 = size ∧
      slice (magic ++ [0x00, 0x00] ++ (size ++ (crc ++ rest))) 9 11 = crc := by
  constructor
  · exact slice_middle _ _ _ (by simp [magicWidth]) (by simp [magicWidth, sizeWidth])
  · have split : magic ++ [0x00, 0x00] ++ (size ++ (crc ++ rest)) =
        (magic ++ [0x00, 0x00] ++ size) ++ (crc ++ rest) := by simp
    rw [split]
    exact slice_middle _ _ _ (by simp [magicWidth, sizeWidth])
      (by simp [magicWidth, sizeWidth, crcWidth])

/-- What the parser reads in the fields, for a variant with a length prefix. -/
theorem parseFirmwareMetadata_fields (prefixed : variant.filenameHasLength = true)
    (magicWidth : variant.magic.length = 5)
    (fit : FieldsFit size crc name serial timeout filename target) :
    parseFirmwareMetadata
        (variant.magic ++ [0x00, 0x00] ++ metadataFields size crc name serial timeout)
        (some variant) =
      .ok { size := fromBig size, crc := crc, filename := filename, serial := target,
            timeoutSeconds := fromBig timeout, variant := variant } := by
  obtain ⟨sizeField, crcField⟩ := metadata_header magicWidth fit.sizeWidth fit.crcWidth
    (UInt8.ofNat name.length :: (name ++ (0x00 :: (UInt8.ofNat serial.length ::
      (serial ++ timeout)))))
  let header := variant.magic ++ [0x00, 0x00] ++ size ++ crc
  have headerWidth : header.length = 11 := by
    simp [header, magicWidth, fit.sizeWidth, fit.crcWidth]
  have spelled : variant.magic ++ [0x00, 0x00] ++ metadataFields size crc name serial timeout =
      (header ++ [UInt8.ofNat name.length]) ++ name ++
        (0x00 :: (UInt8.ofNat serial.length :: (serial ++ timeout))) := by
    simp [metadataFields, header]
  have long : 15 ≤ (variant.magic ++ [0x00, 0x00] ++
      metadataFields size crc name serial timeout).length := by
    rw [List.length_append, metadataFields_length fit]
    simp only [List.length_append, List.length_cons, List.length_nil]
    omega
  have bounds : filenameBounds (variant.magic ++ [0x00, 0x00] ++
      metadataFields size crc name serial timeout) variant =
        .ok ((header ++ [UInt8.ofNat name.length]).length,
          (header ++ [UInt8.ofNat name.length]).length + name.length) := by
    have nameLen : item (variant.magic ++ [0x00, 0x00] ++
        metadataFields size crc name serial timeout) 11 = .ok (UInt8.ofNat name.length) := by
      rw [spelled]
      simp only [List.append_assoc]
      exact item_middle header _ _ headerWidth.symm
    rw [filenameBounds, if_pos prefixed, nameLen, List.length_append, headerWidth]
    simp only [bind, Except.bind, pure, Except.pure, toNat_ofNat_length fit.nameFits]
    rfl
  rw [parseFirmwareMetadata_spelled spelled long (List.prefix_append _ _) bounds fit.isName fit.safe
    fit.serialFits fit.timeoutWidth fit.isSerial, metadataFields, sizeField, crcField]

/-- **Metadata round trip**, for a variant with a length prefix. -/
theorem parseFirmwareMetadata_metadataPayload {size : Nat}
    (prefixed : variant.filenameHasLength = true)
    (magicWidth : variant.magic.length = 5) (crcWidth : crc.length = 2) (sizeFits : size < 256 ^ 2)
    (nameFits : name.length ≤ 255) (isName : decodeAscii name = .ok filename)
    (safe : safeFirmwareFilename filename = .ok filename) (serialFits : serial.length ≤ 255)
    (isSerial : decodeAscii serial = .ok target) :
    parseFirmwareMetadata (metadataPayload variant.magic size crc name serial) (some variant) =
      .ok { size := size, crc := crc, filename := filename, serial := target,
            timeoutSeconds := firmwareTimeoutSeconds, variant := variant } := by
  rw [metadataPayload_eq, parseFirmwareMetadata_fields prefixed magicWidth
    ⟨toBig_length _ _, crcWidth, toBig_length _ _, nameFits, serialFits, isName, ⟨_, safe⟩,
      isSerial⟩, fromBig_toBig sizeFits, fromBig_toBig (by decide)]

end Parse

/-! ## Payloads that are not metadata -/

theorem decodeField_cases (data : Bytes) (message : String) :
    decodeField data message = .error (.firmwareProtocolError message) ∨
      ∃ text, decodeAscii data = .ok text ∧ decodeField data message = .ok text := by
  rw [decodeField]
  cases decodeAscii data with
  | ok text => exact .inr ⟨text, rfl, rfl⟩
  | error raised => exact .inl rfl

/-- The fields after the filename are refused, or end the payload. -/
theorem parseMetadataTail_cases {payload : Bytes} {nameEnd : Nat}
    (bound : nameEnd + 4 ≤ payload.length) :
    (∃ message, parseMetadataTail payload nameEnd = .error (.firmwareProtocolError message)) ∨
      ∃ (serialLen : UInt8) (target : Text), payload[nameEnd]? = some 0x00 ∧
        payload[nameEnd + 1]? = some serialLen ∧
        nameEnd + 4 + serialLen.toNat = payload.length ∧
        decodeAscii (slice payload (nameEnd + 2) (nameEnd + 2 + serialLen.toNat)) =
          .ok target ∧
        parseMetadataTail payload nameEnd = .ok (target, fromBig (slice payload
          (nameEnd + 2 + serialLen.toNat) (nameEnd + 2 + serialLen.toNat + 2))) := by
  have atTerminator : nameEnd < payload.length := by omega
  have atSerialLen : nameEnd + 1 < payload.length := by omega
  rw [parseMetadataTail]
  rw [item_eq_ok atTerminator, item_eq_ok atSerialLen]
  simp only [bind, Except.bind]
  split
  · exact .inl ⟨_, rfl⟩
  rename_i terminated
  split
  · exact .inl ⟨_, rfl⟩
  rename_i complete
  rcases decodeField_cases
      (slice payload (nameEnd + 2) (nameEnd + 2 + payload[nameEnd + 1].toNat))
      "firmware target serial is not ASCII" with refused | ⟨target, isSerial, read⟩
  · rw [refused]
    exact .inl ⟨_, rfl⟩
  · refine .inr ⟨payload[nameEnd + 1], target, ?_, List.getElem?_eq_getElem atSerialLen, by omega,
      isSerial, ?_⟩
    · rw [List.getElem?_eq_getElem atTerminator, not_not.mp terminated]
    · rw [read]
      rfl

/-- The filename has bounds, or no NUL ends it. -/
theorem filenameBounds_cases {payload : Bytes} (long : 15 ≤ payload.length)
    (variant : FirmwareVariant) :
    (∃ message, filenameBounds payload variant = .error (.firmwareProtocolError message)) ∨
      ∃ nameStart nameEnd, filenameBounds payload variant = .ok (nameStart, nameEnd) := by
  have atNameLen : 11 < payload.length := by omega
  rw [filenameBounds]
  split
  · rw [item_eq_ok atNameLen]
    exact .inr ⟨_, _, rfl⟩
  · cases (payload.drop 11).idxOf? 0 with
    | none => exact .inl ⟨_, rfl⟩
    | some offset => exact .inr ⟨_, _, rfl⟩

/-- The fields of `metadata` are those read in the payload. -/
structure ReadFrom (payload : Bytes) (metadata : FirmwareMetadata) (nameStart nameEnd : Nat)
    (serialLen : UInt8) : Prop where
  long : 15 ≤ payload.length
  opened : metadata.variant.magic ++ [0x00, 0x00] <+: payload
  size : metadata.size = fromBig (slice payload 7 9)
  crc : metadata.crc = slice payload 9 11
  bounds : filenameBounds payload metadata.variant = .ok (nameStart, nameEnd)
  isName : decodeAscii (slice payload nameStart nameEnd) = .ok metadata.filename
  safe : ∃ safeName, safeFirmwareFilename metadata.filename = .ok safeName
  terminated : payload[nameEnd]? = some 0x00
  isSerialLen : payload[nameEnd + 1]? = some serialLen
  complete : nameEnd + 4 + serialLen.toNat = payload.length
  isSerial : decodeAscii (slice payload (nameEnd + 2) (nameEnd + 2 + serialLen.toNat)) =
    .ok metadata.serial
  timeout : metadata.timeoutSeconds = fromBig (slice payload (nameEnd + 2 + serialLen.toNat)
    (nameEnd + 2 + serialLen.toNat + 2))

/-- **The parser raises nothing but protocol errors**, and reads what it accepts. -/
theorem parseFirmwareMetadata_cases (payload : Bytes) (given : Option FirmwareVariant) :
    (∃ message, parseFirmwareMetadata payload given =
        .error (.firmwareProtocolError message)) ∨
      ∃ metadata nameStart nameEnd serialLen,
        parseFirmwareMetadata payload given = .ok metadata ∧
        given.or (variantForPayload payload) = some metadata.variant ∧
        ReadFrom payload metadata nameStart nameEnd serialLen := by
  unfold parseFirmwareMetadata
  cases chosen : given.or (variantForPayload payload) with
  | none => exact .inl ⟨_, rfl⟩
  | some variant =>
    dsimp only
    split
    · exact .inl ⟨_, rfl⟩
    rename_i opened
    rw [not_or, not_not] at opened
    have long : 15 ≤ payload.length := by omega
    rcases filenameBounds_cases long variant with ⟨message, refused⟩ | ⟨nameStart, nameEnd, bounds⟩
    · rw [refused]
      exact .inl ⟨message, rfl⟩
    rw [bounds]
    simp only [bind, Except.bind, pure, Except.pure]
    split
    · exact .inl ⟨_, rfl⟩
    rename_i room
    rcases decodeField_cases (slice payload nameStart nameEnd)
        "firmware filename is not ASCII" with refused | ⟨filename, isName, read⟩
    · rw [refused]
      exact .inl ⟨_, rfl⟩
    rw [read]
    dsimp only
    cases safe : safeFirmwareFilename filename with
    | error raised =>
      obtain ⟨message, rfl⟩ := safeFirmwareFilename_error safe
      exact .inl ⟨_, rfl⟩
    | ok safeName =>
      dsimp only
      rcases parseMetadataTail_cases (Nat.le_of_not_gt room) with
        ⟨message, refused⟩ | ⟨serialLen, target, terminated, isLen, complete, isSerial, tail⟩
      · rw [refused]
        exact .inl ⟨_, rfl⟩
      · rw [tail]
        refine .inr ⟨_, nameStart, nameEnd, serialLen, rfl, rfl, ?_⟩
        exact {
          long := long
          opened := opened.2
          size := rfl
          crc := rfl
          bounds := bounds
          isName := isName
          safe := ⟨safeName, safe⟩
          terminated := terminated
          isSerialLen := isLen
          complete := complete
          isSerial := isSerial
          timeout := rfl }

theorem parseFirmwareMetadata_error {payload : Bytes} {given : Option FirmwareVariant}
    {raised : PyError} (refused : parseFirmwareMetadata payload given = .error raised) :
    ∃ message, raised = .firmwareProtocolError message := by
  rcases parseFirmwareMetadata_cases payload given with
    ⟨message, isError⟩ | ⟨_, _, _, _, accepted, _⟩
  · cases refused.symm.trans isError
    exact ⟨message, rfl⟩
  · cases refused.symm.trans accepted

/-- A length prefix gives the filename its bounds. -/
theorem ReadFrom.prefixed {payload : Bytes} {metadata : FirmwareMetadata} {nameStart nameEnd : Nat}
    {serialLen : UInt8} (read : ReadFrom payload metadata nameStart nameEnd serialLen)
    (prefixed : metadata.variant.filenameHasLength = true) :
    ∃ nameLen : UInt8, payload[11]? = some nameLen ∧ nameStart = 12 ∧
      nameEnd = 12 + nameLen.toNat := by
  have long := read.long
  have atNameLen : 11 < payload.length := by omega
  have bounds := read.bounds
  rw [filenameBounds, if_pos prefixed, item_eq_ok atNameLen] at bounds
  cases bounds
  exact ⟨payload[11], List.getElem?_eq_getElem atNameLen, rfl, rfl⟩

/-- A payload of a multi-chunk image's first chunk is longer than metadata can be. -/
theorem parseFirmwareMetadata_long {payload : Bytes} {variant : FirmwareVariant}
    (prefixed : variant.filenameHasLength = true) (long : 526 < payload.length) :
    ∃ message, parseFirmwareMetadata payload (some variant) =
      .error (.firmwareProtocolError message) := by
  rcases parseFirmwareMetadata_cases payload (some variant) with
    refused | ⟨metadata, _, _, serialLen, _, chosen, read⟩
  · exact refused
  · -- the two lengths take a byte each
    obtain rfl : variant = metadata.variant := Option.some.inj chosen
    obtain ⟨nameLen, _, _, nameEnd⟩ := read.prefixed prefixed
    have complete := read.complete
    have nameSmall := nameLen.toNat_lt
    have serialSmall := serialLen.toNat_lt
    omega

/-- Bytes that the parser takes for the fields of metadata when they follow a transfer id and the
index 00 00. -/
def IsMetadata (fields : Bytes) : Prop :=
  ∃ size crc name serial timeout filename target,
    fields = metadataFields size crc name serial timeout ∧
      FieldsFit size crc name serial timeout filename target

theorem IsMetadata.length_le {fields : Bytes} (isMetadata : IsMetadata fields) :
    9 ≤ fields.length ∧ fields.length ≤ 519 := by
  obtain ⟨size, crc, name, serial, timeout, filename, target, rfl, fit⟩ := isMetadata
  have nameFits := fit.nameFits
  have serialFits := fit.serialFits
  rw [metadataFields_length fit]
  omega

theorem drop_eq_slice_append (data : Bytes) {start stop : Nat} (ordered : start ≤ stop) :
    data.drop start = slice data start stop ++ data.drop stop := by
  have split := List.take_append_drop (stop - start) (data.drop start)
  rw [List.drop_drop, Nat.add_sub_cancel' ordered] at split
  rw [slice, List.drop_take]
  exact split.symm

theorem drop_eq_cons {data : Bytes} {index : Nat} {byte : UInt8}
    (found : data[index]? = some byte) : data.drop index = byte :: data.drop (index + 1) := by
  obtain ⟨bound, rfl⟩ := List.getElem?_eq_some_iff.mp found
  exact List.drop_eq_getElem_cons bound

theorem slice_length_eq {data : Bytes} {start stop : Nat} (within : stop ≤ data.length) :
    (slice data start stop).length = stop - start := by
  rw [slice, List.length_drop, List.length_take]
  omega

/-- What follows the chunk index is made of the fields read in it. -/
theorem ReadFrom.fields {payload : Bytes} {metadata : FirmwareMetadata} {nameStart nameEnd : Nat}
    {serialLen : UInt8} (read : ReadFrom payload metadata nameStart nameEnd serialLen)
    (prefixed : metadata.variant.filenameHasLength = true) :
    ∃ size name serial timeout,
      payload.drop 7 = metadataFields size metadata.crc name serial timeout ∧
      FieldsFit size metadata.crc name serial timeout metadata.filename metadata.serial ∧
      metadata.size = fromBig size ∧ metadata.timeoutSeconds = fromBig timeout := by
  obtain ⟨nameLen, isNameLen, rfl, rfl⟩ := read.prefixed prefixed
  have long := read.long
  have complete := read.complete
  have nameWidth : (slice payload 12 (12 + nameLen.toNat)).length = nameLen.toNat := by
    rw [slice_length_eq (by omega)]
    omega
  have serialWidth : (slice payload (12 + nameLen.toNat + 2)
      (12 + nameLen.toNat + 2 + serialLen.toNat)).length = serialLen.toNat := by
    rw [slice_length_eq (by omega)]
    omega
  have timeoutEnds : slice payload (12 + nameLen.toNat + 2 + serialLen.toNat)
      (12 + nameLen.toNat + 2 + serialLen.toNat + 2) =
        payload.drop (12 + nameLen.toNat + 2 + serialLen.toNat) := by
    rw [slice, List.take_of_length_le (by omega)]
  refine ⟨slice payload 7 9, slice payload 12 (12 + nameLen.toNat),
    slice payload (12 + nameLen.toNat + 2) (12 + nameLen.toNat + 2 + serialLen.toNat),
    payload.drop (12 + nameLen.toNat + 2 + serialLen.toNat), ?_, ?_, read.size,
    timeoutEnds ▸ read.timeout⟩
  · rw [metadataFields, nameWidth, serialWidth, UInt8.ofNat_toNat, UInt8.ofNat_toNat, read.crc,
      drop_eq_slice_append payload (show 7 ≤ 9 by omega),
      drop_eq_slice_append payload (show 9 ≤ 11 by omega), drop_eq_cons isNameLen,
      drop_eq_slice_append payload (show 12 ≤ 12 + nameLen.toNat by omega),
      drop_eq_cons read.terminated, drop_eq_cons read.isSerialLen,
      drop_eq_slice_append payload (show
        12 + nameLen.toNat + 1 + 1 ≤ 12 + nameLen.toNat + 2 + serialLen.toNat by omega)]
  · have nameSmall := nameLen.toNat_lt
    have serialSmall := serialLen.toNat_lt
    exact {
      sizeWidth := slice_length_eq (by omega)
      crcWidth := by rw [read.crc, slice_length_eq (by omega)]
      timeoutWidth := by rw [List.length_drop]; omega
      nameFits := by rw [nameWidth]; omega
      serialFits := by rw [serialWidth]; omega
      isName := read.isName
      safe := read.safe
      isSerial := read.isSerial }

/-- **What the parser takes for metadata**, in a payload that opens like a first chunk. -/
theorem parseFirmwareMetadata_isMetadata {variant : FirmwareVariant} {fields : Bytes}
    (prefixed : variant.filenameHasLength = true) (magicWidth : variant.magic.length = 5) :
    (∃ metadata, IsMetadata fields ∧
      parseFirmwareMetadata (variant.magic ++ [0x00, 0x00] ++ fields) (some variant) =
        .ok metadata) ∨
    ¬ IsMetadata fields ∧ ∃ message,
      parseFirmwareMetadata (variant.magic ++ [0x00, 0x00] ++ fields) (some variant) =
        .error (.firmwareProtocolError message) := by
  by_cases isMetadata : IsMetadata fields
  · obtain ⟨size, crc, name, serial, timeout, filename, target, rfl, fit⟩ := isMetadata
    exact .inl ⟨_, ⟨_, _, _, _, _, _, _, rfl, fit⟩,
      parseFirmwareMetadata_fields prefixed magicWidth fit⟩
  refine .inr ⟨isMetadata, ?_⟩
  have afterIndex : (variant.magic ++ [0x00, 0x00] ++ fields).drop 7 = fields :=
    List.drop_left' (by simp [magicWidth])
  rcases parseFirmwareMetadata_cases (variant.magic ++ [0x00, 0x00] ++ fields) (some variant) with
    refused | ⟨metadata, _, _, _, _, chosen, read⟩
  · exact refused
  · obtain rfl : variant = metadata.variant := Option.some.inj chosen
    obtain ⟨size, name, serial, timeout, split, fit, _⟩ := read.fields prefixed
    exact absurd ⟨_, _, _, _, _, _, _, afterIndex.symm.trans split, fit⟩ isMetadata

/-- Neither is a payload that does not open with the transfer id and two zeros. -/
theorem parseFirmwareMetadata_unopened {payload : Bytes} {variant : FirmwareVariant}
    (unopened : ¬ variant.magic ++ [0x00, 0x00] <+: payload) :
    parseFirmwareMetadata payload (some variant) =
      .error (.firmwareProtocolError "not a firmware start payload") := by
  rw [parseFirmwareMetadata]
  rw [Option.some_or]
  dsimp only
  rw [if_pos (.inr unopened)]

end FoxessGateway.Firmware
