import FoxessGateway.Firmware.MetadataCodec

/-! # The layout of metadata

What `build_firmware_metadata` writes for an image is read back, in every variant; and what is
accepted in a variant with a length prefix is nothing but the fields that were read. -/

namespace FoxessGateway.Firmware

open ByteOrder Protocol

/-! ## Reading it back -/

theorem idxOf?_append_cons {byte : UInt8} {before : Bytes} (absent : byte ∉ before)
    (after : Bytes) :
    (before ++ byte :: after).idxOf? byte = some before.length := by
  induction before with
  | nil => simp [List.idxOf?_cons]
  | cons first before inductionHypothesis =>
    have differs : (first == byte) = false :=
      beq_false_of_ne fun same => absent (same ▸ List.mem_cons_self)
    have later := inductionHypothesis fun member => absent (List.mem_cons_of_mem _ member)
    rw [List.cons_append, List.idxOf?_cons, differs, later]
    rfl

/-- A filename is found by its length, or by the NUL that ends it. -/
theorem filenameBounds_spelled {header name : Bytes} (headerWidth : header.length = 11)
    (nameFits : name.length ≤ 255) (noNul : 0x00 ∉ name) (rest : Bytes)
    (variant : FirmwareVariant) :
    filenameBounds (header ++ namePrefix variant name ++ name ++ (0x00 :: rest)) variant =
      .ok ((header ++ namePrefix variant name).length,
        (header ++ namePrefix variant name).length + name.length) := by
  rw [filenameBounds, namePrefix]
  split
  · have nameLen : item (header ++ [UInt8.ofNat name.length] ++ name ++ (0x00 :: rest)) 11 =
        .ok (UInt8.ofNat name.length) := by
      simp only [List.append_assoc]
      exact item_middle header _ _ headerWidth.symm
    rw [nameLen, List.length_append, headerWidth]
    simp only [bind, Except.bind, pure, Except.pure, toNat_ofNat_length nameFits]
    rfl
  · have after : (header ++ [] ++ name ++ (0x00 :: rest)).drop 11 = name ++ (0x00 :: rest) := by
      rw [List.append_nil, List.append_assoc, List.drop_left' headerWidth]
    rw [after, idxOf?_append_cons noNul, List.append_nil, headerWidth]

/-- No character that the filter lets pass is a NUL. -/
theorem filename_noNul {filename safeName : Text} {name : Bytes}
    (accepted : safeFirmwareFilename filename = .ok safeName)
    (isName : encodeAscii safeName = .ok name) : 0x00 ∉ name := by
  obtain ⟨filtered, _⟩ := safeFirmwareFilename_ok_iff.mp accepted
  rw [encodeAscii] at isName
  split at isName
  · cases isName
    intro member
    obtain ⟨char, among, isNul⟩ := List.mem_map.mp member
    have safe : isSafeFilenameChar char = true := by
      rw [filtered] at among
      exact substituteUnsafe_safe false _ char among
    have ascii := isSafeFilenameChar_ascii safe
    have code := congrArg UInt8.toNat isNul
    rw [UInt8.toNat_ofNat'] at code
    -- below 128 the byte is the character's own code
    obtain rfl : char = Char.ofNat 0 := by
      rw [← Char.ofNat_toNat char]
      congr 1
      change char.toNat % 256 = 0 at code
      omega
    exact absurd safe (by decide)
  · cases isName

/-- What is built for an image and a serial is read back. -/
theorem parseFirmwareMetadata_built {image : FirmwareImage} {serial : Text}
    {variant : FirmwareVariant} {serialBytes : Bytes} (magicWidth : variant.magic.length = 5)
    (isSerial : encodeAscii serial = .ok serialBytes) (known : serialBytes ≠ [])
    (serialFits : serialBytes.length ≤ 255) :
    ∃ payload, buildFirmwareMetadata image serial variant = .ok payload ∧
      parseFirmwareMetadata payload (some variant) =
        .ok { size := image.size, crc := variant.crcField image.crc, filename := image.filename,
              serial := serial, timeoutSeconds := 300, variant := variant } := by
  obtain ⟨name, isName, nameFits⟩ := encodeAscii_filename image.safe
  refine ⟨_, buildFirmwareMetadata_spelled isName nameFits isSerial known serialFits variant, ?_⟩
  have sizeFits : image.size < 256 ^ 2 := by
    have fits := image.fits
    rw [image.sized]
    omega
  have crcWidth : (variant.crcField image.crc).length = 2 := by
    rw [image.checked]
    exact variant.crcField_length image.data
  obtain ⟨sizeField, crcField⟩ := metadata_header magicWidth (toBig_length 2 image.size) crcWidth
    (namePrefix variant name ++ name ++ (0x00 :: (UInt8.ofNat serialBytes.length ::
      (serialBytes ++ toBig 2 firmwareTimeoutSeconds))))
  let header := variant.magic ++ [0x00, 0x00] ++ toBig 2 image.size ++ variant.crcField image.crc
  have headerWidth : header.length = 11 := by simp [header, magicWidth, crcWidth]
  have spelled : variant.magic ++ [0x00, 0x00] ++ (toBig 2 image.size ++
      (variant.crcField image.crc ++ (namePrefix variant name ++ name ++
        (0x00 :: (UInt8.ofNat serialBytes.length ::
          (serialBytes ++ toBig 2 firmwareTimeoutSeconds)))))) =
      (header ++ namePrefix variant name) ++ name ++
        (0x00 :: (UInt8.ofNat serialBytes.length ::
          (serialBytes ++ toBig 2 firmwareTimeoutSeconds))) := by
    simp [header]
  -- without a length the filename ends at the first NUL, which is the one behind it
  have bounds := filenameBounds_spelled headerWidth nameFits (filename_noNul image.safe isName)
    (UInt8.ofNat serialBytes.length :: (serialBytes ++ toBig 2 firmwareTimeoutSeconds)) variant
  rw [← spelled] at bounds
  have some : 0 < serialBytes.length := List.length_pos_iff.mpr known
  have long : 15 ≤ (variant.magic ++ [0x00, 0x00] ++ (toBig 2 image.size ++
      (variant.crcField image.crc ++ (namePrefix variant name ++ name ++
        (0x00 :: (UInt8.ofNat serialBytes.length ::
          (serialBytes ++ toBig 2 firmwareTimeoutSeconds))))))).length := by
    rw [spelled]
    simp only [List.length_append, List.length_cons, headerWidth, toBig_length]
    omega
  have opened : variant.magic ++ [0x00, 0x00] <+: variant.magic ++ [0x00, 0x00] ++
      (toBig 2 image.size ++ (variant.crcField image.crc ++ (namePrefix variant name ++ name ++
        (0x00 :: (UInt8.ofNat serialBytes.length ::
          (serialBytes ++ toBig 2 firmwareTimeoutSeconds)))))) := List.prefix_append _ _
  rw [parseFirmwareMetadata_spelled spelled long opened bounds (decodeAscii_of_encodeAscii isName)
    ⟨_, image.safe⟩ serialFits (toBig_length _ _) (decodeAscii_of_encodeAscii isSerial), sizeField,
    crcField, fromBig_toBig sizeFits, fromBig_toBig (by decide)]
  rfl

/-! ## What is accepted -/

/-- The payload that the fields stand for, in a variant with a length prefix. -/
def FirmwareMetadata.layout (metadata : FirmwareMetadata) : Except PyError Bytes := do
  let name ← encodeAscii metadata.filename
  let serial ← encodeAscii metadata.serial
  return metadata.variant.magic ++ [0x00, 0x00] ++ metadataFields (toBig 2 metadata.size)
    metadata.crc name serial (toBig 2 metadata.timeoutSeconds)

/-- Whatever the parser accepts is the layout of the fields it reads. -/
theorem ReadFrom.layout {payload : Bytes} {metadata : FirmwareMetadata} {nameStart nameEnd : Nat}
    {serialLen : UInt8} (read : ReadFrom payload metadata nameStart nameEnd serialLen)
    (prefixed : metadata.variant.filenameHasLength = true)
    (magicWidth : metadata.variant.magic.length = 5) : metadata.layout = .ok payload := by
  obtain ⟨size, name, serial, timeout, split, fit, isSize, isTimeout⟩ := read.fields prefixed
  have opened : payload = metadata.variant.magic ++ [0x00, 0x00] ++ payload.drop 7 := by
    obtain ⟨rest, rfl⟩ := read.opened
    rw [List.drop_left' (by simp [magicWidth])]
  have sizeField : toBig 2 metadata.size = size := by
    rw [isSize, ← fit.sizeWidth, toBig_fromBig]
  have timeoutField : toBig 2 metadata.timeoutSeconds = timeout := by
    rw [isTimeout, ← fit.timeoutWidth, toBig_fromBig]
  rw [FirmwareMetadata.layout, encodeAscii_of_decodeAscii fit.isName,
    encodeAscii_of_decodeAscii fit.isSerial, sizeField, timeoutField]
  conv_rhs => rw [opened, split]
  rfl

/-- The variants that transfers use have transfer ids of five bytes. -/
theorem variantForPayload_width {payload : Bytes} {variant : FirmwareVariant}
    (chosen : variantForPayload payload = some variant) : variant.magic.length = 5 := by
  rw [variantForPayload] at chosen
  split at chosen
  · cases chosen
    rfl
  · split at chosen
    · rename_i long
      cases chosen
      exact List.length_take_of_le long.1
    · cases chosen

/-- A payload is accepted as the layout of its fields, in a variant that was given with a transfer
id of five bytes or is found in the payload. -/
theorem layout_of_accepted {payload : Bytes} {given : Option FirmwareVariant}
    {metadata : FirmwareMetadata} (magicWidth : ∀ variant ∈ given, variant.magic.length = 5)
    (accepted : parseFirmwareMetadata payload given = .ok metadata)
    (prefixed : metadata.variant.filenameHasLength = true) : metadata.layout = .ok payload := by
  rcases parseFirmwareMetadata_cases payload given with
    ⟨_, refused⟩ | ⟨other, nameStart, nameEnd, serialLen, isOther, chosen, read⟩
  · cases accepted.symm.trans refused
  obtain rfl : metadata = other := Except.ok.inj (accepted.symm.trans isOther)
  apply read.layout prefixed
  cases given with
  | none => exact variantForPayload_width chosen
  | some variant =>
    rw [Option.some_or] at chosen
    exact magicWidth _ chosen

/-- **The metadata codec.**  What is built is read back in every variant, the parser raises nothing
but protocol errors, and what it accepts with a length prefix is the layout of what it reads, so
that no two payloads give the same metadata. -/
theorem firmwareMetadata_codec :
    (∀ (image : FirmwareImage) (serial : Text) (variant : FirmwareVariant) (serialBytes : Bytes),
      variant.magic.length = 5 → encodeAscii serial = .ok serialBytes → serialBytes ≠ [] →
      serialBytes.length ≤ 255 →
      ∃ payload, buildFirmwareMetadata image serial variant = .ok payload ∧
        parseFirmwareMetadata payload (some variant) =
          .ok { size := image.size, crc := variant.crcField image.crc,
                filename := image.filename, serial := serial, timeoutSeconds := 300,
                variant := variant }) ∧
    (∀ (payload : Bytes) (given : Option FirmwareVariant),
      (∃ message, parseFirmwareMetadata payload given = .error (.firmwareProtocolError message)) ∨
        ∃ metadata, parseFirmwareMetadata payload given = .ok metadata) ∧
    (∀ (payload : Bytes) (given : Option FirmwareVariant) (metadata : FirmwareMetadata),
      (∀ variant ∈ given, variant.magic.length = 5) →
      parseFirmwareMetadata payload given = .ok metadata →
      metadata.variant.filenameHasLength = true → metadata.layout = .ok payload) ∧
    ∀ (first second : Bytes) (firstGiven secondGiven : Option FirmwareVariant)
      (metadata : FirmwareMetadata),
      (∀ variant ∈ firstGiven, variant.magic.length = 5) →
      (∀ variant ∈ secondGiven, variant.magic.length = 5) →
      parseFirmwareMetadata first firstGiven = .ok metadata →
      parseFirmwareMetadata second secondGiven = .ok metadata →
      metadata.variant.filenameHasLength = true → first = second := by
  refine ⟨?_, ?_, ?_, ?_⟩
  · intro image serial variant serialBytes magicWidth isSerial known serialFits
    exact parseFirmwareMetadata_built magicWidth isSerial known serialFits
  · intro payload given
    rcases parseFirmwareMetadata_cases payload given with refused | ⟨metadata, _, _, _, accepted, _⟩
    · exact .inl refused
    · exact .inr ⟨metadata, accepted⟩
  · intro payload given metadata magicWidth accepted prefixed
    exact layout_of_accepted magicWidth accepted prefixed
  · intro first second firstGiven secondGiven metadata firstWidth secondWidth firstAccepted
      secondAccepted prefixed
    have firstLayout := layout_of_accepted firstWidth firstAccepted prefixed
    have secondLayout := layout_of_accepted secondWidth secondAccepted prefixed
    exact Except.ok.inj (firstLayout.symm.trans secondLayout)

end FoxessGateway.Firmware
