import FoxessGateway.Protocol.Extraction

/-! # Firmware images, transfer dialects and metadata

The data of `firmware.py`: the protocol variants, the filename filter, the image, and the
metadata payload that opens a transfer. -/

namespace FoxessGateway.Firmware

open ByteOrder Protocol

def firmwareMagic : Bytes := [0xfa, 0x6b, 0x7c, 0x7a, 0x4d]
def firmwareEnvelopeFunc : UInt8 := 0xA2
def firmwareChunkSize : Nat := 1024
def firmwareTimeoutSeconds : Nat := 300

/-- The part of a dynamic transfer id that does not vary between transfers. -/
def transferSignature : Bytes := [0x7c, 0x7a, 0x4d]

structure FirmwareVariant where
  name : String
  start : Bytes
  endMarker : Bytes
  family : Family
  func : UInt8
  magic : Bytes
  filenameHasLength : Bool
  crcFieldBigEndian : Bool
  finalAckSuffix : Bytes
  deriving DecidableEq, Repr

def FirmwareVariant.crcField (variant : FirmwareVariant) (crcLe : Bytes) : Bytes :=
  if variant.crcFieldBigEndian then crcLe.reverse else crcLe

def firmwareVariant7eA2 : FirmwareVariant where
  name := "foxess-7e-func-a2"
  start := marker7e
  endMarker := endE7
  family := .family7e
  func := firmwareEnvelopeFunc
  magic := firmwareMagic
  filenameHasLength := true
  crcFieldBigEndian := false
  finalAckSuffix := []

def firmwareVariant7f99 : FirmwareVariant where
  name := "foxess-7f-dynamic"
  start := marker7f
  endMarker := endF7
  family := .family7f
  func := 0x99
  magic := [0x01, 0x74, 0x7c, 0x7a, 0x4d]
  filenameHasLength := true
  crcFieldBigEndian := true
  finalAckSuffix := [0x00]

def firmwareVariant7fA2 : FirmwareVariant :=
  { firmwareVariant7f99 with
    name := "foxess-7f-func-a2", func := firmwareEnvelopeFunc, magic := firmwareMagic }

/-- The variant of a dynamic transfer, which chooses its own function byte and id. -/
def dynamicVariant (func : UInt8) (magic : Bytes) : FirmwareVariant :=
  { firmwareVariant7f99 with func := func, magic := magic }

/-! ## Filenames -/

/-- `Path(path).name` on POSIX: the last component that is neither empty nor a dot. -/
def pathName (path : Text) : Text :=
  ((path.splitOn '/').filter fun part => part ≠ [] ∧ part ≠ ['.']).getLast?.getD []

/-- The characters `_SAFE_FILENAME` leaves alone. -/
def isSafeFilenameChar (char : Char) : Bool :=
  ('A' ≤ char && char ≤ 'Z') || ('a' ≤ char && char ≤ 'z') || ('0' ≤ char && char ≤ '9') ||
    ['.', '_', '(', ')', ' ', '-'].contains char

/-- `_SAFE_FILENAME.sub("_", name)`: one underscore for each run of other characters.
`inRun` says that the previous character belongs to such a run. -/
def substituteUnsafe (inRun : Bool) : Text → Text
  | [] => []
  | char :: name =>
    if isSafeFilenameChar char then char :: substituteUnsafe false name
    else if inRun then substituteUnsafe true name
    else '_' :: substituteUnsafe true name

def safeFirmwareFilename (filename : Text) : Except PyError Text := do
  let name := substituteUnsafe false (strip (pathName filename))
  if name = [] ∨ name = ['.'] ∨ name = ['.', '.'] then
    .error (.firmwareProtocolError "invalid firmware filename")
  else
    let encoded ← encodeAscii name
    if encoded.length > 255 then
      .error (.firmwareProtocolError "firmware filename is too long")
    else .ok name

/-! ### A filtered name passes the filter -/

theorem isSafeFilenameChar_ascii {char : Char} (safe : isSafeFilenameChar char = true) :
    char.toNat < 128 := by
  simp only [isSafeFilenameChar, Bool.or_eq_true, Bool.and_eq_true, decide_eq_true_eq,
    List.contains_iff_mem, List.mem_cons, List.not_mem_nil, or_false] at safe
  have upTo : ∀ high : Char, char ≤ high → char.toNat ≤ high.toNat := fun high below => below
  rcases safe with ((⟨_, below⟩ | ⟨_, below⟩) | ⟨_, below⟩) | rfl | rfl | rfl | rfl | rfl | rfl
  · exact Nat.lt_of_le_of_lt (upTo _ below) (by decide)
  · exact Nat.lt_of_le_of_lt (upTo _ below) (by decide)
  · exact Nat.lt_of_le_of_lt (upTo _ below) (by decide)
  all_goals decide

theorem substituteUnsafe_safe (inRun : Bool) (name : Text) :
    ∀ char ∈ substituteUnsafe inRun name, isSafeFilenameChar char = true := by
  induction name generalizing inRun with
  | nil => simp [substituteUnsafe]
  | cons first name inductionHypothesis =>
    rw [substituteUnsafe]
    split
    · rename_i safe
      intro char member
      rcases List.mem_cons.mp member with rfl | later
      · exact safe
      · exact inductionHypothesis false char later
    · split
      · exact inductionHypothesis true
      · intro char member
        rcases List.mem_cons.mp member with rfl | later
        · decide
        · exact inductionHypothesis true char later

/-- A filtered name is ASCII. -/
theorem encodeAscii_substituteUnsafe (inRun : Bool) (name : Text) :
    encodeAscii (substituteUnsafe inRun name) =
      .ok ((substituteUnsafe inRun name).map fun char => UInt8.ofNat char.toNat) := by
  rw [encodeAscii, if_pos]
  simp only [List.all_eq_true, decide_eq_true_eq]
  exact fun char member => isSafeFilenameChar_ascii (substituteUnsafe_safe inRun name char member)

theorem substituteUnsafe_of_safe (inRun : Bool) {name : Text}
    (safe : ∀ char ∈ name, isSafeFilenameChar char = true) :
    substituteUnsafe inRun name = name := by
  induction name generalizing inRun with
  | nil => rfl
  | cons first name inductionHypothesis =>
    rw [substituteUnsafe, if_pos (safe first (by simp)),
      inductionHypothesis false fun char member => safe char (by simp [member])]

theorem strip_ends (text : Text) :
    (∀ char, (strip text).head? = some char → isSpace char = false) ∧
      (∀ char, (strip text).getLast? = some char → isSpace char = false) := by
  have dropped : ∀ (text : Text) char, (text.dropWhile isSpace).head? = some char →
      isSpace char = false := by
    intro text char atHead
    have := List.head?_dropWhile_not isSpace text
    rw [atHead] at this
    simpa using this
  constructor
  · intro char atHead
    rw [strip] at atHead
    -- the head of the stripped text is the head of the text stripped on the left
    have suffix : (text.dropWhile isSpace).reverse.dropWhile isSpace <:+
        (text.dropWhile isSpace).reverse := List.dropWhile_suffix isSpace
    obtain ⟨front, split⟩ := suffix
    have reversed := congrArg List.reverse split
    rw [List.reverse_append, List.reverse_reverse] at reversed
    apply dropped text char
    rw [← reversed, List.head?_append, atHead]
    rfl
  · intro char atEnd
    rw [strip] at atEnd
    rw [List.getLast?_reverse] at atEnd
    exact dropped _ char atEnd

theorem strip_eq_self {text : Text}
    (head : ∀ char, text.head? = some char → isSpace char = false)
    (last : ∀ char, text.getLast? = some char → isSpace char = false) : strip text = text := by
  have kept : ∀ {text : Text}, (∀ char, text.head? = some char → isSpace char = false) →
      text.dropWhile isSpace = text := by
    intro text head
    cases text with
    | nil => rfl
    | cons first text => rw [List.dropWhile_cons, if_neg (by simp [head first rfl])]
  have lastKept : ∀ char, text.reverse.head? = some char → isSpace char = false := by
    intro char atEnd
    rw [List.head?_reverse] at atEnd
    exact last char atEnd
  rw [strip, kept head, kept lastKept, List.reverse_reverse]

theorem substituteUnsafe_head {name : Text}
    (head : ∀ char, name.head? = some char → isSpace char = false) :
    ∀ char, (substituteUnsafe false name).head? = some char → isSpace char = false := by
  cases name with
  | nil => simp [substituteUnsafe]
  | cons first name =>
    intro char atHead
    rw [substituteUnsafe] at atHead
    split at atHead
    · obtain rfl : first = char := by simpa using atHead
      exact head first rfl
    · obtain rfl : '_' = char := by simpa using atHead
      decide

theorem substituteUnsafe_last (inRun : Bool) {name : Text}
    (last : ∀ char, name.getLast? = some char → isSpace char = false) :
    ∀ char, (substituteUnsafe inRun name).getLast? = some char → isSpace char = false := by
  induction name generalizing inRun with
  | nil => simp [substituteUnsafe]
  | cons first name inductionHypothesis =>
    have lastLater : ∀ char, name.getLast? = some char → isSpace char = false := by
      intro char atEnd
      apply last char
      cases name with
      | nil => cases atEnd
      | cons second name =>
        rw [List.getLast?_cons_cons]
        exact atEnd
    intro char atEnd
    rw [substituteUnsafe] at atEnd
    split at atEnd
    · rw [List.getLast?_cons] at atEnd
      cases later : (substituteUnsafe false name).getLast? with
      | none =>
        -- nothing follows, so the character is the last of the name too
        obtain rfl : first = char := by simpa [later] using atEnd
        have nothing : name = [] := by
          cases name with
          | nil => rfl
          | cons second name =>
            rw [List.getLast?_eq_none_iff, substituteUnsafe] at later
            split at later <;> simp at later
        exact last first (by rw [nothing]; rfl)
      | some other =>
        obtain rfl : other = char := by simpa [later] using atEnd
        exact inductionHypothesis false lastLater other later
    · split at atEnd
      · exact inductionHypothesis true lastLater char atEnd
      · rw [List.getLast?_cons] at atEnd
        cases later : (substituteUnsafe true name).getLast? with
        | none =>
          obtain rfl : '_' = char := by simpa [later] using atEnd
          decide
        | some other =>
          obtain rfl : other = char := by simpa [later] using atEnd
          exact inductionHypothesis true lastLater other later

theorem pathName_eq_self {name : Text} (noSlash : '/' ∉ name) (nonempty : name ≠ [])
    (notDot : name ≠ ['.']) : pathName name = name := by
  have single : name.splitOn '/' = [name] := by
    apply List.splitOnP_eq_singleton
    intro char member
    exact beq_false_of_ne fun same => noSlash (same ▸ member)
  rw [pathName, single]
  simp [nonempty, notDot]

/-- What `safeFirmwareFilename` accepts. -/
theorem safeFirmwareFilename_ok_iff {filename name : Text} :
    safeFirmwareFilename filename = .ok name ↔
      name = substituteUnsafe false (strip (pathName filename)) ∧
        ¬ (name = [] ∨ name = ['.'] ∨ name = ['.', '.']) ∧ name.length ≤ 255 := by
  have encodes := encodeAscii_substituteUnsafe false (strip (pathName filename))
  rw [safeFirmwareFilename]
  generalize substituteUnsafe false (strip (pathName filename)) = filtered at encodes
  by_cases invalid : filtered = [] ∨ filtered = ['.'] ∨ filtered = ['.', '.']
  · simp only [invalid, if_true, reduceCtorEq, false_iff]
    rintro ⟨rfl, valid, _⟩
    exact valid invalid
  · simp only [invalid, if_false, encodes, bind, Except.bind, List.length_map]
    by_cases long : filtered.length > 255
    · simp only [long, if_true, reduceCtorEq, false_iff]
      rintro ⟨rfl, _, short⟩
      omega
    · simp only [long, if_false, Except.ok.injEq]
      constructor
      · rintro rfl
        exact ⟨rfl, invalid, by omega⟩
      · exact fun accepted => accepted.1.symm

/-- The filter raises nothing but protocol errors. -/
theorem safeFirmwareFilename_error {filename : Text} {raised : PyError}
    (refused : safeFirmwareFilename filename = .error raised) :
    ∃ message, raised = .firmwareProtocolError message := by
  have encodes := encodeAscii_substituteUnsafe false (strip (pathName filename))
  rw [safeFirmwareFilename] at refused
  generalize substituteUnsafe false (strip (pathName filename)) = filtered at encodes refused
  simp only [encodes, bind, Except.bind] at refused
  split at refused
  · cases refused
    exact ⟨_, rfl⟩
  split at refused <;> cases refused
  exact ⟨_, rfl⟩

/-- What `safeFirmwareFilename` returns it accepts and returns again. -/
theorem safeFirmwareFilename_idem {filename name : Text}
    (accepted : safeFirmwareFilename filename = .ok name) :
    safeFirmwareFilename name = .ok name := by
  obtain ⟨filtered, valid, short⟩ := safeFirmwareFilename_ok_iff.mp accepted
  have safe : ∀ char ∈ name, isSafeFilenameChar char = true := by
    rw [filtered]
    exact substituteUnsafe_safe false _
  have ends := strip_ends (pathName filename)
  have head : ∀ char, name.head? = some char → isSpace char = false := by
    rw [filtered]
    exact substituteUnsafe_head ends.1
  have last : ∀ char, name.getLast? = some char → isSpace char = false := by
    rw [filtered]
    exact substituteUnsafe_last false ends.2
  -- so no step of the filter finds anything to change
  have noSlash : '/' ∉ name := fun member => absurd (safe _ member) (by decide)
  refine safeFirmwareFilename_ok_iff.mpr ⟨?_, valid, short⟩
  rw [pathName_eq_self noSlash (fun same => valid (.inl same))
    (fun same => valid (.inr (.inl same))), strip_eq_self head last,
      substituteUnsafe_of_safe _ safe]

/-- A filtered name as ASCII bytes. -/
theorem encodeAscii_filename {filename name : Text}
    (accepted : safeFirmwareFilename filename = .ok name) :
    ∃ bytes, encodeAscii name = .ok bytes ∧ bytes.length ≤ 255 := by
  obtain ⟨filtered, _, short⟩ := safeFirmwareFilename_ok_iff.mp accepted
  have encodes := encodeAscii_substituteUnsafe false (strip (pathName filename))
  rw [← filtered] at encodes
  exact ⟨_, encodes, by simpa using short⟩

/-! ## Images -/

/-- A firmware image; the proofs are what `FirmwareImage.from_bytes` checks and computes. -/
structure FirmwareImage where
  data : Bytes
  filename : Text
  size : Nat
  crc : Bytes
  nonempty : data ≠ []
  fits : data.length ≤ 0xFFFF
  safe : safeFirmwareFilename filename = .ok filename
  sized : size = data.length
  checked : crc = crc16Le data

def FirmwareImage.fromBytes (data : Bytes) (filename : Text) : Except PyError FirmwareImage :=
  if empty : data = [] then .error (.firmwareProtocolError "firmware image is empty")
  else if long : data.length > 0xFFFF then
    .error (.firmwareProtocolError
      "firmware image exceeds the protocol's 65535-byte size field")
  else
    match accepted : safeFirmwareFilename filename with
    | .error raised => .error raised
    | .ok safeName => .ok {
        data := data
        filename := safeName
        size := data.length
        crc := crc16Le data
        nonempty := empty
        fits := Nat.le_of_not_gt long
        safe := safeFirmwareFilename_idem accepted
        sized := rfl
        checked := rfl }

/-! ## Metadata -/

structure FirmwareMetadata where
  size : Nat
  crc : Bytes
  filename : Text
  serial : Text
  timeoutSeconds : Nat
  variant : FirmwareVariant
  deriving DecidableEq, Repr

def variantForPayload (payload : Bytes) : Option FirmwareVariant :=
  if firmwareVariant7eA2.magic <+: payload then some firmwareVariant7fA2
  else if payload.length ≥ 5 ∧ slice payload 2 5 = transferSignature then
    some (dynamicVariant firmwareVariant7f99.func (payload.take 5))
  else none

/-- `data.decode("ascii")` with the error turned into a protocol error. -/
def decodeField (data : Bytes) (message : String) : Except PyError Text :=
  match decodeAscii data with
  | .ok text => .ok text
  | .error _ => .error (.firmwareProtocolError message)

/-- Where the filename of a metadata payload begins and ends. -/
def filenameBounds (payload : Bytes) (variant : FirmwareVariant) : Except PyError (Nat × Nat) :=
  if variant.filenameHasLength then do
    let nameLen ← item payload 11
    return (12, 12 + nameLen.toNat)
  else
    match (payload.drop 11).idxOf? 0 with
    | some offset => .ok (11, 11 + offset)
    | none => .error (.firmwareProtocolError "firmware filename is not NUL-terminated")

/-- The fields of a metadata payload from the NUL after the filename on. -/
def parseMetadataTail (payload : Bytes) (nameEnd : Nat) : Except PyError (Text × Nat) := do
  let terminator ← item payload nameEnd
  if terminator ≠ 0 then
    .error (.firmwareProtocolError "firmware filename is not NUL-terminated")
  else
    let serialLen ← item payload (nameEnd + 1)
    let serialStart := nameEnd + 2
    let serialEnd := serialStart + serialLen.toNat
    if serialEnd + 2 ≠ payload.length then
      .error (.firmwareProtocolError "truncated firmware metadata serial or timeout")
    else
      let serial ← decodeField (slice payload serialStart serialEnd)
        "firmware target serial is not ASCII"
      return (serial, fromBig (slice payload serialEnd (serialEnd + 2)))

def parseFirmwareMetadata (payload : Bytes) (given : Option FirmwareVariant) :
    Except PyError FirmwareMetadata :=
  -- `variant or variant_for_payload(payload)`
  match given.or (variantForPayload payload) with
  | none => .error (.firmwareProtocolError "not a firmware start payload")
  | some variant =>
    if payload.length < 15 ∨ ¬ (variant.magic ++ [0x00, 0x00]) <+: payload then
      .error (.firmwareProtocolError "not a firmware start payload")
    else do
      let size := fromBig (slice payload 7 9)
      let crc := slice payload 9 11
      let (nameStart, nameEnd) ← filenameBounds payload variant
      if nameEnd + 4 > payload.length then
        .error (.firmwareProtocolError "truncated firmware metadata filename")
      else
        let filename ← decodeField (slice payload nameStart nameEnd)
          "firmware filename is not ASCII"
        -- only checked: the metadata keeps the name as it was received
        let _ ← safeFirmwareFilename filename
        let (serial, timeoutSeconds) ← parseMetadataTail payload nameEnd
        return { size, crc, filename, serial, timeoutSeconds, variant }

def filenameField (name : Bytes) (variant : FirmwareVariant) : Except PyError Bytes :=
  if variant.filenameHasLength then do
    let nameLen ← byteOf name.length
    return [nameLen] ++ name ++ [0x00]
  else .ok (name ++ [0x00])

def buildFirmwareMetadata (image : FirmwareImage) (serial : Text) (variant : FirmwareVariant) :
    Except PyError Bytes := do
  let serialBytes ← encodeAscii serial
  if serialBytes = [] ∨ serialBytes.length > 255 then
    .error (.firmwareProtocolError "invalid target serial length")
  else
    let name ← encodeAscii image.filename
    let filenameField ← filenameField name variant
    let size ← toBytes image.size 2
    let serialLen ← byteOf serialBytes.length
    let timeout ← toBytes firmwareTimeoutSeconds 2
    return variant.magic ++ [0x00, 0x00] ++ size ++ variant.crcField image.crc ++ filenameField ++
      [serialLen] ++ serialBytes ++ timeout

/-! ## Which frames belong to a transfer -/

def firmwareVariantForFrame (frame : Frame) : Option FirmwareVariant :=
  if frame.family = firmwareVariant7eA2.family ∧ frame.func = firmwareVariant7eA2.func ∧
      firmwareVariant7eA2.magic <+: frame.payload then
    some firmwareVariant7eA2
  else if frame.family = firmwareVariant7fA2.family ∧ frame.func = firmwareVariant7fA2.func ∧
      firmwareVariant7fA2.magic <+: frame.payload then
    some firmwareVariant7fA2
  else if frame.family = firmwareVariant7f99.family ∧
      (frame.device.take 1 = [0x21] ∨ frame.device.take 1 = [0x22]) ∧
      frame.payload.length ≥ 5 ∧ slice frame.payload 2 5 = transferSignature then
    some (dynamicVariant frame.func (frame.payload.take 5))
  else none

def isFirmwareTransferFrame (frame : Frame) : Bool := (firmwareVariantForFrame frame).isSome

end FoxessGateway.Firmware
