import FoxessGateway.Firmware.Uploader
import FoxessGateway.IntLiteral
import FoxessGateway.Library.Json.Documents
import FoxessGateway.Library.Sha256
import FoxessGateway.Library.Utf8

/-! # The firmware control socket

`handle_firmware_control` of the daemon: a length, a JSON header and the image come in, of which
nothing is passed on that has not been checked, and one line of JSON goes out. -/

namespace FoxessGateway.Firmware

open ByteOrder JsonText

/-- What `handle_firmware_control` catches before the upload. -/
inductive ControlError where
  | protocol (message : Text)
  | filename (error : PyError)
  | json (text : Text) (fault : Fault)
  | incompleteRead
  | unicodeDecode
  /-- The header has no `get`. -/
  | attribute
  /-- `int` of a value that is no number. -/
  | type
  /-- `int` of a text that is no literal. -/
  | value (text : Text)
  | overflow
  deriving DecidableEq, Repr

/-- What Python makes of values where the handler depends on it: how deep JSON texts may be nested
and how many digits their numbers may have, `str` of a value that is no text, `int` of a float,
`repr` of a text, the lower case of a text that is not ASCII, and the text of an error that has none
of its own here. -/
structure ControlWorld where
  limits : Limits
  strOf : Json → Text
  truncate : Json → Except ControlError Int
  repr : Text → Text
  lowerOf : Text → Text
  describe : ControlError → Text
  deep : 4 ≤ limits.depth
  /-- The least limit that can be set. -/
  wide : 640 ≤ limits.digits

namespace ControlWorld

variable (world : ControlWorld)

/-- `str(value)` -/
def str : Json → Text
  | .text value => value
  | value => world.strOf value

/-- `int(value)` -/
def int : Json → Except ControlError Int
  | .int value => .ok value
  | .bool value => .ok (if value then 1 else 0)
  | .text value =>
    match intLiteral value with
    | some value => .ok value
    | none => .error (.value value)
  | .null | .list _ | .dict _ => .error .type
  | value => world.truncate value

/-- `text.lower()` -/
def lower (text : Text) : Text :=
  if text.all (·.toNat < 128) then text.map Char.toLower else world.lowerOf text

/-- `str(exc) or type(exc).__name__` -/
def errorText : ControlError → Text
  | .protocol message => message
  | .json text fault => (fault.message text).toList
  | error => world.describe error

end ControlWorld

/-- `bool(value)` -/
def truthy : Json → Bool
  | .null => false
  | .bool value => value
  | .int value => value ≠ 0
  | .real numeral => numeral.whole ≠ 0 ∨ numeral.fraction.any (·.val ≠ 0)
  | .nan | .infinite _ => true
  | .text value => value ≠ []
  | .list elements => elements.length ≠ 0
  | .dict entries => entries.length ≠ 0

/-- `header.get(key, default)` -/
def getOr (entries : List (Text × Json)) (key : String) (default : Json) : Json :=
  (get entries key.toList).getD default

/-- `await reader.readexactly(count)`: what is read, and what comes after it. -/
def readExactly (count : Nat) (stream : Bytes) : Except ControlError (Bytes × Bytes) :=
  if stream.length < count then .error .incompleteRead
  else .ok (stream.take count, stream.drop count)

/-- `json.loads(data.decode("utf-8"))` -/
def loadsBytes (limits : Limits) (data : Bytes) : Except ControlError Json :=
  match Utf8.decodeStrict data with
  | none => .error .unicodeDecode
  | some text =>
    match loads limits text with
    | .error fault => .error (.json text fault)
    | .ok value => .ok value

/-- The entries of a value that has a `get`. -/
def entriesOf : Json → Except ControlError (List (Text × Json))
  | .dict entries => .ok entries
  | _ => .error .attribute

/-! ## The request -/

structure UpgradeOrder where
  image : FirmwareImage
  serial : Text
  protocol : Text

def isText (text : Text) : Json → Bool
  | .text value => value = text
  | _ => false

/-- The header and the rest of the stream. -/
def readHeader (world : ControlWorld) (stream : Bytes) :
    Except ControlError (List (Text × Json) × Bytes) := do
  let (headerSize, stream) ← readExactly 4 stream
  let headerSize := fromBig headerSize
  if ¬ (0 < headerSize ∧ headerSize ≤ 65536) then
    .error (.protocol "invalid firmware control header size".toList)
  else
    let (encoded, stream) ← readExactly headerSize stream
    let header ← loadsBytes world.limits encoded
    let entries ← entriesOf header
    return (entries, stream)

def imageOfData (data : Bytes) (filename : Text) : Except ControlError FirmwareImage :=
  match FirmwareImage.fromBytes data filename with
  | .ok image => .ok image
  | .error (.firmwareProtocolError message) => .error (.protocol message.toList)
  | .error error => .error (.filename error)

/-- The image that follows the header. -/
def readImage (world : ControlWorld) (entries : List (Text × Json)) (stream : Bytes) :
    Except ControlError FirmwareImage :=
  if (get entries "command".toList).any (isText "upgrade".toList) = false then
    .error (.protocol "unsupported firmware control command".toList)
  else do
    let size ← world.int (getOr entries "size" (.int 0))
    if ¬ (0 < size ∧ size ≤ 0xFFFF) then
      .error (.protocol "invalid firmware image size".toList)
    else
      -- what follows the image is never read
      let (data, _) ← readExactly size.toNat stream
      imageOfData data (world.str (getOr entries "filename" (.text "firmware.bin".toList)))

/-- The checks of the image against the hash in the header. -/
def verifyImage (world : ControlWorld) (entries : List (Text × Json)) (image : FirmwareImage) :
    Except ControlError Unit :=
  let expected := world.lower (world.str (getOr entries "sha256" (.text [])))
  let actual := Sha256.hexDigest image.data
  -- without a hash, only a request that waives it passes
  if expected = [] then
    if truthy (getOr entries "allow_unverified" (.bool false)) then .ok ()
    else .error (.protocol "an expected SHA-256 is required".toList)
  else if ¬ Sha256.IsDigest expected then
    .error (.protocol "expected SHA-256 must be 64 hexadecimal characters".toList)
  else if actual ≠ expected then
    .error (.protocol
      ("SHA-256 mismatch: expected ".toList ++ expected ++ ", got ".toList ++ actual))
  else .ok ()

/-- `handle_firmware_control` up to `session.upload_firmware`. -/
def receiveOrder (world : ControlWorld) (connected : Text → Bool) (stream : Bytes) :
    Except ControlError UpgradeOrder := do
  let (entries, stream) ← readHeader world stream
  let image ← readImage world entries stream
  verifyImage world entries image
  let serial := world.str (getOr entries "serial" (.text []))
  if connected serial = false then
    .error (.protocol ("inverter ".toList ++ world.repr serial ++ " is not connected".toList))
  else
    return ⟨image, serial, world.str (getOr entries "protocol" (.text "foxess-7f-func-99".toList))⟩

/-! ## The response -/

/-- What `upload` returns once the flash is done. -/
def uploadResult (transfer : Transfer) (progress : List UInt8) : List (Text × Json) :=
  [("status".toList, .text "flashed".toList), ("serial".toList, .text transfer.serial),
    ("filename".toList, .text transfer.image.filename), ("size".toList, .int transfer.image.size),
    ("crc16".toList, .text (hexText transfer.image.crc)),
    ("sha256".toList, .text (Sha256.hexDigest transfer.image.data)),
    ("chunks".toList, .int transfer.image.chunks.length),
    ("progress".toList, .list (progress.map fun percent => .int percent.toNat)),
    ("protocol".toList, .text transfer.variant.name.toList)]

/-- The response to what the upload returned, or to what was raised on the way there. -/
def response (world : ControlWorld) : Except ControlError (List (Text × Json)) → Json
  | .ok result => .dict (result ++ [("ok".toList, .bool true)])
  | .error error =>
    .dict [("ok".toList, .bool false), ("error".toList, .text (world.errorText error))]

/-- `(json.dumps(response, sort_keys=True) + "\n").encode("utf-8")` -/
def responseLine (response : Json) : Bytes :=
  Utf8.encode (dumps .spaced true response ++ ['\n'])

/-! ## What is accepted -/

theorem readExactly_ok {count : Nat} {stream data rest : Bytes} :
    readExactly count stream = .ok (data, rest) ↔ stream = data ++ rest ∧ data.length = count := by
  rw [readExactly]
  constructor
  · intro read
    split at read
    · cases read
    · cases read
      exact ⟨(List.take_append_drop count stream).symm, by rw [List.length_take]; omega⟩
  · rintro ⟨rfl, rfl⟩
    rw [if_neg (by simp), List.take_left, List.drop_left]

theorem value_bind {ε α β : Type} (value : α) (next : α → Except ε β) :
    (Except.ok value >>= next) = next value := rfl

/-- What a step of `Except` returns has gone through each part of it. -/
theorem bind_eq_ok {ε α β : Type} {first : Except ε α} {next : α → Except ε β} {value : β}
    (returned : first >>= next = .ok value) :
    ∃ between, first = .ok between ∧ next between = .ok value := by
  cases first with
  | error error => cases returned
  | ok between => exact ⟨between, rfl, returned⟩

/-- The header stands in front of the rest of the stream, with its length before it. -/
theorem readHeader_ok {world : ControlWorld} {stream rest : Bytes} {entries : List (Text × Json)} :
    readHeader world stream = .ok (entries, rest) ↔
      ∃ encoded, stream = toBig 4 encoded.length ++ encoded ++ rest ∧ 0 < encoded.length ∧
        encoded.length ≤ 65536 ∧ loadsBytes world.limits encoded = .ok (.dict entries) := by
  constructor
  · intro read
    obtain ⟨⟨sizeField, afterSize⟩, sizeRead, sized⟩ := bind_eq_ok read
    obtain ⟨rfl, width⟩ := readExactly_ok.mp sizeRead
    dsimp only at sized
    split at sized
    · cases sized
    rename_i inRange
    obtain ⟨⟨encoded, afterHeader⟩, headerRead, decoded⟩ := bind_eq_ok sized
    obtain ⟨rfl, length⟩ := readExactly_ok.mp headerRead
    obtain ⟨header, loaded, opened⟩ := bind_eq_ok decoded
    obtain ⟨_, isDict, returned⟩ := bind_eq_ok opened
    cases returned
    cases header with
    | dict entries =>
      cases isDict
      refine ⟨encoded, ?_, by omega, by omega, loaded⟩
      rw [length, List.append_assoc]
      congr 1
      rw [← width, toBig_fromBig]
    | null => cases isDict
    | bool value => cases isDict
    | int value => cases isDict
    | real numeral => cases isDict
    | nan => cases isDict
    | infinite negative => cases isDict
    | text value => cases isDict
    | list elements => cases isDict
  · rintro ⟨encoded, rfl, positive, small, loaded⟩
    have size : readExactly 4 (toBig 4 encoded.length ++ encoded ++ rest) =
        .ok (toBig 4 encoded.length, encoded ++ rest) :=
      readExactly_ok.mpr ⟨List.append_assoc _ _ _, toBig_length 4 _⟩
    have header : readExactly encoded.length (encoded ++ rest) = .ok (encoded, rest) :=
      readExactly_ok.mpr ⟨rfl, rfl⟩
    have isSize : fromBig (toBig 4 encoded.length) = encoded.length :=
      fromBig_toBig (Nat.lt_of_le_of_lt small (by decide))
    rw [readHeader, size]
    change (if _ then _ else _) = _
    rw [isSize, if_neg (not_not.mpr ⟨positive, small⟩), header]
    change (loadsBytes world.limits encoded >>= _) = _
    rw [loaded]
    rfl

/-- The image has the data, and the name that is left of the filename. -/
theorem imageOf_ok {data : Bytes} {filename : Text} {image : FirmwareImage} :
    imageOfData data filename = .ok image ↔
      image.data = data ∧ safeFirmwareFilename filename = .ok image.filename := by
  have built : imageOfData data filename = .ok image ↔
      FirmwareImage.fromBytes data filename = .ok image := by
    rw [imageOfData]
    cases FirmwareImage.fromBytes data filename with
    | ok other => simp
    | error error => cases error <;> simp
  rw [built, FirmwareImage.fromBytes]
  constructor
  · intro made
    split at made
    · cases made
    split at made
    · cases made
    split at made
    · cases made
    · rename_i accepted
      cases made
      exact ⟨rfl, accepted⟩
  · rintro ⟨rfl, accepted⟩
    rw [dif_neg image.nonempty, dif_neg (Nat.not_lt.mpr image.fits)]
    split
    · rename_i refused
      cases refused.symm.trans accepted
    · rename_i safeName safe
      obtain rfl : safeName = image.filename := Except.ok.inj (safe.symm.trans accepted)
      obtain ⟨data, filename, size, crc, _, _, _, sized, checked⟩ := image
      dsimp only at sized checked ⊢
      simp only [sized, checked]

/-- The hash that the header asks for, in lower case. -/
def expectedDigest (world : ControlWorld) (entries : List (Text × Json)) : Text :=
  world.lower (world.str (getOr entries "sha256" (.text [])))

/-- The header allows an image without a hash. -/
def AllowsUnverified (entries : List (Text × Json)) : Prop :=
  truthy (getOr entries "allow_unverified" (.bool false)) = true

theorem hexDigest_ne_nil (data : Bytes) : Sha256.hexDigest data ≠ [] := by
  intro empty
  have width := (Sha256.hexDigest_isDigest data).1
  rw [empty] at width
  cases width

/-- An image passes with its own hash, or without any where that is allowed. -/
theorem verifyImage_ok {world : ControlWorld} {entries : List (Text × Json)}
    {image : FirmwareImage} : verifyImage world entries image = .ok () ↔
      expectedDigest world entries = Sha256.hexDigest image.data ∨
        expectedDigest world entries = [] ∧ AllowsUnverified entries := by
  have isDigest := Sha256.hexDigest_isDigest image.data
  have nonempty := (hexDigest_ne_nil image.data).symm
  rw [verifyImage, ← expectedDigest, AllowsUnverified]
  generalize expectedDigest world entries = expected
  generalize Sha256.hexDigest image.data = digest at isDigest nonempty ⊢
  generalize truthy (getOr entries "allow_unverified" (.bool false)) = allowed
  by_cases nothing : expected = []
  · subst nothing
    rw [if_pos rfl, or_iff_right nonempty, and_iff_right rfl]
    cases allowed
    · exact ⟨nofun, nofun⟩
    · exact ⟨fun _ => rfl, fun _ => rfl⟩
  · rw [if_neg nothing, or_iff_left fun allowed => nothing allowed.1]
    by_cases same : expected = digest
    · subst same
      rw [if_neg (not_not.mpr isDigest), if_neg (not_not.mpr rfl)]
      exact ⟨fun _ => rfl, fun _ => rfl⟩
    · rw [if_pos (Ne.symm same)]
      split
      · exact ⟨nofun, fun other => absurd other same⟩
      · exact ⟨nofun, fun other => absurd other same⟩

/-- The value of a key that must be a certain text. -/
theorem any_isText {value : Option Json} {text : Text} :
    value.any (isText text) = true ↔ value = some (.text text) := by
  rw [Option.any_eq_true]
  constructor
  · rintro ⟨value, isValue, same⟩
    cases value with
    | text value => rw [isValue, of_decide_eq_true same]
    | _ => cases same
  · rintro rfl
    exact ⟨_, rfl, decide_eq_true rfl⟩

/-- What a header must say of the image that comes after it. -/
structure Describes (world : ControlWorld) (entries : List (Text × Json)) (image : FirmwareImage) :
    Prop where
  command : get entries "command".toList = some (.text "upgrade".toList)
  size : world.int (getOr entries "size" (.int 0)) = .ok image.data.length
  filename : safeFirmwareFilename (world.str (getOr entries "filename"
    (.text "firmware.bin".toList))) = .ok image.filename

theorem readImage_ok {world : ControlWorld} {entries : List (Text × Json)} {stream : Bytes}
    {image : FirmwareImage} : readImage world entries stream = .ok image ↔
      Describes world entries image ∧ image.data <+: stream := by
  constructor
  · intro read
    rw [readImage] at read
    split at read
    · cases read
    rename_i isUpgrade
    obtain ⟨size, isSize, sized⟩ := bind_eq_ok read
    split at sized
    · cases sized
    rename_i inRange
    obtain ⟨⟨data, rest⟩, dataRead, made⟩ := bind_eq_ok sized
    obtain ⟨rfl, length⟩ := readExactly_ok.mp dataRead
    obtain ⟨rfl, named⟩ := imageOf_ok.mp made
    refine ⟨⟨any_isText.mp (by simpa using isUpgrade), ?_, named⟩, List.prefix_append _ _⟩
    rw [isSize, length, Int.toNat_of_nonneg (by omega)]
  · rintro ⟨describes, rest, rfl⟩
    have positive := List.length_pos_iff.mpr image.nonempty
    have fits := image.fits
    have data : readExactly (Int.toNat image.data.length) (image.data ++ rest) =
        .ok (image.data, rest) := readExactly_ok.mpr ⟨rfl, by rw [Int.toNat_natCast]⟩
    rw [readImage, any_isText.mpr describes.command, if_neg (by decide), describes.size]
    change (if _ then _ else _) = _
    rw [if_neg (by omega), data]
    exact imageOf_ok.mpr ⟨rfl, describes.filename⟩

/-! ## What is ordered -/

/-- What a header and the image after it make of an order. -/
structure Orders (world : ControlWorld) (entries : List (Text × Json)) (order : UpgradeOrder) :
    Prop where
  describes : Describes world entries order.image
  serial : order.serial = world.str (getOr entries "serial" (.text []))
  protocol : order.protocol =
    world.str (getOr entries "protocol" (.text "foxess-7f-func-99".toList))

/-- The image has the hash that was asked for, or the header waives the hash. -/
def Checked (world : ControlWorld) (entries : List (Text × Json)) (image : FirmwareImage) : Prop :=
  expectedDigest world entries = Sha256.hexDigest image.data ∨
    expectedDigest world entries = [] ∧ AllowsUnverified entries

/-- The order that a header which has been read leads to. -/
theorem receiveOrder_of_header {world : ControlWorld} {connected : Text → Bool}
    {stream rest : Bytes} {entries : List (Text × Json)} {order : UpgradeOrder}
    (header : readHeader world stream = .ok (entries, rest)) :
    receiveOrder world connected stream = .ok order ↔ Orders world entries order ∧
      order.image.data <+: rest ∧ Checked world entries order.image ∧
        connected order.serial = true := by
  rw [receiveOrder, header]
  change (readImage world entries rest >>= _) = _ ↔ _
  constructor
  · intro received
    obtain ⟨image, imageRead, checked⟩ := bind_eq_ok received
    obtain ⟨_, verified, returned⟩ := bind_eq_ok checked
    obtain ⟨describes, inFront⟩ := readImage_ok.mp imageRead
    dsimp only at returned
    split at returned
    · cases returned
    rename_i isConnected
    cases returned
    exact ⟨⟨describes, rfl, rfl⟩, inFront, verifyImage_ok.mp verified, by simpa using isConnected⟩
  · rintro ⟨⟨describes, serial, protocol⟩, inFront, checked, isConnected⟩
    rw [readImage_ok.mpr ⟨describes, inFront⟩]
    change (verifyImage world entries order.image >>= _) = _
    rw [verifyImage_ok.mpr checked]
    change (if connected (world.str _) = false then _ else _) = _
    rw [← serial, isConnected, if_neg (by decide), ← protocol]
    rfl

/-- The stream asks for the order: the length of the header, the header and the image. -/
structure Requests (world : ControlWorld) (stream : Bytes) (entries : List (Text × Json))
    (order : UpgradeOrder) : Prop extends Orders world entries order where
  stream : ∃ encoded rest, stream = toBig 4 encoded.length ++ encoded ++ order.image.data ++ rest ∧
    0 < encoded.length ∧ encoded.length ≤ 65536 ∧
    loadsBytes world.limits encoded = .ok (.dict entries)

/-- An order is a request that was checked, for an inverter that is connected. -/
theorem receiveOrder_ok {world : ControlWorld} {connected : Text → Bool} {stream : Bytes}
    {order : UpgradeOrder} (received : receiveOrder world connected stream = .ok order) :
    ∃ entries, Requests world stream entries order ∧ Checked world entries order.image ∧
      connected order.serial = true := by
  obtain ⟨⟨entries, rest⟩, header, _⟩ := bind_eq_ok received
  obtain ⟨orders, ⟨after, rfl⟩, checked, isConnected⟩ :=
    (receiveOrder_of_header header).mp received
  obtain ⟨encoded, rfl, positive, short, loaded⟩ := readHeader_ok.mp header
  refine ⟨entries, ⟨orders, encoded, after, ?_, positive, short, loaded⟩, checked, isConnected⟩
  simp only [List.append_assoc]

end FoxessGateway.Firmware
