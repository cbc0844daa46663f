import FoxessGateway.Firmware.StopAndWait
import FoxessGateway.Firmware.UpgradeTool

/-! # Requests of the upgrade tool

What the daemon makes of a request is what the tool was told, and what the tool reports is what the
daemon answered. -/

namespace FoxessGateway.Firmware

open ByteOrder JsonText

variable {world : ControlWorld} {files : Files} {args : UpgradeArgs}

/-! ## The header -/

theorem lower_nil : world.lower [] = [] := rfl

/-- A hash is in lower case. -/
theorem lower_digest {text : Text} (isDigest : Sha256.IsDigest text) : world.lower text = text := by
  have kept : ∀ char ∈ Sha256.hexDigits, char.toNat < 128 ∧ char.toLower = char := by
    have all : Sha256.hexDigits.all fun char => char.toNat < 128 ∧ char.toLower = char := by decide
    exact fun char member => of_decide_eq_true (List.all_eq_true.mp all char member)
  have ascii : text.all (·.toNat < 128) = true := by
    rw [List.all_eq_true]
    exact fun char member => decide_eq_true (kept char (isDigest.2 char member)).1
  rw [ControlWorld.lower, if_pos ascii]
  conv_rhs => rw [← List.map_id text]
  exact List.map_congr_left fun char member => (kept char (isDigest.2 char member)).2

/-- The number of digits of a size that fits its field. -/
theorem toDigits_size {size : Nat} (fits : size ≤ 0xFFFF) :
    (Nat.toDigits 10 size).length ≤ 5 := by
  rw [Nat.length_toDigits_le_iff (by decide) (by decide)]
  exact Nat.lt_of_le_of_lt fits (by decide)

theorem header_readable (upgrade : CheckedUpgrade) (fits : upgrade.data.length ≤ 0xFFFF) :
    Readable world.limits.digits world.limits.depth (.dict upgrade.header) := by
  obtain ⟨depth, isDepth⟩ : ∃ depth, world.limits.depth = depth + 1 :=
    ⟨world.limits.depth - 1, by have := world.deep; omega⟩
  rw [isDepth]
  refine .dict (by simp [CheckedUpgrade.header]) ?_
  simp only [CheckedUpgrade.header, List.forall_mem_cons, List.not_mem_nil, false_implies,
    implies_true, and_true]
  refine ⟨.text _ _, .text _ _, .text _ _, .small 4 ?_ ?_, .text _ _, .bool _ _, .text _ _⟩
  · exact Nat.lt_of_le_of_lt fits (by decide)
  · exact Nat.le_trans (by decide) world.wide

theorem loadsBytes_encode {text : Text} : loadsBytes world.limits (Utf8.encode text) =
    match loads world.limits text with
    | .error fault => .error (.json text fault)
    | .ok value => .ok value := by
  cases loaded : loads world.limits text <;>
    simp only [loadsBytes, Utf8.decodeStrict_encode, loaded]

theorem loadsBytes_header (upgrade : CheckedUpgrade) (fits : upgrade.data.length ≤ 0xFFFF) :
    loadsBytes world.limits upgrade.encodedHeader = .ok (.dict upgrade.header) := by
  have readable : Readable world.limits.digits world.limits.depth (.dict upgrade.header) :=
    header_readable upgrade fits
  have read := loads_dumps readable .compact false (List.forall_mem_nil _)
  rw [List.append_nil] at read
  rw [CheckedUpgrade.encodedHeader, loadsBytes_encode, read]
  rfl

/-- A header with short texts is short. -/
theorem encodedHeader_short {upgrade : CheckedUpgrade} (fits : upgrade.data.length ≤ 0xFFFF)
    (filename : upgrade.filename.length ≤ 255) (serial : upgrade.serial.length ≤ 255)
    (hash : upgrade.verifiedHash.length ≤ 64) (protocol : upgrade.protocol.length ≤ 17) :
    upgrade.encodedHeader.length ≤ 65536 := by
  have bound := compact_dict_length 0 upgrade.header
  have size : (writeInt upgrade.data.length).length ≤ 5 := toDigits_size fits
  have flag : (writeBool upgrade.allowUnverified).length ≤ 5 := by
    cases upgrade.allowUnverified <;> decide
  have texts := fun text => writeText_length text
  have ofFilename := texts upgrade.filename
  have ofSerial := texts upgrade.serial
  have ofHash := texts upgrade.verifiedHash
  have ofProtocol := texts upgrade.protocol
  have ofCommand := texts "upgrade".toList
  rw [CheckedUpgrade.encodedHeader, Utf8.encode_ascii (dumps_ascii _ _ _), List.length_map]
  refine Nat.le_trans bound ?_
  simp only [CheckedUpgrade.header, List.map_cons, List.map_nil, List.sum_cons, List.sum_nil,
    write_text, write_int, write_bool]
  simp only [show "command".toList.length = 7 from rfl, show "filename".toList.length = 8 from rfl,
    show "serial".toList.length = 6 from rfl, show "size".toList.length = 4 from rfl,
    show "sha256".toList.length = 6 from rfl, show "allow_unverified".toList.length = 16 from rfl,
    show "protocol".toList.length = 8 from rfl, show "upgrade".toList.length = 7 from rfl]
    at ofCommand ⊢
  omega

/-- What the daemon finds in the header. -/
theorem orders_header {upgrade : CheckedUpgrade} {order : UpgradeOrder} :
    Orders world upgrade.header order ↔ order.image.data.length = upgrade.data.length ∧
      safeFirmwareFilename upgrade.filename = .ok order.image.filename ∧
      order.serial = upgrade.serial ∧ order.protocol = upgrade.protocol := by
  constructor
  · rintro ⟨⟨_, size, filename⟩, serial, protocol⟩
    exact ⟨(Int.ofNat.inj (Except.ok.inj size)).symm, filename, serial, protocol⟩
  · rintro ⟨size, filename, serial, protocol⟩
    exact ⟨⟨rfl, congrArg (fun length : Nat => Except.ok (length : Int)) size.symm, filename⟩,
      serial, protocol⟩

/-- The hash of the header is that of the image, or it is missing and need not be there. -/
theorem checked_header {upgrade : CheckedUpgrade} {image : FirmwareImage}
    (verified : upgrade.verifiedHash = [] ∨
      upgrade.verifiedHash = Sha256.hexDigest upgrade.data)
    (same : image.data = upgrade.data) : Checked world upgrade.header image ↔
      upgrade.verifiedHash ≠ [] ∨ upgrade.allowUnverified = true := by
  have digest : expectedDigest world upgrade.header = world.lower upgrade.verifiedHash := rfl
  have allows : AllowsUnverified upgrade.header ↔ upgrade.allowUnverified = true := Iff.rfl
  have isDigest := Sha256.hexDigest_isDigest upgrade.data
  have nonempty := hexDigest_ne_nil upgrade.data
  rw [Checked, digest, allows, same]
  rcases verified with missing | isHash
  · rw [missing, lower_nil]
    simp [nonempty.symm]
  · rw [isHash, lower_digest isDigest]
    exact iff_of_true (.inl rfl) (.inl nonempty)

/-! ## The request -/

theorem expectedHash_ok {verification : Verification} {data : Bytes} {value : Text}
    (expected : expectedHash world files verification data = .ok value) :
    wantedHash world files verification data = .ok value ∧
      (value = [] ∨ value = Sha256.hexDigest data) := by
  rw [expectedHash] at expected
  cases wanted : wantedHash world files verification data with
  | error error =>
    rw [wanted] at expected
    cases expected
  | ok found =>
    rw [wanted] at expected
    change (if _ then _ else if _ then _ else _) = _ at expected
    split at expected
    · cases expected
    split at expected
    · cases expected
    rename_i matching
    cases expected
    refine ⟨rfl, ?_⟩
    by_cases missing : value = []
    · exact .inl missing
    · exact .inr (by_contra fun other => matching ⟨missing, Ne.symm other⟩)

/-- What the tool has checked. -/
structure IsChecked (world : ControlWorld) (files : Files) (args : UpgradeArgs)
    (upgrade : CheckedUpgrade) : Prop where
  data : files args.image = .ok upgrade.data
  nonempty : upgrade.data ≠ []
  fits : upgrade.data.length ≤ 0xFFFF
  filename : upgrade.filename = (PurePath.parse args.image).name
  serial : upgrade.serial = args.serial
  wanted : wantedHash world files args.verification upgrade.data = .ok upgrade.verifiedHash
  verified : upgrade.verifiedHash = [] ∨ upgrade.verifiedHash = Sha256.hexDigest upgrade.data
  protocol : ∃ fromManifest, manifestProtocol world files args.verification = .ok fromManifest ∧
    chooseProtocol world args.protocol fromManifest = .ok upgrade.protocol
  allowUnverified : upgrade.allowUnverified = args.allowUnverified

theorem checkUpgrade_ok {upgrade : CheckedUpgrade}
    (checked : checkUpgrade world files args = .ok upgrade) :
    IsChecked world files args upgrade := by
  obtain ⟨data, read, sized⟩ := bind_eq_ok checked
  split at sized
  · cases sized
  rename_i nonempty
  split at sized
  · cases sized
  rename_i fits
  obtain ⟨verifiedHash, expected, dialect⟩ := bind_eq_ok sized
  obtain ⟨fromManifest, isNamed, chosen⟩ := bind_eq_ok dialect
  obtain ⟨protocol, isChosen, returned⟩ := bind_eq_ok chosen
  cases returned
  obtain ⟨wanted, verified⟩ := expectedHash_ok expected
  exact {
    data := read
    nonempty := nonempty
    fits := Nat.le_of_not_lt fits
    filename := rfl
    serial := rfl
    wanted := wanted
    verified := verified
    protocol := ⟨fromManifest, isNamed, isChosen⟩
    allowUnverified := rfl }

/-- A header that is too long is refused. -/
theorem readHeader_long (world : ControlWorld) {encoded : Bytes} (rest : Bytes)
    (long : 65536 < encoded.length)
    (short : encoded.length < 256 ^ 4) :
    readHeader world (toBig 4 encoded.length ++ encoded ++ rest) =
      .error (.protocol "invalid firmware control header size".toList) := by
  have size : readExactly 4 (toBig 4 encoded.length ++ encoded ++ rest) =
      .ok (toBig 4 encoded.length, encoded ++ rest) :=
    readExactly_ok.mpr ⟨List.append_assoc _ _ _, toBig_length 4 _⟩
  rw [readHeader, size]
  change (if _ then _ else _) = _
  rw [fromBig_toBig short, if_pos (by omega)]

/-- What the tool was told, and what it found in the files that it was given. -/
structure AsTold (world : ControlWorld) (files : Files) (args : UpgradeArgs)
    (order : UpgradeOrder) : Prop where
  image : files args.image = .ok order.image.data
  filename : safeFirmwareFilename (PurePath.parse args.image).name = .ok order.image.filename
  serial : order.serial = args.serial
  protocol : ∃ fromManifest, manifestProtocol world files args.verification = .ok fromManifest ∧
    chooseProtocol world args.protocol fromManifest = .ok order.protocol

/-- The image has the hash that the arguments or the manifest name, or needs none. -/
def Verified (world : ControlWorld) (files : Files) (args : UpgradeArgs) (data : Bytes) : Prop :=
  wantedHash world files args.verification data = .ok (Sha256.hexDigest data) ∨
    args.verification = .allowUnverified

theorem encodedHeader_nonempty (upgrade : CheckedUpgrade) : 0 < upgrade.encodedHeader.length := by
  have begins : ∃ later, dumps .compact false (.dict upgrade.header) = '\x7b' :: later := ⟨_, rfl⟩
  obtain ⟨later, isText⟩ := begins
  rw [CheckedUpgrade.encodedHeader, Utf8.encode_ascii (dumps_ascii _ _ _), isText]
  exact Nat.succ_pos _

/-- The daemon's condition on the hash is the one that the tool was given. -/
theorem verified_iff {upgrade : CheckedUpgrade} (isChecked : IsChecked world files args upgrade) :
    upgrade.verifiedHash ≠ [] ∨ upgrade.allowUnverified = true ↔
      Verified world files args upgrade.data := by
  have allows : upgrade.allowUnverified = true ↔ args.verification = .allowUnverified := by
    rw [isChecked.allowUnverified, UpgradeArgs.allowUnverified, decide_eq_true_iff]
  rw [Verified, allows, isChecked.wanted, Except.ok.injEq]
  refine or_congr_left ⟨fun present => isChecked.verified.resolve_left present, fun isHash => ?_⟩
  rw [isHash]
  exact hexDigest_ne_nil upgrade.data

/-- The choice of the protocol has one outcome. -/
theorem chosen_unique {verification : Verification} {choice : ProtocolChoice}
    {first second : Text}
    (isFirst : ∃ fromManifest, manifestProtocol world files verification = .ok fromManifest ∧
      chooseProtocol world choice fromManifest = .ok first)
    (isSecond : ∃ fromManifest, manifestProtocol world files verification = .ok fromManifest ∧
      chooseProtocol world choice fromManifest = .ok second) : first = second := by
  obtain ⟨fromManifest, isNamed, chosen⟩ := isFirst
  obtain ⟨other, isOther, alsoChosen⟩ := isSecond
  obtain rfl : fromManifest = other := Except.ok.inj (isNamed.symm.trans isOther)
  exact Except.ok.inj (chosen.symm.trans alsoChosen)

theorem request_ok {upgrade : CheckedUpgrade} {request : Bytes}
    (sent : upgrade.request = .ok request) :
    toBig 4 upgrade.encodedHeader.length ++ upgrade.encodedHeader ++ upgrade.data = request ∧
      upgrade.encodedHeader.length < 256 ^ 4 := by
  rw [CheckedUpgrade.request] at sent
  split at sent
  · exact ⟨Except.ok.inj sent, ‹_›⟩
  · cases sent

theorem request_length {upgrade : CheckedUpgrade} {request : Bytes}
    (sent : upgrade.request = .ok request) :
    fromBig (request.take 4) = upgrade.encodedHeader.length := by
  obtain ⟨rfl, short⟩ := request_ok sent
  rw [List.append_assoc, List.take_left' (toBig_length 4 _), fromBig_toBig short]

theorem startTool_sends {upgrade : CheckedUpgrade} {request : Bytes}
    (checked : checkUpgrade world files args = .ok upgrade) (real : args.dryRun = false)
    (confirmed : args.yes = true) (sent : upgrade.request = .ok request) :
    startTool world files args =
      .ok ⟨dumps (.indented 2) true upgrade.summary, some request⟩ := by
  rw [startTool, checked]
  change (if args.dryRun = true then _ else if args.yes = false then _ else
    upgrade.request >>= _) = _
  rw [real, confirmed, if_neg (by decide), if_neg (by decide), sent]
  rfl

theorem receiveOrder_checked {upgrade : CheckedUpgrade} {request : Bytes}
    (isChecked : IsChecked world files args upgrade) (sent : upgrade.request = .ok request)
    {connected : Text → Bool} {order : UpgradeOrder} :
    receiveOrder world connected request = .ok order ↔
      AsTold world files args order ∧ Verified world files args order.image.data ∧
        connected args.serial = true ∧ fromBig (request.take 4) ≤ 65536 := by
  rw [request_length sent]
  obtain ⟨rfl, short⟩ := request_ok sent
  by_cases long : 65536 < upgrade.encodedHeader.length
  -- the daemon takes shorter headers than the four bytes of the size could announce
  · have refused := readHeader_long world upgrade.data long short
    rw [receiveOrder, refused]
    refine iff_of_false (fun accepted => ?_) fun told => ?_
    · cases accepted
    · have small := told.2.2.2
      omega
  have header : readHeader world (toBig 4 upgrade.encodedHeader.length ++ upgrade.encodedHeader ++
      upgrade.data) = .ok (upgrade.header, upgrade.data) :=
    readHeader_ok.mpr ⟨upgrade.encodedHeader, rfl, encodedHeader_nonempty upgrade, by omega,
      loadsBytes_header upgrade isChecked.fits⟩
  rw [receiveOrder_of_header header, orders_header]
  constructor
  · rintro ⟨⟨sameLength, filename, serial, protocol⟩, inFront, hasHash, isConnected⟩
    have same : order.image.data = upgrade.data := inFront.eq_of_length sameLength
    rw [isChecked.serial] at serial
    refine ⟨⟨same ▸ isChecked.data, isChecked.filename ▸ filename, serial,
      protocol ▸ isChecked.protocol⟩, ?_, serial ▸ isConnected, by omega⟩
    rw [same]
    exact (verified_iff isChecked).mp ((checked_header isChecked.verified same).mp hasHash)
  · rintro ⟨told, verified, isConnected, _⟩
    have same : order.image.data = upgrade.data :=
      Except.ok.inj (told.image.symm.trans isChecked.data)
    have sameProtocol : order.protocol = upgrade.protocol :=
      chosen_unique told.protocol isChecked.protocol
    refine ⟨⟨by rw [same], isChecked.filename ▸ told.filename,
      told.serial.trans isChecked.serial.symm, sameProtocol⟩, same ▸ List.prefix_rfl, ?_,
      told.serial ▸ isConnected⟩
    rw [same] at verified
    exact (checked_header isChecked.verified same).mpr ((verified_iff isChecked).mpr verified)

/-- **The daemon orders what the tool was told.**  A request of the tool is accepted exactly where
its header is short enough, the name of the image file is a usable filename, the image is verified
and the inverter is connected, and then it is the order that the arguments and the files of the tool
say. -/
theorem upgradeRequest_received (world : ControlWorld) (files : Files) (args : UpgradeArgs)
    (start : ToolStart) (request : Bytes) (started : startTool world files args = .ok start)
    (sent : start.request = some request) (connected : Text → Bool) :
    (∀ order, receiveOrder world connected request = .ok order ↔
      AsTold world files args order ∧ Verified world files args order.image.data ∧
        connected args.serial = true ∧ fromBig (request.take 4) ≤ 65536) ∧
    ((∃ order, receiveOrder world connected request = .ok order) ↔
      (∃ name, safeFirmwareFilename (PurePath.parse args.image).name = .ok name) ∧
        (∃ data, files args.image = .ok data ∧ Verified world files args data) ∧
        connected args.serial = true ∧ fromBig (request.take 4) ≤ 65536) := by
  obtain ⟨upgrade, checked, begun⟩ := bind_eq_ok started
  dsimp only at begun
  split at begun
  · cases begun
    cases sent
  split at begun
  · cases begun
  obtain ⟨bytes, isRequest, returned⟩ := bind_eq_ok begun
  cases returned
  cases sent
  have isChecked := checkUpgrade_ok checked
  have received : ∀ order, receiveOrder world connected request = .ok order ↔ _ :=
    fun order => receiveOrder_checked isChecked isRequest
  refine ⟨received, ?_, ?_⟩
  · rintro ⟨order, accepted⟩
    obtain ⟨told, verified, isConnected, short⟩ := (received order).mp accepted
    exact ⟨⟨_, told.filename⟩, ⟨_, told.image, verified⟩, isConnected, short⟩
  · rintro ⟨⟨name, isName⟩, ⟨data, isImage, verified⟩, isConnected, short⟩
    obtain rfl : data = upgrade.data := Except.ok.inj (isImage.symm.trans isChecked.data)
    let image : FirmwareImage := ⟨upgrade.data, name, upgrade.data.length,
      Protocol.crc16Le upgrade.data, isChecked.nonempty, isChecked.fits,
      safeFirmwareFilename_idem isName, rfl, rfl⟩
    have told : AsTold world files args ⟨image, args.serial, upgrade.protocol⟩ :=
      ⟨isImage, isName, rfl, isChecked.protocol⟩
    exact ⟨_, (received _).mpr ⟨told, verified, isConnected, short⟩⟩

/-- A world in which no text is out of the ordinary. -/
def plainWorld : ControlWorld where
  limits := ⟨1000, 4300⟩
  strOf _ := []
  truncate _ := .error .type
  repr text := text
  lowerOf text := text
  describe _ := []
  deep := by decide
  wide := by decide

def starFiles : Files := fun path =>
  if path = ['f'] then .ok [0x2a] else .error (.os "No such file".toList)

def starArgs : UpgradeArgs where
  image := ['f']
  serial := ['S']
  verification :=
    .sha256 "684888C0EBB17F374298B65EE2807526C066094C701BCC7EBBE1C1095F494FC1".toList
  protocol := .func997f
  dryRun := false
  yes := true

def starUpgrade : CheckedUpgrade where
  filename := ['f']
  serial := ['S']
  data := [0x2a]
  verifiedHash := "684888c0ebb17f374298b65ee2807526c066094c701bcc7ebbe1c1095f494fc1".toList
  protocol := "foxess-7f-dynamic".toList
  allowUnverified := false

theorem starUpgrade_checked : checkUpgrade plainWorld starFiles starArgs = .ok starUpgrade := by
  decide +kernel

theorem starUpgrade_short : starUpgrade.encodedHeader.length ≤ 65536 := by decide +kernel

theorem starHash_wanted : wantedHash plainWorld starFiles starArgs.verification [0x2a] =
    .ok (Sha256.hexDigest [0x2a]) := by decide +kernel

theorem upgradeRequest_received_star : ∃ start request,
    startTool plainWorld starFiles starArgs = .ok start ∧ start.request = some request ∧
      receiveOrder plainWorld (· = ['S']) request =
        .ok ⟨oneByteImage, ['S'], "foxess-7f-dynamic".toList⟩ := by
  have short := Nat.lt_of_le_of_lt starUpgrade_short (show 65536 < 256 ^ 4 by decide)
  obtain ⟨request, sent⟩ : ∃ request, starUpgrade.request = .ok request := ⟨_, if_pos short⟩
  have started := startTool_sends starUpgrade_checked rfl rfl sent
  have length : fromBig (request.take 4) ≤ 65536 := (request_length sent).symm ▸ starUpgrade_short
  refine ⟨_, request, started, rfl, ?_⟩
  exact ((upgradeRequest_received plainWorld starFiles starArgs _ request started rfl
    (· = ['S'])).1 ⟨oneByteImage, ['S'], "foxess-7f-dynamic".toList⟩).mpr
    ⟨⟨rfl, oneByteImage.safe, rfl, [], rfl, rfl⟩, .inl starHash_wanted, rfl, length⟩

/-! ## The response -/

/-- A line that comes in pieces is received whole, and nothing after it. -/
theorem receiveLine_pieces {received line : Bytes} {chunks : List Bytes} (later : List Bytes)
    (ends : line.getLast? = some 0x0A)
    (once : ∀ before, before <+: line → before.getLast? = some 0x0A → before = line)
    (pieces : received ++ chunks.flatten = line) (nonempty : ∀ chunk ∈ chunks, chunk ≠ []) :
    receiveLine received (chunks ++ later) = line := by
  induction chunks generalizing received with
  | nil =>
    rw [List.flatten_nil, List.append_nil] at pieces
    subst pieces
    cases later with
    | nil => rfl
    | cons chunk later => rw [List.nil_append, receiveLine, if_pos ends]
  | cons chunk chunks inductionHypothesis =>
    obtain ⟨isPiece, arePieces⟩ := List.forall_mem_cons.mp nonempty
    rw [List.flatten_cons] at pieces
    have open' : received.getLast? ≠ some 0x0A := by
      intro ended
      have whole := once received ⟨_, pieces⟩ ended
      rw [whole, List.append_right_eq_self, List.append_eq_nil_iff] at pieces
      exact isPiece pieces.1
    rw [List.cons_append, receiveLine, if_neg open', if_neg isPiece]
    exact inductionHypothesis (by rw [List.append_assoc]; exact pieces) arePieces

/-- The newline of a response is its last byte and no other. -/
theorem responseLine_once (value : Json) :
    (responseLine value).getLast? = some 0x0A ∧
      ∀ before, before <+: responseLine value → before.getLast? = some 0x0A →
        before = responseLine value := by
  have visible := @dumps_oneLine .spaced rfl true value
  have ascii : ∀ char ∈ dumps .spaced true value ++ ['\n'], char.toNat < 128 := by
    intro char member
    rcases List.mem_append.mp member with inside | last
    · exact dumps_ascii _ _ _ char inside
    · rw [List.mem_singleton.mp last]
      decide
  rw [responseLine, Utf8.encode_ascii ascii, List.map_append]
  refine ⟨List.getLast?_concat, ?_⟩
  intro before inFront ended
  rcases List.prefix_concat_iff.mp inFront with whole | inside
  · exact whole
  · -- no byte of the document is a newline
    exfalso
    obtain ⟨char, member, isByte⟩ := List.mem_map.mp (inside.subset (List.mem_of_getLast? ended))
    have code := congrArg UInt8.toNat isByte
    obtain ⟨above, below⟩ := visible char member
    have low : ' '.toNat ≤ char.toNat := above
    have high : char.toNat ≤ '~'.toNat := below
    rw [UInt8.toNat_ofNat'] at code
    have small : char.toNat < 128 := ascii char (List.mem_append_left _ member)
    rw [Nat.mod_eq_of_lt (by omega)] at code
    revert low
    rw [code]
    decide

/-- What `session.upload_firmware` comes to: the report of a flash, or an exception. -/
inductive UploadOutcome where
  | flashed (transfer : Transfer) (progress : List UInt8)
  | raised (error : ControlError)

def UploadOutcome.result : UploadOutcome → Except ControlError (List (Text × Json))
  | flashed transfer progress => .ok (uploadResult transfer progress)
  | raised error => .error error

def UploadOutcome.exitCode : UploadOutcome → Nat
  | flashed _ _ => 0
  | raised _ => 1

theorem response_readable (world : ControlWorld) (outcome : UploadOutcome) :
    Readable world.limits.digits world.limits.depth (response world outcome.result) := by
  have deep := world.deep
  have wide := world.wide
  obtain ⟨depth, isDepth⟩ : ∃ depth, world.limits.depth = depth + 2 :=
    ⟨world.limits.depth - 2, by omega⟩
  rw [isDepth]
  have short : ∀ {depth value : Nat}, value ≤ 0xFFFF →
      Readable world.limits.digits depth (.int value) := fun fits =>
    .small 4 (Nat.lt_of_le_of_lt fits (by decide)) (by omega)
  cases outcome with
  | raised error =>
    refine .dict (by simp) ?_
    simp only [List.forall_mem_cons, List.not_mem_nil, false_implies, implies_true, and_true]
    exact ⟨.bool _ _, .text _ _⟩
  | flashed transfer progress =>
    have sized := transfer.image.sized ▸ transfer.image.fits
    have few := Nat.le_trans transfer.image.chunks_le (show 64 ≤ 0xFFFF by decide)
    refine .dict (by simp [uploadResult]) ?_
    simp only [uploadResult, List.cons_append, List.nil_append, List.forall_mem_cons,
      List.not_mem_nil, false_implies, implies_true, and_true]
    refine ⟨.text _ _, .text _ _, .text _ _, short sized, .text _ _, .text _ _,
      short few, .list fun element member => ?_, .text _ _, .bool _ _⟩
    obtain ⟨percent, _, rfl⟩ := List.mem_map.mp member
    exact short (Nat.le_trans (Nat.le_of_lt percent.toNat_lt) (by decide))

/-- **The tool reports what the daemon answered.**  However the connection cuts the response up, and
whatever follows, the tool prints that response, and exits with 0 exactly where the image was
flashed. -/
theorem response_reported (world : ControlWorld) (outcome : UploadOutcome) (chunks : List Bytes)
    (later : List Bytes) (nonempty : ∀ chunk ∈ chunks, chunk ≠ [])
    (pieces : chunks.flatten = responseLine (response world outcome.result)) :
    report world (receiveLine [] (chunks ++ later)) =
      .ok (dumps (.indented 2) true (response world outcome.result).sorted, outcome.exitCode) := by
  obtain ⟨ends, once⟩ := responseLine_once (response world outcome.result)
  have newline : ∀ char ∈ ['\n'], isBlank char = true := by simp [isBlank]
  have read := loads_dumps (response_readable world outcome) .spaced true newline
  rw [receiveLine_pieces later ends once pieces nonempty]
  rw [report, responseLine, loadsBytes_encode, read]
  cases outcome with
  | raised error => rfl
  | flashed transfer progress => rfl

/-- The line `{"error": "", "ok": false}` in two pieces. -/
def refusedPieces : List Bytes :=
  let line := responseLine (response plainWorld (UploadOutcome.raised .attribute).result)
  [line.take 3, line.drop 3]

theorem response_reported_refused :
    refusedPieces.map List.length = [3, 24] ∧ ∃ printed,
      report plainWorld (receiveLine [] (refusedPieces ++ [[]])) = .ok (printed, 1) := by
  have widths : refusedPieces.map List.length = [3, 24] := by decide +kernel
  have nonempty : ∀ chunk ∈ refusedPieces, chunk ≠ [] := by
    intro chunk member empty
    have width := List.mem_map_of_mem (f := List.length) member
    rw [widths, empty] at width
    simp at width
  refine ⟨widths, _,
    response_reported plainWorld (.raised .attribute) refusedPieces [[]] nonempty ?_⟩
  rw [refusedPieces, List.flatten_cons, List.flatten_cons, List.flatten_nil, List.append_nil,
    List.take_append_drop]

end FoxessGateway.Firmware
