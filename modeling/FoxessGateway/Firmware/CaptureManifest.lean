import FoxessGateway.Firmware.CaptureIntegrity
import FoxessGateway.Firmware.CapturePaths
import FoxessGateway.Firmware.UpgradeRequest
import FoxessGateway.Protocol.FaultCodes

/-! # Manifests

`_save_capture` writes a manifest next to an image, and the upgrade tool reads it.  What was
captured is what is ordered. -/

namespace FoxessGateway.Firmware

open ByteOrder Protocol JsonText Effectful Action Runs

/-! ## What is saved -/

section Saves

variable {call : CaptureCall} {variant : FirmwareVariant} {metadata : FirmwareMetadata}
  {capture : FirmwareCapture} {saved : SavedCapture}

theorem completeImage_saved {image : Bytes}
    (member : saved ∈ saves ((completeImage call variant metadata image).run capture).effects) :
    ∃ filename, safeFirmwareFilename metadata.filename = .ok filename ∧
      saved = savedCapture capture metadata filename image call.serial := by
  unfold completeImage emitCapture at member
  by_cases mismatch : variant.crcField (crc16Le image) ≠ metadata.crc
  · rw [if_pos mismatch] at member
    simp at member
  rw [if_neg mismatch] at member
  cases safe : safeFirmwareFilename metadata.filename with
  | error raised =>
    unfold saveCapture at member
    rw [safe] at member
    simp [run_bind_error] at member
  | ok filename =>
    refine ⟨filename, rfl, ?_⟩
    have ran := saveCapture_run metadata capture call.world image call.serial filename safe
    cases failed : call.world.saveFails with
    | some message =>
      rw [failed] at ran
      rw [run_bind_ok (congrArg Outcome.value ran), ran] at member
      simpa using member
    | none =>
      rw [failed] at ran
      rw [run_bind_ok (congrArg Outcome.value ran), ran] at member
      obtain ⟨_, nothing⟩ := finishCapture_cases call variant metadata capture
        (savedCapture capture metadata filename image call.serial)
      simpa only [saves_append, saves_saveCapture, saves_nil, nothing, List.append_nil,
        List.mem_singleton] using member

theorem acceptChunk_saves
    (member : saved ∈ saves ((acceptChunk call variant metadata).run capture).effects) :
    ∃ filename, safeFirmwareFilename metadata.filename = .ok filename ∧
      saved = savedCapture (capture.extended call.chunk) metadata filename
        (capture.extended call.chunk).data call.serial := by
  unfold acceptChunk emitCapture at member
  rw [run_modify_bind, run_get_bind] at member
  split at member
  · simp at member
  split at member
  · obtain ⟨_, nothing⟩ := keeps_then_pure _ true
      (requestChunk_keeps call variant (capture.extended call.chunk)
        (capture.extended call.chunk).expectedChunk)
    rw [show saves _ = [] from nothing] at member
    cases member
  · exact completeImage_saved member

theorem handleChunk_saved
    (member : saved ∈ saves ((handleChunk call variant).run capture).effects) :
    ∃ metadata filename, capture.metadata = some metadata ∧
      safeFirmwareFilename metadata.filename = .ok filename ∧
      saved = savedCapture (capture.extended call.chunk) metadata filename
        (capture.extended call.chunk).data call.serial := by
  unfold handleChunk emitCapture at member
  rw [run_get_bind] at member
  split at member
  · rename_i metadata current known inUse
    split at member
    · simp at member
    split at member
    · simp at member
    dsimp only at member
    split at member
    · rw [run_perform_bind] at member
      obtain ⟨_, nothing⟩ := keeps_then_pure _ true (requestChunk_keeps call variant capture _)
      rw [saves_emit, show saves _ = [] from nothing] at member
      cases member
    · obtain ⟨filename, safe, isSaved⟩ := acceptChunk_saves member
      exact ⟨metadata, filename, known, safe, isSaved⟩
  · simp at member

/-- What one call saves is the transfer in progress, under a name made of its own. -/
theorem handleUpstreamFrame_saves
    (member : saved ∈ saves ((FirmwareCapture.handleUpstreamFrame call).run capture).effects) :
    ∃ metadata filename, capture.metadata = some metadata ∧
      safeFirmwareFilename metadata.filename = .ok filename ∧
      saved = savedCapture (capture.extended call.chunk) metadata filename
        (capture.extended call.chunk).data call.serial := by
  unfold FirmwareCapture.handleUpstreamFrame emitCapture at member
  split at member
  · cases member
  split at member
  · simp at member
  split at member
  · obtain ⟨_, nothing⟩ := handleMetadata_cases call _ _ capture
    rw [nothing] at member
    cases member
  · exact handleChunk_saved member
  · cases member

end Saves

/-! ## The transfer in progress -/

/-- What holds of metadata that the capture accepts. -/
structure Acceptable (metadata : FirmwareMetadata) : Prop where
  size : metadata.size ≤ 0xFFFF
  protocol : metadata.variant.name.toList ∈ sentProtocols

theorem Announces.acceptable {call : CaptureCall} {variant : FirmwareVariant}
    {metadata : FirmwareMetadata} (announces : Announces call variant metadata) :
    Acceptable metadata := by
  obtain ⟨_, refused⟩ | ⟨other, _, _, _, parsed, chosen, read⟩ :=
    parseFirmwareMetadata_cases call.frame.payload (some variant)
  · cases announces.parsed.symm.trans refused
  obtain rfl : metadata = other := Except.ok.inj (announces.parsed.symm.trans parsed)
  obtain rfl : variant = metadata.variant := Option.some.inj chosen
  constructor
  · have below := fromBig_lt (slice call.frame.payload 7 9)
    have width : (slice call.frame.payload 7 9).length ≤ 2 := by
      rw [slice, List.length_drop, List.length_take]
      omega
    have bound := Nat.pow_le_pow_right (show 0 < 256 by decide) width
    rw [read.size]
    omega
  · have transfer := announces.transfer
    rw [firmwareVariantForFrame] at transfer
    split at transfer
    · rw [← Option.some.inj transfer]
      decide
    split at transfer
    · rw [← Option.some.inj transfer]
      decide
    split at transfer
    · rw [← Option.some.inj transfer]
      change firmwareVariant7f99.name.toList ∈ sentProtocols
      decide
    · cases transfer

/-- The files of a transfer that was saved in the directory. -/
structure SavedTransfer (directory : Text) (saved : SavedCapture) (filename : Text) : Prop where
  safe : safeFirmwareFilename filename = .ok filename
  imagePath : saved.imagePath = joinPath directory filename
  manifestPath : saved.manifestPath = joinPath directory (manifestName filename)
  size : saved.image.length ≤ 0xFFFF
  chunks : saved.chunks ≤ 0x10000
  protocol : saved.protocol.toList ∈ sentProtocols

/-- The capture writes to the directory, and what it has read of a transfer is acceptable. -/
def SoundCapture (directory : Text) (capture : FirmwareCapture) : Prop :=
  capture.directory = directory ∧
    ∀ metadata, capture.metadata = some metadata → Acceptable metadata

theorem captureStep_sound {directory : Text} {capture : FirmwareCapture} (call : CaptureCall)
    (sound : SoundCapture directory capture) :
    SoundCapture directory ((FirmwareCapture.handleUpstreamFrame call).run capture).state ∧
      ∀ saved ∈ saves ((FirmwareCapture.handleUpstreamFrame call).run capture).effects,
        ∃ filename, SavedTransfer directory saved filename := by
  obtain ⟨rfl, accepted⟩ := sound
  obtain ⟨state, nothing, _⟩ | ⟨variant, metadata, announces, state, nothing⟩ |
      ⟨variant, metadata, known, inUse, carries, _, state, images⟩ :=
    handleUpstreamFrame_cases call capture
  · rw [state, nothing]
    exact ⟨⟨rfl, accepted⟩, by simp⟩
  · rw [state, nothing]
    refine ⟨⟨rfl, ?_⟩, by simp⟩
    rintro _ ⟨⟩
    exact announces.acceptable
  · refine ⟨?_, fun saved member => ?_⟩
    · rcases state with extended | ⟨started, cleared⟩
      · rw [extended]
        exact ⟨rfl, accepted⟩
      · rw [cleared]
        exact ⟨rfl, nofun⟩
    · obtain ⟨other, filename, isOther, safe, isSaved⟩ := handleUpstreamFrame_saves member
      obtain rfl : metadata = other := Option.some.inj (known.symm.trans isOther)
      obtain ⟨_, size, _⟩ := images saved member
      -- the number of the last chunk has two bytes
      have numbered := fromBig_lt (slice call.frame.payload 5 7)
      have width : (slice call.frame.payload 5 7).length ≤ 2 := by
        rw [slice, List.length_drop, List.length_take]
        omega
      have bound := Nat.pow_le_pow_right (show 0 < 256 by decide) width
      rw [carries.numbered] at numbered
      have acceptable := accepted metadata known
      refine ⟨filename, safeFirmwareFilename_idem safe, ?_, ?_, ?_, ?_, ?_⟩
      · rw [isSaved]; rfl
      · rw [isSaved]; rfl
      · rw [size]
        exact acceptable.size
      · rw [isSaved]
        change capture.expectedChunk + 1 ≤ _
        omega
      · rw [isSaved]
        exact acceptable.protocol

theorem captureRun_sound {directory : Text} {simulateProgress : Bool} {calls : List CaptureCall}
    {final : FirmwareCapture} {trace : List CaptureRecord}
    (ran : run captureMachine (.fresh directory simulateProgress) calls = some (final, trace))
    {record : CaptureRecord} (inTrace : record ∈ trace) {saved : SavedCapture}
    (inRecord : saved ∈ record.saved) : ∃ filename, SavedTransfer directory saved filename := by
  let invariant : FirmwareCapture → List CaptureRecord → Prop := fun capture history =>
    SoundCapture directory capture ∧ ∀ record ∈ history, ∀ saved ∈ record.saved,
      ∃ filename, SavedTransfer directory saved filename
  have initially : invariant (.fresh directory simulateProgress) [] := ⟨⟨rfl, nofun⟩, by simp⟩
  have holds : invariant final ([] ++ trace) := by
    refine run_invariant ?_ initially ran
    rintro capture history call next shown ⟨sound, before⟩ ⟨⟩
    obtain ⟨after, now⟩ := captureStep_sound call sound
    refine ⟨after, fun record member => ?_⟩
    rcases List.mem_append.mp member with early | late
    · exact before record early
    · rw [List.mem_singleton.mp late]
      exact now
  exact holds.2 record inTrace saved inRecord

/-! ## The manifest -/

/-- The manifest of `_save_capture`, with the time that the clock showed. -/
def manifestOf (capturedAt filename : Text) (saved : SavedCapture) : List (Text × Json) :=
  [("captured_at".toList, .text capturedAt), ("source".toList, .text "foxcloud-relay".toList),
    ("filename".toList, .text filename), ("serial".toList, .text saved.serial),
    ("size".toList, .int saved.image.length),
    ("crc16_modbus_le".toList, .text (hexText saved.crc16)),
    ("protocol_crc_field".toList, .text (hexText saved.protocolCrcField)),
    ("sha256".toList, .text (Sha256.hexDigest saved.image)), ("chunks".toList, .int saved.chunks),
    ("protocol".toList, .text saved.protocol.toList)]

/-- `json.dumps(manifest, indent=2, sort_keys=True) + "\n"` in UTF-8. -/
def manifestFile (capturedAt filename : Text) (saved : SavedCapture) : Bytes :=
  Utf8.encode (dumps (.indented 2) true (.dict (manifestOf capturedAt filename saved)) ++ ['\n'])

section Manifest

variable {world : ControlWorld} {files : Files} {capturedAt filename : Text} {saved : SavedCapture}
  {directory : Text}

theorem universalNewlines_eq_self {text : Text} (noReturn : '\r' ∉ text) :
    universalNewlines false text = text := by
  induction text with
  | nil => rfl
  | cons char text inductionHypothesis =>
    obtain ⟨notFirst, notLater⟩ := not_or.mp (List.mem_cons.not.mp noReturn)
    rw [universalNewlines, if_neg (Ne.symm notFirst), if_neg (by simp),
      inductionHypothesis notLater]

theorem manifest_readable (size : saved.image.length ≤ 0xFFFF) (chunks : saved.chunks ≤ 0x10000) :
    Readable world.limits.digits world.limits.depth
      (.dict (manifestOf capturedAt filename saved)) := by
  have deep := world.deep
  have wide := world.wide
  obtain ⟨depth, isDepth⟩ : ∃ depth, world.limits.depth = depth + 1 :=
    ⟨world.limits.depth - 1, by omega⟩
  have short : ∀ {value : Nat}, value ≤ 0x10000 →
      Readable world.limits.digits depth (.int value) := fun fits =>
    .small 4 (Nat.lt_of_le_of_lt fits (by decide)) (by omega)
  rw [isDepth]
  refine .dict (by simp [manifestOf]) ?_
  simp only [manifestOf, List.forall_mem_cons, List.not_mem_nil, false_implies, implies_true,
    and_true]
  exact ⟨.text _ _, .text _ _, .text _ _, .text _ _, short (Nat.le_succ_of_le size), .text _ _,
    .text _ _, .text _ _, short chunks, .text _ _⟩

/-- The tool reads the manifest that was written. -/
theorem readManifest_manifestFile {path : Text}
    (isManifest : files path = .ok (manifestFile capturedAt filename saved))
    (size : saved.image.length ≤ 0xFFFF) (chunks : saved.chunks ≤ 0x10000) :
    readManifest world files path = .ok (sortedEntries (manifestOf capturedAt filename saved)) := by
  have readable : Readable world.limits.digits world.limits.depth
      (.dict (manifestOf capturedAt filename saved)) := manifest_readable size chunks
  have noReturn : '\r' ∉
      dumps (.indented 2) true (.dict (manifestOf capturedAt filename saved)) ++ ['\n'] := by
    intro member
    rcases List.mem_append.mp member with inside | last
    · rcases plain_write (.indented 2) 0 _ _ inside with ⟨above, _⟩ | ⟨isNewline, _⟩
      · exact absurd above (by decide)
      · exact absurd isNewline (by decide)
    · exact absurd (List.mem_singleton.mp last) (by decide)
  have newline : ∀ char ∈ ['\n'], isBlank char = true := by simp [isBlank]
  have isText : manifestFile capturedAt filename saved = Utf8.encode (dumps (.indented 2) true
    (.dict (manifestOf capturedAt filename saved)) ++ ['\n']) := rfl
  have read := loads_dumps readable (.indented 2) true newline
  generalize manifestOf capturedAt filename saved = entries at isText read noReturn ⊢
  rw [readManifest, isManifest, isText]
  simp only [bind, Except.bind, Utf8.decodeStrict_encode]
  rw [universalNewlines_eq_self noReturn, read]
  rfl

theorem manifest_sha256 : getOr (sortedEntries (manifestOf capturedAt filename saved)) "sha256"
    (.text []) = .text (Sha256.hexDigest saved.image) := rfl

theorem manifest_size : getOr (sortedEntries (manifestOf capturedAt filename saved)) "size"
    (.int (-1)) = .int saved.image.length := rfl

theorem manifest_protocol : getOr (sortedEntries (manifestOf capturedAt filename saved)) "protocol"
    (.text []) = .text saved.protocol.toList := rfl

/-! ## The upgrade -/

/-- The path of the image has the name under which it was saved. -/
theorem SavedTransfer.name (isSaved : SavedTransfer directory saved filename) :
    (PurePath.parse saved.imagePath).name = filename := by
  have isFilename := (SafeName.of_accepted isSaved.safe).toIsFilename
  have isEntry := PurePath.join_isEntry (.parse directory) isFilename
  have noDot : ['.'] ∉ ((PurePath.parse directory).join filename).components := by
    rw [isEntry.components]
    intro member
    rcases List.mem_append.mp member with inside | last
    · have kept := (List.mem_filter.mp inside).2
      exact (of_decide_eq_true kept).2 rfl
    · exact isFilename.notDot (List.mem_singleton.mp last).symm
  rw [isSaved.imagePath, joinPath, PurePath.parse_text _ noDot, isEntry.name]

/-- The name of a dialect is the protocol that the tool sends, and one that the uploader knows. -/
theorem sentProtocol_chosen (world : ControlWorld) {protocol : String}
    (isSent : protocol.toList ∈ sentProtocols) :
    chooseProtocol world .auto protocol.toList = .ok protocol.toList ∧
      protocol.toList.length = 17 ∧ ∀ randomFunc idHigh idLow, ∃ variant,
        selectVariant protocol randomFunc idHigh idLow = .ok variant ∧ variant.name = protocol := by
  simp only [sentProtocols, List.mem_cons, List.not_mem_nil, or_false, String.toList_inj] at isSent
  rcases isSent with rfl | rfl | rfl
  · exact ⟨rfl, rfl, fun _ _ _ => ⟨_, rfl, rfl⟩⟩
  · exact ⟨rfl, rfl, fun _ _ _ => ⟨_, rfl, rfl⟩⟩
  · exact ⟨rfl, rfl, fun _ _ _ => ⟨_, rfl, rfl⟩⟩

/-- The arguments with which a capture is sent to an inverter. -/
def captureArgs (saved : SavedCapture) (serial : Text) : UpgradeArgs where
  image := saved.imagePath
  serial := serial
  verification := .manifest saved.manifestPath
  protocol := .auto
  dryRun := false
  yes := true

theorem checkUpgrade_capture (serial : Text) (isSaved : SavedTransfer directory saved filename)
    (nonempty : saved.image ≠ []) (isImage : files saved.imagePath = .ok saved.image)
    (isManifest : files saved.manifestPath = .ok (manifestFile capturedAt filename saved)) :
    checkUpgrade world files (captureArgs saved serial) = .ok {
      filename := filename
      serial := serial
      data := saved.image
      verifiedHash := Sha256.hexDigest saved.image
      protocol := saved.protocol.toList
      allowUnverified := false } := by
  have isDigest := Sha256.hexDigest_isDigest saved.image
  have manifest : readManifest world files saved.manifestPath = _ :=
    readManifest_manifestFile isManifest isSaved.size isSaved.chunks
  have wanted : wantedHash world files (.manifest saved.manifestPath) saved.image =
      .ok (Sha256.hexDigest saved.image) := by
    rw [wantedHash, manifest, value_bind, manifest_sha256, manifest_size, ControlWorld.str,
      lower_digest isDigest, ControlWorld.int, ofManifest, value_bind]
    exact if_neg (not_not.mpr rfl)
  have expected : expectedHash world files (.manifest saved.manifestPath) saved.image =
      .ok (Sha256.hexDigest saved.image) := by
    rw [expectedHash, wanted, value_bind, if_neg fun bad => bad.2 isDigest,
      if_neg fun bad => bad.2 rfl]
    rfl
  have named : manifestProtocol world files (.manifest saved.manifestPath) =
      .ok saved.protocol.toList := by
    rw [manifestProtocol, manifest, value_bind, manifest_protocol]
    rfl
  have chosen := (sentProtocol_chosen world isSaved.protocol).1
  simp only [checkUpgrade, captureArgs]
  rw [isImage, value_bind, if_neg nonempty, if_neg (Nat.not_lt.mpr isSaved.size), expected,
    value_bind, named, value_bind, chosen, value_bind, isSaved.name]
  rfl

end Manifest

/-- **A capture is ordered as it was captured.**  The tool, run on the two files of any image that a
capture has saved and that is not empty, for a serial that is not too long, sends a request that the
daemon accepts exactly where the inverter is connected: the order is for that inverter, and has the
image under the name of its file, in the dialect of the transfer. -/
theorem captureUpgrade_ordered (world : ControlWorld) (directory : Text) (simulateProgress : Bool)
    (calls : List CaptureCall) (final : FirmwareCapture) (trace : List CaptureRecord)
    (ran : run captureMachine (.fresh directory simulateProgress) calls = some (final, trace))
    (record : CaptureRecord) (inTrace : record ∈ trace) (saved : SavedCapture)
    (inRecord : saved ∈ record.saved) (nonempty : saved.image ≠ []) :
    ∃ filename, (PurePath.parse saved.imagePath).name = filename ∧
      ∀ (capturedAt serial : Text) (files : Files), serial.length ≤ 255 →
        files saved.imagePath = .ok saved.image →
        files saved.manifestPath = .ok (manifestFile capturedAt filename saved) →
        ∃ start request order, startTool world files (captureArgs saved serial) = .ok start ∧
          start.request = some request ∧
          (∀ connected, receiveOrder world connected request = .ok order ↔
            connected serial = true) ∧
          order.image.data = saved.image ∧ order.image.filename = filename ∧
          order.serial = serial ∧ ∀ randomFunc idHigh idLow, ∃ variant,
            selectVariant (String.ofList order.protocol) randomFunc idHigh idLow = .ok variant ∧
              variant.name = saved.protocol := by
  obtain ⟨filename, isSaved⟩ := captureRun_sound ran inTrace inRecord
  refine ⟨filename, isSaved.name, ?_⟩
  intro capturedAt serial files short isImage isManifest
  have checked : checkUpgrade world files (captureArgs saved serial) = _ :=
    checkUpgrade_capture serial isSaved nonempty isImage isManifest
  have isFilename := SafeName.of_accepted isSaved.safe
  have isDigest := Sha256.hexDigest_isDigest saved.image
  obtain ⟨_, width, selected⟩ := sentProtocol_chosen world isSaved.protocol
  generalize isUpgrade : CheckedUpgrade.mk filename serial saved.image
    (Sha256.hexDigest saved.image) saved.protocol.toList false = upgrade at checked
  have headerShort : upgrade.encodedHeader.length ≤ 65536 := by
    rw [← isUpgrade]
    exact encodedHeader_short isSaved.size isFilename.short short (Nat.le_of_eq isDigest.1)
      (Nat.le_of_eq width)
  have small := Nat.lt_of_le_of_lt headerShort (show 65536 < 256 ^ 4 by decide)
  obtain ⟨request, sent⟩ : ∃ request, upgrade.request = .ok request := ⟨_, if_pos small⟩
  have isChecked := checkUpgrade_ok checked
  have length := (request_length sent).trans_le headerShort
  let image : FirmwareImage := {
    data := saved.image
    filename := filename
    size := saved.image.length
    crc := crc16Le saved.image
    nonempty := nonempty
    fits := isSaved.size
    safe := isSaved.safe
    sized := rfl
    checked := rfl }
  have told : AsTold world files (captureArgs saved serial)
      ⟨image, serial, saved.protocol.toList⟩ := {
    image := isImage
    filename := by
      change safeFirmwareFilename (PurePath.parse saved.imagePath).name = _
      rw [isSaved.name]
      exact isSaved.safe
    serial := rfl
    protocol := by
      have chosen := isChecked.protocol
      rwa [← isUpgrade] at chosen }
  have verified : Verified world files (captureArgs saved serial) saved.image := by
    have wanted := isChecked.wanted
    rw [← isUpgrade] at wanted
    exact .inl wanted
  refine ⟨_, request, ⟨image, serial, saved.protocol.toList⟩,
    startTool_sends checked rfl rfl sent, rfl, fun connected => ?_, rfl, rfl, rfl, ?_⟩
  · rw [receiveOrder_checked isChecked sent]
    exact ⟨fun received => received.2.2.1, fun isConnected => ⟨told, verified, isConnected, length⟩⟩
  · rw [String.ofList_toList]
    exact selected

/-- The files of one capture. -/
def captureFiles (saved : SavedCapture) (filename : Text) : Files := fun path =>
  if path = saved.imagePath then .ok saved.image
  else if path = saved.manifestPath then .ok (manifestFile [] filename saved)
  else .error (.os "No such file".toList)

theorem captureUpgrade_ordered_threeBytes : ∃ saved filename start request order,
    startTool plainWorld (captureFiles saved filename) (captureArgs saved ['S']) = .ok start ∧
      start.request = some request ∧
      receiveOrder plainWorld (· = ['S']) request = .ok order ∧ order.image.data = [1, 2, 3] := by
  have saves : ((run captureMachine (.fresh [] false) threeByteTransfer).any fun reached =>
      reached.2.any fun record => record.saved.any fun saved =>
        decide (saved.image = [1, 2, 3] ∧ saved.imagePath ≠ saved.manifestPath)) = true := by
    decide +kernel
  obtain ⟨⟨final, trace⟩, ran, inRun⟩ := (Option.any_eq_true _ _).mp saves
  obtain ⟨record, inTrace, inRecord⟩ := List.any_eq_true.mp inRun
  obtain ⟨saved, isSaved, isImage⟩ := List.any_eq_true.mp inRecord
  obtain ⟨data, differ⟩ := of_decide_eq_true isImage
  obtain ⟨filename, _, ordered⟩ := captureUpgrade_ordered plainWorld [] false threeByteTransfer
    final trace ran record inTrace saved isSaved (by rw [data]; decide)
  obtain ⟨start, request, order, started, sent, received, isData, _⟩ :=
    ordered [] ['S'] (captureFiles saved filename) (by decide) (if_pos rfl)
      ((if_neg differ.symm).trans (if_pos rfl))
  exact ⟨saved, filename, start, request, order, started, sent, (received _).mpr (by decide),
    isData.trans data⟩

end FoxessGateway.Firmware
