import FoxessGateway.Firmware.Capture
import FoxessGateway.Firmware.MetadataCodec

/-! # Where a capture is saved

The cloud chooses the filename of a transfer.  Whatever it sends, the three paths that
`_save_capture` works with are those of three files of the capture directory. -/

namespace FoxessGateway.Firmware

open PurePath

/-! ## Filenames -/

/-- A name that may be written into the capture directory. -/
structure SafeName (name : Text) : Prop extends IsFilename name where
  short : name.length ≤ 255
  allowed : ∀ char ∈ name, isSafeFilenameChar char = true
  ascii : ∀ char ∈ name, char.toNat < 128

theorem SafeName.of_accepted {filename name : Text}
    (accepted : safeFirmwareFilename filename = .ok name) : SafeName name := by
  obtain ⟨filtered, valid, short⟩ := safeFirmwareFilename_ok_iff.mp accepted
  have allowed : ∀ char ∈ name, isSafeFilenameChar char = true := by
    rw [filtered]
    exact substituteUnsafe_safe false _
  exact {
    nonempty := fun nothing => valid (.inl nothing)
    short := short
    allowed := allowed
    ascii := fun char member => isSafeFilenameChar_ascii (allowed char member)
    noSlash := fun member => absurd (allowed _ member) (by decide)
    notDot := fun dot => valid (.inr (.inl dot))
    notDots := fun dots => valid (.inr (.inr dots)) }

/-! ## The paths of `_save_capture` -/

structure CapturePaths where
  image : PurePath
  temporary : PurePath
  manifest : PurePath

/-- `image_path`, `temporary` and `manifest_path` -/
def capturePaths (directory : PurePath) (filename : Text) : Except PyError CapturePaths := do
  let image := directory.join filename
  let temporary ← image.withName (image.name ++ ".tmp".toList)
  let manifest ← image.withSuffix (image.suffix ++ ".json".toList)
  return ⟨image, temporary, manifest⟩

theorem manifestName_isFilename {filename : Text} (isFilename : IsFilename filename) :
    IsFilename (manifestName filename) := isFilename.append (by decide) (by decide)

/-- The temporary file and the manifest have the name of the image with an extension. -/
theorem capturePaths_eq (directory : PurePath) {filename : Text}
    (isFilename : IsFilename filename) :
    ∃ paths, capturePaths directory filename = .ok paths ∧
      IsEntry directory filename paths.image ∧
      IsEntry directory (filename ++ ".tmp".toList) paths.temporary ∧
      IsEntry directory (manifestName filename) paths.manifest := by
  have image := join_isEntry directory isFilename
  have named : (directory.join filename).name ≠ [] := image.name.symm ▸ isFilename.nonempty
  have isTemporary : IsFilename (filename ++ ".tmp".toList) :=
    isFilename.append (by decide) (by decide)
  have isManifest := manifestName_isFilename isFilename
  have temporary : (directory.join filename).withName ((directory.join filename).name ++
      ".tmp".toList) = .ok ((directory.join filename).renamed _ ⟨isTemporary.nonempty,
        isTemporary.noSlash⟩) := by
    rw [image.name, withName, if_neg named, dif_pos ⟨⟨isTemporary.nonempty, isTemporary.noSlash⟩,
      isTemporary.notDot⟩]
  have manifest : (directory.join filename).withSuffix ((directory.join filename).suffix ++
      ".json".toList) = _ :=
    withSuffix_append _ image.name isFilename.nonempty (by decide) rfl (by decide)
      ⟨isManifest.nonempty, isManifest.noSlash⟩
  rw [capturePaths]
  rw [temporary, manifest]
  exact ⟨_, rfl, image, image.renamed _ ⟨isTemporary.nonempty, isTemporary.noSlash⟩,
    image.renamed _ ⟨isManifest.nonempty, isManifest.noSlash⟩⟩

/-- The texts that a capture reports are those of the paths. -/
theorem savedCapture_paths (capture : FirmwareCapture) (metadata : FirmwareMetadata)
    (image : Bytes) (serial : Text) {filename : Text} (isFilename : IsFilename filename) :
    ∃ paths, capturePaths (.parse capture.directory) filename = .ok paths ∧
      (savedCapture capture metadata filename image serial).imagePath = paths.image.text ∧
      (savedCapture capture metadata filename image serial).manifestPath =
        paths.manifest.text := by
  obtain ⟨paths, computed, isImage, _, isManifest⟩ :=
    capturePaths_eq (.parse capture.directory) isFilename
  have joined := join_isEntry (.parse capture.directory) isFilename
  have joinedManifest := join_isEntry (.parse capture.directory)
    (manifestName_isFilename isFilename)
  exact ⟨paths, computed, congrArg PurePath.text (joined.path_eq isImage),
    congrArg PurePath.text (joinedManifest.path_eq isManifest)⟩

/-- **Filenames cannot leave the capture directory.**  The filter refuses a name or makes it safe,
and keeps what it has made safe; and whatever metadata is accepted, the image, the temporary file
and the manifest are three files of the capture directory itself. -/
theorem capturePaths_inside :
    (∀ filename : Text,
      (∃ message, safeFirmwareFilename filename = .error (.firmwareProtocolError message)) ∨
        ∃ name, safeFirmwareFilename filename = .ok name ∧ SafeName name ∧
          safeFirmwareFilename name = .ok name) ∧
    ∀ (payload : Bytes) (given : Option FirmwareVariant) (metadata : FirmwareMetadata)
      (directory : PurePath), parseFirmwareMetadata payload given = .ok metadata →
      ∃ filename paths, safeFirmwareFilename metadata.filename = .ok filename ∧
        capturePaths directory filename = .ok paths ∧
        paths.image.IsChildOf directory ∧ paths.temporary.IsChildOf directory ∧
        paths.manifest.IsChildOf directory ∧ paths.image ≠ paths.temporary ∧
        paths.image ≠ paths.manifest ∧ paths.temporary ≠ paths.manifest := by
  constructor
  · intro filename
    cases filtered : safeFirmwareFilename filename with
    | error raised =>
      obtain ⟨message, rfl⟩ := safeFirmwareFilename_error filtered
      exact .inl ⟨message, rfl⟩
    | ok name =>
      exact .inr ⟨name, rfl, .of_accepted filtered, safeFirmwareFilename_idem filtered⟩
  · intro payload given metadata directory accepted
    rcases parseFirmwareMetadata_cases payload given with
      ⟨_, refused⟩ | ⟨other, _, _, _, isOther, _, read⟩
    · cases accepted.symm.trans refused
    obtain rfl : metadata = other := Except.ok.inj (accepted.symm.trans isOther)
    obtain ⟨filename, safe⟩ := read.safe
    have isFilename := (SafeName.of_accepted safe).toIsFilename
    obtain ⟨paths, computed, image, temporary, manifest⟩ := capturePaths_eq directory isFilename
    have temporaryName : IsFilename (filename ++ ".tmp".toList) :=
      isFilename.append (by decide) (by decide)
    refine ⟨filename, paths, safe, computed, ⟨_, image, isFilename⟩, ⟨_, temporary, temporaryName⟩,
      ⟨_, manifest, manifestName_isFilename isFilename⟩, ?_, ?_, ?_⟩
    -- the three names differ, so the paths do
    · intro same
      have width := congrArg List.length ((same ▸ image).entry_eq temporary)
      rw [List.length_append] at width
      simp at width
    · intro same
      have width := congrArg List.length ((same ▸ image).entry_eq manifest)
      rw [manifestName, List.length_append] at width
      simp at width
    · intro same
      have extensions := List.append_cancel_left ((same ▸ temporary).entry_eq manifest)
      exact absurd extensions (by decide)

end FoxessGateway.Firmware
