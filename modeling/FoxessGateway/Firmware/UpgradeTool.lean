import FoxessGateway.Firmware.Control
import FoxessGateway.PurePath

/-! # The upgrade tool

`foxess-firmware-upgrade`: it checks an image against the hash of its manifest, sends it to the
control socket and reports the response.  What the daemon makes of the request is what the tool
was told, and what the tool reports is what the daemon answered. -/

namespace FoxessGateway.Firmware

open ByteOrder JsonText

/-! ## Arguments -/

/-- The group of `parse_args` of which one must be given. -/
inductive Verification where
  | manifest (path : Text)
  | sha256 (digest : Text)
  | allowUnverified
  deriving DecidableEq, Repr

/-- `--protocol` -/
inductive ProtocolChoice where
  | auto
  | dynamic7f
  | funcA27f
  | func997f
  | funcA27e
  deriving DecidableEq, Repr

def ProtocolChoice.text : ProtocolChoice → Text
  | auto => "auto".toList
  | dynamic7f => "foxess-7f-dynamic".toList
  | funcA27f => "foxess-7f-func-a2".toList
  | func997f => "foxess-7f-func-99".toList
  | funcA27e => "foxess-7e-func-a2".toList

structure UpgradeArgs where
  image : Text
  serial : Text
  verification : Verification
  protocol : ProtocolChoice
  dryRun : Bool
  yes : Bool
  deriving DecidableEq, Repr

def UpgradeArgs.allowUnverified (args : UpgradeArgs) : Bool :=
  args.verification = .allowUnverified

/-- What stops the tool. -/
inductive ToolError where
  | os (message : Text)
  | value (message : Text)
  /-- Raised while a manifest is read. -/
  | manifest (error : ControlError)
  | overflow
  deriving DecidableEq, Repr

abbrev Files := Text → Except ToolError Bytes

/-! ## Manifests -/

/-- Universal newlines: a text file is read with `"\n"` for each kind of line end.  `afterReturn`
says that the character before was a carriage return. -/
def universalNewlines (afterReturn : Bool) : Text → Text
  | [] => []
  | char :: text =>
    if char = '\r' then '\n' :: universalNewlines true text
    else if char = '\n' ∧ afterReturn then universalNewlines false text
    else char :: universalNewlines false text

def ofManifest {α : Type} : Except ControlError α → Except ToolError α
  | .ok value => .ok value
  | .error error => .error (.manifest error)

/-- `json.loads(args.manifest.read_text(encoding="utf-8"))` of a value that has a `get`. -/
def readManifest (world : ControlWorld) (files : Files) (path : Text) :
    Except ToolError (List (Text × Json)) := do
  let data ← files path
  match Utf8.decodeStrict data with
  | none => .error (.manifest .unicodeDecode)
  | some text =>
    match loads world.limits (universalNewlines false text) with
    | .error fault => .error (.manifest (.json (universalNewlines false text) fault))
    | .ok value => ofManifest (entriesOf value)

/-- The hash that the arguments or the manifest ask for. -/
def wantedHash (world : ControlWorld) (files : Files) (verification : Verification)
    (data : Bytes) : Except ToolError Text :=
  match verification with
  | .manifest path => do
    let manifest ← readManifest world files path
    -- a manifest without a hash gives none, but one without a size is refused
    let value := world.lower (world.str (getOr manifest "sha256" (.text [])))
    let size ← ofManifest (world.int (getOr manifest "size" (.int (-1))))
    if size ≠ data.length then
      .error (.value "image size does not match the capture manifest".toList)
    else return value
  | .sha256 digest => .ok (world.lower digest)
  | .allowUnverified => .ok (world.lower [])

def expectedHash (world : ControlWorld) (files : Files) (verification : Verification)
    (data : Bytes) : Except ToolError Text := do
  let value ← wantedHash world files verification data
  if value ≠ [] ∧ ¬ Sha256.IsDigest value then
    .error (.value "expected SHA-256 must be 64 hexadecimal characters".toList)
  else if value ≠ [] ∧ Sha256.hexDigest data ≠ value then
    .error (.value ("SHA-256 mismatch: expected ".toList ++ value ++ ", got ".toList ++
      Sha256.hexDigest data))
  else return value

/-! ## The protocol -/

/-- The dialects that the tool names in its requests. -/
def sentProtocols : List Text :=
  ["foxess-7f-dynamic".toList, "foxess-7f-func-a2".toList, "foxess-7e-func-a2".toList]

def manifestProtocol (world : ControlWorld) (files : Files) :
    Verification → Except ToolError Text
  | .manifest path => do
    let manifest ← readManifest world files path
    return world.str (getOr manifest "protocol" (.text []))
  | _ => .ok []

def chooseProtocol (world : ControlWorld) (choice : ProtocolChoice) (manifestProtocol : Text) :
    Except ToolError Text :=
  let protocol :=
    if choice = .auto then
      if manifestProtocol = [] then "foxess-7f-dynamic".toList else manifestProtocol
    else choice.text
  -- a capture may name the dialect of one function code; it is sent with any
  let protocol :=
    if protocol = "foxess-7f-func-99".toList then "foxess-7f-dynamic".toList else protocol
  if sentProtocols.contains protocol then .ok protocol
  else .error (.value ("unsupported protocol in manifest: ".toList ++ world.repr protocol))

/-! ## The request -/

/-- An upgrade that the tool has checked. -/
structure CheckedUpgrade where
  filename : Text
  serial : Text
  data : Bytes
  verifiedHash : Text
  protocol : Text
  allowUnverified : Bool
  deriving DecidableEq, Repr

/-- `main` up to the summary. -/
def checkUpgrade (world : ControlWorld) (files : Files) (args : UpgradeArgs) :
    Except ToolError CheckedUpgrade := do
  let data ← files args.image
  if data = [] then .error (.value "firmware image is empty".toList)
  else if data.length > 0xFFFF then
    .error (.value "firmware image exceeds the protocol's 65535-byte size field".toList)
  else
    let verifiedHash ← expectedHash world files args.verification data
    -- the manifest is read a second time
    let fromManifest ← manifestProtocol world files args.verification
    let protocol ← chooseProtocol world args.protocol fromManifest
    return {
      filename := (PurePath.parse args.image).name
      serial := args.serial
      data := data
      verifiedHash := verifiedHash
      protocol := protocol
      allowUnverified := args.allowUnverified }

namespace CheckedUpgrade

variable (upgrade : CheckedUpgrade)

def summary : Json := .dict
  [("filename".toList, .text upgrade.filename), ("serial".toList, .text upgrade.serial),
    ("size".toList, .int upgrade.data.length),
    ("sha256".toList, .text (Sha256.hexDigest upgrade.data)),
    ("verified".toList, .bool (upgrade.verifiedHash ≠ [])),
    ("protocol".toList, .text upgrade.protocol)]

def header : List (Text × Json) :=
  [("command".toList, .text "upgrade".toList), ("filename".toList, .text upgrade.filename),
    ("serial".toList, .text upgrade.serial), ("size".toList, .int upgrade.data.length),
    ("sha256".toList, .text upgrade.verifiedHash),
    ("allow_unverified".toList, .bool upgrade.allowUnverified),
    ("protocol".toList, .text upgrade.protocol)]

/-- `json.dumps(header, separators=(",", ":")).encode("utf-8")` -/
def encodedHeader : Bytes := Utf8.encode (dumps .compact false (.dict upgrade.header))

/-- `len(encoded).to_bytes(4, "big") + encoded + data` -/
def request : Except ToolError Bytes :=
  if upgrade.encodedHeader.length < 256 ^ 4 then
    .ok (toBig 4 upgrade.encodedHeader.length ++ upgrade.encodedHeader ++ upgrade.data)
  else .error .overflow

end CheckedUpgrade

/-- What the tool prints before it connects, and the bytes that it then sends, unless it stops. -/
structure ToolStart where
  printed : Text
  request : Option Bytes

def startTool (world : ControlWorld) (files : Files) (args : UpgradeArgs) :
    Except ToolError ToolStart := do
  let upgrade ← checkUpgrade world files args
  let printed := dumps (.indented 2) true upgrade.summary
  if args.dryRun then return ⟨printed, none⟩
  else if args.yes = false then
    .error (.value "refusing to flash without --yes; use --dry-run to validate only".toList)
  else
    let request ← upgrade.request
    return ⟨printed, some request⟩

/-! ## The response -/

/-- The loop over `client.recv(4096)`: what has been received, and what each further call
returns. -/
def receiveLine (received : Bytes) : List Bytes → Bytes
  | [] => received
  | chunk :: chunks =>
    if received.getLast? = some 0x0A then received
    else if chunk = [] then received
    else receiveLine (received ++ chunk) chunks

/-- What the tool prints of the response, and its exit code. -/
def report (world : ControlWorld) (received : Bytes) : Except ControlError (Text × Nat) := do
  let result ← loadsBytes world.limits received
  let entries ← entriesOf result
  return (dumps (.indented 2) true result, if (get entries "ok".toList).any truthy then 0 else 1)

end FoxessGateway.Firmware
