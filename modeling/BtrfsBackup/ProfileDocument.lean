/-
Profile documents (`config/json/ProfileDocument`).

`normalizeProfile` checks a document and fills in what it leaves out;
`profileFromJson` normalises a document, normalises the result again and builds
the profile from it.  Exceptions of the JSON library are `standard` ones.

* `normalizePaths` — the roots of the repository, which must not be nested;
* `profileFromJson_eq_ok` — what an accepted profile has from its document.
-/
import BtrfsBackup.Lib.OrderedJson
import BtrfsBackup.Profile

open OrderedJson

namespace BtrfsBackup

/-- An exception of the JSON library goes through. -/
def fromLibrary {α : Type} : Except String α → Except Thrown α
  | .ok value => .ok value
  | .error what => .error ⟨.standard, what⟩

/-! ### Checked values -/

def text (value : Json) (name : String) (allowEmpty : Bool) (maximum : Nat) :
    Except Thrown String :=
  match value with
  | .string result =>
    if result.toList.contains (Char.ofNat 0) || hasNewline result then
      .error (validationError (name ++ " contains a forbidden control character"))
    else if result.utf8ByteSize > maximum then .error (validationError (name ++ " is too long"))
    else if !allowEmpty && result == "" then
      .error (validationError (name ++ " must not be empty"))
    else .ok result
  | _ => .error (validationError (name ++ " must be text"))

variable (raw value root json : Json) (name key : String) {normalized item cfg : Json}
  {path : FsPath} {c : Prop} {ε α : Type}

/-- `absolute_path`. -/
def absolutePath : Except Thrown String := do
  let result ← text value name false 4096
  let path ← normalizedAbsolutePath result name
  return path.string

/-- `relative_path`. -/
def relativePath : Except Thrown String := do
  let result ← text value name false 4096
  let path ← normalizedRelativePath result name
  return path.string

/-- `uuid_value`. -/
def uuidValue (allowEmpty : Bool) : Except Thrown String := do
  let result ← text value name allowEmpty 64
  if result == "" && allowEmpty then
    return ""
  if !uuidPatternOk result then
    .error (validationError (name ++ " is not a canonical UUID"))
  else
    return normalizedUuid result

def identifier : Except Thrown String := do
  let result ← text value name false 64
  let _ ← validateIdentifier result name
  return result

/-- `boolean_value`. -/
def booleanValue (object : Json) (key name : String) (default : Bool) : Except Thrown Bool :=
  match object.lookup key with
  | none => .ok default
  | some .null => .ok default
  | some (.boolean value) => .ok value
  | some _ => .error (validationError (name ++ " must be true or false"))

/-- `integer_value`. -/
def integerValue (object : Json) (key name : String) (default maximum : Nat) :
    Except Thrown Nat :=
  match object.lookup key with
  | none => .ok default
  | some .null => .ok default
  | some (.unsigned value) =>
    if value.toNat > maximum then
      .error (validationError (name ++ " is outside the supported range"))
    else .ok value.toNat
  | some (.integer value) =>
    if value.toInt < 0 ∨ value.toInt.toNat > maximum then
      .error (validationError (name ++ " is outside the supported range"))
    else .ok value.toInt.toNat
  | some _ => .error (validationError (name ++ " must be an integer"))

/-- `object_or_empty`. -/
def objectOrEmpty (key name : String) : Except Thrown Json :=
  match root.lookup key with
  | none => .ok (.object [])
  | some .null => .ok (.object [])
  | some (.object fields) => .ok (.object fields)
  | some _ => .error (validationError (name ++ " must be an object"))

/-- `array_or_empty`. -/
def arrayOrEmpty (key name : String) : Except Thrown (List Json) :=
  match root.lookup key with
  | none => .ok []
  | some .null => .ok []
  | some (.array items) => .ok items
  | some _ => .error (validationError (name ++ " must be an array"))

/-- `required_object`. -/
def requiredObject (key name : String) : Except Thrown Json :=
  match root.lookup key with
  | some (.object fields) => .ok (.object fields)
  | _ => .error (validationError (name ++ " must be an object"))

/-- `required_value`. -/
def requiredValue (key name : String) : Except Thrown Json :=
  match root.lookup key with
  | none => .error (validationError (name ++ " is required"))
  | some .null => .error (validationError (name ++ " is required"))
  | some value => .ok value

/-- `reject_unknown_properties`. -/
def rejectUnknownProperties (object : Json) (allowed : List String) (name : String) :
    Except Thrown Unit :=
  match object with
  | .object fields =>
    match fields.find? fun entry => !allowed.contains entry.1 with
    | some entry => .error (validationError (name ++ "." ++ entry.1 ++ " is not supported"))
    | none => .ok ()
  | _ => .error (validationError (name ++ " must be an object"))

/-- `serial_re`. -/
def serialOk (value : String) : Bool :=
  match value.toList with
  | [] => true
  | c :: cs => isAlnum c && cs.all (fun c => isRunIdChar c || c == '+') && cs.length ≤ 255

/-- `configuration_generation_re`. -/
def configurationGenerationOk (value : String) : Bool :=
  value.toList.length == 32 &&
    value.toList.all fun c => ('0' ≤ c && c ≤ '9') || ('a' ≤ c && c ≤ 'f')

/-! ### Normalisation -/

/-- `current_profile_schema_version`. -/
def currentProfileSchemaVersion : Int := 1

/-- `validate_root`; the conversion of the version to an `int` wraps. -/
def validateRoot : Except Thrown Unit := do
  if !raw.isObject then
    .error (validationError "profile must be an object")
  rejectUnknownProperties raw
    ["schemaVersion", "configurationGeneration", "profileId", "name", "enabled", "target",
      "paths", "settings", "hooks", "sources"] "profile"
  match (raw.lookup "schemaVersion").bind Json.toInt? with
  | none => .error (validationError "schemaVersion must be an integer")
  | some literal =>
    let version := literal.bmod (2 ^ 32)
    if version ≠ currentProfileSchemaVersion then
      .error (validationError
        ("configuration.unsupported-schema: profile was created by an unsupported development " ++
          "version; btrfs-backup 1.0 does not migrate earlier configurations; create a new " ++
          "profile and adopt the existing backup device only if repository validation succeeds; " ++
          "detectedSchemaVersion=" ++ toString version ++ "; supportedSchemaVersion=" ++
          toString currentProfileSchemaVersion))
    else return ()

/-- `normalize_profile_header`: the fields of the document up to `enabled`. -/
def normalizeProfileHeader : Except Thrown (List (String × Json)) := do
  let profileId ← identifier (← fromLibrary (raw.field "profileId")) "profileId"
  let generation ← text (.string (← fromLibrary (raw.valueOr "configurationGeneration" "")))
    "configurationGeneration" true 32
  if generation ≠ "" ∧ !configurationGenerationOk generation then
    .error (validationError
      "configurationGeneration must contain 32 lowercase hexadecimal characters")
  let name ← text (.string (← fromLibrary (raw.valueOr "name" profileId))) "name" false 160
  let enabled ← booleanValue raw "enabled" "enabled" true
  let header := [("schemaVersion", .integer (Int64.ofInt currentProfileSchemaVersion)),
    ("profileId", .string profileId), ("name", .string name), ("enabled", .boolean enabled)]
  if generation = "" then return header
  else return put "configurationGeneration" (.string generation) header

def normalizeActivation (target : Json) : Except Thrown Json := do
  let activation ← requiredObject target "activation" "target.activation"
  rejectUnknownProperties activation ["mode", "keyFile"] "target.activation"
  let mode ← text (← requiredValue activation "mode" "target.activation.mode")
    "target.activation.mode" false 32
  if mode ≠ "askPassword" ∧ mode ≠ "keyFile" then
    .error (validationError "target.activation.mode must be askPassword or keyFile")
  else if mode = "keyFile" then
    let keyFile ← absolutePath
      (← requiredValue activation "keyFile" "target.activation.keyFile") "target.activation.keyFile"
    return .object [("mode", .string mode), ("keyFile", .string keyFile)]
  else if activation.contains "keyFile" then
    .error (validationError "target.activation.keyFile is only valid in keyFile mode")
  else return .object [("mode", .string mode)]

/-- `normalize_target`. -/
def normalizeTarget : Except Thrown Json := do
  let target ← requiredObject raw "target" "target"
  rejectUnknownProperties target
    ["device", "luksUuid", "btrfsUuid", "partitionUuid", "serial", "mapperName", "activation"]
    "target"
  let device ← absolutePath (← fromLibrary (target.field "device")) "target.device"
  if !(device == "/dev" || startsWith device "/dev/") then
    .error (validationError "target.device must point inside /dev")
  let luksUuid ← uuidValue (← fromLibrary (target.field "luksUuid")) "target.luksUuid" false
  let btrfsUuid ← uuidValue (← requiredValue target "btrfsUuid" "target.btrfsUuid")
    "target.btrfsUuid" false
  let partitionUuid ← uuidValue (.string (← fromLibrary (target.valueOr "partitionUuid" "")))
    "target.partitionUuid" true
  let serial ← text (.string (← fromLibrary (target.valueOr "serial" ""))) "target.serial" true 256
  if !serialOk serial then
    .error (validationError "target.serial contains unsupported characters")
  let mapperName ← identifier (← fromLibrary (target.field "mapperName")) "target.mapperName"
  let activation ← normalizeActivation target
  return .object
    [("device", .string device), ("luksUuid", .string luksUuid), ("btrfsUuid", .string btrfsUuid),
      ("partitionUuid", .string partitionUuid), ("serial", .string serial),
      ("mapperName", .string mapperName), ("activation", activation)]

/-- `normalize_paths`. -/
def normalizePaths (mountPoint : String) : Except Thrown Json := do
  let paths ← objectOrEmpty raw "paths" "paths"
  rejectUnknownProperties paths ["remoteRoot", "incomingRoot"] "paths"
  let remoteRoot ← absolutePath
    (.string (← fromLibrary (paths.valueOr "remoteRoot" (mountPoint ++ "/snapshots"))))
    "paths.remoteRoot"
  let incomingRoot ← absolutePath
    (.string (← fromLibrary (paths.valueOr "incomingRoot" (mountPoint ++ "/.incoming"))))
    "paths.incomingRoot"
  if remoteRoot = incomingRoot ∨ startsWith remoteRoot (incomingRoot ++ "/") ∨
      startsWith incomingRoot (remoteRoot ++ "/") then
    .error (validationError
      "paths.remoteRoot and paths.incomingRoot must be separate non-nested paths")
  else return .object [("remoteRoot", .string remoteRoot), ("incomingRoot", .string incomingRoot)]

/-- A number of a normalised document. -/
def numberField (value : Nat) : String × Json :=
  (key, .unsigned (UInt64.ofNat value))

/-- `normalize_settings`. -/
def normalizeSettings : Except Thrown Json := do
  let settings ← objectOrEmpty raw "settings" "settings"
  rejectUnknownProperties settings
    ["dailyLimit", "incrementalRequired", "keepFailedLocalSnapshot", "autoEject",
      "remoteRetention", "localRetention", "minimumTargetFreeBytes", "minimumLocalFreeBytes"]
    "settings"
  let remoteRetention ← integerValue settings "remoteRetention" "settings.remoteRetention" 30
    retentionCountMaximum
  let localRetention ← integerValue settings "localRetention" "settings.localRetention" 30
    retentionCountMaximum
  let dailyLimit ← booleanValue settings "dailyLimit" "settings.dailyLimit" true
  let incrementalRequired ←
    booleanValue settings "incrementalRequired" "settings.incrementalRequired" true
  let keepFailedLocalSnapshot ←
    booleanValue settings "keepFailedLocalSnapshot" "settings.keepFailedLocalSnapshot" false
  let autoEject ← booleanValue settings "autoEject" "settings.autoEject" true
  let minimumTargetFreeBytes ← integerValue settings "minimumTargetFreeBytes"
    "settings.minimumTargetFreeBytes" (5 * 1024 * 1024 * 1024) byteThresholdMaximum
  let minimumLocalFreeBytes ← integerValue settings "minimumLocalFreeBytes"
    "settings.minimumLocalFreeBytes" (1024 * 1024 * 1024) byteThresholdMaximum
  return .object
    [("dailyLimit", .boolean dailyLimit), ("incrementalRequired", .boolean incrementalRequired),
      ("keepFailedLocalSnapshot", .boolean keepFailedLocalSnapshot),
      ("autoEject", .boolean autoEject), numberField "remoteRetention" remoteRetention,
      numberField "localRetention" localRetention,
      numberField "minimumTargetFreeBytes" minimumTargetFreeBytes,
      numberField "minimumLocalFreeBytes" minimumLocalFreeBytes]

/-- The name of an item of an array. -/
def itemName (index : Nat) : String := name ++ "[" ++ toString index ++ "]"

/-- The arguments of a hook, from number `index` on. -/
def normalizeArguments (name : String) : Nat → List Json → Except Thrown (List Json)
  | _, [] => return []
  | index, argument :: arguments => do
    let argument ← text argument (itemName name index) true 4096
    let rest ← normalizeArguments name (index + 1) arguments
    return .string argument :: rest

/-- The body of the loop of `normalize_hook_commands`. -/
def normalizeHookCommand (item : Json) (name : String) : Except Thrown Json := do
  if !item.isObject then
    .error (validationError (name ++ " must be an object"))
  rejectUnknownProperties item ["type", "program", "arguments", "timeoutSeconds"] name
  let type ← text (← requiredValue item "type" (name ++ ".type")) (name ++ ".type") false 32
  if type ≠ "program" then
    .error (validationError (name ++ ".type must be program"))
  let arguments ← arrayOrEmpty item "arguments" (name ++ ".arguments")
  if arguments.length > 128 then
    .error (validationError (name ++ ".arguments supports at most 128 arguments"))
  let arguments ← normalizeArguments (name ++ ".arguments") 0 arguments
  let _ ← requiredValue item "timeoutSeconds" (name ++ ".timeoutSeconds")
  let timeoutSeconds ← integerValue item "timeoutSeconds" (name ++ ".timeoutSeconds") 0 86400
  if timeoutSeconds = 0 then
    .error (validationError (name ++ ".timeoutSeconds is outside the supported range"))
  let program ← absolutePath (← requiredValue item "program" (name ++ ".program"))
    (name ++ ".program")
  return .object
    [("type", .string type), ("program", .string (FsPath.ofString program).lexicallyNormal.string),
      ("arguments", .array arguments), numberField "timeoutSeconds" timeoutSeconds]

/-- The hooks of a phase, from number `index` on. -/
def normalizeHookItems (name : String) : Nat → List Json → Except Thrown (List Json)
  | _, [] => return []
  | index, item :: items => do
    let command ← normalizeHookCommand item (itemName name index)
    let rest ← normalizeHookItems name (index + 1) items
    return command :: rest

/-- `normalize_hook_commands`. -/
def normalizeHookCommands (hooks : Json) (key name : String) : Except Thrown Json := do
  let commands ← arrayOrEmpty hooks key name
  if commands.length > 64 then
    .error (validationError (name ++ " supports at most 64 hooks"))
  return .array (← normalizeHookItems name 0 commands)

/-- `normalize_hooks`. -/
def normalizeHooks : Except Thrown Json := do
  let hooks ← objectOrEmpty raw "hooks" "hooks"
  rejectUnknownProperties hooks ["beforeSnapshot", "afterSnapshot"] "hooks"
  let beforeSnapshot ← normalizeHookCommands hooks "beforeSnapshot" "hooks.beforeSnapshot"
  let afterSnapshot ← normalizeHookCommands hooks "afterSnapshot" "hooks.afterSnapshot"
  return .object [("beforeSnapshot", beforeSnapshot), ("afterSnapshot", afterSnapshot)]

/-- What the loop over the sources has seen. -/
structure SeenSources where
  ids : List String
  localDirs : List String
  remoteSubdirs : List String

/-- The body of the loop of `normalize_sources`: the normalised source, whether it
is enabled, and what has been seen. -/
def normalizeSource (settings item : Json) (name : String) (seen : SeenSources) :
    Except Thrown (Json × Bool × SeenSources) := do
  if !item.isObject then
    .error (validationError (name ++ " must be an object"))
  rejectUnknownProperties item
    ["id", "name", "enabled", "subvolume", "localSnapshotDir", "remoteSubdir", "remoteRetention",
      "localRetention"] name
  let sourceId ← identifier (← fromLibrary (item.field "id")) (name ++ ".id")
  if seen.ids.contains sourceId then
    .error (validationError ("duplicate source id: " ++ sourceId))
  let localDir ← absolutePath (← fromLibrary (item.field "localSnapshotDir"))
    (name ++ ".localSnapshotDir")
  let remoteSubdir ← relativePath (.string (← fromLibrary (item.valueOr "remoteSubdir" sourceId)))
    (name ++ ".remoteSubdir")
  if seen.localDirs.contains localDir then
    .error (validationError ("duplicate localSnapshotDir: " ++ localDir))
  if seen.remoteSubdirs.contains remoteSubdir then
    .error (validationError ("duplicate remoteSubdir: " ++ remoteSubdir))
  let enabled ← booleanValue item "enabled" (name ++ ".enabled") true
  let sourceName ← text (.string (← fromLibrary (item.valueOr "name" sourceId))) (name ++ ".name")
    false 160
  let subvolume ← absolutePath (← fromLibrary (item.field "subvolume")) (name ++ ".subvolume")
  let remoteDefault ← fromLibrary ((← fromLibrary (settings.field "remoteRetention")).getUnsigned)
  let remoteRetention ← integerValue item "remoteRetention" (name ++ ".remoteRetention")
    remoteDefault.toNat retentionCountMaximum
  let localDefault ← fromLibrary ((← fromLibrary (settings.field "localRetention")).getUnsigned)
  let localRetention ← integerValue item "localRetention" (name ++ ".localRetention")
    localDefault.toNat retentionCountMaximum
  let source := .object
    [("id", .string sourceId), ("name", .string sourceName), ("enabled", .boolean enabled),
      ("subvolume", .string subvolume), ("localSnapshotDir", .string localDir),
      ("remoteSubdir", .string remoteSubdir), numberField "remoteRetention" remoteRetention,
      numberField "localRetention" localRetention]
  return (source, enabled, ⟨sourceId :: seen.ids, localDir :: seen.localDirs,
    remoteSubdir :: seen.remoteSubdirs⟩)

/-- The loop of `normalize_sources`: the sources, and whether one is enabled. -/
def normalizeSourceItems (settings : Json) :
    Nat → SeenSources → List Json → Except Thrown (List Json × Bool)
  | _, _, [] => return ([], false)
  | index, seen, item :: items => do
    let (source, enabled, seen) ← normalizeSource settings item (itemName "sources" index) seen
    let (rest, anyEnabled) ← normalizeSourceItems settings (index + 1) seen items
    return (source :: rest, enabled || anyEnabled)

/-- `normalize_sources`. -/
def normalizeSources (raw settings : Json) : Except Thrown Json :=
  match raw.lookup "sources" with
  | some (.array items) => do
    if items.isEmpty then
      .error (validationError "sources must contain at least one source")
    if items.length > 128 then
      .error (validationError "at most 128 sources are supported")
    let (sources, anyEnabled) ← normalizeSourceItems settings 0 ⟨[], [], []⟩ items
    if !anyEnabled then
      .error (validationError "at least one source must be enabled")
    return .array sources
  | _ => .error (validationError "sources must be an array")

/-- `normalize_profile`. -/
def normalizeProfile (targetMountRoot : String) : Except Thrown Json := do
  validateRoot raw
  let header ← normalizeProfileHeader raw
  let target ← normalizeTarget raw
  let mountRoot ← normalizedAbsolutePath targetMountRoot "TARGET_MOUNT_ROOT"
  let profileId ← fromLibrary ((← fromLibrary ((Json.object header).field "profileId")).getString)
  let paths ← normalizePaths raw (mountRoot / profileId : FsPath).string
  let settings ← normalizeSettings raw
  let hooks ← normalizeHooks raw
  let sources ← normalizeSources raw settings
  return .object (put "sources" sources (put "hooks" hooks (put "settings" settings
    (put "paths" paths (put "target" target header)))))

/-! ### Decoding -/

/-- A text field of an object. -/
def textField : Except Thrown String := do
  fromLibrary (← fromLibrary (json.field key)).getString

/-- A truth value of an object. -/
def boolField : Except Thrown Bool := do
  fromLibrary (← fromLibrary (json.field key)).getBool

/-- A number of an object. -/
def natField : Except Thrown Nat := do
  let value ← fromLibrary (← fromLibrary (json.field key)).getUnsigned
  return value.toNat

/-- An array of an object. -/
def arrayField : Except Thrown (List Json) := do
  fromLibrary (← fromLibrary (json.field key)).getArray

def decodeActivation (activation : Json) : Except Thrown TargetActivation := do
  match ← fromLibrary (activation.field "mode") with
  | .string "keyFile" =>
    let keyFile ← AbsolutePath.ofString (← textField activation "keyFile")
      "target.activation.keyFile"
    return .keyFile keyFile
  | _ => return .askPassword

def decodeSettings (settings : Json) : Except Thrown ProfileSettings := do
  return {
    dailyLimit := ← boolField settings "dailyLimit"
    incrementalRequired := ← boolField settings "incrementalRequired"
    keepFailedLocalSnapshot := ← boolField settings "keepFailedLocalSnapshot"
    autoEject := ← boolField settings "autoEject"
    remoteRetention := ← RetentionCount.ofNat (← natField settings "remoteRetention")
    localRetention := ← RetentionCount.ofNat (← natField settings "localRetention")
    minimumTargetFreeBytes := ← ByteThreshold.ofNat (← natField settings "minimumTargetFreeBytes")
    minimumLocalFreeBytes := ← ByteThreshold.ofNat (← natField settings "minimumLocalFreeBytes") }

def decodeHook (item : Json) : Except Thrown ProfileHookCommand := do
  return {
    program := ← AbsolutePath.ofString (← textField item "program") "hook.program"
    arguments := ← (← arrayField item "arguments").mapM fun argument =>
      fromLibrary argument.getString
    timeoutSeconds := ← natField item "timeoutSeconds" }

def decodeHooks (hooks : Json) : Except Thrown ProfileHooks := do
  return {
    beforeSnapshot := ← (← arrayField hooks "beforeSnapshot").mapM decodeHook
    afterSnapshot := ← (← arrayField hooks "afterSnapshot").mapM decodeHook }

def decodeSource (item : Json) : Except Thrown ProfileSource := do
  return {
    id := ← SourceId.ofString (← textField item "id")
    remoteSubdir := ← SafeRelativePath.ofString (← textField item "remoteSubdir")
    name := ← textField item "name"
    enabled := ← boolField item "enabled"
    subvolume := ← AbsolutePath.ofString (← textField item "subvolume") "source.subvolume"
    localSnapshotDir := ← AbsolutePath.ofString (← textField item "localSnapshotDir")
      "source.localSnapshotDir"
    remoteRetention := ← RetentionCount.ofNat (← natField item "remoteRetention")
    localRetention := ← RetentionCount.ofNat (← natField item "localRetention") }

/-- What a target is constructed from. -/
structure TargetIdentity where
  luksUuid : LuksUuid
  btrfsUuid : BtrfsUuid
  partitionUuid : PartitionUuid
  mapperName : MapperName

def decodeTargetIdentity (target : Json) : Except Thrown TargetIdentity := do
  return {
    luksUuid := ← CanonicalUuid.ofString (← textField target "luksUuid") "LUKS UUID"
    btrfsUuid := ← CanonicalUuid.ofString (← textField target "btrfsUuid") "Btrfs UUID"
    partitionUuid := ← PartitionUuid.ofString (← textField target "partitionUuid")
    mapperName := ← MapperName.ofString (← textField target "mapperName") }

def decodePaths (paths : Json) : Except Thrown ProfilePaths := do
  return {
    remoteRoot := ← AbsolutePath.ofString (← textField paths "remoteRoot") "remote snapshot root"
    incomingRoot := ← AbsolutePath.ofString (← textField paths "incomingRoot") "incoming root" }

def mountPointOf (targetMountRoot : String) (id : ProfileId) : Except Thrown TargetMountPoint := do
  let mountRoot ← normalizedAbsolutePath targetMountRoot "TARGET_MOUNT_ROOT"
  AbsolutePath.ofString (mountRoot / id.value : FsPath).string "target.mountPoint"

/-- `profile_from_document`. -/
def profileFromDocument (document : Json) (targetMountRoot : String) : Except Thrown Profile := do
  let normalized ← normalizeProfile document targetMountRoot
  let target ← fromLibrary (normalized.field "target")
  let id ← ProfileId.ofString (← textField normalized "profileId")
  let identity ← decodeTargetIdentity target
  let paths ← decodePaths (← fromLibrary (normalized.field "paths"))
  let configurationGeneration ← fromLibrary (normalized.valueOr "configurationGeneration" "")
  let name ← textField normalized "name"
  let enabled ← boolField normalized "enabled"
  let device ← TargetDevicePath.ofString (← textField target "device")
  let serial ← textField target "serial"
  let mountPoint ← mountPointOf targetMountRoot id
  let activation ← decodeActivation (← fromLibrary (target.field "activation"))
  let settings ← decodeSettings (← fromLibrary (normalized.field "settings"))
  let hooks ← decodeHooks (← fromLibrary (normalized.field "hooks"))
  let sources ← (← arrayField normalized "sources").mapM decodeSource
  return {
    configurationGeneration, id, name, enabled
    target := { identity with device, serial, mountPoint, activation }
    paths, settings, hooks, sources }

/-- `profile_from_json`. -/
def profileFromJson (targetMountRoot : String) : Except Thrown Profile := do
  profileFromDocument (← normalizeProfile raw targetMountRoot) targetMountRoot

/-! ### What an accepted profile has -/

/-- Code that throws under a condition returns only without it. -/
@[simp] theorem ite_error_eq_ok [Decidable c] {e : ε}
    {x : Except ε α} {a : α} : (if c then .error e else x) = .ok a ↔ ¬ c ∧ x = .ok a := by
  by_cases hc : c
  · simp [hc]
  · simp [hc]

/-- A constructor that checks its argument. -/
theorem dite_ok_iff [Decidable c] {f : c → α} {e : ε} {a : α} :
    (if h : c then .ok (f h) else .error e) = Except.ok a ↔ ∃ h, f h = a := by
  by_cases hc : c
  · simp [hc]
  · simp [hc]

/-- What comes after an exception is not reached. -/
@[simp] theorem error_bind {β : Type} {e : ε} {f : α → Except ε β} :
    (Except.error e >>= f) = .error e := rfl

/-- The texts of two roots are neither equal nor is one a directory above the
other, as `normalizePaths` checks it. -/
def SeparateTexts (remoteRoot incomingRoot : String) : Prop :=
  remoteRoot ≠ incomingRoot ∧ startsWith remoteRoot (incomingRoot ++ "/") = false ∧
    startsWith incomingRoot (remoteRoot ++ "/") = false

theorem absolutePath_eq_ok {value : Json} {name res : String}
    (h : absolutePath value name = .ok res) :
    ∃ path : FsPath, path.IsNormal ∧ res = path.string := by
  rw [absolutePath] at h
  obtain ⟨txt, -, h⟩ := bind_eq_ok.mp h
  obtain ⟨path, hpath, h⟩ := bind_eq_ok.mp h
  exact ⟨path, normalizedAbsolutePath_isNormal hpath, (Except.ok.inj h).symm⟩

theorem normalizePaths_eq_ok {raw paths : Json} {mnt : String}
    (h : normalizePaths raw mnt = .ok paths) :
    ∃ remRoot incRoot : FsPath, remRoot.IsNormal ∧ incRoot.IsNormal ∧
      SeparateTexts remRoot.string incRoot.string ∧
      paths = .object [("remoteRoot", .string remRoot.string),
        ("incomingRoot", .string incRoot.string)] := by
  rw [normalizePaths] at h
  simp only [bind_eq_ok] at h
  obtain ⟨_, -, _, -, _, -, remoteText, hrem, _, -, incomingText, hinc, h⟩ := h
  obtain ⟨remRoot, hremoteNormal, rfl⟩ := absolutePath_eq_ok hrem
  obtain ⟨incRoot, hincomingNormal, rfl⟩ := absolutePath_eq_ok hinc
  split_ifs at h with hnested
  push Not at hnested
  refine ⟨remRoot, incRoot, hremoteNormal, hincomingNormal, ?_, (Except.ok.inj h).symm⟩
  simpa [SeparateTexts] using hnested

variable {targetMountRoot : String}

theorem normalizeProfile_paths {raw : Json}
    (h : normalizeProfile raw targetMountRoot = .ok normalized) :
    ∃ paths mnt, normalizePaths raw mnt = .ok paths ∧ normalized.field "paths" = .ok paths := by
  rw [normalizeProfile] at h
  simp only [bind_eq_ok] at h
  obtain ⟨_, -, header, -, target, -, mountRoot, -, _, -, profileId, -, paths, hpaths, cfg, -,
    hooks, -, srcs, -, h⟩ := h
  refine ⟨paths, _, hpaths, ?_⟩
  obtain rfl := (Except.ok.inj h).symm
  rw [Json.field_object_put_ne (by decide), Json.field_object_put_ne (by decide),
    Json.field_object_put_ne (by decide), Json.field_object_put]

theorem normalizeProfile_sources {raw : Json}
    (h : normalizeProfile raw targetMountRoot = .ok normalized) :
    ∃ cfg items srcs any, normalizeSourceItems cfg 0 ⟨[], [], []⟩ items = .ok (srcs, any) ∧
      arrayField normalized "sources" = .ok srcs := by
  rw [normalizeProfile] at h
  simp only [bind_eq_ok] at h
  obtain ⟨_, -, header, -, target, -, mountRoot, -, _, -, profileId, -, paths, -, cfg, -,
    hooks, -, srcs, hsrcs, h⟩ := h
  rw [normalizeSources] at hsrcs
  split at hsrcs
  · simp only [error_bind, ite_error_eq_ok, bind_eq_ok] at hsrcs
    obtain ⟨-, -, ⟨normalized, any⟩, hitems, -, hsrcs⟩ := hsrcs
    cases hsrcs
    cases h
    refine ⟨cfg, _, normalized, any, hitems, ?_⟩
    rw [arrayField, Json.field_object_put]
    rfl
  · cases hsrcs

/-- The text of a normal form is read back as it is. -/
theorem AbsolutePath.value_of_string {name : String} {res} (hnorm : path.IsNormal)
    (h : AbsolutePath.ofString path.string name = .ok res) : res.value = path := by
  obtain ⟨-, hvalue⟩ := normalizedAbsolutePath_ok (AbsolutePath.ofString_eq_ok.mp h)
  rw [hvalue, FsPath.ofString_string, FsPath.lexicallyNormal_of_isNormal hnorm]

/-- The roots are read back from the document. -/
theorem textField_paths (remRoot incRoot : String) :
    textField (.object [("remoteRoot", .string remRoot), ("incomingRoot", .string incRoot)])
        "remoteRoot" = .ok remRoot ∧
      textField (.object [("remoteRoot", .string remRoot),
        ("incomingRoot", .string incRoot)]) "incomingRoot" = .ok incRoot := by
  constructor <;> rfl

theorem decodePaths_eq_ok {remRoot incRoot : FsPath} {paths}
    (hrem : remRoot.IsNormal) (hinc : incRoot.IsNormal)
    (h : decodePaths (.object [("remoteRoot", .string remRoot.string),
      ("incomingRoot", .string incRoot.string)]) = .ok paths) :
    paths.remoteRoot.value = remRoot ∧ paths.incomingRoot.value = incRoot := by
  obtain ⟨hremoteRead, hincomingRead⟩ := textField_paths remRoot.string incRoot.string
  simp only [decodePaths, bind_eq_ok] at h
  obtain ⟨_, hremoteText, remoteResult, hremoteResult, _, hincText, incomingResult,
    hincomingResult, h⟩ := h
  obtain rfl := Except.ok.inj (hremoteRead.symm.trans hremoteText)
  obtain rfl := Except.ok.inj (hincomingRead.symm.trans hincText)
  obtain rfl := (Except.ok.inj h).symm
  exact ⟨AbsolutePath.value_of_string hrem hremoteResult,
    AbsolutePath.value_of_string hinc hincomingResult⟩

theorem normalizeSource_localDir {src : Json} {name : String} {enabled : Bool}
    {seen seen' : SeenSources} (h : normalizeSource cfg item name seen = .ok (src, enabled, seen'))
    : ∃ path : FsPath, path.IsNormal ∧ textField src "localSnapshotDir" = .ok path.string ∧
    path.string ∉ seen.localDirs ∧ seen'.localDirs = path.string :: seen.localDirs := by
  simp only [normalizeSource, error_bind, ite_error_eq_ok, bind_eq_ok] at h
  obtain ⟨-, _, -, _, -, _, -, -, _, -, localDir, hlocal, _, -, _, -, hnew, -, _, -, _, -, _,
    -, _, -,
    _, -, _, -, _, -, _, -, _, -, _, -, _, -, h⟩ := h
  obtain ⟨path, hnorm, rfl⟩ := absolutePath_eq_ok hlocal
  cases h
  exact ⟨path, hnorm, rfl, by simpa using hnew, rfl⟩

theorem decodeSource_localDir {src}
    (hpath : path.IsNormal) (htext : textField item "localSnapshotDir" = .ok path.string)
    (h : decodeSource item = .ok src) : src.localSnapshotDir.value = path := by
  simp only [decodeSource, bind_eq_ok] at h
  obtain ⟨_, -, _, -, _, -, _, -, _, -, _, -, _, -, _, -, _, hread, dir, hdir, _, -, _, -, _,
    -, _, -,
    h⟩ := h
  obtain rfl := Except.ok.inj (htext.symm.trans hread)
  cases h
  exact AbsolutePath.value_of_string hpath hdir

/-- The loop over the sources lets no two snapshot directories of one text pass. -/
theorem normalizeSourceItems_localDirs :
    ∀ {items : List Json} {index : Nat} {seen : SeenSources} {normalized : List Json} {any : Bool}
      {srcs : List ProfileSource},
      normalizeSourceItems cfg index seen items = .ok (normalized, any) →
      normalized.mapM decodeSource = .ok srcs →
      (∀ s ∈ srcs, s.localSnapshotDir.value.string ∉ seen.localDirs) ∧ srcs.Pairwise fun a b =>
          a.localSnapshotDir.value.string ≠ b.localSnapshotDir.value.string
  | [], _, _, _, _, _, h, hsrcs => by
    cases h
    cases hsrcs
    simp
  | item :: items, index, seen, _, _, _, h, hsrcs => by
    simp only [normalizeSourceItems, bind_eq_ok] at h
    obtain ⟨⟨src, enabled, seen'⟩, hsrc, ⟨rest, anyEnabled⟩, hrest, h⟩ := h
    cases h
    simp only [List.mapM_cons, bind_eq_ok] at hsrcs
    obtain ⟨decoded, hdecoded, others, hothers, h⟩ := hsrcs
    cases h
    obtain ⟨path, hnorm, htext, hnew, hseen⟩ := normalizeSource_localDir hsrc
    obtain ⟨hunseen, hdist⟩ := normalizeSourceItems_localDirs hrest hothers
    rw [hseen] at hunseen
    have hpath := decodeSource_localDir hnorm htext hdecoded
    refine ⟨List.forall_mem_cons.mpr ⟨hpath ▸ hnew, fun s hs => ?_⟩,
      List.pairwise_cons.mpr ⟨fun s hs heq => ?_, hdist⟩⟩
    · exact List.not_mem_of_not_mem_cons (hunseen s hs)
    · rw [hpath] at heq
      exact hunseen s hs (heq ▸ List.mem_cons_self)

theorem mountPointOf_names {id : ProfileId} {mnt}
    (h : mountPointOf targetMountRoot id = .ok mnt) : id.value ∈ mnt.value.names := by
  obtain ⟨mountRoot, hmountRoot, h⟩ := bind_eq_ok.mp h
  obtain ⟨habs, hnames, -⟩ := FsPath.div_name id.isPlain.1
  have hnorm : (mountRoot / id.value : FsPath).IsNormal :=
    FsPath.div_name_isNormal (normalizedAbsolutePath_isNormal hmountRoot) id.isPlain.1
      id.isPlain.2.1 id.isPlain.2.2
  rw [AbsolutePath.value_of_string hnorm h, hnames]
  simp

/-- **The directories of an accepted profile are separate**, as texts; its target is
mounted below the mount root, in the directory named by its id. -/
theorem profileFromJson_eq_ok {raw : Json} {prof : Profile}
    (h : profileFromJson raw targetMountRoot = .ok prof) :
    SeparateTexts prof.paths.remoteRoot.value.string prof.paths.incomingRoot.value.string ∧
      prof.id.value ∈ prof.target.mountPoint.value.names ∧ prof.sources.Pairwise fun a b =>
        a.localSnapshotDir.value.string ≠ b.localSnapshotDir.value.string := by
  obtain ⟨document, -, h⟩ := bind_eq_ok.mp h
  rw [profileFromDocument] at h
  simp only [bind_eq_ok] at h
  obtain ⟨normalized, hnormalized, target, -, _, -, id, -, identity, -, pathsJson,
    hpathsJson, paths,
    hpaths, generation, -, name, -, enabled, -, _, -, device, -, serial, -, mnt,
    hmount, _, -, activation, -, _, -, cfg, -, _, -, hooks, -, items, hitems, srcs,
    hsrcs, h⟩ := h
  obtain rfl := (Except.ok.inj h).symm
  obtain ⟨_, _, _, _, hloop, harray⟩ := normalizeProfile_sources hnormalized
  obtain rfl := Except.ok.inj (hitems.symm.trans harray)
  refine ⟨?_, mountPointOf_names hmount, (normalizeSourceItems_localDirs hloop hsrcs).2⟩
  obtain ⟨_, _, hnorm, hfield⟩ := normalizeProfile_paths hnormalized
  obtain ⟨remRoot, incRoot, hrem, hinc, hseparate, rfl⟩ :=
    normalizePaths_eq_ok hnorm
  rw [hfield] at hpathsJson
  obtain rfl := Except.ok.inj hpathsJson
  obtain ⟨hremoteValue, hincomingValue⟩ := decodePaths_eq_ok hrem hinc hpaths
  show SeparateTexts paths.remoteRoot.value.string paths.incomingRoot.value.string
  rw [hremoteValue, hincomingValue]
  exact hseparate

end BtrfsBackup
