/-
The profile of a prepared device (`daemon/control/SystemDeviceProvisioningBackend::start`,
`ProvisioningSource`, `ProvisionedProfileBuilder`, `config/wizard/ProfileWizardModel`).

A request to prepare a device is checked when it is accepted; the profile is built from
it when the device is ready, and building checks by other rules.

* `acceptRequest` — the checks of `start`, and what the preparation keeps of the request;
* `profileFromWizardAnswers`, `build` — the profile;
* `Installable` — what the values of a preparation must be like for that;
* `provisioned_installable_iff` — when the profile of an accepted request is built.
-/
import BtrfsBackup.Preflight
import BtrfsBackup.ProfileEncoding
import BtrfsBackup.ProvisioningService

open OrderedJson

namespace BtrfsBackup.Provisioning

open Preparation (ProvisioningMode)

/-! ### Accepting a request -/

/-- The bytes of the normal form of a mount point. -/
def mountSize (entry : MountEntry) : Nat :=
  (FsPath.ofString entry.target).lexicallyNormal.string.utf8ByteSize

/-- The mount point is above the path. -/
def mountCovers (path : FsPath) (entry : MountEntry) : Bool :=
  entry.target ≠ "" && FsPath.pathIsWithin path.lexicallyNormal
    (FsPath.ofString entry.target).lexicallyNormal

/-- `mount_for_path`: the last of the longest mount points above the path. -/
def mountForPath (entries : List MountEntry) (path : FsPath) : Option MountEntry :=
  (entries.filter (mountCovers path)).foldl
    (fun best entry =>
      match best with
      | none => some entry
      | some old => if mountSize old ≤ mountSize entry then some entry else some old)
    none

/-- `require_btrfs_identity`. -/
def requireBtrfsIdentity (mount : MountEntry) : Except Thrown Unit :=
  if mount.fstype ≠ "btrfs" ∨ mount.filesystemUuid = "" then
    .error (validationError
      "device preparation source must be on an identified Btrfs filesystem")
  else if hasMountOption mount.options "rw" = false then
    .error (validationError "device preparation source filesystem is not writable")
  else .ok ()

/-- `candidate_from_mount`. -/
def candidateFromMount (mount : MountEntry) : SourceCandidate :=
  let root := (FsPath.ofString mount.target).lexicallyNormal
  { id := ""
    path := root.string
    filesystemUuid := mount.filesystemUuid
    mountRoot := root.string
    localSnapshotRoot := (root / ".snapshots" / "btrfs-backup" : FsPath).lexicallyNormal.string }

variable (answers : ProfileWizardAnswers) (mounts : List MountEntry)

/-- `resolve_provisioning_source`. -/
def resolveProvisioningSource (source : FsPath) (profileId : ProfileId) :
    Except Thrown SourceCandidate := do
  match mountAt mounts source.lexicallyNormal with
  | none =>
      .error (validationError "device preparation source is not a mounted filesystem root")
  | some sourceMount =>
      requireBtrfsIdentity sourceMount
      let result := candidateFromMount sourceMount
      let localDir := FsPath.ofString result.localSnapshotRoot / profileId.value
      match mountForPath mounts localDir with
      | none => .error (validationError "local snapshot directory has no mounted filesystem")
      | some localMount =>
          requireBtrfsIdentity localMount
          if localMount.filesystemUuid ≠ sourceMount.filesystemUuid then
            .error (validationError
              "local snapshot directory is not on the source Btrfs filesystem")
          else return { result with localSnapshotRoot := localDir.lexicallyNormal.string }

/-- An optional part of a target that is there and satisfies a condition. -/
def present (part : Option α) (condition : α → Bool) : Bool :=
  match part with
  | none => false
  | some value => condition value

/-- `validate_execution_target`. -/
def validateExecutionTarget (target : DevicePreparationTarget) : Except ManagerFailure Unit :=
  let identity := target.device.identity
  let wholeDevice := target.mode = .eraseWholeDevice
  let existingPartition := target.mode = .reformatExistingPartition
  let adoption := target.mode = .adoptExistingTarget
  let freeSpace := target.mode = .createPartitionInUnallocatedSpace
  let incomplete (what : String) : Except ManagerFailure Unit :=
    .error (.exception (validationError what))
  if (wholeDevice && (target.partition.isSome || target.plannedPartitionGeometry.isNone)) ||
      ((existingPartition || adoption) && target.partition.isNone) ||
      (freeSpace && (target.partition.isSome || target.freeRegion.isNone ||
        target.plannedPartitionGeometry.isNone)) ||
      (adoption && target.expectedInspection.isNone) then
    incomplete "device preparation target is incomplete"
  else if identity.displayPath = "" || identity.majorMinor = "" || identity.sysfsPath = "" ||
      identity.sizeBytes = 0 || target.device.logicalSectorSize = 0 ||
      target.device.transport = "" ||
      (identity.wwn = "" && identity.serial = "" && identity.serialShort = "") then
    incomplete "device preparation target identity is incomplete"
  else if existingPartition && present target.partition fun partition =>
      partition.identity.displayPath = "" || partition.identity.majorMinor = "" ||
        partition.identity.sysfsPath = "" || partition.identity.sizeBytes = 0 ||
        partition.partitionNumber = 0 || partition.sectorCount = 0 then
    incomplete "partition preparation target identity is incomplete"
  else if freeSpace && (target.device.partitionTable.type ≠ .gpt ||
      target.device.partitionTable.identifier = "" ||
      present target.freeRegion (fun region => region.sectorCount = 0) ||
      present target.plannedPartitionGeometry fun geometry =>
        geometry.sectorCount = 0 || geometry.partitionNumber = 0) then
    incomplete "free-space preparation target identity is incomplete"
  else if wholeDevice && present target.plannedPartitionGeometry fun geometry =>
      geometry.sectorCount = 0 || geometry.partitionNumber = 0 then
    incomplete "whole-device preparation geometry is incomplete"
  else if adoption && present target.expectedInspection fun inspection =>
      inspection.luksUuid = "" || inspection.btrfsUuid = "" || inspection.partitionUuid = "" ||
        inspection.repositoryId = "" then
    incomplete "existing target adoption fingerprint is incomplete"
  else .ok ()

/-- The serial numbers of `provisioning_device_snapshot`. -/
structure DeviceSerial where
  serial : String
  serialShort : String
  deriving DecidableEq

/-- `provisioning_device_snapshot`. -/
def provisioningDeviceSnapshot (device : StorageDevice) : DeviceSerial where
  serial :=
    if device.identity.serialShort ≠ "" then device.identity.serialShort
    else device.identity.serial
  serialShort := device.identity.serialShort

/-- What a preparation keeps of the request, as far as the profile is built from it. -/
structure AcceptedRequest where
  profileId : ProfileId
  profileName : String
  device : DeviceSerial
  sources : List DevicePreparationSource
  createAutomaticKey : Bool
  deriving DecidableEq

/-- The loop of `start` over the sources. -/
def resolveRequestedSource (profileId : ProfileId)
    (requested : DevicePreparationSource) : Except ManagerFailure DevicePreparationSource := do
  let source ← (resolveProvisioningSource mounts (FsPath.ofString requested.subvolume)
    profileId).mapError .exception
  if (requested.filesystemUuid ≠ "" ∧ requested.filesystemUuid ≠ source.filesystemUuid) ∨
      (requested.mountRoot ≠ "" ∧ requested.mountRoot ≠ source.mountRoot) ∨
      (requested.localSnapshotDir ≠ "" ∧
        requested.localSnapshotDir ≠ source.localSnapshotRoot) then
    .error (.operation .conflict "device preparation source changed since selection")
  else return { requested with
    subvolume := source.path
    filesystemUuid := source.filesystemUuid
    mountRoot := source.mountRoot
    localSnapshotDir := source.localSnapshotRoot }

/-- `start` up to the registration. -/
def acceptRequest (request : DevicePreparationRequest)
    (target : DevicePreparationTarget) : Except ManagerFailure AcceptedRequest := do
  validateExecutionTarget target
  if request.sources.isEmpty then
    .error (.exception
      (validationError "device preparation requires at least one resolved source"))
  else
    let profileId ← (ProfileId.ofString request.profileId).mapError .exception
    let sources ← request.sources.mapM (resolveRequestedSource mounts profileId)
    return {
      profileId := profileId
      profileName := request.profileName
      device := provisioningDeviceSnapshot target.device
      sources := sources
      createAutomaticKey := if target.mode = .adoptExistingTarget then false
        else request.createAutomaticKey }

/-! ### Building the profile -/

structure ProfileWizardSourceAnswers where
  id : String
  name : String
  subvolume : String
  localSnapshotDir : String
  remoteSubdir : String
  localRetention : Option Nat
  remoteRetention : Option Nat

structure ProfileWizardAnswers where
  profileId : String := "default"
  profileName : String := "default"
  targetDevice : String
  targetLuksUuid : String
  targetBtrfsUuid : String
  targetPartitionUuid : String
  targetSerial : String
  targetMapperName : String := "backupdisk"
  targetMountRoot : String := "/mnt/btrfs-backup"
  sources : List ProfileWizardSourceAnswers
  remoteRetention : Nat := 30
  localRetention : Nat := 30
  dailyLimit : Bool := true
  incrementalRequired : Bool := true
  keepFailedLocalSnapshot : Bool := false
  autoEject : Bool := true
  minimumTargetFreeBytes : Nat := 5 * 1024 * 1024 * 1024
  minimumLocalFreeBytes : Nat := 1024 * 1024 * 1024
  keyfile : String := "none"

/-- The loop over the sources; `used` are the names so far. -/
def wizardSources (answers : ProfileWizardAnswers) :
    List String → List ProfileWizardSourceAnswers → Except Thrown (List ProfileSource)
  | _, [] => .ok []
  | used, source :: rest => do
      let id ← SourceId.ofString source.id
      let remoteSubdir ← SafeRelativePath.ofString source.remoteSubdir
      if source.id ∈ used then
        .error (validationError ("duplicate source name: " ++ source.id))
      else
        let subvolume ← AbsolutePath.ofString source.subvolume "source.subvolume"
        let localSnapshotDir ←
          AbsolutePath.ofString source.localSnapshotDir "source.localSnapshotDir"
        let remoteRetention ←
          RetentionCount.ofNat (source.remoteRetention.getD answers.remoteRetention)
        let localRetention ←
          RetentionCount.ofNat (source.localRetention.getD answers.localRetention)
        let sources ← wizardSources answers (source.id :: used) rest
        return {
          id, remoteSubdir, subvolume, localSnapshotDir, remoteRetention, localRetention
          name := if source.name = "" then source.id else source.name
          enabled := true } :: sources

/-- A directory of the target below its mount root. -/
def targetDirectory (name : String) : String :=
  (FsPath.ofString answers.targetMountRoot / answers.profileId / name : FsPath).string

def wizardActivation : Except Thrown TargetActivation :=
  if answers.keyfile = "none" then .ok .askPassword
  else (AbsolutePath.ofString answers.keyfile "target.activation.keyFile").map .keyFile

/-- The profile of `profile_from_wizard_answers` before it is written and read again. -/
def wizardProfile : Except Thrown Profile := do
  let id ← ProfileId.ofString answers.profileId
  let luksUuid ← CanonicalUuid.ofString answers.targetLuksUuid "LUKS UUID"
  let btrfsUuid ← CanonicalUuid.ofString answers.targetBtrfsUuid "Btrfs UUID"
  let partitionUuid ← PartitionUuid.ofString answers.targetPartitionUuid
  let mapperName ← MapperName.ofString answers.targetMapperName
  let remoteRoot ← AbsolutePath.ofString (targetDirectory answers "snapshots")
    "remote snapshot root"
  let incomingRoot ← AbsolutePath.ofString (targetDirectory answers ".incoming") "incoming root"
  let device ← TargetDevicePath.ofString answers.targetDevice
  let mountPoint ← AbsolutePath.ofString
    (FsPath.ofString answers.targetMountRoot / id.value : FsPath).string "target.mountPoint"
  let activation ← wizardActivation answers
  let sources ← wizardSources answers [] answers.sources
  let remoteRetention ← RetentionCount.ofNat answers.remoteRetention
  let localRetention ← RetentionCount.ofNat answers.localRetention
  let minimumTargetFreeBytes ← ByteThreshold.ofNat answers.minimumTargetFreeBytes
  let minimumLocalFreeBytes ← ByteThreshold.ofNat answers.minimumLocalFreeBytes
  return {
    configurationGeneration := ""
    id := id
    name := answers.profileName
    enabled := true
    target := { device, luksUuid, btrfsUuid, partitionUuid, mapperName, mountPoint, activation
                serial := answers.targetSerial }
    paths := { remoteRoot, incomingRoot }
    settings := {
      remoteRetention, localRetention, minimumTargetFreeBytes, minimumLocalFreeBytes
      dailyLimit := answers.dailyLimit
      incrementalRequired := answers.incrementalRequired
      keepFailedLocalSnapshot := answers.keepFailedLocalSnapshot
      autoEject := answers.autoEject }
    hooks := ⟨[], []⟩
    sources := sources }

/-- `profile_from_wizard_answers`. -/
def profileFromWizardAnswers : Except Thrown Profile := do
  let profile ← wizardProfile answers
  profileFromJson (profileToJson profile) answers.targetMountRoot

/-- The identifier of the source number `index`. -/
def sourceId (index : Nat) : String :=
  if index = 0 then "source" else "source-" ++ toString (index + 1)

/-- The answers about the source number `index`. -/
def sourceAnswer (index : Nat) (source : DevicePreparationSource) : ProfileWizardSourceAnswers where
  id := sourceId index
  name := source.name
  subvolume := source.subvolume
  localSnapshotDir := source.localSnapshotDir
  remoteSubdir := sourceId index
  localRetention := some source.localRetention
  remoteRetention := some source.remoteRetention

/-- The answers about the sources, from number `index` on. -/
def sourceAnswers : Nat → List DevicePreparationSource → List ProfileWizardSourceAnswers
  | _, [] => []
  | index, source :: rest => sourceAnswer index source :: sourceAnswers (index + 1) rest

/-- The serial number of the profile. -/
def DeviceSerial.chosen (device : DeviceSerial) : String :=
  if device.serialShort = "" then device.serial else device.serialShort

/-- The answers of `ProvisionedProfileBuilder::build`. -/
def provisionedAnswers (targetMountRoot : String) (accepted : AcceptedRequest)
    (luksUuid btrfsUuid partitionUuid : String) : ProfileWizardAnswers where
  profileId := accepted.profileId.value
  profileName := accepted.profileName
  targetDevice := "/dev/disk/by-uuid/" ++ luksUuid
  targetLuksUuid := luksUuid
  targetBtrfsUuid := btrfsUuid
  targetPartitionUuid := partitionUuid
  targetSerial := accepted.device.chosen
  targetMapperName := "backupdisk-" ++ accepted.profileId.value
  targetMountRoot := targetMountRoot
  keyfile := "none"
  sources := sourceAnswers 0 accepted.sources

/-- `ProvisionedProfileBuilder::build`. -/
def ProvisionedProfileBuilder.build (targetMountRoot : String) (accepted : AcceptedRequest)
    (luksUuid btrfsUuid partitionUuid : String) : Except Thrown Profile := do
  let profile ← profileFromWizardAnswers
    (provisionedAnswers targetMountRoot accepted luksUuid btrfsUuid partitionUuid)
  return { profile with enabled := accepted.createAutomaticKey }

end BtrfsBackup.Provisioning
