/-
Storage devices, the plans to prepare them, and the check that a plan is still safe
(`provisioning/StorageTopology`, `DevicePreparationPlan`, `DevicePreparationPlanBuilder`,
`StorageSafetyInspector`).

A topology lists the devices with their partitions and free regions; whoever shows it to
a caller gives each of them a candidate identifier.  A plan names what it works on by
these identifiers.

* `DevicePreparationPlan.validate`, `build` — plans, and the builder of valid ones;
* `inspect` — the blockers of a plan, from the topology it was made for and the current
  one;
* `plannedTarget` — what a plan works on.
-/
import BtrfsBackup.ManagerErrors
import BtrfsBackup.PreparationTransaction

namespace BtrfsBackup.Provisioning

open Preparation (ProvisioningMode PartitionTableType PlannedPartitionGeometry
  ExistingTargetInspectionSummary)

/-! ### Topologies -/

structure SafetyBlocker where
  code : String
  detail : String
  deriving DecidableEq, Repr

structure StableBlockDeviceIdentity where
  displayPath : String
  majorMinor : String
  sysfsPath : String
  wwn : String
  serial : String
  serialShort : String
  sizeBytes : Nat
  deriving DecidableEq, Repr

structure PartitionTableDescription where
  type : PartitionTableType
  identifier : String
  deriving DecidableEq, Repr

structure FilesystemDescription where
  type : String
  version : String
  label : String
  uuid : String
  deriving DecidableEq, Repr

structure ExistingPartition where
  candidateId : String
  identity : StableBlockDeviceIdentity
  partitionUuid : Option String
  partitionLabel : Option String
  partitionNumber : Nat
  startSector : Nat
  sectorCount : Nat
  filesystem : FilesystemDescription
  mountPoints : List String
  holders : List String
  activeSwap : Bool
  blockers : List SafetyBlocker
  configuredBackupTarget : Bool
  suitableForReformat : Bool
  suitableForAdoption : Bool
  deriving DecidableEq, Repr

structure UnallocatedRegion where
  id : String
  startSector : Nat
  sectorCount : Nat
  blockers : List SafetyBlocker
  suitableForBackupPartition : Bool
  deriving DecidableEq, Repr

inductive StorageRegion where
  | partition (value : ExistingPartition)
  | free (value : UnallocatedRegion)
  deriving DecidableEq, Repr

structure StorageDevice where
  candidateId : String
  identity : StableBlockDeviceIdentity
  displayName : String
  transport : String
  sizeBytes : Nat
  logicalSectorSize : Nat
  physicalSectorSize : Nat
  removable : Bool
  readOnly : Bool
  hotplug : Bool
  systemDevice : Bool
  partitionTable : PartitionTableDescription
  filesystem : FilesystemDescription
  regions : List StorageRegion
  mountPoints : List String
  holders : List String
  activeSwap : Bool
  blockers : List SafetyBlocker
  deriving DecidableEq, Repr

structure StorageTopology where
  generation : String
  devices : List StorageDevice
  deriving DecidableEq, Repr

variable (topology : StorageTopology) (device : StorageDevice) (id : String)
  (plan : DevicePreparationPlan)

/-- The partitions of a device, in order. -/
def StorageDevice.partitions : List ExistingPartition :=
  device.regions.filterMap fun
    | .partition value => some value
    | .free _ => none

/-- The free regions of a device, in order. -/
def StorageDevice.freeRegions : List UnallocatedRegion :=
  device.regions.filterMap fun
    | .partition _ => none
    | .free value => some value

/-- The device of a candidate identifier. -/
def StorageTopology.device? : Option StorageDevice :=
  topology.devices.find? fun device => device.candidateId = id

/-- The partition of a candidate identifier (`expected_partition`). -/
def StorageDevice.partition? : Option ExistingPartition :=
  device.partitions.find? fun partition => partition.candidateId = id

/-- The free region of an identifier (`expected_free_region`). -/
def StorageDevice.freeRegion? : Option UnallocatedRegion :=
  device.freeRegions.find? fun region => region.id = id

/-! ### Plans -/

inductive PlannedStorageOperation where
  | backupPartitionTable (deviceId : String)
  | eraseDeviceSignatures (deviceId : String)
  | erasePartitionSignatures (partitionId : String)
  | createGptPartitionTable (deviceId : String)
  | createBackupPartition (deviceId : String) (freeRegionId : Option String)
      (geometry : Option PlannedPartitionGeometry)
  | formatLuks2 (partitionId : Option String)
  | openLuksMapping
  | formatBtrfs
  | verifyPreparedTarget
  | publishProfile
  deriving DecidableEq, Repr

inductive DestructiveScopeKind where
  | none
  | wholeDevice
  | existingPartition
  | unallocatedRegion
  deriving DecidableEq, Repr

structure DestructiveScope where
  kind : DestructiveScopeKind
  deviceId : String
  partitionId : Option String
  freeRegionId : Option String
  deriving DecidableEq, Repr

/-- `DevicePreparationPlan`, without the layouts and warnings that are shown to a user. -/
structure DevicePreparationPlan where
  id : String
  topologyGeneration : String
  mode : ProvisioningMode
  deviceId : String
  partitionId : Option String
  freeRegionId : Option String
  inspectionId : Option String
  operations : List PlannedStorageOperation
  destructiveScope : DestructiveScope
  deriving DecidableEq, Repr

/-- `if (condition) throw ValidationError`. -/
def refuse (condition : Bool) (what : String) : Except Thrown Unit :=
  if condition then .error (validationError what) else .ok ()

namespace DestructiveScope

/-- `whole_device`. -/
def ofDevice (deviceId : String) : Except Thrown DestructiveScope := do
  refuse (deviceId = "") "destructive scope device identifier is empty"
  pure ⟨.wholeDevice, deviceId, none, none⟩

/-- `existing_partition`. -/
def ofPartition (deviceId partitionId : String) : Except Thrown DestructiveScope := do
  refuse (partitionId = "") "destructive scope partition identifier is empty"
  refuse (deviceId = "") "destructive scope device identifier is empty"
  pure ⟨.existingPartition, deviceId, some partitionId, none⟩

/-- `unallocated_region`. -/
def ofFreeRegion (deviceId freeRegionId : String) : Except Thrown DestructiveScope := do
  refuse (freeRegionId = "") "destructive scope free-region identifier is empty"
  refuse (deviceId = "") "destructive scope device identifier is empty"
  pure ⟨.unallocatedRegion, deviceId, none, some freeRegionId⟩

def adoption (deviceId partitionId : String) : Except Thrown DestructiveScope := do
  refuse (partitionId = "") "adoption scope partition identifier is empty"
  refuse (deviceId = "") "destructive scope device identifier is empty"
  pure ⟨.none, deviceId, some partitionId, none⟩

end DestructiveScope

/-- The condition of `validate` for the target of a plan, and its message. -/
def DevicePreparationPlan.contradiction : Bool × String :=
  match plan.mode with
  | .eraseWholeDevice =>
      (plan.partitionId.isSome || plan.freeRegionId.isSome || plan.inspectionId.isSome ||
        plan.destructiveScope.kind ≠ .wholeDevice,
        "whole-device preparation plan has a contradictory target")
  | .reformatExistingPartition =>
      (plan.partitionId.isNone || plan.freeRegionId.isSome || plan.inspectionId.isSome ||
        plan.destructiveScope.kind ≠ .existingPartition ||
        plan.destructiveScope.partitionId ≠ plan.partitionId,
        "partition preparation plan has a contradictory target")
  | .createPartitionInUnallocatedSpace =>
      (plan.partitionId.isSome || plan.freeRegionId.isNone || plan.inspectionId.isSome ||
        plan.destructiveScope.kind ≠ .unallocatedRegion ||
        plan.destructiveScope.freeRegionId ≠ plan.freeRegionId,
        "free-space preparation plan has a contradictory target")
  | .adoptExistingTarget =>
      (plan.partitionId.isNone || plan.freeRegionId.isSome || plan.inspectionId.isNone ||
        plan.inspectionId = some "" || plan.destructiveScope.kind ≠ .none ||
        plan.destructiveScope.partitionId ≠ plan.partitionId,
        "adoption preparation plan has a contradictory target")

def DevicePreparationPlan.validate : Except Thrown Unit := do
  refuse (plan.id = "") "device preparation plan identifier is empty"
  refuse (plan.topologyGeneration = "") "device preparation topology generation is empty"
  refuse (plan.deviceId = "") "device preparation device identifier is empty"
  refuse (plan.destructiveScope.deviceId ≠ plan.deviceId)
    "device preparation scope selects a different device"
  refuse plan.contradiction.1 plan.contradiction.2

/-- A plan that `validate` accepts. -/
structure ValidPlan where
  plan : DevicePreparationPlan
  valid : plan.validate = .ok ()
  deriving DecidableEq

/-- A plan that is returned if `validate` accepts it. -/
def validated : Except Thrown ValidPlan :=
  match h : plan.validate with
  | .ok _ => .ok ⟨plan, h⟩
  | .error e => .error e

/-! ### The builder -/

section builder

variable (topology : StorageTopology) (device : StorageDevice) (planId : String)

/-- `erase_whole_device_plan`. -/
def eraseWholeDevicePlan (geometry : PlannedPartitionGeometry) : Except Thrown ValidPlan := do
  let sectors := if device.logicalSectorSize = 0 then 0
    else device.sizeBytes / device.logicalSectorSize
  refuse (geometry.partitionNumber = 0 || geometry.sectorCount = 0 ||
      sectors ≤ geometry.startSector || sectors - geometry.startSector < geometry.sectorCount)
    "planned whole-device partition geometry is invalid"
  let scope ← DestructiveScope.ofDevice device.candidateId
  validated
    { id := planId
      topologyGeneration := topology.generation
      mode := .eraseWholeDevice
      deviceId := device.candidateId
      partitionId := none
      freeRegionId := none
      inspectionId := none
      operations :=
        [.backupPartitionTable device.candidateId, .eraseDeviceSignatures device.candidateId,
          .createGptPartitionTable device.candidateId,
          .createBackupPartition device.candidateId none (some geometry), .formatLuks2 none,
          .openLuksMapping, .formatBtrfs, .verifyPreparedTarget, .publishProfile]
      destructiveScope := scope }

/-- `reformat_partition_plan`. -/
def reformatPartitionPlan (partition : ExistingPartition) : Except Thrown ValidPlan := do
  let scope ← DestructiveScope.ofPartition device.candidateId partition.candidateId
  validated
    { id := planId
      topologyGeneration := topology.generation
      mode := .reformatExistingPartition
      deviceId := device.candidateId
      partitionId := some partition.candidateId
      freeRegionId := none
      inspectionId := none
      operations :=
        [.erasePartitionSignatures partition.candidateId,
          .formatLuks2 (some partition.candidateId), .openLuksMapping, .formatBtrfs,
          .verifyPreparedTarget, .publishProfile]
      destructiveScope := scope }

/-- `create_partition_in_free_space_plan`. -/
def createPartitionInFreeSpacePlan (freeRegion : UnallocatedRegion)
    (geometry : PlannedPartitionGeometry) : Except Thrown ValidPlan := do
  refuse (device.partitionTable.type ≠ .gpt) "creating a backup partition requires GPT"
  refuse (!freeRegion.suitableForBackupPartition || !freeRegion.blockers.isEmpty ||
      freeRegion.sectorCount = 0) "unallocated region is not suitable for a backup partition"
  refuse (geometry.sectorCount = 0 || geometry.partitionNumber = 0 ||
      Preparation.maximumUint64 - freeRegion.sectorCount < freeRegion.startSector ||
      Preparation.maximumUint64 - geometry.sectorCount < geometry.startSector)
    "planned partition geometry is invalid"
  let freeEnd := freeRegion.startSector + freeRegion.sectorCount
  let partitionEnd := geometry.startSector + geometry.sectorCount
  refuse (geometry.startSector < freeRegion.startSector || freeEnd < partitionEnd)
    "planned partition geometry exceeds the selected free region"
  let scope ← DestructiveScope.ofFreeRegion device.candidateId freeRegion.id
  validated
    { id := planId
      topologyGeneration := topology.generation
      mode := .createPartitionInUnallocatedSpace
      deviceId := device.candidateId
      partitionId := none
      freeRegionId := some freeRegion.id
      inspectionId := none
      operations :=
        [.backupPartitionTable device.candidateId,
          .createBackupPartition device.candidateId (some freeRegion.id) (some geometry),
          .formatLuks2 none, .openLuksMapping, .formatBtrfs, .verifyPreparedTarget,
          .publishProfile]
      destructiveScope := scope }

/-- `adopt_existing_target_plan`. -/
def adoptExistingTargetPlan (partition : ExistingPartition) (inspectionId : String) :
    Except Thrown ValidPlan := do
  refuse (!partition.suitableForAdoption || inspectionId = "")
    "storage partition requires a valid existing target inspection"
  let scope ← DestructiveScope.adoption device.candidateId partition.candidateId
  validated
    { id := planId
      topologyGeneration := topology.generation
      mode := .adoptExistingTarget
      deviceId := device.candidateId
      partitionId := some partition.candidateId
      freeRegionId := none
      inspectionId := some inspectionId
      operations := [.verifyPreparedTarget, .publishProfile]
      destructiveScope := scope }

end builder

/-- The first device that has something, with it. -/
def firstDevice (find : StorageDevice → Option β) : List StorageDevice → Option (StorageDevice × β)
  | [] => none
  | device :: rest =>
      match find device with
      | some found => some (device, found)
      | none => firstDevice find rest

/-- `DevicePreparationPlanBuilder::build`. -/
def build (expectedGeneration selectedCandidateId : String) (mode : ProvisioningMode)
    (planId : String) (inspectionId : Option String)
    (partitionGeometry : Option PlannedPartitionGeometry) : Except Thrown ValidPlan := do
  refuse (topology.generation = "" || topology.generation ≠ expectedGeneration)
    "storage topology generation changed"
  refuse (planId = "") "device preparation plan identifier is empty"
  refuse (mode = .adoptExistingTarget && inspectionId.isNone)
    "existing target inspection identifier is required"
  let partition := firstDevice (·.partition? selectedCandidateId) topology.devices
  match mode with
  | .eraseWholeDevice =>
      match partitionGeometry, topology.device? selectedCandidateId with
      | none, _ => .error (validationError "planned whole-device partition geometry is required")
      | some _, none => .error (validationError "storage device candidate is unavailable")
      | some geometry, some device => eraseWholeDevicePlan topology device planId geometry
  | .reformatExistingPartition =>
      match partition with
      | none => .error (validationError "storage partition candidate is unavailable")
      | some (device, partition) => reformatPartitionPlan topology device planId partition
  | .adoptExistingTarget =>
      match partition, inspectionId with
      | some (device, partition), some inspectionId =>
          adoptExistingTargetPlan topology device planId partition inspectionId
      | _, _ => .error (validationError "storage partition candidate is unavailable")
  | .createPartitionInUnallocatedSpace =>
      match partitionGeometry, firstDevice (·.freeRegion? selectedCandidateId) topology.devices with
      | none, _ => .error (validationError "planned partition geometry is required")
      | some _, none =>
          .error (validationError "unallocated storage region candidate is unavailable")
      | some geometry, some (device, region) =>
          createPartitionInFreeSpacePlan topology device planId region geometry

/-! ### Safety -/

/-- `add_blocker`. -/
def addBlocker (result : List SafetyBlocker) (code : String) (detail : String) :
    List SafetyBlocker :=
  if ⟨code, detail⟩ ∈ result then result else result ++ [⟨code, detail⟩]

/-- `add_blockers`. -/
def addBlockers (result : List SafetyBlocker) (blockers : List SafetyBlocker) :
    List SafetyBlocker :=
  blockers.foldl (fun result blocker => addBlocker result blocker.code blocker.detail) result

/-- Add a blocker under a condition. -/
def addBlockerIf (condition : Bool) (code detail : String) (result : List SafetyBlocker) :
    List SafetyBlocker :=
  if condition then addBlocker result code detail else result

/-- `current_device`. -/
def currentDevice (expected : StorageDevice) : Option StorageDevice :=
  topology.devices.find? fun device => device.identity.majorMinor = expected.identity.majorMinor

/-- `current_partition`. -/
def currentPartition (expected : ExistingPartition) : Option ExistingPartition :=
  device.partitions.find? fun partition => partition.partitionNumber = expected.partitionNumber

/-- `current_free_region`. -/
def currentFreeRegion (expected : UnallocatedRegion) : Option UnallocatedRegion :=
  device.freeRegions.find? fun region =>
    region.startSector = expected.startSector && region.sectorCount = expected.sectorCount

/-- `inspect_device_identity`. -/
def inspectDeviceIdentity (expected current : StorageDevice) (requireWritable : Bool)
    (result : List SafetyBlocker) : List SafetyBlocker :=
  let result := addBlockerIf (expected.identity ≠ current.identity)
    "block-device-identity-changed" expected.identity.displayPath result
  let result := addBlockerIf (expected.logicalSectorSize ≠ current.logicalSectorSize ||
    expected.physicalSectorSize ≠ current.physicalSectorSize)
    "sector-size-changed" expected.identity.displayPath result
  let result := addBlockerIf (expected.partitionTable ≠ current.partitionTable)
    "partition-table-changed" expected.identity.displayPath result
  let result := addBlockerIf (requireWritable && current.readOnly)
    "read-only-device" current.identity.displayPath result
  addBlockers result current.blockers

/-- `inspect_partition_state`. -/
def inspectPartitionState (expected current : ExistingPartition) (result : List SafetyBlocker) :
    List SafetyBlocker :=
  let result := addBlockerIf (expected.identity ≠ current.identity ||
    expected.partitionUuid ≠ current.partitionUuid ||
    expected.partitionNumber ≠ current.partitionNumber ||
    expected.startSector ≠ current.startSector || expected.sectorCount ≠ current.sectorCount)
    "partition-identity-changed" expected.identity.displayPath result
  let result := addBlockerIf (expected.filesystem ≠ current.filesystem)
    "partition-signature-changed" expected.identity.displayPath result
  let result := addBlockers result current.blockers
  let result := current.mountPoints.foldl (addBlocker · "mounted-filesystem" ·) result
  let result := addBlockerIf current.activeSwap "active-swap" current.identity.displayPath result
  let result := current.holders.foldl (addBlocker · "block-holder" ·) result
  addBlockerIf current.configuredBackupTarget "configured-backup-target"
    current.identity.displayPath result

/-- The loops over the partitions of the device, now and as expected. -/
def inspectPartitions (expected current : StorageDevice) (result : List SafetyBlocker) :
    List SafetyBlocker :=
  let result := current.partitions.foldl
    (fun result partition => inspectPartitionState partition partition result) result
  expected.partitions.foldl (fun result child =>
    match currentPartition current child with
    | none => addBlocker result "block-partition-missing" child.identity.displayPath
    | some now => inspectPartitionState child now result) result

/-- The part of `inspect` for a free region. -/
def inspectFreeRegion (expected current : StorageDevice) (freeRegionId : Option String)
    (result : List SafetyBlocker) : List SafetyBlocker :=
  match freeRegionId.bind expected.freeRegion? with
  | none => addBlocker result "planned-free-region-missing" ""
  | some region =>
      let result := match currentFreeRegion current region with
        | none => addBlocker result "unallocated-region-changed" ""
        | some now => addBlockerIf (!now.suitableForBackupPartition)
            "unallocated-region-unsuitable" "" (addBlockers result now.blockers)
      inspectPartitions expected current result

/-- The part of `inspect` for a partition. -/
def inspectPartition (expected current : StorageDevice) (partitionId : String)
    (result : List SafetyBlocker) : List SafetyBlocker :=
  match expected.partition? partitionId with
  | none => addBlocker result "planned-partition-missing" ""
  | some target =>
      match currentPartition current target with
      | none => addBlocker result "block-partition-missing" target.identity.displayPath
      | some now => inspectPartitionState target now result

/-- `StorageSafetyInspector::inspect`. -/
def inspect (expected current : StorageTopology) (plan : DevicePreparationPlan) :
    List SafetyBlocker :=
  match expected.device? plan.deviceId with
  | none => [⟨"planned-device-missing", ""⟩]
  | some parent =>
      match currentDevice current parent with
      | none => [⟨"block-device-missing", parent.identity.displayPath⟩]
      | some now =>
          let result := inspectDeviceIdentity parent now (plan.mode ≠ .adoptExistingTarget) []
          let changed := addBlockerIf (expected.generation ≠ current.generation)
            "topology-generation-changed" "" result
          match plan.destructiveScope.kind with
          | .wholeDevice => inspectPartitions parent now changed
          | .unallocatedRegion => inspectFreeRegion parent now plan.freeRegionId changed
          | kind =>
              match plan.partitionId with
              | none => addBlocker result "unsupported-destructive-scope" ""
              | some partitionId =>
                  if kind = .existingPartition || plan.mode = .adoptExistingTarget then
                    inspectPartition parent now partitionId result
                  else addBlocker result "unsupported-destructive-scope" ""

/-! ### Targets -/

structure DevicePreparationTarget where
  mode : ProvisioningMode
  device : StorageDevice
  partition : Option ExistingPartition
  freeRegion : Option UnallocatedRegion
  plannedPartitionGeometry : Option PlannedPartitionGeometry
  expectedInspection : Option ExistingTargetInspectionSummary
  deriving DecidableEq, Repr

/-- The geometry of the first operation that creates a partition. -/
def DevicePreparationPlan.geometry (plan : DevicePreparationPlan) :
    Option PlannedPartitionGeometry :=
  (plan.operations.findSome? fun
    | .createBackupPartition _ _ geometry => some geometry
    | _ => none).getD none

def conflict (message : String) : ManagerFailure := .operation .conflict message

/-- What an identifier names, if there is one. -/
def resolve (find : String → Option α) (id : Option String) (missing : String) :
    Except ManagerFailure (Option α) :=
  match id with
  | none => .ok none
  | some id =>
      match find id with
      | none => .error (conflict missing)
      | some found => .ok (some found)

/-- `planned_target`. -/
def plannedTarget : Except ManagerFailure DevicePreparationTarget :=
  match topology.device? plan.deviceId with
  | none => .error (conflict "planned device snapshot is missing")
  | some device => do
      let partition ← resolve device.partition? plan.partitionId
        "planned partition snapshot is missing"
      let freeRegion ← resolve device.freeRegion? plan.freeRegionId
        "planned free-space target snapshot is incomplete"
      if plan.freeRegionId.isSome && plan.geometry.isNone then
        .error (conflict "planned free-space target snapshot is incomplete")
      else if plan.mode = .eraseWholeDevice && plan.geometry.isNone then
        .error (conflict "planned whole-device partition geometry is missing")
      else
        pure
          { mode := plan.mode
            device := device
            partition := partition
            freeRegion := freeRegion
            plannedPartitionGeometry := plan.geometry
            expectedInspection := none }

end BtrfsBackup.Provisioning
