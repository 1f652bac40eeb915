/-
The helper that prepares a device (`daemon/control/DevicePreparationExecutor`,
`ExistingTargetInspector`).

The executor persists a phase before it starts what belongs to it, and the phase
as completed afterwards.  A request to cancel is only looked at when a phase is
persisted.  Whatever is thrown ends in one handler: it closes the device mapping
it knows of, marks the record as failed or cancelled, and releases the profile if
the target is taken to be unchanged.

* `phase`, `completed`, `requestAccess` — the steps between the calls;
* `adoptTarget`, `prepareWholeDevice`, `prepareFreeSpace`, `wipePartition`,
  `fillPartition` — what the four modes do;
* `handleFailure`, `execute` — the handler, and all of it.
-/
import BtrfsBackup.PreparationStore

open Interaction Interaction.Prog

namespace BtrfsBackup

namespace Preparation

variable (operationId : OperationId) (value : Phase) (canCancel : Bool)

/-! ### Changing the record -/

/-- `DevicePreparationExecutor::update`. -/
def change (mutator : DevicePreparationTransaction → Except Raised DevicePreparationTransaction) :
    PreparationProg DevicePreparationTransaction :=
  update .helper operationId fun now transaction =>
    (mutator transaction).map fun changed => { changed with updatedAt := now }

/-- `update` with a mutator that does not throw. -/
def amend (mutator : DevicePreparationTransaction → DevicePreparationTransaction) :
    PreparationProg Unit := do
  let _ ← change operationId fun transaction => .ok (mutator transaction)
  .ret ()

/-- The error of an operation that is to be cancelled. -/
def cancellationRequested : Raised := invalid "device preparation cancellation was requested"

/-- What `phase` does to a record. -/
def enterPhase (transaction : DevicePreparationTransaction) :
    Except Raised DevicePreparationTransaction :=
  if transaction.cancelRequested then .error cancellationRequested
  else .ok { transaction with state := .running, phase := value, canCancel := canCancel }

def phase : PreparationProg Unit := do
  let _ ← change operationId (enterPhase value canCancel)
  .ret ()

def completed : PreparationProg Unit :=
  amend operationId fun transaction => { transaction with lastCompletedPhase := some value }

/-- A call of the helper that changes nothing of the state. -/
def ask (operationId : OperationId) (value : PreparationAnswer → α) : PreparationProg α :=
  inquire .helper (.ask operationId) value

/-! ### Access to devices -/

/-- What `request_access` does to a record. -/
def askForAccess (devices : List String) (mapperControl : Bool)
    (transaction : DevicePreparationTransaction) : Except Raised DevicePreparationTransaction :=
  if transaction.accessGeneration = maximumUint64 then
    .error (invalid "device preparation access generation is exhausted")
  else .ok { transaction with
    requestedDeviceAccess := (devices.insertionSort (· ≤ ·)).dedup
    requestedMapperControl := mapperControl
    accessGeneration := transaction.accessGeneration + 1 }

/-- The loop of `request_access`; the clock decides how often it polls. -/
def awaitAccess (operationId : OperationId) (generation : Nat) : Nat → PreparationProg Unit
  | 0 => .fail (invalid "device preparation access authorization timed out")
  | polls + 1 => do
    let transaction ← load .helper operationId
    (if generation ≤ transaction.authorizedAccessGeneration then .ret ()
    else if transaction.cancelRequested then .fail cancellationRequested
    else awaitAccess operationId generation polls)

/-- `request_access`. -/
def requestAccess (devices : List String) (mapperControl : Bool) : PreparationProg Unit := do
  let transaction ← change operationId (askForAccess devices mapperControl)
  let polls ← inquire .helper .readClock PreparationAnswer.count
  awaitAccess operationId transaction.accessGeneration polls

/-! ### Releasing the profile -/

/-- `release_profile_reservation`. -/
def releaseProfileReservation : PreparationProg Unit := do
  let transaction ← load .helper operationId
  (if transaction.profileReservationState ≠ .held then .ret ()
  else do
    let transaction ← saveNow .helper { transaction with profileReservationState := .releasing }
    releaseProfile .helper transaction.profileId operationId
    let _ ← saveNow .helper { transaction with profileReservationState := .released }
    .ret ())

/-- `target_unchanged`. -/
def targetUnchanged (transaction : DevicePreparationTransaction) : Bool :=
  transaction.target.mode == .adoptExistingTarget || transaction.lastCompletedPhase == none ||
    transaction.lastCompletedPhase == some .inspect ||
    transaction.lastCompletedPhase == some .backupPartitionTable

/-- The part of `release_profile_reservation_after_safe_failure` that may throw. -/
def releaseIfSafe : PreparationProg Unit := do
  let transaction ← load .helper operationId
  (if transaction.configurationState == .installed || targetUnchanged transaction then
    .note (fun system => system.record operationId (.releasedAfterFailure transaction))
      (releaseProfileReservation operationId)
  else .ret ())

/-- `release_profile_reservation_after_safe_failure`. -/
def releaseProfileReservationAfterSafeFailure : PreparationProg Unit :=
  (releaseIfSafe operationId).handleError fun _ => .ret ()

/-! ### Devices -/

/-- Start a call that destroys what is on a device; what it returns. -/
def destroy (call : DestructiveCall) : PreparationProg String :=
  .effect ⟨.helper, .destroy operationId call⟩
    (fun _ system => system.record operationId (.destroying call))
    fun answer _ =>
      match answer.error with
      | none => .ret answer.text
      | some e => .fail e

/-- Open a device mapping: a mapping that `open` reports an error for may be open. -/
def openMapper (name : String) : PreparationProg Unit :=
  perform .helper (.openMapper operationId name) fun system => system.openMapping operationId name

/-- `close`. -/
def closeMapper (name : String) : PreparationProg Unit :=
  perform .helper (.closeMapper operationId name) fun system =>
    system.closeMapping operationId name

/-- Take the lock of the devices. -/
def acquireDeviceLock : PreparationProg Unit :=
  .effect ⟨.helper, .acquireDeviceLock operationId⟩
    (fun answer system =>
      if answer.error.isNone && answer.flag then
        system.record operationId .lockAcquired else system)
    fun answer _ =>
      match answer.error with
      | some e => .fail e
      | none =>
        if answer.flag then .ret ()
        else .fail (managerOperationError "another device is being prepared")

/-- Inspect whether the device may be changed. -/
def inspectSafety : PreparationProg Unit :=
  .effect ⟨.helper, .inspectSafety operationId⟩
    (fun answer system =>
      if answer.error.isNone then system.record operationId (.safetyInspected answer.lines)
      else system)
    fun answer _ =>
      match answer.error with
      | some e => .fail e
      | none =>
        match answer.lines with
        | [] => .ret ()
        | reason :: _ => .fail (managerOperationError
            ("selected device is not safe for destructive preparation: " ++ reason))

/-! ### Inspecting an existing target -/

/-- `validate_partition`. -/
def suitablePartition (partition : ExistingPartition) : Bool :=
  partition.suitableForAdoption && partition.filesystemType == "crypto_LUKS" &&
    (match partition.partitionUuid with
      | none => false
      | some uuid => uuid != "") &&
    partition.mountPoints.isEmpty && partition.holders.isEmpty && !partition.activeSwap &&
    partition.blockers.isEmpty

/-- The end of a step of the clean-up: the first error stays. -/
def firstError (pending : Option Raised) : Except Raised α → Option Raised
  | .ok _ => pending
  | .error e => some (pending.getD e)

/-- `finish_session`. -/
def finishSession (mapperName : String) (mounted opened : Bool) (pending : Option Raised) :
    PreparationProg Unit := do
  let unmounted ← (if mounted then ask operationId fun _ => () else .ret ()).attempt
  let closed ← (if opened then closeMapper operationId mapperName else .ret ()).attempt
  match firstError (firstError pending unmounted) closed with
  | none => .ret ()
  | some e => .fail e

/-- What `inspect` does while the mapping is open: whether the file system is
mounted afterwards, and the summary.  The calls of the environment are the
metadata of the mapping, the mount, and the search for a repository. -/
def inspectMapping (luksUuid partitionUuid : String) (mapperReady : PreparationProg Unit) :
    PreparationProg (Bool × Except Raised ExistingTargetInspectionSummary) := do
  let mapped ← (mapperReady.bind fun _ =>
    ask operationId fun answer => (answer.flag, answer.text)).attempt
  match mapped with
  | .error e => .ret (false, .error e)
  | .ok (isBtrfs, filesystemUuid) =>
    if !isBtrfs || filesystemUuid == "" then
      .ret (false, .ok ⟨.notBtrfsFilesystem, "not-btrfs-filesystem", luksUuid, "", partitionUuid,
        "", 0, 0⟩)
    else do
      let mounted ← (ask operationId fun _ => ()).attempt
      match mounted with
      | .error e => .ret (false, .error e)
      | .ok () => do
        let summary ← (ask operationId PreparationAnswer.summary).attempt
        .ret (true, summary)

/-- `ExistingTargetInspector::inspect`. -/
def inspectExistingTarget (partition : ExistingPartition) (mapperName : String)
    (mapperReady : PreparationProg Unit) : PreparationProg ExistingTargetInspectionSummary := do
  ensure (suitablePartition partition)
    (invalid "partition is not suitable for existing target inspection")
  let luksUuid ← ask operationId PreparationAnswer.text
  ensure (partition.filesystemUuid != "" && partition.filesystemUuid == luksUuid)
    (invalid "LUKS2 identity changed before existing target inspection")
  let opening ← (openMapper operationId mapperName).attempt
  match opening with
  | .error e => do
    finishSession operationId mapperName false false (some e)
    .fail e
  | .ok () => do
    let (mounted, summary) ←
      inspectMapping operationId luksUuid (partition.partitionUuid.getD "") mapperReady
    match summary with
    | .error e => do
      finishSession operationId mapperName mounted true (some e)
      .fail e
    | .ok summary => do
      finishSession operationId mapperName mounted true none
      .ret summary

/-! ### What is to be done -/

/-- What a mode needs of the target. -/
inductive Plan where
  | eraseWholeDevice (geometry : PlannedPartitionGeometry)
  | createPartition (region : UnallocatedRegion) (geometry : PlannedPartitionGeometry)
  | reformatPartition (partition : ExistingPartition)
  | adoptTarget (partition : ExistingPartition)
  deriving DecidableEq

/-- The plan of a target, if it has everything its mode needs. -/
def planOf (target : DevicePreparationTarget) : Except Raised Plan :=
  match target.mode with
  | .eraseWholeDevice =>
    match target.plannedPartitionGeometry with
    | some geometry => .ok (.eraseWholeDevice geometry)
    | none => .error (invalid "whole-device preparation transaction is incomplete")
  | .createPartitionInUnallocatedSpace =>
    match target.freeRegion, target.plannedPartitionGeometry with
    | some region, some geometry => .ok (.createPartition region geometry)
    | _, _ => .error (invalid "free-space preparation transaction is incomplete")
  | .reformatExistingPartition =>
    match target.partition with
    | some partition => .ok (.reformatPartition partition)
    | none => .error (invalid "device preparation transaction mode is not executable")
  | .adoptExistingTarget =>
    match target.partition with
    | some partition => .ok (.adoptTarget partition)
    | none => .error (invalid "device preparation transaction mode is not executable")

/-- The result of a pure part. -/
def lift : Except Raised α → PreparationProg α
  | .ok a => .ret a
  | .error e => .fail e

/-- Look at the selected device again. -/
def revalidate (plan : Plan) (what : String) : PreparationProg Unit :=
  match plan with
  | .eraseWholeDevice _ => do
    let mounted ← ask operationId PreparationAnswer.flag
    ensure (!mounted) (invalid what)
  | _ => .ret ()

/-- Check that a selected source has not changed. -/
def checkSource (selected : DevicePreparationSource) : PreparationProg Unit := do
  let isSubvolume ← ask operationId PreparationAnswer.flag
  ensure isSubvolume (invalid "selected source is not a Btrfs subvolume")
  let source ← ask operationId PreparationAnswer.source
  ensure (source.filesystemUuid == selected.filesystemUuid &&
      source.mountRoot == selected.mountRoot &&
      source.localSnapshotRoot == selected.localSnapshotDir)
    (invalid "selected source filesystem changed before device preparation")

/-! ### Adopting a target -/

/-- What the executor is set up with. -/
structure ExecutorSetup where
  existingTargetInspector : Bool
  inspectionMountRoot : String

variable (setup : ExecutorSetup) (initial : DevicePreparationTransaction)
  (partition : ExistingPartition) (number : String)

/-- The record names no mapping any more. -/
def forgetMapper (cleanup : CleanupResult) (transaction : DevicePreparationTransaction) :
    DevicePreparationTransaction :=
  { transaction with
    mapper := ""
    mapperDeviceNumber := ""
    inspectionMountPoint := ""
    cleanupResult := cleanup }

/-- What is done when the mapping of an inspection is ready. -/
def mapperReady : PreparationProg Unit := do
  let mapperDeviceNumber ← ask initial.operationId PreparationAnswer.text
  amend initial.operationId fun transaction =>
    { transaction with mapperDeviceNumber := mapperDeviceNumber }
  requestAccess initial.operationId
    [initial.device.majorMinor, partition.majorMinor, mapperDeviceNumber] true

/-- The inspection in the adopt mode; the mapping is named by the record before it
is opened. -/
def verifyTarget : PreparationProg ExistingTargetInspectionSummary := do
  let operationId := initial.operationId
  phase operationId .verifyExistingTarget false
  ask operationId fun _ => ()
  ask operationId fun _ => ()
  amend operationId fun transaction => { transaction with
    mapper := operationId.value
    inspectionMountPoint := setup.inspectionMountRoot ++ "/" ++ operationId.value
    cleanupResult := .pending }
  (do
    requestAccess operationId [initial.device.majorMinor, partition.majorMinor] true
    ask operationId fun _ => ()
    let inspected ← inspectExistingTarget operationId partition operationId.value
      (mapperReady initial partition)
    let removed ← ask operationId PreparationAnswer.flag
    ensure removed (invalid "cannot remove existing target inspection mount point")
    amend operationId (forgetMapper .inspectionCleaned)
    .ret inspected).handleError fun e => do
      let removed ← (ask operationId fun _ => ()).attempt
      amend operationId (forgetMapper
        (if removed.isOk then .inspectionCleaned else .inspectionDirectoryRemoveFailed))
      .fail e

/-- Install the profile of the new target. -/
def writeProfile (installed : DevicePreparationTransaction → DevicePreparationTransaction) :
    PreparationProg Unit := do
  phase operationId .writeProfile false
  amend operationId fun transaction => { transaction with configurationState := .inProgress }
  ask operationId fun _ => ()
  amend operationId fun transaction => installed { transaction with
    configurationState := .installed
    lastCompletedPhase := some .writeProfile }

/-- The end of a successful execution. -/
def succeed : PreparationProg Unit := do
  releaseProfileReservation operationId
  amend operationId fun transaction => { transaction with
    state := .succeeded
    phase := .complete
    canCancel := false
    recoveryAction := "" }

/-- The adopt mode. -/
def adoptTarget : PreparationProg Unit := do
  let operationId := initial.operationId
  ensure (setup.existingTargetInspector && initial.target.expectedInspection.isSome &&
      setup.inspectionMountRoot != "")
    (invalid "existing target adoption transaction is incomplete")
  let inspected ← verifyTarget setup initial partition
  requestAccess operationId [initial.device.majorMinor, partition.majorMinor] false
  ensure (some inspected == initial.target.expectedInspection)
    (managerOperationError "existing target changed since the accepted inspection")
  amend operationId fun transaction => { transaction with
    partition := partition.displayPath
    partitionUuid := inspected.partitionUuid
    luksUuid := inspected.luksUuid
    btrfsUuid := inspected.btrfsUuid
    lastCompletedPhase := some .verifyExistingTarget }
  writeProfile operationId fun transaction =>
    { transaction with credentialsState := .notApplicable }
  succeed operationId

/-! ### The other modes -/

/-- Save a copy of the partition table. -/
def backupPartitionTable : PreparationProg Unit := do
  let operationId := initial.operationId
  phase operationId .backupPartitionTable false
  ensure (initial.target.partitionTableType != .unsupported)
    (invalid "unsupported partition table cannot be backed up safely")
  let backup ← ask operationId PreparationAnswer.text
  ensure (backup != "") (invalid "partition table backup is empty")
  amend operationId fun transaction => { transaction with
    partitionTableBackup := backup
    lastCompletedPhase := some .backupPartitionTable }

/-- Change the partition table and record the partition. -/
def makePartition (call : DestructiveCall) : PreparationProg String := do
  phase operationId .partition false
  let partition ← destroy operationId call
  amend operationId fun transaction => { transaction with
    partition := partition
    lastCompletedPhase := some .partition }
  .ret partition

/-- Wipe the signatures of a device or a partition. -/
def wipeSignatures (path majorMinor : String) : PreparationProg Unit := do
  phase operationId .wipeSignatures false
  let _ ← destroy operationId (.wipeAll path majorMinor)
  completed operationId .wipeSignatures

/-- `EraseWholeDevice`. -/
def prepareWholeDevice (geometry : PlannedPartitionGeometry) : PreparationProg String := do
  backupPartitionTable initial
  wipeSignatures initial.operationId initial.device.path initial.device.majorMinor
  makePartition initial.operationId
    (.replaceWithSingleGptPartition initial.device.path initial.device.majorMinor geometry)

/-- `CreatePartitionInUnallocatedSpace`. -/
def prepareFreeSpace (region : UnallocatedRegion) (geometry : PlannedPartitionGeometry) :
    PreparationProg String := do
  backupPartitionTable initial
  makePartition initial.operationId
    (.createPartitionInFreeSpace initial.device.path initial.device.majorMinor region geometry)

/-- `ReformatExistingPartition`. -/
def wipePartition : PreparationProg String := do
  wipeSignatures initial.operationId partition.displayPath partition.majorMinor
  .ret partition.displayPath

/-- The number of the partition; that of a new one is recorded. -/
def partitionNumber : PreparationProg String :=
  match initial.target.partition with
  | some partition => .ret partition.majorMinor
  | none => do
    let number ← ask initial.operationId PreparationAnswer.text
    amend initial.operationId fun transaction =>
      { transaction with partitionDeviceNumber := number }
    requestAccess initial.operationId [initial.device.majorMinor, number] false
    .ret number

/-- Encrypt the partition. -/
def formatLuks (partition : String) : PreparationProg Unit := do
  phase operationId .luksFormat false
  let luksUuid ← destroy operationId (.formatLuks2 partition)
  amend operationId fun transaction => { transaction with
    luksUuid := luksUuid
    lastCompletedPhase := some .luksFormat }

/-- The variable `mapper` of the execution. -/
def setMapper (name : String) : PreparationProg Unit :=
  .note (fun system => system.setMapper operationId name) (.ret ())

/-- Open the new mapping; the record names it afterwards. -/
def openNewMapper (mapper : String) : PreparationProg Unit := do
  let operationId := initial.operationId
  phase operationId .openMapper false
  requestAccess operationId [initial.device.majorMinor, number] true
  ask operationId fun _ => ()
  setMapper operationId mapper
  openMapper operationId mapper
  amend operationId fun transaction => { transaction with
    mapper := mapper
    lastCompletedPhase := some .openMapper
    cleanupResult := .pending }
  let mapperDeviceNumber ← ask operationId PreparationAnswer.text
  amend operationId fun transaction =>
    { transaction with mapperDeviceNumber := mapperDeviceNumber }
  requestAccess operationId [initial.device.majorMinor, number, mapperDeviceNumber] true

/-- Make the file system. -/
def makeFilesystem (mapper : String) : PreparationProg Unit := do
  let operationId := initial.operationId
  phase operationId .mkfsBtrfs false
  let _ ← destroy operationId (.formatBtrfs ("/dev/mapper/" ++ mapper) initial.profileName)
  let btrfsUuid ← ask operationId PreparationAnswer.text
  let partitionUuid ← ask operationId PreparationAnswer.text
  ensure (btrfsUuid != "") (invalid "Btrfs UUID is unavailable after formatting")
  ensure (partitionUuid != "") (invalid "partition UUID is unavailable after formatting")
  amend operationId fun transaction => { transaction with
    btrfsUuid := btrfsUuid
    partitionUuid := partitionUuid
    lastCompletedPhase := some .mkfsBtrfs }

def closeNewMapper (mapper : String) : PreparationProg Unit := do
  let operationId := initial.operationId
  phase operationId .close false
  closeMapper operationId mapper
  setMapper operationId ""
  amend operationId fun transaction => { transaction with
    mapper := ""
    mapperDeviceNumber := ""
    cleanupResult := .mapperClosed
    lastCompletedPhase := some .close }
  requestAccess operationId [initial.device.majorMinor, number] false

/-- Install the profile and its credentials. -/
def installProfile : PreparationProg Unit := do
  let operationId := initial.operationId
  writeProfile operationId fun transaction => { transaction with credentialsState := .inProgress }
  ask operationId fun _ => ()
  (if initial.createAutomaticKey then ask operationId fun _ => () else .ret ())
  amend operationId fun transaction => { transaction with
    credentialsState := .installed
    lastCompletedPhase := some .credentials }
  succeed operationId

/-- What follows once there is a partition. -/
def fillPartition (partition : String) : PreparationProg Unit := do
  let number ← partitionNumber initial
  formatLuks initial.operationId partition
  let mapper := "btrfs-backup-" ++ initial.profileId.value
  openNewMapper initial number mapper
  makeFilesystem initial mapper
  closeNewMapper initial number mapper
  installProfile initial

/-! ### Executing -/

/-- The part of the execution after the safety inspection. -/
def carryOut : Plan → PreparationProg Unit
  | .adoptTarget partition => adoptTarget setup initial partition
  | .eraseWholeDevice geometry =>
    (prepareWholeDevice initial geometry).bind (fillPartition initial)
  | .createPartition region geometry =>
    (prepareFreeSpace initial region geometry).bind (fillPartition initial)
  | .reformatPartition partition => (wipePartition initial partition).bind (fillPartition initial)

/-- The inspection of the device and the sources. -/
def inspectPlan : PreparationProg Plan := do
  let operationId := initial.operationId
  phase operationId .inspect true
  let plan ← lift (planOf initial.target)
  revalidate operationId plan "selected device or one of its partitions is mounted"
  ask operationId fun _ => ()
  forEach (checkSource operationId) initial.sources
  completed operationId .inspect
  .ret plan

/-- The body of `execute`. -/
def executeBody : PreparationProg Unit := do
  let plan ← inspectPlan initial
  acquireDeviceLock initial.operationId
  revalidate initial.operationId plan "selected device or one of its partitions became mounted"
  inspectSafety initial.operationId
  carryOut setup initial plan

/-- The action a failed execution recommends. -/
def recoveryAction (mode : ProvisioningMode) (e : Raised) : String :=
  if mode = .adoptExistingTarget then
    "Rescan and inspect the existing target before creating a new adoption plan."
  else
    match e with
    | .exception _ =>
      "Inspect the recorded device artifacts and complete or remove partial structures manually."
    | .foreign => "Inspect and repair the recorded device artifacts manually."

/-- What the handler does to a record. -/
def markFailed (mode : ProvisioningMode) (e : Raised) (cleanupRequired cleanupOk : Bool)
    (transaction : DevicePreparationTransaction) : DevicePreparationTransaction :=
  { transaction with
    state := if transaction.cancelRequested then .cancelled else .failed
    errorCode :=
      if transaction.cancelRequested then ""
      else
        match e with
        | .exception _ => "device-preparation." ++ transaction.phase.name ++ "-failed"
        | .foreign => "device-preparation.unknown-failed"
    recoveryAction := if transaction.cancelRequested then "" else recoveryAction mode e
    canCancel := false
    cleanupResult :=
      if !cleanupRequired then .notRequired
      else if cleanupOk then .mapperClosed else .mapperCloseFailed
    mapper := if cleanupOk then "" else transaction.mapper }

/-- The handlers of `execute`. -/
def handleFailure (e : Raised) : PreparationProg Unit :=
  .look fun system => do
    let mapper := system.mapper initial.operationId
    let closing ← (if mapper = "" then .ret ()
      else closeMapper initial.operationId mapper).attempt
    let _ ← (amend initial.operationId
      (markFailed initial.target.mode e (mapper != "") closing.isOk)).attempt
    releaseProfileReservationAfterSafeFailure initial.operationId

def execute (operationId : OperationId) : PreparationProg Unit := do
  let initial ← load .helper operationId
  ensure (initial.state == .queued || initial.state == .running)
    (invalid "device preparation transaction is not executable")
  ask operationId fun _ => ()
  setMapper operationId ""
  (executeBody setup initial).handleError (handleFailure initial)

end Preparation

end BtrfsBackup
