/-
The manager's side of a device preparation (`daemon/control/SystemDeviceProvisioningBackend`).

The manager registers an operation and starts its helper; it answers requests for
access to devices and requests to cancel.  When it starts, and when it finds that
a helper is gone, it marks the operation as interrupted.

* `loadCurrent`, `cancel`, `restoreTransactions`, `registerJob`, `start`,
  `reconcileDeviceAccess` — the manager;
* `replacedPartitionUnknown` — the records an interrupted operation is inspected for.
-/
import BtrfsBackup.PreparationExecutor

open Interaction Interaction.Prog

namespace BtrfsBackup

namespace Preparation

variable (process : Process) (setup : ExecutorSetup) (operationId : OperationId) (now : Int)
  (transaction : DevicePreparationTransaction)

/-! ### Units -/

/-- `units.active`: an error counts as inactive. -/
def unitActive : PreparationProg Bool :=
  .effect ⟨process, .unitActive operationId⟩ (fun _ system => system) fun answer _ =>
    .ret (answer.error.isNone && answer.flag)

/-- `units.recover`; exceptions are reported. -/
def recoverUnit : PreparationProg Unit :=
  .effect ⟨process, .recoverUnit operationId⟩
    (fun _ system => system.record operationId .recoveryRequested)
    fun answer _ =>
      match answer.error with
      | some .foreign => .fail .foreign
      | _ => .ret ()

/-- `units.stop`. -/
def stopUnit : PreparationProg Unit :=
  perform .manager (.stopUnit operationId) fun system => system.record operationId .unitStopped

/-- Start the recovery if the record names a mapping. -/
def recoverMapped : PreparationProg Unit :=
  if transaction.mapper = "" then .ret () else recoverUnit process transaction.operationId

/-- The advice for an interrupted operation. -/
def inspectManually : String :=
  "Inspect the recorded device and lastCompletedPhase; " ++
    "complete or remove partial structures manually."

/-! ### Looking at an operation -/

/-- What `load_current` does to a record whose helper is gone. -/
def helperExited : DevicePreparationTransaction :=
  { transaction with
    state := if transaction.cancelRequested then .cancelled else .interrupted
    errorCode := if transaction.cancelRequested then "" else "device-preparation.helper-exited"
    recoveryAction := if transaction.cancelRequested then "" else inspectManually
    canCancel := false
    updatedAt := now }

/-- `load_current`. -/
def loadCurrent : PreparationProg DevicePreparationTransaction := do
  let transaction ← load .manager operationId
  (if transaction.state == .queued || transaction.state == .running then do
    let active ← unitActive .manager operationId
    (if active then .ret transaction
    else do
      let current ← (updateAt .manager operationId transaction.revision fun now current =>
        .ok (helperExited now current)).handleError fun e =>
          if e.isValidationError then load .manager operationId else .fail e
      recoverMapped .manager current
      .ret current)
  else .ret transaction)

/-! ### Cancelling -/

/-- The error of an operation that cannot be cancelled. -/
def notCancellable : Raised := managerOperationError "device preparation can no longer be cancelled"

/-- What `cancel` does to a record first. -/
def requestCancellation : Except Raised DevicePreparationTransaction :=
  if transaction.canCancel then
    .ok { transaction with cancelRequested := true, updatedAt := now }
  else .error (invalid "device preparation can no longer be cancelled")

/-- What `cancel` does to a record once the helper is stopped. -/
def markCancelled : DevicePreparationTransaction :=
  if transaction.cancelRequested &&
      (transaction.state == .queued || transaction.state == .running) then
    { transaction with state := .cancelled, canCancel := false, updatedAt := now }
  else transaction

/-- Release the profile of a record that is held, or of any record that is to be
released; the record afterwards. -/
def releaseHeld : PreparationProg DevicePreparationTransaction := do
  let transaction ← saveNow process { transaction with profileReservationState := .releasing }
  releaseProfile process transaction.profileId transaction.operationId
  .ret { transaction with profileReservationState := .released }

/-- The end of `cancel`. -/
def finishCancel : PreparationProg Unit :=
  if transaction.state ≠ .cancelled then .ret ()
  else do
    let transaction ← (if transaction.profileReservationState = .held then
      releaseHeld .manager transaction else .ret transaction)
    let _ ← saveNow .manager transaction
    .ret ()

/-- The part of `cancel` after the request is persisted. -/
def completeCancel : PreparationProg Unit := do
  stopUnit operationId
  let transaction ← (update .manager operationId fun now transaction =>
    .ok (markCancelled now transaction)).handleError fun e =>
      if e.isValidationError then load .manager operationId else .fail e
  finishCancel transaction

def cancel : PreparationProg Unit := do
  let transaction ← (loadCurrent operationId).handleError fun e =>
    match e with
    | .exception _ => .fail (managerOperationError "device preparation operation not found")
    | .foreign => .fail .foreign
  ensure transaction.canCancel notCancellable
  let _ ← (updateAt .manager operationId transaction.revision requestCancellation).handleError
    fun e => .fail (if e.isValidationError then notCancellable else e)
  completeCancel operationId

/-! ### Restoring -/

/-- What `restore_transactions` does to a record whose helper is gone. -/
def daemonRestarted : DevicePreparationTransaction :=
  { transaction with
    state := .interrupted
    errorCode := "device-preparation.daemon-restarted"
    recoveryAction := inspectManually
    canCancel := false
    cleanupResult := .notRequired }

/-- Is the reservation of the record to be released? -/
def releaseDue : Bool :=
  transaction.profileReservationState == .releasing ||
    transaction.profileReservationState == .held &&
      (transaction.configurationState == .installed || transaction.state == .succeeded)

/-- The reservation of a record that was found. -/
def restoreReservation : PreparationProg DevicePreparationTransaction :=
  if releaseDue transaction then do
    let transaction ← releaseHeld process transaction
    saveNow process transaction
  else if transaction.profileReservationState = .held then do
    let owner ← readReservation process transaction.profileId
    match owner with
    | none => do
      reserveProfile process transaction.profileId transaction.operationId
      .ret transaction
    | some other => do
      ensure (other = transaction.operationId)
        (invalid "profile reservation does not match its device preparation transaction")
      .ret transaction
  else .ret transaction

/-- A record that was found. -/
def restoreTransaction (recoverExisting : Bool) (transaction : DevicePreparationTransaction) :
    PreparationProg Unit := do
  let transaction ← restoreReservation process transaction
  (if recoverExisting && (transaction.state == .queued || transaction.state == .running) then do
    let active ← unitActive process transaction.operationId
    (if active then .ret ()
    else do
      let transaction ← saveNow process (daemonRestarted transaction)
      recoverMapped process transaction)
  else .ret ())

/-- `restore_transactions`. -/
def restoreTransactions (retention : Retention) (recoverExisting : Bool) :
    PreparationProg Unit := do
  let scan ← loadAndPrune process retention
  forEach (restoreTransaction process recoverExisting) scan.transactions

/-! ### Starting -/

/-- `DevicePreparationRequest`, resolved, with the target it is for. -/
structure DevicePreparationRequest where
  profileId : ProfileId
  profileName : String
  sources : List DevicePreparationSource
  passphraseLabel : String
  createAutomaticKey : Bool
  device : ProvisioningDevice
  target : DevicePreparationTarget
  deviceAccess : List String
  deriving DecidableEq

/-- The transaction `start` begins with. -/
def newTransaction (request : DevicePreparationRequest) : DevicePreparationTransaction where
  revision := 0
  operationId := operationId
  profileId := request.profileId
  state := .queued
  phase := .inspect
  errorCode := ""
  recoveryAction := ""
  canCancel := true
  device := request.device
  target := request.target
  profileName := request.profileName
  sources := request.sources
  passphraseLabel := request.passphraseLabel
  createAutomaticKey := request.target.mode != .adoptExistingTarget && request.createAutomaticKey
  updatedAt := now
  lastCompletedPhase := none
  partitionTableBackup := ""
  partition := (request.target.partition.map ExistingPartition.displayPath).getD ""
  partitionDeviceNumber := (request.target.partition.map ExistingPartition.majorMinor).getD ""
  partitionUuid := ""
  luksUuid := ""
  btrfsUuid := ""
  mapper := ""
  mapperDeviceNumber := ""
  inspectionMountPoint := ""
  configurationState := .notStarted
  credentialsState := .notStarted
  profileReservationState := .notHeld
  cleanupResult := .notRequired
  cancelRequested := false
  requestedDeviceAccess := request.deviceAccess
  requestedMapperControl := false
  accessGeneration := 1
  authorizedAccessGeneration := 1

/-- `register_job`; the checks of the manager's own list of jobs and of the
installed profiles are calls. -/
def registerJob : PreparationProg DevicePreparationTransaction := do
  let operationId := transaction.operationId
  let busy ← inquire .manager (.ask operationId) PreparationAnswer.flag
  ensure (!busy) (managerOperationError "too many device preparation operations are active")
  let collision ← inquire .manager (.ask operationId) PreparationAnswer.flag
  ensure (!collision)
    (managerOperationError "device preparation operation identifier collision")
  let installed ← inquire .manager (.ask operationId) PreparationAnswer.flag
  ensure (!installed) (managerOperationError "device preparation profile already exists")
  (reserveProfile .manager transaction.profileId operationId).handleError fun e =>
    .fail (if e.isValidationError then
      managerOperationError "device preparation profile is already reserved" else e)
  (do
    let installed ← inquire .manager (.ask operationId) PreparationAnswer.flag
    ensure (!installed) (managerOperationError "device preparation profile already exists")
    save .manager { transaction with profileReservationState := .held }).handleError fun e => do
      let _ ← (releaseProfile .manager transaction.profileId operationId).attempt
      .fail e

/-- What `start` does to a record whose helper could not be started. -/
def startFailed : DevicePreparationTransaction :=
  { transaction with
    state := .failed
    errorCode := "device-preparation.helper-start-failed"
    recoveryAction := "Retry device preparation after checking the helper service."
    canCancel := false
    updatedAt := now }

/-- The manager's `release_profile_reservation`. -/
def releaseStateReservation : PreparationProg Unit :=
  if transaction.profileReservationState ≠ .held then .ret ()
  else do
    let transaction ← releaseHeld .manager transaction
    let _ ← saveNow .manager transaction
    .ret ()

/-- `start`, once the request is resolved; the id is drawn at random. -/
def start (request : DevicePreparationRequest) : PreparationProg Unit := do
  let now ← inquire .manager .readClock PreparationAnswer.now
  let _ ← registerJob (newTransaction operationId now request)
  (inquire .manager (.ask operationId) fun _ => ()).handleError fun e => do
    let transaction ← update .manager operationId fun now transaction =>
      .ok (startFailed now transaction)
    releaseStateReservation transaction
    .fail e

/-- The part of `reconcile_device_access` for one record. -/
def reconcileTransaction : PreparationProg Unit :=
  if (transaction.state != .queued && transaction.state != .running &&
        transaction.state != .interrupted) ||
      transaction.accessGeneration ≤ transaction.authorizedAccessGeneration then .ret ()
  else do
    inquire .manager (.ask transaction.operationId) fun _ => ()
    let _ ← update .manager transaction.operationId fun _ current =>
      .ok (if current.accessGeneration = transaction.accessGeneration then
        { current with authorizedAccessGeneration := current.accessGeneration } else current)
    .ret ()

/-- `reconcile_device_access`. -/
def reconcileDeviceAccess (retention : Retention) : PreparationProg Unit := do
  let scan ← loadAndPrune .manager retention
  forEach reconcileTransaction scan.transactions

/-- The state `inspect_replaced_partition` is for. -/
def replacedPartitionUnknown : Bool :=
  transaction.target.mode == .eraseWholeDevice && transaction.partition == "" &&
    transaction.lastCompletedPhase == some .wipeSignatures &&
    transaction.partitionTableBackup != ""

/-- What an inspection of the partition table found. -/
inductive PartitionCreationState where
  | created (partition : String)
  | notCreated
  | conflict
  deriving DecidableEq, Repr

end Preparation

end BtrfsBackup
