/-
The record of a device preparation and what the store lets become of it
(`provisioning/DevicePreparationTransaction`, `daemon/control/DevicePreparationTransactionStore`).

The record is shared by the manager and the helper.  Both write it under a lock,
and only if its revision is the one they have read.

* `DevicePreparationTransaction` — the record;
* `saved`, `updated` — the parts of `save` and `update` that hold the lock;
* `Succeeds` — how one content may follow another; `saved_succeeds` and
  `updated_succeeds` say that the store only lets this happen.
-/
import BtrfsBackup.Core

namespace BtrfsBackup

namespace Preparation

/-! ### What is thrown -/

/-- What is thrown: an exception, or something that is not a `std::exception`. -/
inductive Raised where
  | exception (e : Thrown)
  | foreign
  deriving DecidableEq, Repr

/-- A `ValidationError`. -/
def invalid (what : String) : Raised := .exception (validationError what)

/-- A `ManagerOperationError`, with its message. -/
def managerOperationError (what : String) : Raised := .exception ⟨.standard, what⟩

/-- Is it caught by `catch (const ValidationError&)`? -/
def Raised.isValidationError : Raised → Bool
  | .exception ⟨.validation, _⟩ => true
  | .exception ⟨.codedValidation _, _⟩ => true
  | _ => false

/-! ### The target -/

inductive ProvisioningMode where
  | eraseWholeDevice
  | reformatExistingPartition
  | createPartitionInUnallocatedSpace
  | adoptExistingTarget
  deriving DecidableEq, Repr

inductive PartitionTableType where
  | none
  | gpt
  | mbr
  | unsupported
  deriving DecidableEq, Repr

structure ExistingPartition where
  displayPath : String
  majorMinor : String
  filesystemType : String
  filesystemVersion : String
  filesystemLabel : String
  filesystemUuid : String
  partitionUuid : Option String
  suitableForAdoption : Bool
  mountPoints : List String
  holders : List String
  activeSwap : Bool
  blockers : List String
  deriving DecidableEq, Repr

structure UnallocatedRegion where
  startSector : Nat
  sectorCount : Nat
  deriving DecidableEq, Repr

structure PlannedPartitionGeometry where
  startSector : Nat
  sectorCount : Nat
  partitionNumber : Nat
  deriving DecidableEq, Repr

inductive ExistingTargetClassification where
  | compatibleRepository
  | emptyFilesystem
  | legacyRepository
  | unsupportedRepository
  | foreignOrInvalidRepository
  | notBtrfsFilesystem
  deriving DecidableEq, Repr

structure ExistingTargetInspectionSummary where
  classification : ExistingTargetClassification
  diagnosticCode : String
  luksUuid : String
  btrfsUuid : String
  partitionUuid : String
  repositoryId : String
  catalogGeneration : Nat
  snapshotCount : Nat
  deriving DecidableEq, Repr

structure DevicePreparationTarget where
  mode : ProvisioningMode
  partitionTableType : PartitionTableType
  partitionTableIdentifier : String
  logicalSectorSize : Nat
  partition : Option ExistingPartition
  freeRegion : Option UnallocatedRegion
  plannedPartitionGeometry : Option PlannedPartitionGeometry
  expectedInspection : Option ExistingTargetInspectionSummary
  deriving DecidableEq, Repr

/-- `ProvisioningDevice`, as far as it is used here. -/
structure ProvisioningDevice where
  path : String
  majorMinor : String
  deriving DecidableEq, Repr

/-- `DevicePreparationSource`, as far as it is checked here. -/
structure DevicePreparationSource where
  subvolume : String
  filesystemUuid : String
  mountRoot : String
  localSnapshotDir : String
  deriving DecidableEq, Repr

/-! ### The record -/

@[ext]
structure OperationId where
  value : String
  valid : identifierOk value = true

instance : DecidableEq OperationId := fun _ _ => decidable_of_iff _ OperationId.ext_iff.symm

inductive PreparationState where
  | queued
  | running
  | succeeded
  | failed
  | cancelled
  | interrupted
  deriving DecidableEq, Repr

/-- The phases of a preparation. -/
inductive Phase where
  | inspect
  | verifyExistingTarget
  | backupPartitionTable
  | wipeSignatures
  | partition
  | luksFormat
  | openMapper
  | mkfsBtrfs
  | close
  | writeProfile
  | credentials
  | complete
  deriving DecidableEq, Repr

def Phase.name : Phase → String
  | inspect => "inspect"
  | verifyExistingTarget => "verify-existing-target"
  | backupPartitionTable => "backup-partition-table"
  | wipeSignatures => "wipe-signatures"
  | partition => "partition"
  | luksFormat => "luks-format"
  | openMapper => "open"
  | mkfsBtrfs => "mkfs-btrfs"
  | close => "close"
  | writeProfile => "write-profile"
  | credentials => "credentials"
  | complete => "complete"

/-- `profile_reservation_state`. -/
inductive ReservationState where
  | notHeld
  | held
  | releasing
  | released
  deriving DecidableEq, Repr

/-- `configuration_state` and `credentials_state`. -/
inductive InstallState where
  | notStarted
  | inProgress
  | installed
  | notApplicable
  deriving DecidableEq, Repr

/-- `cleanup_result`. -/
inductive CleanupResult where
  | notRequired
  | pending
  | inspectionCleaned
  | inspectionDirectoryRemoveFailed
  | inspectionCleanupFailed
  | mapperClosed
  | mapperCloseFailed
  | partitionDetected
  | partitionNotCreated
  | partitionStateConflict
  | partitionInspectionFailed
  deriving DecidableEq, Repr

/-- `DevicePreparationTransaction`.  A phase that is not there is the empty text. -/
structure DevicePreparationTransaction where
  revision : Nat
  operationId : OperationId
  profileId : ProfileId
  state : PreparationState
  phase : Phase
  errorCode : String
  recoveryAction : String
  canCancel : Bool
  device : ProvisioningDevice
  target : DevicePreparationTarget
  profileName : String
  sources : List DevicePreparationSource
  passphraseLabel : String
  createAutomaticKey : Bool
  updatedAt : Int
  lastCompletedPhase : Option Phase
  partitionTableBackup : String
  partition : String
  partitionDeviceNumber : String
  partitionUuid : String
  luksUuid : String
  btrfsUuid : String
  mapper : String
  mapperDeviceNumber : String
  inspectionMountPoint : String
  configurationState : InstallState
  credentialsState : InstallState
  profileReservationState : ReservationState
  cleanupResult : CleanupResult
  cancelRequested : Bool
  requestedDeviceAccess : List String
  requestedMapperControl : Bool
  accessGeneration : Nat
  authorizedAccessGeneration : Nat
  deriving DecidableEq

/-- Is the preparation over? -/
def PreparationState.ended : PreparationState → Bool
  | succeeded | failed | cancelled | interrupted => true
  | queued | running => false

def terminal (transaction : DevicePreparationTransaction) : Bool :=
  transaction.profileReservationState != .held &&
    transaction.profileReservationState != .releasing && transaction.state.ended

/-- `state_transition_allowed`. -/
def stateTransitionAllowed (source destination : PreparationState) : Bool :=
  if source = destination then true
  else
    match source with
    | .queued =>
      destination == .running || destination == .cancelled || destination == .interrupted ||
        destination == .failed
    | .running =>
      destination == .succeeded || destination == .cancelled || destination == .interrupted ||
        destination == .failed
    | _ => false

/-- The largest `std::uint64_t`. -/
def maximumUint64 : Nat := 2 ^ 64 - 1

/-! ### Writing the record -/

/-- What a writer that holds the lock does with an exception. -/
def require (condition : Bool) (what : String) : Except Raised Unit :=
  if condition then .ok () else .error (invalid what)

@[simp] theorem require_eq_ok {cond : Bool} {what : String} {u : Unit} :
    require cond what = .ok u ↔ cond = true := by
  cases cond <;> simp [require]

/-- The content with the next revision. -/
def DevicePreparationTransaction.next (transaction : DevicePreparationTransaction) :
    DevicePreparationTransaction :=
  { transaction with revision := transaction.revision + 1 }

/-- `save`, between taking the lock and writing the file: the content that is
written. -/
def saved (stored : Option DevicePreparationTransaction)
    (transaction : DevicePreparationTransaction) :
    Except Raised DevicePreparationTransaction := do
  match stored with
  | some current =>
    require (current.operationId == transaction.operationId)
      "transaction file name does not match its operation identifier"
    require (current.revision == transaction.revision)
      "device preparation transaction revision conflict"
    require (!terminal current) "terminal device preparation transaction is immutable"
    require (stateTransitionAllowed current.state transaction.state)
      "invalid device preparation transaction state transition"
    require (!current.cancelRequested || transaction.cancelRequested)
      "device preparation cancellation request cannot be cleared"
    require (transaction.revision != maximumUint64)
      "device preparation transaction revision is exhausted"
    return transaction.next
  | none =>
    require (transaction.revision == 0) "device preparation transaction is missing"
    return { transaction with revision := 1 }

/-- The error of reading a record that is not there. -/
def missingTransaction (operationId : OperationId) : Raised :=
  invalid ("cannot read document " ++ operationId.value ++ ".json: No such file or directory")

/-- `update` for an expected revision, between taking the lock and writing the
file: the content that is written. -/
def updated (operationId : OperationId) (expectedRevision : Nat)
    (transition : DevicePreparationTransaction → Except Raised DevicePreparationTransaction)
    (stored : Option DevicePreparationTransaction) :
    Except Raised DevicePreparationTransaction := do
  match stored with
  | none => .error (missingTransaction operationId)
  | some current =>
    require (current.operationId == operationId)
      "transaction file name does not match its operation identifier"
    require (current.revision == expectedRevision)
      "device preparation transaction revision conflict"
    require (!terminal current) "terminal device preparation transaction is immutable"
    let changed ← transition current
    require (changed.revision == current.revision && changed.operationId == current.operationId)
      "device preparation transition changed immutable identity"
    require (stateTransitionAllowed current.state changed.state)
      "invalid device preparation transaction state transition"
    require (!current.cancelRequested || changed.cancelRequested)
      "device preparation cancellation request cannot be cleared"
    require (changed.revision != maximumUint64)
      "device preparation transaction revision is exhausted"
    return changed.next

/-! ### What the store guarantees -/

/-- How one content of a record may follow another. -/
structure Succeeds (before after : DevicePreparationTransaction) : Prop where
  operationId : after.operationId = before.operationId
  revision : after.revision = before.revision + 1
  notTerminal : terminal before = false
  transition : stateTransitionAllowed before.state after.state = true
  cancelRequested : before.cancelRequested = true → after.cancelRequested = true

theorem saved_some {cur tx content} (h : saved (some cur) tx = .ok content) :
    content = tx.next ∧ cur.revision = tx.revision ∧ Succeeds cur content := by
  simp only [saved, bind_eq_ok, require_eq_ok] at h
  obtain ⟨_, hid, _, hrev, _, hterm, _, htransition, _, hcancel, _, -, hcont⟩ := h
  obtain rfl : tx.next = content := by simpa [pure, Except.pure] using hcont
  rw [beq_iff_eq] at hid hrev
  refine ⟨rfl, hrev, hid.symm, congrArg (· + 1) hrev.symm, ?_, htransition, ?_⟩
  · simpa using hterm
  · intro hpre
    simpa [hpre, DevicePreparationTransaction.next] using hcancel

theorem saved_none {tx content} (h : saved none tx = .ok content) :
    content = { tx with revision := 1 } ∧ tx.revision = 0 := by
  simp only [saved, bind_eq_ok, require_eq_ok] at h
  obtain ⟨_, hrev, hcont⟩ := h
  exact ⟨by simpa [pure, Except.pure] using hcont.symm, by simpa using hrev⟩

theorem updated_ok {op} {expectedRevision : Nat} {transition stored content}
    (h : updated op expectedRevision transition stored = .ok content) :
    ∃ cur changed, stored = some cur ∧ cur.revision = expectedRevision ∧
    transition cur = .ok changed ∧ content = changed.next ∧ Succeeds cur content := by
  cases stored with
  | none => cases h
  | some cur =>
    simp only [updated, bind_eq_ok, require_eq_ok] at h
    obtain ⟨_, hid, _, hexp, _, hterm, changed, hchg, _, hident, _, htransition, _,
      hcancel, _, -, hcont⟩ := h
    obtain rfl : changed.next = content := by simpa [pure, Except.pure] using hcont
    rw [Bool.and_eq_true, beq_iff_eq, beq_iff_eq] at hident
    rw [beq_iff_eq] at hexp
    refine ⟨cur, changed, rfl, hexp, hchg, rfl, hident.2,
      congrArg (· + 1) hident.1, ?_, htransition, ?_⟩
    · simpa using hterm
    · intro hpre
      simpa [hpre, DevicePreparationTransaction.next] using hcancel

end Preparation

end BtrfsBackup
