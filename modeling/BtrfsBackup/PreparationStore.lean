/-
The store of device preparations (`daemon/control/DevicePreparationTransactionStore`).

The manager and the helpers share a directory with one record per operation and
one reservation file per profile.  A record is read without a lock; `save` and
`update` read it again and write it while they hold the lock of the operation,
so that they are one step each.  Reservation files have no lock: each operation
on one of them is a step of its own.

* `PreparationSystem` — the files, the device mappings, and what happened;
* `load`, `save`, `updateAt`, `update`, `loadAndPrune` — the records;
* `reserveProfile`, `releaseProfile`, `readReservation` — the reservations.
-/
import BtrfsBackup.PreparationTransaction
import BtrfsBackup.Lib.Interleaving

open Interaction Interaction.Prog

namespace BtrfsBackup

namespace Preparation

/-! ### The system -/

/-- The processes that work on a preparation. -/
inductive Process where
  | manager
  | helper
  deriving DecidableEq, Repr

/-- The calls that destroy what is on a device. -/
inductive DestructiveCall where
  | wipeAll (path majorMinor : String)
  | replaceWithSingleGptPartition (path majorMinor : String) (geometry : PlannedPartitionGeometry)
  | createPartitionInFreeSpace (path majorMinor : String) (region : UnallocatedRegion)
      (geometry : PlannedPartitionGeometry)
  | formatLuks2 (partition : String)
  | formatBtrfs (mapperPath label : String)
  deriving DecidableEq, Repr

/-- What happened to an operation. -/
inductive Event where
  | wrote (process : Process) (content : DevicePreparationTransaction)
  | lockAcquired
  | safetyInspected (reasons : List String)
  | destroying (call : DestructiveCall)
  | opened (mapper : String)
  | closed (mapper : String)
  /-- A failed execution goes on to release the reservation; the record it saw. -/
  | releasedAfterFailure (seen : DevicePreparationTransaction)
  | unitStopped
  /-- The start of the recovery was called for. -/
  | recoveryRequested
  deriving DecidableEq

/-- The content an event has written. -/
def Event.content : Event → Option DevicePreparationTransaction
  | wrote _ content => some content
  | _ => none

/-- A reservation file: created by an operation but not written yet, or with the
id of its owner. -/
inductive ReservationFile where
  | incomplete (creator : OperationId)
  | owner (operationId : OperationId)
  deriving DecidableEq

/-- The shared state. -/
structure PreparationSystem where
  transactions : OperationId → Option DevicePreparationTransaction
  reservations : ProfileId → Option ReservationFile
  /-- The device mappings, each with the operation that opened it. -/
  mappings : List (OperationId × String)
  /-- The variable `mapper` of an execution. -/
  mapper : OperationId → String
  /-- What happened to each operation, newest first. -/
  trace : OperationId → List Event

namespace PreparationSystem

variable (system : PreparationSystem) (process : Process) (operationId : OperationId)
  (mapper : String)

/-- Note an event of an operation. -/
def record (event : Event) : PreparationSystem :=
  { system with
    trace := Function.update system.trace operationId (event :: system.trace operationId) }

/-- The file of a record has a new content. -/
def store (content : DevicePreparationTransaction) : PreparationSystem :=
  { system with
    transactions := Function.update system.transactions operationId (some content)
    trace := Function.update system.trace operationId
      (.wrote process content :: system.trace operationId) }

/-- The file of a record is removed. -/
def prune : PreparationSystem :=
  { system with transactions := Function.update system.transactions operationId none }

/-- The reservation file of a profile changes. -/
def setReservation (profileId : ProfileId) (file : Option ReservationFile) : PreparationSystem :=
  { system with reservations := Function.update system.reservations profileId file }

/-- A device mapping is opened. -/
def openMapping : PreparationSystem :=
  { system.record operationId (.opened mapper) with
    mappings := (operationId, mapper) :: system.mappings }

/-- A device mapping is closed. -/
def closeMapping : PreparationSystem :=
  { system.record operationId (.closed mapper) with
    mappings := system.mappings.filter fun mapping => mapping.2 != mapper }

/-- The variable `mapper` of an execution is set. -/
def setMapper : PreparationSystem :=
  { system with mapper := Function.update system.mapper operationId mapper }

/-- The contents a record has had, newest first. -/
def history : List DevicePreparationTransaction :=
  (system.trace operationId).filterMap Event.content

end PreparationSystem

/-! ### Calls and answers -/

/-- What a process asks for. -/
inductive Action where
  | load (operationId : OperationId)
  | save (transaction : DevicePreparationTransaction)
  | update (operationId : OperationId) (expectedRevision : Nat)
  | listTransactions
  | removeTransaction (operationId : OperationId)
  | syncTransactions
  | readClock
  | createReservation (profileId : ProfileId) (operationId : OperationId)
  | writeReservation (profileId : ProfileId) (operationId : OperationId)
  | syncReservations
  | discardReservation (profileId : ProfileId) (operationId : OperationId)
  | readReservation (profileId : ProfileId)
  | unlinkReservation (profileId : ProfileId) (operationId : OperationId)
  /-- A call that changes nothing of the state. -/
  | ask (operationId : OperationId)
  | acquireDeviceLock (operationId : OperationId)
  | inspectSafety (operationId : OperationId)
  | destroy (operationId : OperationId) (call : DestructiveCall)
  | openMapper (operationId : OperationId) (mapper : String)
  | closeMapper (operationId : OperationId) (mapper : String)
  | unitActive (operationId : OperationId)
  | stopUnit (operationId : OperationId)
  | recoverUnit (operationId : OperationId)
  deriving DecidableEq

/-- A call. -/
structure PreparationCall where
  process : Process
  action : Action
  deriving DecidableEq

/-- `SourceCandidate`, as far as it is checked. -/
structure SourceCandidate where
  filesystemUuid : String
  mountRoot : String
  localSnapshotRoot : String
  deriving DecidableEq, Repr

/-- An answer: the error of the call, whether a call that throws has had its
effect, and what the call returns. -/
structure PreparationAnswer where
  error : Option Raised
  took : Bool
  now : Int
  flag : Bool
  count : Nat
  text : String
  lines : List String
  operations : List OperationId
  source : SourceCandidate
  summary : ExistingTargetInspectionSummary

/-- Is it the error of a revision that is not the expected one? -/
def isRevisionConflict : Raised → Bool
  | .exception e =>
    Raised.isValidationError (.exception e) &&
      e.what == "device preparation transaction revision conflict"
  | .foreign => false

/-- Does the call have its effect?  A revision conflict is found before anything is
written. -/
def PreparationAnswer.effective (answer : PreparationAnswer) : Bool :=
  match answer.error with
  | none => true
  | some e => answer.took && !isRevisionConflict e

/-- Programs on the system. -/
abbrev PreparationProg (α : Type) :=
  Prog PreparationCall PreparationAnswer PreparationSystem Raised α

variable (process : Process) (action : Action) (profileId : ProfileId) (operationId : OperationId)

/-- A call with an effect. -/
def perform (change : PreparationSystem → PreparationSystem) : PreparationProg Unit :=
  .effect ⟨process, action⟩
    (fun answer system => if answer.effective then change system else system)
    fun answer _ =>
      match answer.error with
      | none => .ret ()
      | some e => .fail e

/-- A call that only returns something. -/
def inquire (process : Process) (action : Action) (value : PreparationAnswer → α) :
    PreparationProg α :=
  .effect ⟨process, action⟩ (fun _ system => system) fun answer _ =>
    match answer.error with
    | none => .ret (value answer)
    | some e => .fail e

/-- Throw if the condition does not hold. -/
def ensure (condition : Bool) (e : Raised) : PreparationProg Unit :=
  if condition then .ret () else .fail e

/-! ### Records -/

def load : PreparationProg DevicePreparationTransaction :=
  .effect ⟨process, .load operationId⟩ (fun _ system => system) fun answer system =>
    match answer.error with
    | some e => .fail e
    | none =>
      match system.transactions operationId with
      | none => .fail (missingTransaction operationId)
      | some transaction =>
        if transaction.operationId = operationId then .ret transaction
        else .fail (invalid "transaction file name does not match its operation identifier")

/-- Write a record under its lock: `content` is what is written for what the file
holds.  A write that throws may have taken place. -/
def writeLocked
    (content : PreparationAnswer → Option DevicePreparationTransaction →
      Except Raised DevicePreparationTransaction) :
    PreparationProg DevicePreparationTransaction :=
  .effect ⟨process, action⟩
    (fun answer system =>
      match content answer (system.transactions operationId) with
      | .ok written => if answer.effective then system.store process operationId written else system
      | .error _ => system)
    fun answer system =>
      match answer.error with
      | some e => .fail e
      | none =>
        match content answer (system.transactions operationId) with
        | .ok written => .ret written
        | .error e => .fail e

/-- `save`; it returns the transaction with its new revision. -/
def save (transaction : DevicePreparationTransaction) :
    PreparationProg DevicePreparationTransaction :=
  writeLocked process (.save transaction) transaction.operationId fun _ stored =>
    saved stored transaction

/-- Set `updated_at` to the time and `save`. -/
def saveNow (transaction : DevicePreparationTransaction) :
    PreparationProg DevicePreparationTransaction :=
  writeLocked process (.save transaction) transaction.operationId fun answer stored =>
    saved stored { transaction with updatedAt := answer.now }

/-- What an update does to a record, at a given time. -/
abbrev Transition := Int → DevicePreparationTransaction → Except Raised DevicePreparationTransaction

/-- `update` for an expected revision. -/
def updateAt (expectedRevision : Nat) (transition : Transition) :
    PreparationProg DevicePreparationTransaction :=
  writeLocked process (.update operationId expectedRevision) operationId fun answer stored =>
    updated operationId expectedRevision (transition answer.now) stored

/-- The loop of `update`. -/
def updateAttempts (process : Process) (operationId : OperationId) (transition : Transition) :
    Nat → PreparationProg DevicePreparationTransaction
  | 0 => .fail (invalid "device preparation transaction remained busy")
  | attempts + 1 => do
    let current ← load process operationId
    (updateAt process operationId current.revision transition).handleError fun e =>
      if isRevisionConflict e then updateAttempts process operationId transition attempts
      else .fail e

def update (transition : Transition) : PreparationProg DevicePreparationTransaction :=
  updateAttempts process operationId transition 16

/-! ### Pruning -/

/-- `DevicePreparationTransactionScan`. -/
structure Scan where
  transactions : List DevicePreparationTransaction
  corrupted : List OperationId

/-- Read the records of a directory. -/
def scanTransactions (process : Process) : List OperationId → PreparationProg Scan
  | [] => .ret ⟨[], []⟩
  | operationId :: rest => do
    let entry ← (load process operationId).attempt
    match entry with
    | .ok transaction => do
      let scan ← scanTransactions process rest
      .ret { scan with transactions := transaction :: scan.transactions }
    | .error (.exception _) => do
      let scan ← scanTransactions process rest
      .ret { scan with corrupted := operationId :: scan.corrupted }
    | .error .foreign => .fail .foreign

/-- The completed transactions, the one that was updated last first. -/
def completedTransactions (transactions : List DevicePreparationTransaction) :
    List DevicePreparationTransaction :=
  (transactions.filter terminal).insertionSort fun a b => b.updatedAt ≤ a.updatedAt

/-- Remove the file of a record. -/
def removeTransaction : PreparationProg Unit :=
  (perform process (.removeTransaction operationId) fun system =>
    system.prune operationId).handleError fun _ =>
      .fail (invalid "cannot prune device preparation transaction")

/-- Remove the completed transactions that are too old or too many, and return
their ids. -/
def pruneCompleted (process : Process) (cutoff : Int) (completedLimit : Nat) :
    Nat → List DevicePreparationTransaction → PreparationProg (List OperationId)
  | _, [] => .ret []
  | index, transaction :: rest =>
    if transaction.updatedAt < cutoff || completedLimit ≤ index then do
      removeTransaction process transaction.operationId
      let removed ← pruneCompleted process cutoff completedLimit (index + 1) rest
      .ret (transaction.operationId :: removed)
    else pruneCompleted process cutoff completedLimit (index + 1) rest

/-- How long and how many completed transactions are kept. -/
structure Retention where
  completedLimit : Nat
  completedTtl : Int

/-- `load_and_prune`. -/
def loadAndPrune (retention : Retention) : PreparationProg Scan := do
  let entries ← inquire process .listTransactions PreparationAnswer.operations
  let scan ← scanTransactions process entries
  let now ← inquire process .readClock PreparationAnswer.now
  let removed ← pruneCompleted process (now - retention.completedTtl) retention.completedLimit 0
    (completedTransactions scan.transactions)
  (if removed ≠ [] then perform process .syncTransactions id else .ret ())
  .ret { scan with
    transactions := scan.transactions.filter fun transaction =>
      !removed.contains transaction.operationId }

/-! ### Reservations -/

/-- `read_reservation`: an empty file is not a reservation. -/
def readReservation : PreparationProg (Option OperationId) :=
  .effect ⟨process, .readReservation profileId⟩ (fun _ system => system) fun answer system =>
    match answer.error with
    | some e => .fail e
    | none =>
      match system.reservations profileId with
      | none => .ret none
      | some (.owner operationId) => .ret (some operationId)
      | some (.incomplete _) => .fail (invalid ("invalid profile reservation " ++ profileId.value))

/-- Create the reservation file; `false` if there is one. -/
def createReservation : PreparationProg Bool :=
  .effect ⟨process, .createReservation profileId operationId⟩
    (fun answer system =>
      if answer.effective && (system.reservations profileId).isNone then
        system.setReservation profileId (some (.incomplete operationId))
      else system)
    fun answer system =>
      match answer.error with
      | none => .ret (system.reservations profileId).isNone
      | some e => .fail e

/-- Write the owner into the file that was created.  If that file is not the one
with the name any more, nothing is seen of it. -/
def writeReservation : PreparationProg Unit :=
  perform process (.writeReservation profileId operationId) fun system =>
    if system.reservations profileId = some (.incomplete operationId) then
      system.setReservation profileId (some (.owner operationId))
    else system

/-- Remove the file after a failed write; errors are ignored. -/
def discardReservation : PreparationProg Unit := do
  let _ ← (perform process (.discardReservation profileId operationId) fun system =>
    system.setReservation profileId none).attempt
  .ret ()

/-- `reserve_profile`. -/
def reserveProfile : PreparationProg Unit := do
  let created ← createReservation process profileId operationId
  (if created then
    (do
      writeReservation process profileId operationId
      perform process .syncReservations id
      perform process .syncReservations id).handleError fun e => do
        discardReservation process profileId operationId
        .fail e
  else do
    let owner ← readReservation process profileId
    ensure (owner = some operationId)
      (invalid ("profile is already reserved: " ++ profileId.value)))

/-- `release_profile`. -/
def releaseProfile : PreparationProg Unit := do
  let owner ← readReservation process profileId
  match owner with
  | none => .ret ()
  | some other => do
    ensure (other = operationId)
      (invalid ("profile reservation is owned by another operation: " ++ profileId.value))
    perform process (.unlinkReservation profileId operationId) fun system =>
      system.setReservation profileId none
    perform process .syncReservations id

end Preparation

end BtrfsBackup
