/-
The action handlers (`backup/execution/actions/`, `backup/transfer/`) as
programs over the stores of one source.

Every call to Btrfs, to the file system or to the marker store is an effect.
The environment's `Answer` says whether the call succeeds, throws before it had
an effect, or throws after it; cutting the list of answers off is a crash.  A
new subvolume gets the UUID of the answer, which has to be a fresh one
(`World.isFresh`): a call with another one does not succeed.

* `executeAction` — one action;
* `execRun` — a run of one source: discovery, planning, and its actions.
-/
import BtrfsBackup.Lib.Interaction
import BtrfsBackup.World

open Interaction

namespace BtrfsBackup

/-! ### Calls and answers -/

/-- The calls a handler makes. -/
inductive StoreCall where
  | ensureDirectory
  | readMetadata
  | listDirectory
  | writeMarker
  | clearMarker
  | createSnapshot
  | measureStream
  | receiveStream
  | deleteSubvolume
  | removeEntry
  | runHook
  deriving DecidableEq, Repr

/-- How a call ends. -/
inductive Verdict where
  | ok
  | throwsBefore
  | throwsAfter
  deriving DecidableEq, Repr

/-- The answer to a call. -/
structure Answer where
  verdict : Verdict
  /-- What it throws. -/
  error : Thrown
  /-- The clock. -/
  now : RuntimeTimePoint
  /-- The UUID of a subvolume the call creates. -/
  uuid : SnapshotUuid
  /-- The received UUID of a subvolume that `btrfs receive` creates, or of a
  snapshot of the source subvolume. -/
  receivedUuid : ReceivedSnapshotUuid
  /-- The read-only flag of a subvolume that `btrfs receive` creates. -/
  readonly : Bool
  /-- The received UUID of a snapshot of a received subvolume, where it is not
  the one of the received subvolume. -/
  changedReceivedUuid : Option ReceivedSnapshotUuid

instance : Inhabited Answer where
  default :=
    { verdict := .ok
      error := validationError ""
      now := RuntimeTimePoint.wrap 0
      uuid := .ofString ""
      receivedUuid := .ofString ""
      readonly := true
      changedReceivedUuid := none }

/-- Btrfs keeps the received UUID in a read-only snapshot. -/
def Answer.KeepsReceivedUuid (answer : Answer) : Prop := answer.changedReceivedUuid = none

instance (answer : Answer) : Decidable answer.KeepsReceivedUuid :=
  inferInstanceAs (Decidable (_ = _))

abbrev Handler (α : Type) := Prog StoreCall Answer World Thrown α

section

variable (config : SourceConfig) (world : World) (root path : FsPath) (location : List String)
  (recovery : PendingRecoveryPlan)

/-- A UUID that no subvolume of the world has or was received from. -/
def World.isFresh (uuid : SnapshotUuid) : Bool :=
  !uuid.isEmpty && !world.knownUuids.contains uuid.value &&
    [world.localSnapshots, world.remoteSnapshots, world.incoming].all fun store =>
      store.items.all fun v =>
        v.metadata.uuid.value != uuid.value && v.metadata.receivedUuid.value != uuid.value

/-- A call that succeeds only if `possible`, and then has the effect `change`. -/
def call (label : StoreCall) (possible : Answer → World → Bool)
    (change : Answer → World → World) : Handler Unit :=
  .effect label
    (fun answer world =>
      if possible answer world && answer.verdict != .throwsBefore then change answer world
      else world)
    (fun answer world =>
      if possible answer world && answer.verdict == .ok then .ret () else .fail answer.error)

/-- A call that changes nothing the model keeps. -/
def inspect (label : StoreCall) : Handler Unit := call label (fun _ _ => true) fun _ world => world

/-- Code that throws by itself. -/
def lift {α : Type} : Except Thrown α → Handler α
  | .ok a => .ret a
  | .error e => .fail e

/-! ### Operations below a root -/

/-- `ensure_directory`. -/
def ensureDirectory : Handler Unit := do
  let _ ← lift (locate root path)
  inspect .ensureDirectory

/-- `read_snapshot_metadata_beneath`, with the error of the caller if there is
none. -/
def requireSnapshotMetadata (store : World → Subvolumes) (message : String) :
    Handler SnapshotMetadata := do
  let location ← lift (locate root path)
  inspect .readMetadata
  .look fun world =>
    match readMetadata (store world) location with
    | none => .fail (validationError (message ++ ": " ++ path.string))
    | some metadata => .ret metadata

/-- The world without the local snapshot at a location. -/
def World.removeLocal : World :=
  { world with localSnapshots := world.localSnapshots.remove location }

/-- `delete_subvolume_beneath` for a local snapshot. -/
def deleteLocalSubvolume : Handler Unit := do
  let location ← lift (locate localRoot path)
  call .deleteSubvolume (fun _ world => (world.localSnapshots.find? location).isSome)
    fun _ world => world.removeLocal location

/-- The world without the remote snapshot at a location. -/
def World.removeRemote (action : BackupRunActionKind) (location : List String) : World :=
  match world.remoteSnapshots.find? location with
  | none => world
  | some v =>
    { world with
      remoteSnapshots := world.remoteSnapshots.remove location
      history := .remoteDeleted action v.metadata.uuid :: world.history }

/-- `delete_subvolume_beneath` for a remote snapshot, on behalf of an action. -/
def deleteRemoteSubvolume (action : BackupRunActionKind) (path : FsPath) : Handler Unit := do
  let location ← lift (locate config.targetRoot path)
  call .deleteSubvolume (fun _ world => (world.remoteSnapshots.find? location).isSome)
    fun _ world => world.removeRemote action location

/-- `remove_entry` for received data. -/
def removeIncoming (v : Subvolume) : Handler Unit :=
  call .removeEntry (fun _ _ => true)
    fun _ world => { world with incoming := world.incoming.remove v.location }

/-- Remove the received data below a location. -/
def removeIncomingBelow : Handler Unit :=
  .look fun world =>
    Prog.forEach removeIncoming
      (world.incoming.items.filter fun v => location.isPrefixOf v.location)

/-- `remove_contents`. -/
def removeContents : Handler Unit := do
  let location ← lift (locate root path)
  inspect .listDirectory
  removeIncomingBelow location

/-- `remove_tree`. -/
def removeTree : Handler Unit := do
  let location ← lift (locate root path)
  if location = root.location then
    .fail (validationError ("refusing to remove safe directory root: " ++ root.string))
  else do
    inspect .listDirectory
    removeIncomingBelow location

def World.clearMarker : World := { world with pendingMarker := none }

/-! ### Handlers -/

/-- The world when recovery has cleared the marker, its last effect: what is at
the pending snapshot's path then has been left there. -/
def World.finishRecovery (pendingSnapshotPath : FsPath) (world : World) : World :=
  match world.localSnapshots.find? pendingSnapshotPath.location with
  | none => world.clearMarker
  | some v =>
    { world.clearMarker with history := .leftByRecovery v.metadata.uuid :: world.history }

/-- The remote deletion of a recovery, if there is one. -/
def deletePendingRemote : Handler Unit :=
  match recovery.remoteDeletion with
  | some path => deleteRemoteSubvolume config .recoverPending path
  | none => pure ()

/-- The local deletion of a recovery, if there is one. -/
def deletePendingLocal : Handler Unit :=
  match recovery.localDeletion with
  | some path => deleteLocalSubvolume path
  | none => pure ()

/-- `RecoveryActionHandler::handle`. -/
def recoverPending : Handler Unit := do
  deletePendingRemote config recovery
  deletePendingLocal recovery
  if recovery.clearsMarker then
    call .clearMarker (fun _ _ => true) fun _ => World.finishRecovery recovery.pendingSnapshotPath
  else pure ()

/-- The marker `CreateSnapshot` writes. -/
def CreateSnapshotAction.marker (action : CreateSnapshotAction) (now : RuntimeTimePoint) :
    PendingMarker where
  sourceId := action.sourceId
  localSnapshotPath := action.snapshot
  finalSnapshotPath := action.finalRemoteSnapshot
  runId := action.runId
  timestamp := now

def World.writeMarker (marker : PendingMarker) : World :=
  { world with pendingMarker := some marker }

/-- A new read-only snapshot of the source subvolume. -/
def newLocalSnapshot (answer : Answer) : Subvolume where
  location := location
  metadata := ⟨true, true, answer.uuid, answer.receivedUuid⟩
  madeFrom := answer.uuid

/-- The world with a new local snapshot. -/
def World.addLocal (v : Subvolume) : World :=
  { world with
    localSnapshots := world.localSnapshots.add v
    knownUuids := v.metadata.uuid.value :: v.metadata.receivedUuid.value :: world.knownUuids }

/-- `SnapshotActionHandler::handle`. -/
def createSnapshot (action : CreateSnapshotAction) : Handler Unit := do
  ensureDirectory localRoot action.snapshotDirectory
  call .writeMarker (fun _ _ => true) fun answer world =>
    world.writeMarker (action.marker answer.now)
  let location ← lift (locate localRoot action.snapshot)
  .look fun world =>
    if (world.localSnapshots.find? location).isSome then
      .fail (validationError ("snapshot target already exists: " ++ action.snapshot.string))
    else do
      call .createSnapshot (fun answer world => world.isFresh answer.uuid) fun answer world =>
        world.addLocal (newLocalSnapshot location answer)
      let metadata ← requireSnapshotMetadata localRoot action.snapshot World.localSnapshots
        "New local snapshot metadata is missing"
      if !metadata.isSubvolume || !metadata.readonly then
        .fail (validationError ("New local snapshot is not readonly: " ++ action.snapshot.string))
      else pure ()

/-- The subvolume that `btrfs receive` makes of the stream of a snapshot. -/
def receivedSubvolume (sent : SnapshotMetadata) (answer : Answer) : Subvolume where
  location := location
  metadata := ⟨true, answer.readonly, answer.uuid, answer.receivedUuid⟩
  madeFrom := sent.uuid

/-- The world with a new received subvolume. -/
def World.addIncoming (v : Subvolume) : World :=
  { world with
    incoming := world.incoming.add v
    knownUuids := v.metadata.uuid.value :: v.metadata.receivedUuid.value :: world.knownUuids }

/-- Opening the parent of an incremental transfer. -/
def openParent : Option FsPath → Handler Unit
  | none => pure ()
  | some parent => do
    let _ ← requireSnapshotMetadata localRoot parent World.localSnapshots
      "cannot open path below safe directory root"

/-- `TransferCoordinator::execute`: `btrfs send` of the snapshot into `btrfs
receive`, after measuring the stream.  The received subvolume gets the name of
the sent one. -/
def sendReceive (action : SendReceiveAction) : Handler Unit := do
  ensureDirectory config.targetRoot action.remoteSnapshotDirectory
  ensureDirectory config.targetRoot action.incomingRunDirectory
  let sent ← requireSnapshotMetadata localRoot action.snapshot World.localSnapshots
    "cannot open path below safe directory root"
  openParent action.parent
  inspect .measureStream
  let directory ← lift (locate config.targetRoot action.incomingRunDirectory)
  let location := directory ++ [action.snapshot.filename]
  call .receiveStream
    (fun answer world => world.isFresh answer.uuid && (world.incoming.find? location).isNone)
    fun answer world => world.addIncoming (receivedSubvolume location sent answer)

/-- `verify_received_snapshot`. -/
def verifyReceivedSnapshot (sourceId : SourceId) (sent received : SnapshotMetadata) :
    Except Thrown Unit :=
  if !received.isSubvolume then
    .error (validationError "btrfs receive did not create the expected subvolume")
  else if !received.readonly then .error (validationError "Received subvolume is not readonly")
  else if !uuidMatches sent.uuid received.receivedUuid then
    .error (validationError
      ("Received UUID does not match the local snapshot UUID for " ++ sourceId.value))
  else .ok ()

theorem verifyReceivedSnapshot_eq_ok {sourceId : SourceId} {sent recv : SnapshotMetadata}
    (h : verifyReceivedSnapshot sourceId sent recv = .ok ()) : recv.isSubvolume = true ∧
    recv.readonly = true ∧ uuidMatches sent.uuid recv.receivedUuid = true := by
  rw [verifyReceivedSnapshot] at h
  split_ifs at h with h1 h2 h3
  exact ⟨by simpa using h1, by simpa using h2, by simpa using h3⟩

/-- `RepositoryActionHandler::handle` for `VerifyReceivedAction`. -/
def verifyReceived (sourceId : SourceId) (localSnapshot receivedSnapshot : FsPath) :
    Handler Unit := do
  let sent ← requireSnapshotMetadata localRoot localSnapshot World.localSnapshots
    "Local snapshot metadata is missing"
  let received ← requireSnapshotMetadata config.targetRoot receivedSnapshot World.incoming
    "Received snapshot metadata is missing"
  lift (verifyReceivedSnapshot sourceId sent received)

/-- The error of a committed snapshot that is not the one sent. -/
def commitVerificationError : String :=
  "Committed snapshot Received UUID does not match the local snapshot UUID"

/-- `RecoveryRequiredError` of a commit whose clean-up failed. -/
def commitRecoveryRequired (finalPath : FsPath) (cleanupError : Thrown) : Thrown :=
  ⟨.recoveryRequired .repositoryRecoveryRequired,
    commitVerificationError ++ "; cleanup failed for " ++ finalPath.string ++ ": " ++
      cleanupError.what ++ "; repository requires recovery"⟩

def committedSnapshot (received : Subvolume) (answer : Answer) : Subvolume where
  location := location
  metadata := ⟨true, true, answer.uuid,
    answer.changedReceivedUuid.getD received.metadata.receivedUuid⟩
  madeFrom := received.madeFrom

/-- The world with a new remote snapshot. -/
def World.addRemote (v : Subvolume) : World :=
  { world with
    remoteSnapshots := world.remoteSnapshots.add v
    knownUuids := v.metadata.uuid.value :: v.metadata.receivedUuid.value :: world.knownUuids
    history := .remoteCreated v.metadata.uuid v.metadata.receivedUuid :: world.history }

/-- The world after an event. -/
def World.record (event : StoreEvent) (world : World) : World :=
  { world with history := event :: world.history }

/-- `commit_received_snapshot_beneath`. -/
def commitReceivedSnapshot (receivedPath finalPath : FsPath) (expected : SnapshotUuid) :
    Handler Unit := do
  let finalLocation ← lift (locate config.targetRoot finalPath)
  inspect .readMetadata
  .look fun world =>
    if (world.remoteSnapshots.find? finalLocation).isSome then
      .fail (validationError ("Destination snapshot already exists: " ++ finalPath.string))
    else do
      let receivedLocation ← lift (locate config.targetRoot receivedPath)
      .look fun world =>
        match world.incoming.find? receivedLocation with
        | none => .fail (validationError
            ("cannot open path below safe directory root " ++ receivedPath.string))
        | some received => do
          call .createSnapshot (fun answer world => world.isFresh answer.uuid) fun answer world =>
            world.addRemote (committedSnapshot finalLocation received answer)
          inspect .readMetadata
          .look fun world =>
            match world.remoteSnapshots.find? finalLocation with
            | none => checkFailed finalLocation
            | some committed =>
              if !uuidMatches expected committed.metadata.receivedUuid then
                checkFailed finalLocation
              else .note (World.record (.commitSucceeded committed.metadata.uuid)) (pure ())
where
  /-- The branch of a committed snapshot that is not the one sent. -/
  checkFailed (finalLocation : List String) : Handler Unit :=
    .note (World.record (.commitCheckFailed finalLocation)) do
      Prog.handleError (deleteRemoteSubvolume config .commitReceived finalPath) fun cleanupError =>
        .fail (commitRecoveryRequired finalPath cleanupError)
      .fail (validationError commitVerificationError)

/-- `RepositoryActionHandler::handle` for `CommitReceivedAction`. -/
def commitReceived (action : CommitReceivedAction) : Handler Unit := do
  let sent ← requireSnapshotMetadata localRoot action.localSnapshot World.localSnapshots
    "Local snapshot metadata is missing"
  commitReceivedSnapshot config action.receivedSnapshot action.finalSnapshot sent.uuid

/-- `RetentionActionHandler::apply` on the target. -/
def applyRemoteRetention (plan : RetentionPlan) : Handler Unit :=
  Prog.forEach (fun snapshot => deleteRemoteSubvolume config .applyRemoteRetention snapshot.path)
    plan.deleteSnapshots

/-- `RetentionActionHandler::apply` on the local file system. -/
def applyLocalRetention (plan : RetentionPlan) : Handler Unit :=
  Prog.forEach (fun snapshot => deleteLocalSubvolume snapshot.path) plan.deleteSnapshots

/-- `RepositoryActionHandler::handle` for `CleanupSourceAction`. -/
def cleanupSource (action : CleanupSourceAction) : Handler Unit := do
  removeTree config.targetRoot action.receivedSnapshot
  removeTree config.targetRoot action.incomingRunDirectory
  call .clearMarker (fun _ _ => true) fun _ => World.clearMarker

/-- `BackupRunActionHandler::handle` and `BackupActionExecutor::execute`. -/
def executeAction : BackupRunAction → Handler Unit
  | .recoverPending _ recovery => recoverPending config recovery
  | .cleanupIncoming _ directory => removeContents config.targetRoot directory
  | .runHook _ _ _ => inspect .runHook
  | .createSnapshot action => createSnapshot action
  | .sendReceive action => sendReceive config action
  | .verifyReceived sourceId localSnapshot receivedSnapshot =>
    verifyReceived config sourceId localSnapshot receivedSnapshot
  | .commitReceived action => commitReceived config action
  | .applyRemoteRetention _ plan => applyRemoteRetention config plan
  | .applyLocalRetention _ plan => applyLocalRetention plan
  | .cleanupSource action => cleanupSource config action

/-- The actions of a source, in order; the first one that throws ends the run. -/
def executeActions (actions : List BackupRunAction) : Handler Unit :=
  Prog.forEach (executeAction config) actions

/-! ### Runs -/

/-- A run: what it is given and how its environment answers. -/
structure Run extends RunParameters where
  answers : List Answer

/-- A run of the source.  A run that cannot be planned has no effects. -/
def execRun (run : Run) (world : World) : Outcome Thrown Unit × World :=
  match planRun config run.toRunParameters world with
  | .error e => (.failed e, world)
  | .ok plan => (executeActions config plan.actions).run run.answers world

end

/-! ### A sample source -/

namespace Sample

theorem identifierOk_laptop : identifierOk "laptop" = true := by decide

theorem identifierOk_home : identifierOk "home" = true := by decide

theorem runIdOk_run : runIdOk "run" = true := by decide

def directory (path : String) (h : (FsPath.ofString path).IsNormal) : AbsolutePath :=
  ⟨FsPath.ofString path, h⟩

def uuid : CanonicalUuid := ⟨"0f1e2d3c-4b5a-6978-8796-a5b4c3d2e1f0", by decide⟩

def target : ProfileTarget where
  device := ⟨directory "/dev/sdb1" (by decide), by decide⟩
  luksUuid := uuid
  btrfsUuid := uuid
  partitionUuid := none
  serial := ""
  mapperName := ⟨"backup", by decide⟩
  mountPoint := directory "/mnt/backup" (by decide)
  activation := .askPassword

def settings (keepFailedLocalSnapshot : Bool) : ProfileSettings where
  dailyLimit := false
  incrementalRequired := false
  keepFailedLocalSnapshot := keepFailedLocalSnapshot
  autoEject := false
  remoteRetention := ⟨0, by decide⟩
  localRetention := ⟨0, by decide⟩
  minimumTargetFreeBytes := ⟨0, by decide⟩
  minimumLocalFreeBytes := ⟨0, by decide⟩

/-- A source below `localSnapshotDir` that keeps `localRetention` snapshots there
and all snapshots on the target. -/
def source (localSnapshotDir : LocalSnapshotRoot) (localRetention : RetentionCount) :
    ProfileSource where
  id := ⟨"home", identifierOk_home⟩
  name := "Home"
  enabled := true
  subvolume := directory "/home" (by decide)
  localSnapshotDir := localSnapshotDir
  remoteSubdir := ⟨FsPath.ofString "home", by decide, by decide, by decide, by decide⟩
  remoteRetention := ⟨0, by decide⟩
  localRetention := localRetention

def configOf (source : ProfileSource) (keepFailedLocalSnapshot : Bool) : SourceConfig where
  profile :=
    { configurationGeneration := ""
      id := ⟨"laptop", identifierOk_laptop⟩
      name := "Laptop"
      enabled := true
      target := target
      paths :=
        ⟨directory "/mnt/backup/snapshots" (by decide),
          directory "/mnt/backup/incoming" (by decide)⟩
      settings := settings keepFailedLocalSnapshot
      hooks := ⟨[], []⟩
      sources := [source] }
  source := source
  profileStateDir := FsPath.ofString "/var/lib/btrfs-backup/laptop"

/-- A source that keeps one local snapshot. -/
def config : SourceConfig :=
  configOf (source (directory "/snapshots" (by decide)) ⟨1, by decide⟩) false

/-- A number of calls that succeed.  Subvolumes get numbered UUIDs; what is
received comes from the subvolume with the number `sent`. -/
def answers (name : String) (sent calls : Nat) : List Answer :=
  (List.range calls).map fun i =>
    { (default : Answer) with
      uuid := .ofString (name ++ toString i)
      receivedUuid := .ofString (name ++ toString sent) }

/-- A run at a time in seconds. -/
def run (seconds : Int) (answers : List Answer) : Run where
  runId := ⟨"run", runIdOk_run⟩
  timestamp := .wrap (seconds * 1000000000)
  answers := answers

end Sample

end BtrfsBackup
