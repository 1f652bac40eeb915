/-
The backend of the browse sessions (`daemon/control/SystemBrowseSessionBackend`,
`BrowseSessionMountStore`, `platform/linux/filesystem/FileLock`).

A session shows the repository of a target through a bind mount.  All sessions of a
target share a lease: the target's lock file, locked by the daemon, a count of users,
and the note whether the backend has mounted the target itself.  Every session has a
marker file, from which a later daemon can clean up what a session has left.  Backup
runs are other processes that take the same lock files.

* `BrowseSystem` — the backend's maps, the marker files and the locks;
* `FileLock` — the flags of a lock, beside the lock the system has;
* `acquireTarget`, `releaseTarget`, `openSession`, `closeSession`, `cleanupStale`;
* `browsePool` — a daemon that serves calls, and the runs.

What a call to the outside returns or throws is an answer.  The calls that fail and
the units that are stopped are kept in a log.
-/
import BtrfsBackup.Lib.AdvisoryLock
import BtrfsBackup.Lib.Interleaving
import BtrfsBackup.Lib.Keyed
import BtrfsBackup.ManagerErrors
import BtrfsBackup.Preflight

open Interaction Interaction.Prog AdvisoryLock

namespace BtrfsBackup

/-! ### Unit names (`config/ProfileRender`) -/

/-- `systemd_unit_plain_char`, of a byte. -/
def systemdUnitPlainChar (value : Nat) : Bool :=
  isAlnum (Char.ofNat value) || value == 0x3a || value == 0x5f || value == 0x2e

/-- `systemd_hex_escape`. -/
def systemdHexEscape (value : Nat) : List Char :=
  ['\\', 'x', Nat.digitChar (value / 16 % 16), Nat.digitChar (value % 16)]

/-- The loop of `target_mount_unit_name`: slashes become dashes, but not at the front. -/
def escapeUnitPath : List Char → Bool → List Nat → List Char
  | escaped, _, [] => escaped
  | escaped, previousSlash, value :: rest =>
      if value = 0x2f then
        escapeUnitPath (if escaped ≠ [] ∧ !previousSlash then escaped ++ ['-'] else escaped)
          true rest
      else
        escapeUnitPath
          (escaped ++ if systemdUnitPlainChar value then [Char.ofNat value]
            else systemdHexEscape value) false rest

/-- `target_mount_unit_name`. -/
def targetMountUnitName (mountPoint : FsPath) : String :=
  let bytes := mountPoint.lexicallyNormal.string.toUTF8.toList.map UInt8.toNat
  -- slashes at the end are removed, but the first byte stays
  let path := bytes.take 1 ++ ((bytes.drop 1).reverse.dropWhile (· = 0x2f)).reverse
  if path = [0x2f] then "-.mount"
  else
    let escaped := escapeUnitPath [] false (if path.head? = some 0x2f then path.tail else path)
    String.ofList (if escaped = [] then ['-'] else escaped) ++ ".mount"

namespace Browse

/-! ### Records -/

@[ext]
structure BrowseSessionId where
  value : String
  valid : identifierOk value = true

instance : DecidableEq BrowseSessionId := fun _ _ => decidable_of_iff _ BrowseSessionId.ext_iff.symm

structure BrowseSessionMountRecord where
  targetKey : String
  targetUnit : String
  directory : FsPath
  view : FsPath
  marker : FsPath
  callerUid : Nat
  viewMounted : Bool
  targetMountedByBackend : Bool
  targetReleased : Bool
  deriving DecidableEq

/-- A session of the backend (`SessionMount`). -/
structure Session where
  id : BrowseSessionId
  mount : BrowseSessionMountRecord
  deriving DecidableEq

/-- The flags of a `FileLock`. -/
structure FileLock where
  acquired : Bool
  shared : Bool
  deriving DecidableEq

structure TargetLease where
  profile : Profile
  lock : FileLock
  users : Nat
  mountedByBackend : Bool
  deriving DecidableEq

/-! ### The system -/

/-- Who opens lock files. -/
inductive LockOwner where
  | daemon
  | run (index : Nat)
  deriving DecidableEq

/-- The place in the backend a call comes from. -/
inductive Site where
  /-- `open` and `acquire_target`. -/
  | opening
  /-- The release in `open` for a session that exists. -/
  | duplicate
  /-- The `close` of an `open` that has failed. -/
  | rollback
  | closing
  /-- `cleanup_stale`. -/
  | stale
  /-- A backup run; it is not part of the backend. -/
  | running
  deriving DecidableEq

/-- The calls to the outside. -/
inductive Action where
  | prepareRoot
  | getProfile (profileId : ProfileId)
  | openLockFile (key : String)
  | lock (key : String) (mode : Mode)
  | inspectMounts
  | startUnit (unit : String)
  | stopUnit (key unit : String)
  | validateMount
  | makeRecord (key : String)
  | checkDirectory (id : BrowseSessionId)
  | prepareDirectory (id : BrowseSessionId)
  | writeMarker (id : BrowseSessionId) (record : BrowseSessionMountRecord)
  | mountView (id : BrowseSessionId)
  | verifyView (id : BrowseSessionId)
  | unmountView (id : BrowseSessionId)
  | removeDirectory (id : BrowseSessionId)
  | removeMarker (id : BrowseSessionId)
  | listMarkers
  | readMarker (id : BrowseSessionId)
  deriving DecidableEq

/-- A call and its place. -/
structure BrowseCall where
  site : Site
  action : Action
  deriving DecidableEq

/-- What a call returns or throws. -/
structure BrowseAnswer where
  error : Option ManagerFailure
  /-- Has a write that throws replaced the file? -/
  took : Bool
  /-- The result of a unit, or of a question. -/
  ok : Bool
  profile : Profile
  mounts : List MountEntry
  /-- `std::filesystem::weakly_canonical` at the time of the call. -/
  weaklyCanonical : FsPath → Option FsPath
  ids : List BrowseSessionId

/-- A unit that is stopped, with what is so then. -/
structure Stop where
  site : Site
  key : String
  unit : String
  /-- The daemon's lock of the target. -/
  mode : Option Mode
  /-- The other sessions that use the target. -/
  others : List BrowseSessionId
  deriving DecidableEq

/-- What the daemon has. -/
structure Backend where
  targets : String → Option TargetLease
  sessions : Keyed.Store Session.id
  markers : BrowseSessionId → Option BrowseSessionMountRecord
  /-- The lock file in the middle of a conversion. -/
  converting : Option String
  /-- The calls that have failed, the newest first. -/
  failures : List BrowseCall
  stops : List Stop

/-- The daemon and the lock files. -/
structure BrowseSystem where
  backend : Backend
  locks : String → LockFile LockOwner

/-- The backend's programs. -/
abbrev BrowseProg (α : Type) := Prog BrowseCall BrowseAnswer BrowseSystem ManagerFailure α

namespace Backend

/-- Add, change or remove the lease of a target. -/
def setTarget (key : String) (lease : Option TargetLease) (backend : Backend) : Backend :=
  { backend with targets := Function.update backend.targets key lease }

def addSession (session : Session) (backend : Backend) : Backend :=
  { backend with sessions := backend.sessions.add session }

def removeSession (id : BrowseSessionId) (backend : Backend) : Backend :=
  { backend with sessions := backend.sessions.remove id }

/-- Change the record of a session. -/
def setMount (id : BrowseSessionId) (mount : BrowseSessionMountRecord) (backend : Backend) :
    Backend :=
  { backend with sessions := (backend.sessions.remove id).add ⟨id, mount⟩ }

/-- Write or remove a marker file. -/
def setMarker (id : BrowseSessionId) (record : Option BrowseSessionMountRecord)
    (backend : Backend) : Backend :=
  { backend with markers := Function.update backend.markers id record }

/-- Log a call of the backend that has failed. -/
def fail (call : BrowseCall) (backend : Backend) : Backend :=
  if call.site = .running then backend else { backend with failures := call :: backend.failures }

/-- Does the session use the target? -/
def uses (key : String) (session : Session) : Bool :=
  decide (session.mount.targetKey = key) && !session.mount.targetReleased

/-- The sessions that use a target. -/
def usersOf (backend : Backend) (key : String) : List BrowseSessionId :=
  (backend.sessions.items.filter (uses key)).map Session.id

end Backend

namespace BrowseSystem

/-- Change what the daemon has. -/
def onBackend (change : Backend → Backend) (system : BrowseSystem) : BrowseSystem :=
  { system with backend := change system.backend }

/-- Change a lock file. -/
def setLock (key : String) (file : LockFile LockOwner) (system : BrowseSystem) : BrowseSystem :=
  { system with locks := Function.update system.locks key file }

def mode? (system : BrowseSystem) (key : String) : Option Mode := (system.locks key).mode? .daemon

/-- `flock` with `LOCK_UN`, and closing the file. -/
def unlock (who : LockOwner) (key : String) (system : BrowseSystem) : BrowseSystem :=
  system.setLock key ((system.locks key).unlock who)

/-- Log a unit that is stopped for the session `closing`, if there is one. -/
def stop (site : Site) (key unit : String) (closing : Option BrowseSessionId)
    (system : BrowseSystem) : BrowseSystem :=
  system.onBackend fun backend =>
    { backend with
      stops := ⟨site, key, unit, system.mode? key,
        (backend.usersOf key).filter fun id => some id ≠ closing⟩ :: backend.stops }

end BrowseSystem

variable (site : Site) (who : LockOwner) (action : Action) (key : String) (sessionRoot : FsPath)
  (id : BrowseSessionId) (mount : BrowseSessionMountRecord)

/-! ### Calls -/

/-- `target_error` and `store_error`. -/
def targetError (message : String) : ManagerFailure := .operation .targetUnavailable message

/-- A call: what it returns, or throws, and what it changes. -/
def perform (site : Site) (action : Action)
    (value : BrowseAnswer → BrowseSystem → Except ManagerFailure α)
    (success failure : BrowseAnswer → BrowseSystem → BrowseSystem) : BrowseProg α :=
  .effect ⟨site, action⟩
    (fun answer system =>
      match value answer system with
      | .ok _ => success answer system
      | .error _ => (failure answer system).onBackend (Backend.fail ⟨site, action⟩))
    fun answer system =>
      match value answer system with
      | .ok a => .ret a
      | .error e => .fail e

/-- A call that changes nothing here. -/
def ask (site : Site) (action : Action) (value : BrowseAnswer → α) : BrowseProg α :=
  perform site action
    (fun answer _ =>
      match answer.error with
      | some e => .error e
      | none => .ok (value answer))
    (fun _ system => system) fun _ system => system

/-- An exception, or nothing. -/
def exceptionOnly (answer : BrowseAnswer) : Except ManagerFailure Unit :=
  match answer.error with
  | some e => .error e
  | none => .ok ()

/-- The result of a unit: an exception, or a failure with its message. -/
def unitResult (message : String) (answer : BrowseAnswer) : Except ManagerFailure Unit :=
  match answer.error with
  | some e => .error e
  | none => if answer.ok then .ok () else .error (targetError message)

/-- Start a unit, or ask for something that can be refused. -/
def runUnit (message : String) : BrowseProg Unit :=
  perform site action (fun answer _ => unitResult message answer) (fun _ system => system)
    fun _ system => system

/-- `if (!condition) throw`. -/
def ensure (condition : Bool) (e : ManagerFailure) : BrowseProg Unit :=
  if condition then .ret () else .fail e

/-! ### `FileLock` -/

/-- Remove a lock to establish another one. -/
def convert (system : BrowseSystem) : BrowseSystem :=
  (system.unlock who key).onBackend fun backend =>
    { backend with converting := if who = .daemon then some key else backend.converting }

/-- The end of a conversion. -/
def converted (mode : Mode) (established : Option (LockFile LockOwner)) (system : BrowseSystem) :
    BrowseSystem :=
  let after := match established with
    | some file => system.setLock key file
    | none => system.onBackend (Backend.fail ⟨site, .lock key mode⟩)
  after.onBackend fun backend =>
    { backend with converting := if who = .daemon then none else backend.converting }

/-- `flock` without waiting, for a file that is open: a lock that is held is removed
first. -/
def flock (mode : Mode) : BrowseProg Bool :=
  .note (convert who key) <|
    .effect ⟨site, .lock key mode⟩
      (fun answer system => converted site who key mode
        (if answer.error = none then (system.locks key).establish? who mode else none) system)
      fun answer system =>
        match answer.error with
        | some e => .fail e
        | none => .ret ((system.locks key).establish? who mode).isSome

/-- `FileLock::try_acquire`, of a lock that is not acquired. -/
def tryAcquire : BrowseProg Bool := do
  ask site (.openLockFile key) fun _ => ()
  flock site who key .exclusive

/-- `FileLock::try_upgrade_to_exclusive`, of the lock of a lease. -/
def tryUpgradeToExclusive (lease : TargetLease) : BrowseProg Bool :=
  if lease.lock.acquired && !lease.lock.shared then .ret true
  else do
    let granted ← (if lease.lock.acquired then flock site .daemon key .exclusive
      else tryAcquire site .daemon key)
    .note (fun system => if granted then system.onBackend (Backend.setTarget key
      (some { lease with lock := ⟨true, false⟩ })) else system) (.ret granted)

/-- `FileLock::downgrade_to_shared`, of a lock that is acquired and exclusive.  The
call waits; one that is not granted is one that was interrupted. -/
def downgradeToShared : BrowseProg Unit := do
  let granted ← flock .opening .daemon key .shared
  ensure granted (.exception (validationError "cannot downgrade lock file"))

/-! ### Targets -/

/-- Stop the mount unit of a target; what is made of the result differs. -/
def stopUnit (unit : String) (closing : Option BrowseSessionId)
    (result : BrowseAnswer → Except ManagerFailure Unit) : BrowseProg Unit :=
  perform site (.stopUnit key unit) (fun answer _ => result answer)
    (fun _ system => system.stop site key unit closing)
    fun _ system => system.stop site key unit closing

/-- The part of `acquire_target` after the lock is taken. -/
def takeTarget (profile : Profile) : BrowseProg TargetLease := do
  let key := profile.target.luksUuid.value
  let mountPoint := profile.target.mountPoint.value
  let unit := targetMountUnitName mountPoint
  let table ← ask .opening .inspectMounts BrowseAnswer.mounts
  let mountedByBackend := (mountAt table mountPoint).isNone
  let table ← (if mountedByBackend then do
      runUnit .opening (.startUnit unit) "cannot mount backup target for browsing"
      ask .opening .inspectMounts BrowseAnswer.mounts
    else .ret table)
  (perform .opening .validateMount
    (fun answer _ =>
      match answer.error with
      | some e => .error e
      | none =>
        match validateBackupTargetMount answer.weaklyCanonical profile table .read with
        | .ok _ => .ok ()
        | .error e => .error (.exception e))
    (fun _ system => system) (fun _ system => system)).handleError fun e => do
      -- the result of the unit is not looked at
      (if mountedByBackend then stopUnit .opening key unit none exceptionOnly else .ret ())
      .fail e
  downgradeToShared key
  let lease : TargetLease := ⟨profile, ⟨true, true⟩, 1, mountedByBackend⟩
  .note (fun system => system.onBackend (Backend.setTarget key (some lease))) (.ret lease)

/-- `acquire_target`.  A lease that is not entered is destroyed, with its lock. -/
def acquireTarget (profile : Profile) : BrowseProg TargetLease :=
  let key := profile.target.luksUuid.value
  .look fun system =>
    match system.backend.targets key with
    | some lease =>
      let lease := { lease with users := lease.users + 1 }
      .note (fun system => system.onBackend (Backend.setTarget key (some lease))) (.ret lease)
    | none => do
      let acquired ← tryAcquire .opening .daemon key
      ensure acquired (.operation .busy "backup target is in use")
      (takeTarget profile).handleError fun e => .note (BrowseSystem.unlock .daemon key) (.fail e)

/-- `release_target`, for the session `closing`, if there is one. -/
def releaseTarget (closing : Option BrowseSessionId) : BrowseProg Unit :=
  .look fun system =>
    match system.backend.targets key with
    | none => .ret ()
    | some lease =>
      if lease.users > 1 then
        .note (fun system => system.onBackend
          (Backend.setTarget key (some { lease with users := lease.users - 1 }))) (.ret ())
      else do
        (if lease.mountedByBackend then do
          let exclusive ← tryUpgradeToExclusive site key lease
          ensure exclusive (targetError "cannot acquire exclusive target lock for cleanup")
          stopUnit site key (targetMountUnitName lease.profile.target.mountPoint.value) closing
            (unitResult "cannot unmount backup target after browsing")
        else .ret ())
        -- the lease is taken out and destroyed
        .note (fun system => system.onBackend (Backend.setTarget key none)) <|
          .note (BrowseSystem.unlock .daemon key) (.ret ())

/-! ### The marker files (`BrowseSessionMountStore`) -/

/-- `make_record`. -/
def makeRecord (callerUid : Nat) (targetKey targetUnit : String) (targetMountedByBackend : Bool) :
    BrowseProg BrowseSessionMountRecord :=
  let directory := sessionRoot / toString callerUid / id.value
  ask .opening (.makeRecord targetKey) fun _ =>
    { targetKey, targetUnit, directory
      view := directory / "repository"
      marker := sessionRoot / ".state" / (id.value ++ ".json")
      callerUid
      viewMounted := false
      targetMountedByBackend
      targetReleased := false }

/-- `write`. -/
def writeMarker (record : BrowseSessionMountRecord) : BrowseProg Unit :=
  perform site (.writeMarker id record) (fun answer _ => exceptionOnly answer)
    (fun _ system => system.onBackend (Backend.setMarker id (some record)))
    fun answer system =>
      if answer.took then system.onBackend (Backend.setMarker id (some record)) else system

/-- `remove_session_directory`. -/
def removeSessionDirectory : BrowseProg Unit :=
  runUnit site (.removeDirectory id) "cannot remove browse session directory"

/-- `remove_marker`: a marker that is not there is an error. -/
def removeMarker : BrowseProg Unit :=
  perform site (.removeMarker id)
    (fun answer system =>
      if answer.error = none ∧ (system.backend.markers id).isSome then .ok ()
      else .error (targetError "cannot remove browse session cleanup marker"))
    (fun _ system => system.onBackend (Backend.setMarker id none)) fun _ system => system

/-- What `read` accepts of a marker. -/
def readable (record : BrowseSessionMountRecord) : Bool :=
  decide (record.directory = sessionRoot / toString record.callerUid / id.value ∧
    record.view = record.directory / "repository")

/-- `read`: anything that is wrong is no record. -/
def readMarker : BrowseProg (Option BrowseSessionMountRecord) :=
  .effect ⟨.stale, .readMarker id⟩ (fun _ system => system) fun answer system =>
    .ret (if answer.error = none ∧ answer.ok then
      (system.backend.markers id).filter (readable sessionRoot id) else none)

/-- The loop of `stale_records`. -/
def readMarkers (sessionRoot : FsPath) (live : List BrowseSessionId) :
    List BrowseSessionId → BrowseProg (List (BrowseSessionId × BrowseSessionMountRecord))
  | [] => .ret []
  | id :: ids => do
      let record ← (if live.contains id then .ret none else readMarker sessionRoot id)
      let records ← readMarkers sessionRoot live ids
      .ret ((record.map fun record => (id, record)).toList ++ records)

/-! ### Sessions -/

def unmount (site : Site) (id : BrowseSessionId) (target : FsPath) : BrowseProg Unit := do
  let table ← ask site .inspectMounts BrowseAnswer.mounts
  (if (mountAt table target).isNone then .ret ()
  else runUnit site (.unmountView id) "cannot unmount browse session")

/-- `mount_read_only`. -/
def mountReadOnly (target : FsPath) : BrowseProg Unit := do
  runUnit .opening (.mountView id) "cannot create read-only browse bind mount"
  let verified ← ask .opening (.verifyView id) BrowseAnswer.ok
  (if verified then .ret ()
  else do
    let _ ← (unmount .opening id target).attempt
    .fail (targetError "browse bind mount failed read-only verification"))

/-- Change the record of a session that is open; the record of a stale session is a
copy. -/
def keepMount (live : Bool) (id : BrowseSessionId) (mount : BrowseSessionMountRecord) :
    BrowseProg Unit :=
  if live then .note (fun system => system.onBackend (Backend.setMount id mount)) (.ret ())
  else .ret ()

/-- The target of a stale record. -/
def releaseStaleTarget : BrowseProg Unit :=
  if mount.targetMountedByBackend then
    .look fun system => do
      ensure (system.backend.targets mount.targetKey).isNone
        (targetError "stale target cleanup is deferred while the target is in use")
      stopUnit .stale mount.targetKey mount.targetUnit (some id)
        (unitResult "cannot unmount backup target after stale browse session")
  else .ret ()

/-- The first part of `cleanup_record`: the view. -/
def cleanupView (live : Bool) : BrowseProg BrowseSessionMountRecord :=
  if mount.viewMounted then do
    unmount site id mount.view
    let mount := { mount with viewMounted := false }
    keepMount live id mount
    writeMarker site id mount
    .ret mount
  else .ret mount

/-- The second part of `cleanup_record`: the target. -/
def cleanupTarget (live : Bool) : BrowseProg Unit :=
  if mount.targetReleased then .ret ()
  else do
    (if live then releaseTarget site mount.targetKey (some id) else releaseStaleTarget id mount)
    let mount := { mount with targetReleased := true }
    keepMount live id mount
    writeMarker site id mount

/-- `cleanup_record`. -/
def cleanupRecord (live : Bool) : BrowseProg Unit := do
  let mount ← cleanupView site id mount live
  removeSessionDirectory site id
  cleanupTarget site id mount live
  removeMarker site id

/-- `close`. -/
def closeSession : BrowseProg Unit :=
  .look fun system =>
    match system.backend.sessions.find? id with
    | none => .ret ()
    | some session => do
      cleanupRecord site id session.mount true
      .note (fun system => system.onBackend (Backend.removeSession id)) (.ret ())

/-- The part of `open` once the session is entered. -/
def establish : BrowseProg Unit := do
  let taken ← ask .opening (.checkDirectory id) BrowseAnswer.ok
  ensure (!taken) (targetError "browse session directory already exists")
  runUnit .opening (.prepareDirectory id) "cannot secure browse session directory"
  writeMarker .opening id mount
  let mount := { mount with viewMounted := true }
  keepMount true id mount
  writeMarker .opening id mount
  mountReadOnly id mount.view

/-- `open`. -/
def openSession (profileId : ProfileId) (id : BrowseSessionId) (callerUid : Nat) :
    BrowseProg Unit := do
  ask .opening .prepareRoot fun _ => ()
  let profile ← ask .opening (.getProfile profileId) BrowseAnswer.profile
  let target ← acquireTarget profile
  let key := profile.target.luksUuid.value
  let mount ← makeRecord sessionRoot id callerUid key
    (targetMountUnitName profile.target.mountPoint.value) target.mountedByBackend
  .look fun system =>
    if (system.backend.sessions.find? id).isSome then do
      releaseTarget .duplicate key none
      .fail (targetError "browse session already exists")
    else
      .note (fun system => system.onBackend (Backend.addSession ⟨id, mount⟩)) <|
        (establish id mount).handleError fun e => do
          let _ ← (closeSession .rollback id).attempt
          .fail e

/-! ### Stale records -/

/-- The first loop of `cleanup_stale`, for one record. -/
def unmountStale : BrowseProg BrowseSessionMountRecord :=
  if mount.viewMounted then do
    let unmounted ← (unmount .stale id mount.view).attempt
    (match unmounted with
    | .error _ => .ret mount
    | .ok () => do
      let mount := { mount with viewMounted := false }
      let _ ← (writeMarker .stale id mount).attempt
      .ret mount)
  else .ret mount

/-- The first loop of `cleanup_stale`. -/
def unmountAllStale : List (BrowseSessionId × BrowseSessionMountRecord) →
    BrowseProg (List (BrowseSessionId × BrowseSessionMountRecord))
  | [] => .ret []
  | (id, mount) :: records => do
      let mount ← unmountStale id mount
      let records ← unmountAllStale records
      .ret ((id, mount) :: records)

/-- `cleanup_stale`. -/
def cleanupStale : BrowseProg Unit :=
  .look fun system => do
    let ids ← ask .stale .listMarkers BrowseAnswer.ids
    let records ← readMarkers sessionRoot (system.backend.sessions.items.map Session.id) ids
    let records ← unmountAllStale records
    -- targets with views that are still mounted
    let busy := (records.filter fun record => record.2.viewMounted).map fun record =>
      record.2.targetKey
    forEach (fun record => do
      let _ ← (cleanupRecord .stale record.1 record.2 false).attempt
      .ret ()) (records.filter fun record =>
        !record.2.viewMounted && !busy.contains record.2.targetKey)

/-! ### The daemon and the runs -/

/-- The calls of the service. -/
inductive Request where
  | openSession (profileId : ProfileId) (id : BrowseSessionId) (callerUid : Nat)
  | closeSession (id : BrowseSessionId)
  | cleanupStale

/-- Serve a call. -/
def Request.serve : Request → BrowseProg Unit
  | .openSession profileId id callerUid => Browse.openSession sessionRoot profileId id callerUid
  | .closeSession id => Browse.closeSession .closing id
  | .cleanupStale => Browse.cleanupStale sessionRoot

/-- Serve calls, one after the other; exceptions go to the caller. -/
def serveAll (requests : List Request) : BrowseProg Unit :=
  forEach (fun request => do
    let _ ← (request.serve sessionRoot).attempt
    .ret ()) requests

/-- A backup run that tries to take the locks of targets, one after the other
(`FileBackupRunLeaseProvider::try_acquire`), and gives each one back. -/
def runLeases (index : Nat) (keys : List String) : BrowseProg Unit :=
  forEach (fun key => do
    let acquired ← (tryAcquire .running (.run index) key).attempt
    (match acquired with
    | .ok true => .note (BrowseSystem.unlock (.run index) key) (.ret ())
    | _ => .ret ())) keys

/-- The daemon and the runs. -/
def browsePool (requests : List Request) (leases : Nat → List String) (system : BrowseSystem) :
    Pool LockOwner BrowseCall BrowseAnswer BrowseSystem ManagerFailure Unit where
  state := system
  thread
    | .daemon => serveAll sessionRoot requests
    | .run index => runLeases index (leases index)

end Browse

end BtrfsBackup
