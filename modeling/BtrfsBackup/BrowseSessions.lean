/-
The browse sessions of the manager (`daemon/control/BrowseSessionService`).

A caller opens a session of a profile, works in it and closes it.  A session has a
deadline, which every operation moves; a last deadline, which is fixed when it is opened;
and the leases of the operations that are going on, each with its own deadline.  `expire`
closes the sessions whose time is over.

* `Session` — a session, with the time it was opened and whether a close was attempted;
* `openSession`, `renew`, `beginOperation`, `endOperation`, `close`, the operations that
  read, `closeForCaller`, `beginTargetEject`, `endTargetEject`, `expire`;
* `Use` — an operation on a session, as the service sees the session when it begins.

The clock, the authorizer, the backend and the generators of identifiers are calls; the
clock never runs backwards.  The operations that the service has let through, and those
that have returned, are kept in two logs.
-/
import BtrfsBackup.BrowseBackend

open Interaction Interaction.Prog

namespace BtrfsBackup.BrowseService

open Browse (BrowseSessionId)

/-! ### Data -/

/-- The parameters of the service that its constructor accepts; times in nanoseconds. -/
structure Settings where
  lifetime : Int
  globalLimit : Nat
  perCallerLimit : Nat
  operationLeaseLimit : Nat
  maximumLifetime : Int
  operationLeaseLifetime : Int
  lifetimesValid : 0 < lifetime ∧ lifetime ≤ maximumLifetime ∧ 0 < operationLeaseLifetime
  limitsValid : 0 < globalLimit ∧ 0 < perCallerLimit ∧ perCallerLimit ≤ globalLimit ∧
    0 < operationLeaseLimit

structure BrowseAccessIdentity where
  uid : Nat
  groups : List Nat
  deriving DecidableEq

structure BrowseEntryInfo where
  name : String
  directory : Bool
  size : Nat
  mode : Nat
  modifiedAt : Int
  deriving DecidableEq

structure BrowseDirectoryPage where
  entries : List BrowseEntryInfo
  continuationToken : String
  deriving DecidableEq

structure PreviousVersionInfo where
  snapshotId : String
  createdAt : String
  entry : BrowseEntryInfo
  deriving DecidableEq

structure PreviousVersionsPage where
  entries : List PreviousVersionInfo
  nextOffset : Nat
  hasMore : Bool
  continuationToken : String
  deriving DecidableEq

structure BrowseSessionInfo where
  sessionId : String
  profileId : String
  expiresAt : String
  readOnly : Bool
  deriving DecidableEq

/-- `BrowseSessionCloseReason`. -/
inductive CloseReason where
  | requested
  | targetEject
  | callerDisconnected
  | expired
  | shutdown
  deriving DecidableEq

structure BrowseSessionEvent where
  callerUid : Nat
  profileId : String
  sessionId : String
  reason : CloseReason
  succeeded : Bool
  deriving DecidableEq

/-- `BrowseContinuationTokenCodec`. -/
structure TokenCodec where
  directoryCursor : BrowseSessionId → String → String → Except ManagerFailure String
  directoryToken : BrowseSessionId → String → String → Except ManagerFailure String
  previousVersionsOffset :
    BrowseSessionId → String → String → String → String → Except ManagerFailure Nat
  previousVersionsToken :
    BrowseSessionId → String → String → String → Nat → Except ManagerFailure String

/-- `std::chrono::steady_clock::time_point::min()`. -/
def timeMin : Int := -2 ^ 63

/-- `maximum_browse_page_entries`. -/
def maximumBrowsePageEntries : Nat := 512

/-- `browse_reopen_delay`. -/
def browseReopenDelay : Int := 2 * 10 ^ 9

/-- An operation lease: its identifier and its deadline. -/
abbrev Lease := String × Int

structure Session where
  id : BrowseSessionId
  profileId : ProfileId
  callerBusName : String
  callerUid : Nat
  deadline : Int
  absoluteDeadline : Int
  expiresAt : Int
  absoluteExpiresAt : Int
  operationLeases : Keyed.Store (Prod.fst : Lease → String)
  /-- When the session was opened; the service does not keep it. -/
  openedAt : Int
  /-- Was a close of the session attempted? -/
  closeAttempted : Bool

namespace Session

/-- `prune_expired_leases`. -/
def pruneExpiredLeases (now : Int) (session : Session) : Session :=
  { session with operationLeases := session.operationLeases.filter fun lease => now < lease.2 }

/-- The change of `extend`. -/
def extendTo (settings : Settings) (steady wall : Int) (session : Session) : Session :=
  { session with
    deadline := min (steady + settings.lifetime) session.absoluteDeadline
    expiresAt := min (wall + settings.lifetime) session.absoluteExpiresAt }

/-- What `close_session` and `close_noexcept` do first. -/
def beginClose (session : Session) : Session :=
  { session with
    operationLeases := .empty
    deadline := timeMin
    closeAttempted := true }

/-- `iso8601`, of the time the session expires. -/
def expiresAtText (session : Session) : String := formatUtc (.wrap session.expiresAt) false

/-- `session_info`. -/
def info (session : Session) : BrowseSessionInfo where
  sessionId := session.id.value
  profileId := session.profileId.value
  expiresAt := session.expiresAtText
  readOnly := true

/-- The condition under which `expire` keeps a session. -/
def keepsAt (now : Int) (session : Session) : Prop :=
  now < session.absoluteDeadline ∧
    ((session.pruneExpiredLeases now).operationLeases.items ≠ [] ∨ now < session.deadline)

instance (now : Int) (session : Session) : Decidable (session.keepsAt now) :=
  inferInstanceAs (Decidable (_ ∧ _))

end Session

/-- An operation on a session: who asks, the session when the operation begins, and the
time it reads first. -/
structure Use where
  caller : String
  session : Session
  time : Int

/-! ### The system -/

/-- The calls to the outside. -/
inductive ServiceCall where
  | authorize (caller : String)
  | callerIsActive (caller : String)
  | steadyClock
  | wallClock
  | sessionId
  | operationLeaseId
  | cleanupStale
  | openBackend (profile : ProfileId) (id : BrowseSessionId) (identity : BrowseAccessIdentity)
  | closeBackend (id : BrowseSessionId)
  | listDirectory (id : BrowseSessionId) (path : String) (maximumEntries : Nat)
  | listDirectoryPage (id : BrowseSessionId) (path afterName : String) (maximumEntries : Nat)
  | listPreviousVersions (id : BrowseSessionId) (profileId sourceId path : String)
      (offset maximumEntries : Nat)
  | inspectEntry (id : BrowseSessionId) (path : String)
  | openFile (id : BrowseSessionId) (path : String)
  | openEntry (id : BrowseSessionId) (path : String)
  | inspectRepository (id : BrowseSessionId)
  | event (event : BrowseSessionEvent)
  deriving DecidableEq

/-- What a call returns or throws. -/
structure ServiceAnswer where
  error : Option ManagerFailure
  allowed : Bool
  /-- How far the steady clock has gone on. -/
  elapsed : Nat
  wall : Int
  sessionId : BrowseSessionId
  leaseId : String
  entries : List BrowseEntryInfo
  page : BrowseDirectoryPage
  versions : PreviousVersionsPage
  entry : BrowseEntryInfo
  descriptor : Nat
  document : String

/-- The service, and the clock. -/
structure ServiceState where
  sessions : Keyed.Store Session.id
  ejectingProfiles : List ProfileId
  browseReopenAfter : ProfileId → Option Int
  clock : Int
  /-- The operations that have moved the deadline of their session. -/
  accepted : List Use
  /-- The operations that have returned. -/
  succeeded : List Use

namespace ServiceState

/-- The service when it starts. -/
def initial (clock : Int) : ServiceState := ⟨.empty, [], fun _ => none, clock, [], []⟩

/-- The session of an identifier. -/
def session? (state : ServiceState) (id : BrowseSessionId) : Option Session :=
  state.sessions.find? id

/-- Replace a session. -/
def setSession (session : Session) (state : ServiceState) : ServiceState :=
  { state with sessions := (state.sessions.remove session.id).add session }

def erase (id : BrowseSessionId) (state : ServiceState) : ServiceState :=
  { state with sessions := state.sessions.remove id }

/-- The number of sessions of a caller. -/
def callerSessions (state : ServiceState) (caller : String) : Nat :=
  state.sessions.items.countP fun session => session.callerBusName = caller

/-- The identifiers of the sessions, in the order of the map. -/
def ids (state : ServiceState) : List BrowseSessionId :=
  (state.sessions.items.map Session.id).insertionSort fun a b => a.value ≤ b.value

end ServiceState

abbrev ServiceProg (α : Type) := Prog ServiceCall ServiceAnswer ServiceState ManagerFailure α

/-- A call that can throw and changes nothing here. -/
def ask (call : ServiceCall) (value : ServiceAnswer → α) : ServiceProg α :=
  .effect call (fun _ state => state) fun answer _ =>
    match answer.error with
    | some e => .fail e
    | none => .ret (value answer)

/-- `steady_clock_()`. -/
def steadyClock : ServiceProg Int :=
  .effect .steadyClock
    (fun answer state => { state with clock := state.clock + answer.elapsed })
    fun answer state => .ret (state.clock + answer.elapsed)

/-- `wall_clock_()`. -/
def wallClock : ServiceProg Int :=
  .effect .wallClock (fun _ state => state) fun answer _ => .ret answer.wall

/-- `if (!condition) throw`. -/
def ensure (condition : Bool) (e : ManagerFailure) : ServiceProg Unit :=
  if condition then .ret () else .fail e

/-- A computation that can throw. -/
def lift : Except ManagerFailure α → ServiceProg α
  | .ok a => .ret a
  | .error e => .fail e

/-- A constructor that can throw. -/
def construct : Except Thrown α → ServiceProg α
  | .ok a => .ret a
  | .error e => .fail (.exception e)

def update (change : ServiceState → ServiceState) : ServiceProg Unit := .note change (.ret ())

/-! ### Sessions -/

section service

variable (settings : Settings) (tokens : TokenCodec) (caller sessionId relativePath : String)
  (session : Session) (reason : CloseReason) (profileId : ProfileId)

/-- The constructor of `BrowseSessionId`. -/
def sessionIdOfString (value : String) : Except Thrown BrowseSessionId :=
  (validateIdentifier value "browseSessionId").map fun ⟨h⟩ => ⟨value, h⟩

/-- `extend`; the reading of the steady clock is returned too. -/
def extend : ServiceProg (Session × Int) := do
  let steady ← steadyClock
  let wall ← wallClock
  pure (session.extendTo settings steady wall, steady)

/-- The wait of `open` after an eject of the target. -/
def awaitReopen (profile : ProfileId) : ServiceProg Unit := .look fun state =>
  match state.browseReopenAfter profile with
  | none => pure ()
  | some delayed => do
      let now ← steadyClock
      ensure (delayed ≤ now) (.operation .busy "backup browsing is settling after target eject")
      update fun state =>
        { state with browseReopenAfter := Function.update state.browseReopenAfter profile none }

/-- The session that `open` makes. -/
def newSession (id : BrowseSessionId) (profile : ProfileId) (caller : String) (uid : Nat)
    (openedAt openedWall : Int) : Session where
  id := id
  profileId := profile
  callerBusName := caller
  callerUid := uid
  deadline := 0
  absoluteDeadline := openedAt + settings.maximumLifetime
  expiresAt := 0
  absoluteExpiresAt := openedWall + settings.maximumLifetime
  operationLeases := .empty
  openedAt := openedAt
  closeAttempted := false

/-- `open`. -/
def openSession (identity : BrowseAccessIdentity) (profileId : String) :
    ServiceProg BrowseSessionInfo := do
  let profile ← construct (ProfileId.ofString profileId)
  ensure (caller ≠ "") (.operation .notAuthorized "browse session is not authorized")
  let authorized ← ask (.authorize caller) (·.allowed)
  ensure authorized (.operation .notAuthorized "browse session is not authorized")
  let active ← ask (.callerIsActive caller) (·.allowed)
  ensure active (.operation .notAuthorized "browse session is not authorized")
  .look fun state => do
    ensure (profile ∉ state.ejectingProfiles) (.operation .busy "backup target is being ejected")
    awaitReopen profile
    ensure (state.sessions.items.length < settings.globalLimit)
      (.operation .busy "browse session limit reached")
    ensure (state.callerSessions caller < settings.perCallerLimit)
      (.operation .busy "caller browse session limit reached")
    let id ← ask .sessionId (·.sessionId)
    ensure (state.session? id).isNone (.operation .conflict "browse session identifier collision")
    ask (.openBackend profile id identity) fun _ => ()
    let openedAt ← steadyClock
    let openedWall ← wallClock
    let (session, _) ← extend settings
      (newSession settings id profile caller identity.uid openedAt openedWall)
    update fun state => { state with sessions := state.sessions.add session }
    pure session.info

/-- `owned_session`. -/
def ownedSession : ServiceProg Session := do
  let id ← construct (sessionIdOfString sessionId)
  .look fun state =>
    match state.session? id with
    | none => .fail (.operation .notFound "browse session was not found")
    | some session =>
        if session.callerBusName ≠ caller then
          .fail (.operation .notAuthorized "browse session belongs to another caller")
        else .ret session

/-- `extend`, for a session of the map.  Here an operation is let through: it has begun
with the session `before`, and has read the clock already if there is a `time`. -/
def extendSession (before session : Session) (time : Option Int) : ServiceProg (Use × Session) := do
  let (extended, steady) ← extend settings session
  let use : Use := ⟨caller, before, time.getD steady⟩
  update fun state => { state.setSession extended with accepted := use :: state.accepted }
  pure (use, extended)

/-- An operation returns. -/
def succeed (use : Use) : ServiceProg Unit :=
  update fun state => { state with succeeded := use :: state.succeeded }

def renew : ServiceProg BrowseSessionInfo := do
  let session ← ownedSession caller sessionId
  let now ← steadyClock
  let pruned := session.pruneExpiredLeases now
  update (·.setSession pruned)
  let (use, extended) ← extendSession settings caller session pruned (some now)
  succeed use
  pure extended.info

/-- Is a text accepted as the identifier of a lease? -/
def leaseIdOk (leaseId : String) : Bool := leaseId ≠ "" && leaseId.utf8ByteSize ≤ 128

/-- `begin_operation`. -/
def beginOperation : ServiceProg String := do
  let session ← ownedSession caller sessionId
  let now ← steadyClock
  let pruned := session.pruneExpiredLeases now
  update (·.setSession pruned)
  ensure (pruned.operationLeases.items.length < settings.operationLeaseLimit)
    (.operation .busy "browse operation lease limit reached")
  let leaseId ← ask .operationLeaseId (·.leaseId)
  ensure (leaseIdOk leaseId)
    (.exception ⟨.standard, "browse operation lease generator returned an invalid identifier"⟩)
  let leaseDeadline := min (now + settings.operationLeaseLifetime) pruned.absoluteDeadline
  ensure (pruned.operationLeases.find? leaseId).isNone
    (.operation .conflict "browse operation lease identifier collision")
  let leased :=
    { pruned with operationLeases := pruned.operationLeases.add (leaseId, leaseDeadline) }
  let (use, _) ← extendSession settings caller session leased (some now)
  succeed use
  pure leaseId

/-- `end_operation`. -/
def endOperation (leaseId : String) : ServiceProg Unit := do
  let session ← ownedSession caller sessionId
  let now ← steadyClock
  let pruned := session.pruneExpiredLeases now
  update (·.setSession pruned)
  ensure (leaseIdOk leaseId && (pruned.operationLeases.find? leaseId).isSome)
    (.operation .invalidRequest "browse operation lease is unknown")
  let ended := { pruned with operationLeases := pruned.operationLeases.remove leaseId }
  let (use, _) ← extendSession settings caller session ended (some now)
  succeed use

/-! ### Reading -/

/-- The operations that read: the checks, `extend`, and the work of the backend. -/
def operate (caller sessionId : String) (check : Session → Except ManagerFailure β)
    (work : Session → β → ServiceProg α) : ServiceProg α := do
  let session ← ownedSession caller sessionId
  let checked ← lift (check session)
  let (use, _) ← extendSession settings caller session session none
  let value ← work session checked
  succeed use
  pure value

/-- `list_directory`. -/
def listDirectory (maximumEntries : Nat) : ServiceProg (List BrowseEntryInfo) :=
  operate settings caller sessionId (fun _ => .ok ()) fun session _ =>
    ask (.listDirectory session.id relativePath maximumEntries) (·.entries)

/-- `inspect_entry`. -/
def inspectEntry : ServiceProg BrowseEntryInfo :=
  operate settings caller sessionId (fun _ => .ok ()) fun session _ =>
    ask (.inspectEntry session.id relativePath) (·.entry)

/-- `open_file`. -/
def openFile : ServiceProg Nat :=
  operate settings caller sessionId (fun _ => .ok ()) fun session _ =>
    ask (.openFile session.id relativePath) (·.descriptor)

/-- `open_entry`. -/
def openEntry : ServiceProg Nat :=
  operate settings caller sessionId (fun _ => .ok ()) fun session _ =>
    ask (.openEntry session.id relativePath) (·.descriptor)

/-- `inspect_repository`. -/
def inspectRepository : ServiceProg String :=
  operate settings caller sessionId (fun _ => .ok ()) fun session _ =>
    ask (.inspectRepository session.id) (·.document)

/-- Is a page of this size allowed? -/
def pageSizeOk (requestedEntries : Nat) : Bool :=
  requestedEntries ≠ 0 && requestedEntries ≤ maximumBrowsePageEntries

/-- `list_directory_page`. -/
def listDirectoryPage (continuationToken : String) (requestedEntries : Nat) :
    ServiceProg BrowseDirectoryPage :=
  operate settings caller sessionId
    (fun session =>
      if !pageSizeOk requestedEntries then
        .error (.operation .invalidRequest "browse page size must be between 1 and 512")
      else tokens.directoryCursor session.id relativePath continuationToken)
    fun session afterName => do
      let page ← ask (.listDirectoryPage session.id relativePath afterName requestedEntries)
        (·.page)
      if page.continuationToken = "" then pure page
      else do
        let token ← lift (tokens.directoryToken session.id relativePath page.continuationToken)
        pure { page with continuationToken := token }

/-- `list_previous_versions`. -/
def listPreviousVersions (profileId sourceId relativePath continuationToken : String)
    (requestedEntries : Nat) : ServiceProg PreviousVersionsPage :=
  operate settings caller sessionId
    (fun session =>
      if profileId ≠ session.profileId.value then
        .error (.operation .invalidRequest "profile does not match browse session")
      else if sourceId = "" then
        .error (.operation .invalidRequest "source identifier is required")
      else if !pageSizeOk requestedEntries then
        .error (.operation .invalidRequest
          "previous-versions page size must be between 1 and 512")
      else
        tokens.previousVersionsOffset session.id profileId sourceId relativePath
          continuationToken)
    fun session offset => do
      let page ← ask
        (.listPreviousVersions session.id profileId sourceId relativePath offset
          requestedEntries) (·.versions)
      if page.hasMore then do
        ensure (offset < page.nextOffset)
          (.exception ⟨.standard, "previous-versions backend returned a non-advancing page"⟩)
        let token ← lift
          (tokens.previousVersionsToken session.id profileId sourceId relativePath
            page.nextOffset)
        pure { page with continuationToken := token }
      else pure { page with continuationToken := "" }

/-! ### Closing -/

def closeEvent (succeeded : Bool) : BrowseSessionEvent :=
  ⟨session.callerUid, session.profileId.value, session.id.value, reason, succeeded⟩

/-- `close_session`: a session whose backend cannot be closed stays in the map. -/
def closeSession : ServiceProg Unit := do
  update (·.setSession session.beginClose)
  ask (.closeBackend session.id) fun _ => ()
  update (·.erase session.id)
  ask (.event (closeEvent session reason true)) fun _ => ()

/-- `close_noexcept`. -/
def closeNoexcept : ServiceProg Unit := do
  update (·.setSession session.beginClose)
  let closed ← (ask (.closeBackend session.id) fun _ => ()).attempt
  let succeeded := closed matches .ok _
  update fun state => if succeeded then state.erase session.id else state
  let _ ← (ask (.event (closeEvent session reason succeeded)) fun _ => ()).attempt
  pure ()

def close : ServiceProg Unit := do
  let session ← ownedSession caller sessionId
  closeSession session .requested

/-- A loop over the sessions; its body can erase the session it is at. -/
def eachSession (body : Session → ServiceProg Unit) : ServiceProg Unit :=
  .look fun state => forEach
    (fun id => .look fun state =>
      match state.session? id with
      | none => .ret ()
      | some session => body session) state.ids

/-- `close_for_caller`. -/
def closeForCaller : ServiceProg Unit :=
  eachSession fun session =>
    if session.callerBusName ≠ caller then .ret ()
    else closeNoexcept session .callerDisconnected

/-- Is an operation going on in a session of the profile? -/
def activeOperation (state : ServiceState) : Bool :=
  state.sessions.items.any fun session =>
    decide (session.profileId = profileId) && !session.operationLeases.items.isEmpty

/-- Take a profile out of `ejecting_profiles_`. -/
def endEjecting (state : ServiceState) : ServiceState :=
  { state with ejectingProfiles := state.ejectingProfiles.erase profileId }

/-- `begin_target_eject`. -/
def beginTargetEject : ServiceProg Unit := .look fun state => do
  ensure (profileId ∉ state.ejectingProfiles)
    (.operation .busy "backup target is already being ejected")
  update fun state =>
    { state with
      ejectingProfiles := profileId :: state.ejectingProfiles
      browseReopenAfter := Function.update state.browseReopenAfter profileId none }
  let now ← steadyClock
  eachSession fun session => update (·.setSession (session.pruneExpiredLeases now))
  .look fun state =>
    if activeOperation profileId state then do
      update (endEjecting profileId)
      .fail (.operation .busy "backup browsing operation is active")
    else
      handleError
        (eachSession fun session =>
          if session.profileId ≠ profileId then .ret () else closeSession session .targetEject)
        fun e => do
          update (endEjecting profileId)
          .fail e

/-- `end_target_eject`. -/
def endTargetEject : ServiceProg Unit := do
  update (endEjecting profileId)
  let now ← steadyClock
  update fun state =>
    { state with
      browseReopenAfter :=
        Function.update state.browseReopenAfter profileId (some (now + browseReopenDelay)) }

def expire : ServiceProg Unit := do
  let _ ← (ask .cleanupStale fun _ => ()).attempt
  let now ← steadyClock
  eachSession fun session => do
    let pruned := session.pruneExpiredLeases now
    update (·.setSession pruned)
    if session.keepsAt now then pure () else closeNoexcept pruned .expired

/-! ### Calls of the service -/

/-- A call of the service. -/
inductive Request where
  | openSession (caller : String) (identity : BrowseAccessIdentity) (profileId : String)
  | renew (caller sessionId : String)
  | beginOperation (caller sessionId : String)
  | endOperation (caller sessionId leaseId : String)
  | close (caller sessionId : String)
  | listDirectory (caller sessionId relativePath : String) (maximumEntries : Nat)
  | listDirectoryPage (caller sessionId relativePath continuationToken : String)
      (requestedEntries : Nat)
  | inspectEntry (caller sessionId relativePath : String)
  | listPreviousVersions (caller sessionId profileId sourceId relativePath
      continuationToken : String) (requestedEntries : Nat)
  | openFile (caller sessionId relativePath : String)
  | openEntry (caller sessionId relativePath : String)
  | inspectRepository (caller sessionId : String)
  | closeForCaller (caller : String)
  | beginTargetEject (profileId : ProfileId)
  | endTargetEject (profileId : ProfileId)
  | expire

/-- A call, whatever it returns or throws. -/
def ignore (program : ServiceProg α) : ServiceProg Unit := do
  let _ ← program.attempt
  pure ()

/-- Serve a call. -/
def serve : Request → ServiceProg Unit
  | .openSession caller identity profileId =>
    ignore (openSession settings caller identity profileId)
  | .renew caller id => ignore (renew settings caller id)
  | .beginOperation caller id => ignore (beginOperation settings caller id)
  | .endOperation caller id lease => ignore (endOperation settings caller id lease)
  | .close caller id => ignore (close caller id)
  | .listDirectory caller id path count => ignore (listDirectory settings caller id path count)
  | .listDirectoryPage caller id path token count =>
      ignore (listDirectoryPage settings tokens caller id path token count)
  | .inspectEntry caller id path => ignore (inspectEntry settings caller id path)
  | .listPreviousVersions caller id profile source path token count =>
      ignore (listPreviousVersions settings tokens caller id profile source path token count)
  | .openFile caller id path => ignore (openFile settings caller id path)
  | .openEntry caller id path => ignore (openEntry settings caller id path)
  | .inspectRepository caller id => ignore (inspectRepository settings caller id)
  | .closeForCaller caller => ignore (closeForCaller caller)
  | .beginTargetEject profile => ignore (beginTargetEject profile)
  | .endTargetEject profile => ignore (endTargetEject profile)
  | .expire => ignore expire

/-- Serve one call after the other. -/
def serveAll (requests : List Request) : ServiceProg Unit :=
  forEach (serve settings tokens) requests

end service

end BtrfsBackup.BrowseService
