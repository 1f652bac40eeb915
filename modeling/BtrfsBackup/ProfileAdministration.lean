/-
Changing installed profiles (`daemon/control/SystemProfileAdministrationBackend`,
`SystemCredentialAdministrationBackend`, `platform/linux/config/ProfileInstaller`).

A client changes a profile that it has read before: it names the profile by its
generation and its fingerprint, and the commit, which holds the lock of the profile,
refuses to replace another one.  A key that opens the target by itself is added by a
change of the profile too, under the lock of the target.

* `saveProfile`, `setProfileEnabled`, `deleteProfile`, `addAutomaticKey` — the clients;
* `commit` — a commit under the lock, which is one step;
* `Commit` — what was installed before a commit, and what the commit was computed from.

Reading a profile takes no lock.  What a call to the outside returns or throws is an
answer; of the work on credentials only the order of its steps is kept.
-/
import BtrfsBackup.Lib.Interleaving
import BtrfsBackup.ManagerErrors
import BtrfsBackup.PreparationTransaction
import BtrfsBackup.ProfileDocument

open Interaction Interaction.Prog OrderedJson

namespace BtrfsBackup.Administration

/-! ### Data -/

/-- The generation and the fingerprint of a profile. -/
structure Identity where
  generation : String
  fingerprint : String
  deriving DecidableEq, Repr

/-- The identity of a client that expects no profile. -/
def Identity.isEmpty (identity : Identity) : Bool :=
  identity.generation = "" && identity.fingerprint = ""

structure ExpectedProfileIdentity where
  expects : Bool
  identity : Identity
  deriving DecidableEq

/-- The roots, the fingerprint of the document of an installed profile, `Json::parse` and
`dump_json(profile_to_json(profile))`. -/
structure Setup where
  etcRoot : FsPath
  targetMountRoot : String
  fingerprint : Profile → String
  parseJson : String → Except String Json
  dumpProfile : Profile → String

/-- The identity of an installed profile. -/
def Setup.identity (setup : Setup) (profile : Profile) : Identity :=
  ⟨profile.configurationGeneration, setup.fingerprint profile⟩

/-- Where a commit comes from, with what its call has read. -/
inductive Origin where
  /-- `save_profile`: the expected identity; was there a profile at the second reading? -/
  | save (expected : Identity) (seen : Bool)
  /-- `set_profile_enabled`: also the profile it has changed. -/
  | enable (expected : Identity) (changed : Identity) (seen : Bool)
  | delete (expected : Identity)
  /-- `set_automatic_key`, or the way back from it: the profile that was loaded, and how
  many commits of the profile there had been. -/
  | key (loaded : Identity) (loadedAt : Nat)
  deriving DecidableEq

/-- A commit: how many commits of the profile there had been, what was installed before,
and what is installed after it. -/
structure Commit where
  client : Nat
  profileId : ProfileId
  origin : Origin
  number : Nat
  before : Option Profile
  after : Option Profile
  deriving DecidableEq

/-- The installed profiles, the commits, the newest first, the generations that were
drawn, with the client each is for, and the targets whose lock a client holds. -/
structure AdministrationState where
  installed : ProfileId → Option Profile
  commits : List Commit
  drawn : List (Nat × String)
  targets : List LuksUuid

/-- How many commits of a profile there have been. -/
def AdministrationState.number (state : AdministrationState) (id : ProfileId) : Nat :=
  state.commits.countP fun commit => commit.profileId = id

/-- The calls to the outside. -/
inductive AdministrationCall where
  | readProfile (id : ProfileId)
  | generation
  | stage (id : ProfileId)
  | commit (id : ProfileId)
  | lockTarget (target : LuksUuid)
  | unlockTarget (target : LuksUuid)
  | prepareCredential (id : ProfileId)
  | rollbackCredential (id : ProfileId)
  deriving DecidableEq

/-- What was undone after a key could not be added. -/
structure CredentialRollback where
  keyslotRollbackSucceeded : Bool
  keyFileRemoved : Bool
  metadataRestored : Bool
  deriving DecidableEq

/-- What a call returns or throws. -/
structure AdministrationAnswer where
  error : Option ManagerFailure
  /-- Does a commit that throws leave the new configuration? -/
  took : Bool
  /-- Is the lock free, as far as the clients here do not hold it? -/
  free : Bool
  generation : String
  rollback : CredentialRollback

/-- The programs of the clients. -/
abbrev AdministrationProg (α : Type) :=
  Prog AdministrationCall AdministrationAnswer AdministrationState ManagerFailure α

/-- A call that can throw and changes nothing here. -/
def ask (call : AdministrationCall) (value : AdministrationAnswer → AdministrationState → α) :
    AdministrationProg α :=
  .effect call (fun _ state => state) fun answer state =>
    match answer.error with
    | some e => .fail e
    | none => .ret (value answer state)

/-- `if (!condition) throw`. -/
def ensure (condition : Bool) (e : ManagerFailure) : AdministrationProg Unit :=
  if condition then .ret () else .fail e

/-- A computation that can throw. -/
def lift : Except ManagerFailure α → AdministrationProg α
  | .ok a => .ret a
  | .error e => .fail e

/-! ### Commits -/

section clients

variable (setup : Setup) (client : Nat) (id : ProfileId) (expected : Identity) (profile : Profile)
  (loadedAt : Nat)

/-- The path of the document of a profile. -/
def Setup.profileJsonPath : FsPath :=
  setup.etcRoot / "profiles" / id.value / "profile.json"

/-- What `FileProfileRepository::get` makes of a profile that is there. -/
def loadedProfile : Except ManagerFailure Profile :=
  if profile.configurationGeneration = "" then
    .error (.exception (validationError "installed profile configurationGeneration is required"))
  else .ok profile

/-- `require_expected_profile_identity`. -/
def requireExpectedProfileIdentity (expected : Option ExpectedProfileIdentity)
    (installed : Option Profile) : Except ManagerFailure Unit :=
  let changed (what : String) : Except ManagerFailure Unit :=
    .error (.exception ⟨.codedValidation .configurationChanged, what⟩)
  match expected with
  | none => .ok ()
  | some expected =>
      if installed.isSome ≠ expected.expects then
        changed "profile existence changed before commit"
      else
        match installed with
        | none => .ok ()
        | some profile =>
            match loadedProfile profile with
            | .error e => .error e
            | .ok loaded =>
                if setup.identity loaded ≠ expected.identity then
                  changed "profile identity changed before commit"
                else .ok ()

/-- A commit: who makes it, for which profile, what it expects, and what it installs. -/
structure Change where
  client : Nat
  profileId : ProfileId
  expected : Option ExpectedProfileIdentity
  origin : Origin
  after : Option Profile

variable (change : Change) (answer : AdministrationAnswer) (installed : Option Profile)
  (state : AdministrationState)

/-- The message of a commit that does not get the lock. -/
def Change.refusal : String :=
  "profile is active; configuration " ++ (if change.after.isSome then "save" else "delete") ++
    " refused: " ++ change.profileId.value

/-- The checks under the lock of the profile. -/
def commitChecks : Except ManagerFailure Unit :=
  if answer.free then requireExpectedProfileIdentity setup change.expected installed
  else .error (.exception ⟨.codedValidation .configurationSaveFailed, change.refusal⟩)

/-- What a commit returns or throws. -/
def commitResult : Except ManagerFailure Unit :=
  match commitChecks setup change answer installed with
  | .error e => .error e
  | .ok _ =>
      match answer.error with
      | some e => .error e
      | none => .ok ()

/-- Is what was staged in place after the commit?  A commit that throws is rolled back,
unless the rollback does not succeed. -/
def committed : Bool :=
  (commitChecks setup change answer installed).isOk && (answer.error.isNone || answer.took)

/-- The commit that a change makes in a state. -/
def Change.commit : Commit where
  client := change.client
  profileId := change.profileId
  origin := change.origin
  number := state.number change.profileId
  before := state.installed change.profileId
  after := change.after

/-- Install or remove a profile. -/
def AdministrationState.replace : AdministrationState :=
  { state with
    installed := Function.update state.installed change.profileId change.after
    commits := change.commit state :: state.commits }

/-- The part of the installer that holds the lock of the profile. -/
def commit : AdministrationProg Unit :=
  .effect (.commit change.profileId)
    (fun answer state =>
      if committed setup change answer (state.installed change.profileId) then
        state.replace change
      else state)
    fun answer state =>
      lift (commitResult setup change answer (state.installed change.profileId))

/-- `generate_configuration_generation`. -/
def drawGeneration : AdministrationProg String :=
  .effect .generation
    (fun answer state => { state with drawn := (client, answer.generation) :: state.drawn })
    fun answer _ =>
      match answer.error with
      | some e => .fail e
      | none => .ret answer.generation

/-- `render_profile_artifacts`: every installation has a new generation. -/
def renderProfile : AdministrationProg Profile := do
  let generation ← drawGeneration client
  ensure (generation ≠ "")
    (.exception (validationError "configuration generation must not be empty"))
  pure { profile with configurationGeneration := generation }

/-- `install_profile_transactionally`. -/
def installProfile (expected : Option ExpectedProfileIdentity) (origin : Origin) :
    AdministrationProg Unit := do
  let rendered ← renderProfile client profile
  ask (.stage profile.id) fun _ _ => ()
  commit setup ⟨client, profile.id, expected, origin, some rendered⟩

/-- `delete_profile_transactionally`. -/
def removeProfile (expected : Option ExpectedProfileIdentity) (origin : Origin) :
    AdministrationProg Unit := do
  let _ ← renderProfile client profile
  ask (.stage profile.id) fun _ _ => ()
  commit setup ⟨client, profile.id, expected, origin, none⟩

/-! ### Clients -/

/-- `find_profile`. -/
def findProfile : AdministrationProg (Option Profile) := do
  let installed ← ask (.readProfile id) fun _ state => state.installed id
  match installed with
  | none => .ret none
  | some profile => lift ((loadedProfile profile).map some)

/-- `FileProfileRepository::get`, with the number of commits of the profile so far. -/
def loadProfile : AdministrationProg (Profile × Nat) := do
  let read ← ask (.readProfile id) fun _ state => (state.installed id, state.number id)
  match read.1 with
  | none =>
      .fail (.exception (validationError
        ("Configuration file does not exist or is not a regular file: " ++
          (setup.profileJsonPath id).string)))
  | some profile => lift ((loadedProfile profile).map (·, read.2))

/-- `FileProfileRepository::get`. -/
def getProfile : AdministrationProg Profile := do
  let loaded ← loadProfile setup id
  pure loaded.1

/-- The condition of `require_current`. -/
def isCurrent : Option Profile → Bool
  | none => expected.isEmpty
  | some profile => setup.identity profile = expected

/-- `require_current`. -/
def requireCurrent : AdministrationProg Unit := do
  let current ← findProfile id
  ensure (isCurrent setup expected current) (.operation .conflict "profile configuration changed")

/-- `parse_draft`. -/
def parseDraft (document : String) : Except ManagerFailure Profile :=
  let invalid (what : String) : Except ManagerFailure Profile :=
    .error (.exception (validationError what))
  if document.utf8ByteSize > 1024 * 1024 then invalid "profile draft exceeds the supported size"
  else
    match setup.parseJson document with
    | .error what => invalid ("profile draft is not valid JSON: " ++ what)
    | .ok raw =>
        match profileFromJson raw setup.targetMountRoot with
        | .error e => .error (.exception e)
        | .ok profile =>
            if profile.id ≠ id then invalid "profile draft identity does not match the request"
            else .ok { profile with configurationGeneration := "" }

def hooksEmpty (hooks : ProfileHooks) : Bool :=
  hooks.beforeSnapshot.isEmpty && hooks.afterSnapshot.isEmpty

def hooksChanged (draft : Profile) : Option Profile → AdministrationProg Bool
  | none => .ret (!hooksEmpty draft.hooks)
  | some _ => do
      let installed ← getProfile setup id
      pure (installed.hooks ≠ draft.hooks)

/-- `require_profile`. -/
def requireProfile : AdministrationProg Profile := do
  let profile ← findProfile id
  match profile with
  | none => .fail (.operation .notFound "profile does not exist")
  | some profile => .ret profile

/-- `save_profile`; the origin of the commit depends on the second reading. -/
def saveDraft (document : String) (allowHookChanges : Bool) (origin : Bool → Origin) :
    AdministrationProg Profile := do
  requireCurrent setup id expected
  let draft ← lift (parseDraft setup id document)
  let current ← findProfile id
  let changed ← hooksChanged setup id draft current
  ensure (allowHookChanges || !changed)
    (.operation .notAuthorized "hook changes require separate authorization")
  installProfile setup client draft (some ⟨current.isSome, expected⟩) (origin current.isSome)
  requireProfile id

/-- `save_profile`. -/
def saveProfile (document : String) (allowHookChanges : Bool) : AdministrationProg Profile :=
  saveDraft setup client id expected document allowHookChanges (.save expected)

/-- The rest of `set_profile_enabled`, with the profile that was read. -/
def switchProfile (enabled : Bool) (profile : Profile) : AdministrationProg Unit :=
  if profile.enabled = enabled then .ret ()
  else do
    let document :=
      setup.dumpProfile { profile with enabled := enabled, configurationGeneration := "" }
    let _ ← saveDraft setup client id expected document false
      (.enable expected (setup.identity profile))
    pure ()

/-- `set_profile_enabled`. -/
def setProfileEnabled (enabled : Bool) : AdministrationProg Unit := do
  requireCurrent setup id expected
  let profile ← getProfile setup id
  switchProfile setup client id expected enabled profile

/-- `delete_profile`. -/
def deleteProfile : AdministrationProg Unit := do
  requireCurrent setup id expected
  let profile ← getProfile setup id
  removeProfile setup client profile (some ⟨true, expected⟩) (.delete expected)

/-- `set_automatic_key`. -/
def setAutomaticKey (keyFile : KeyFilePath) : AdministrationProg Unit :=
  installProfile setup client
    { profile with
      target := { profile.target with activation := .keyFile keyFile }
      configurationGeneration := "" }
    none (.key (setup.identity profile) loadedAt)

def exceptionMessage : ManagerFailure → String
  | .operation _ message => message
  | .exception e => e.what

/-- `mutation_failure_message`, after the keyslot was added. -/
def mutationFailureMessage (primary : String) (rollback : CredentialRollback)
    (profileRestored : Bool) : String :=
  let flag (value : Bool) : String := if value then "1" else "0"
  "credential mutation failed during publish-profile: " ++ primary ++ "; rollback incomplete" ++
    "; keyslotAdded=1" ++
    "; keyslotRollbackSucceeded=" ++ flag rollback.keyslotRollbackSucceeded ++
    "; keyFileRemoved=" ++ flag rollback.keyFileRemoved ++
    "; metadataRestored=" ++ flag rollback.metadataRestored ++
    "; profileRestored=" ++ flag profileRestored

/-- What is thrown in the end when the profile could not be published. -/
def mutationFailure (primary : ManagerFailure) (rollback : CredentialRollback)
    (profileRestored : Bool) : ManagerFailure :=
  if rollback.keyslotRollbackSucceeded && rollback.keyFileRemoved && rollback.metadataRestored &&
      profileRestored then primary
  else
    .exception ⟨.recoveryRequired .credentialMutationRollbackIncomplete,
      mutationFailureMessage (exceptionMessage primary) rollback profileRestored⟩

/-- The way back of `add_managed_credential`: the profile that was loaded is installed. -/
def restoreProfile (primary : ManagerFailure) : AdministrationProg Unit := do
  let restored ←
    (installProfile setup client profile none (.key (setup.identity profile) loadedAt)).attempt
  .effect (.rollbackCredential profile.id) (fun _ state => state) fun answer _ =>
    .fail (mutationFailure primary answer.rollback restored.isOk)

/-- `lock_target`. -/
def lockTarget (target : LuksUuid) : AdministrationProg Unit :=
  .effect (.lockTarget target)
    (fun answer state =>
      { state with
        targets :=
          if answer.error.isNone && answer.free && target ∉ state.targets then
            target :: state.targets
          else state.targets })
    fun answer state =>
      match answer.error with
      | some e => .fail e
      | none =>
          ensure (answer.free && target ∉ state.targets)
            (.operation .busy "backup target is active")

/-- The lock of the target is given back. -/
def unlockTarget (target : LuksUuid) : AdministrationProg Unit :=
  .effect (.unlockTarget target)
    (fun _ state => { state with targets := state.targets.erase target }) fun _ _ => .ret ()

/-- The part of `add_managed_credential` that holds the lock of the target. -/
def publishKey (loaded : Profile × Nat) (keyFile : KeyFilePath) : AdministrationProg Unit := do
  ask (.prepareCredential id) fun _ _ => ()
  handleError (setAutomaticKey setup client loaded.1 loaded.2 keyFile)
    (restoreProfile setup client loaded.1 loaded.2)

/-- `add_managed_credential` for a key that is used automatically. -/
def addAutomaticKey (keyFile : KeyFilePath) : AdministrationProg Unit := do
  let loaded ← loadProfile setup id
  lockTarget loaded.1.target.luksUuid
  let published ← (publishKey setup client id loaded keyFile).attempt
  unlockTarget loaded.1.target.luksUuid
  lift published

/-- A request of a client. -/
inductive Request where
  | save (id : ProfileId) (expected : Identity) (document : String) (allowHookChanges : Bool)
  | setEnabled (id : ProfileId) (expected : Identity) (enabled : Bool)
  | delete (id : ProfileId) (expected : Identity)
  | addAutomaticKey (id : ProfileId) (keyFile : KeyFilePath)

/-- Serve a client, whatever is returned to it. -/
def serve : Request → AdministrationProg Unit
  | .save id expected document allowHookChanges => do
      let _ ← saveProfile setup client id expected document allowHookChanges
      pure ()
  | .setEnabled id expected enabled => setProfileEnabled setup client id expected enabled
  | .delete id expected => deleteProfile setup client id expected
  | .addAutomaticKey id keyFile => addAutomaticKey setup client id keyFile

end clients

/-- Any number of clients. -/
def administrationPool (setup : Setup) (installed : ProfileId → Option Profile)
    (requests : Nat → Request) :
    Pool Nat AdministrationCall AdministrationAnswer AdministrationState ManagerFailure Unit where
  state := ⟨installed, [], [], []⟩
  thread client := serve setup client (requests client)

end BtrfsBackup.Administration
