/-
Saving a configuration (`platform/linux/config/ProfileConfigurationTransaction`,
`ProfileInstaller`).

The files of a profile are staged next to their destinations, published one by
one by renaming (the old file is set aside first), and the services are told to
reload; the public profile, by which others see the new configuration, comes
last.  If anything throws, a rollback goes over all artifacts in reverse.

* `Transaction` — its destinations, staged and set-aside files are all
  different paths;
* `publish`, `rollbackArtifact` — what is done and undone for one artifact;
* `publishAndRollback` — a transaction up to the end of its rollback;
* `ConfigurationState.trail` — what was tried for each artifact, and what failed.
-/
import BtrfsBackup.Core
import BtrfsBackup.Lib.Interaction

open Interaction Interaction.Prog

namespace BtrfsBackup

inductive ProfileArtifactKind where
  | udevRule
  | systemdMountDependency
  | nativeTargetMount
  | managedArtifactManifest
  | privateProfile
  | publicProfile
  | obsoleteSystemdUnit
  deriving DecidableEq, Repr

inductive ProfileArtifactOperation where
  | write
  | remove
  deriving DecidableEq, Repr

structure ProfileArtifact where
  kind : ProfileArtifactKind
  destination : FsPath
  content : String
  operation : ProfileArtifactOperation
  deriving DecidableEq

namespace Configuration

/-- `transaction_path`. -/
def transactionPath (destination : FsPath) (kind generation : String) : FsPath :=
  destination.parentPath / ("." ++ destination.filename ++ "." ++ kind ++ "-" ++ generation)

/-- `TransactionArtifact::staged`. -/
def stagedPath (generation : String) (artifact : ProfileArtifact) : FsPath :=
  transactionPath artifact.destination "stage" generation

/-- `TransactionArtifact::previous`. -/
def previousPath (generation : String) (artifact : ProfileArtifact) : FsPath :=
  transactionPath artifact.destination "previous" generation

/-- The paths that belong to an artifact. -/
def artifactPaths (generation : String) (artifact : ProfileArtifact) : List FsPath :=
  [artifact.destination, stagedPath generation artifact, previousPath generation artifact]

/-- `ProfileConfigurationTransaction`: artifacts whose files are all different. -/
structure Transaction where
  generation : String
  artifacts : List ProfileArtifact
  separate : (artifacts.flatMap (artifactPaths generation)).Nodup

/-! ### Files and answers -/

/-- The contents of the files. -/
abbrev Files := FsPath → Option String

/-- The flags of a `TransactionArtifact`. -/
structure ArtifactFlags where
  hadPrevious : Bool
  published : Bool
  deriving DecidableEq, Repr

/-- The operations on the files of an artifact. -/
inductive ArtifactStep where
  /-- `validate_destination`. -/
  | validate
  /-- `exists` on the destination. -/
  | inspect
  /-- The rename of the destination to `previous`. -/
  | setAside
  /-- The rename of the staged file to the destination. -/
  | place
  /-- `fsync_dir` while publishing. -/
  | sync
  /-- The rename of `previous` to the destination when publishing throws. -/
  | undo
  /-- The removal of the published file in the rollback. -/
  | removePublished
  /-- The rename of `previous` to the destination in the rollback. -/
  | restore
  /-- `fsync_dir` in the rollback. -/
  | syncRollback
  | removeStaged
  | removePrevious
  deriving DecidableEq, Repr

/-- An operation that was tried, and whether it failed. -/
structure ArtifactEvent where
  step : ArtifactStep
  failed : Bool
  deriving DecidableEq, Repr

/-- What a transaction asks of its environment. -/
inductive ConfigurationCall where
  | artifact (destination : FsPath) (step : ArtifactStep)
  | activate
  deriving DecidableEq

/-- An answer: the error of the operation, and whether a file that is looked at is
something else than a regular file. -/
structure ConfigurationAnswer where
  error : Option String
  irregular : Bool
  deriving DecidableEq, Repr

/-- A transaction under way; flags and trail are those of the artifact with the
given destination. -/
structure ConfigurationState where
  files : Files
  flags : FsPath → ArtifactFlags
  trail : FsPath → List ArtifactEvent

/-- Programs of a transaction; they throw exceptions. -/
abbrev ConfigurationProg (α : Type) :=
  Prog ConfigurationCall ConfigurationAnswer ConfigurationState Thrown α

namespace ConfigurationState

/-- The state after an operation for an artifact. -/
def after (state : ConfigurationState) (artifact : ProfileArtifact) (event : ArtifactEvent)
    (files : Files) : ConfigurationState :=
  { state with
    files := files
    trail := Function.update state.trail artifact.destination
      (state.trail artifact.destination ++ [event]) }

/-- The state with other flags of an artifact. -/
def flagged (state : ConfigurationState) (artifact : ProfileArtifact)
    (change : ArtifactFlags → ArtifactFlags) : ConfigurationState :=
  { state with
    flags := Function.update state.flags artifact.destination
      (change (state.flags artifact.destination)) }

end ConfigurationState

/-! ### Operations -/

variable (artifact : ProfileArtifact) (step : ArtifactStep)

/-- An operation for an artifact; it returns its error, if any.  `fault` is the
error it has because of the files themselves. -/
def fileStep (fault : Files → Option String) (change : Files → Files) :
    ConfigurationProg (Option String) :=
  .effect (.artifact artifact.destination step)
    (fun answer state =>
      match answer.error.or (fault state.files) with
      | some _ => state.after artifact ⟨step, true⟩ state.files
      | none => state.after artifact ⟨step, false⟩ (change state.files))
    (fun answer state => .ret (answer.error.or (fault state.files)))

/-- `rename`. -/
def renameFile (source target : FsPath) : ConfigurationProg (Option String) :=
  fileStep artifact step
    (fun files => if (files source).isSome then none else some "No such file or directory")
    fun files => Function.update (Function.update files target (files source)) source none

/-- `remove`. -/
def removeFile (path : FsPath) : ConfigurationProg (Option String) :=
  fileStep artifact step (fun _ => none) fun files => Function.update files path none

/-- Something that changes no file. -/
def touch : ConfigurationProg (Option String) :=
  fileStep artifact step (fun _ => none) id

/-- Throw if there is an error. -/
def checked (error : Option String) (message : String → String) : ConfigurationProg Unit :=
  match error with
  | none => .ret ()
  | some text => .fail (validationError (message text))

/-- `rename_checked`. -/
def renameChecked (source target : FsPath) : ConfigurationProg Unit := do
  let error ← renameFile artifact step source target
  checked error fun text =>
    "cannot rename " ++ source.string ++ " to " ++ target.string ++ ": " ++ text

/-- `fsync_dir`, while publishing. -/
def syncChecked : ConfigurationProg Unit := do
  let error ← touch artifact .sync
  checked error id

def assign (change : ArtifactFlags → ArtifactFlags) : ConfigurationProg Unit :=
  .note (fun state => state.flagged artifact change) (.ret ())

/-- `validate_destination`. -/
def validateDestination : ConfigurationProg Unit :=
  .effect (.artifact artifact.destination .validate)
    (fun answer state =>
      state.after artifact ⟨.validate, answer.error.isSome || answer.irregular⟩ state.files)
    fun answer _ =>
      match answer.error with
      | some text =>
        .fail (validationError ("cannot inspect configuration destination " ++
          artifact.destination.string ++ ": " ++ text))
      | none =>
        if answer.irregular then
          .fail (validationError ("configuration destination is not a regular file: " ++
            artifact.destination.string))
        else .ret ()

/-! ### Staging and publishing -/

/-- `stage`: the set-aside files are gone and the new contents are written. -/
def stageArtifact (generation : String) (files : Files) (artifact : ProfileArtifact) : Files :=
  let staged :=
    match artifact.operation with
    | .write => some artifact.content
    | .remove => none
  Function.update
    (Function.update files (stagedPath generation artifact) staged)
    (previousPath generation artifact) none

/-- `stage`, when it succeeds. -/
def stage (transaction : Transaction) (files : Files) : Files :=
  transaction.artifacts.foldl (stageArtifact transaction.generation) files

section programs

variable (generation : String) (artifact : ProfileArtifact)

/-- The `catch` block of `publish`. -/
def moveBack (hadPrevious : Bool) (e : Thrown) : ConfigurationProg Unit := do
  let _ ← (if hadPrevious then
      renameFile artifact .undo (previousPath generation artifact) artifact.destination
    else .ret none)
  Prog.fail e

/-- The part of `publish` that puts a file in place. -/
def placeStaged (hadPrevious : Bool) : ConfigurationProg Unit :=
  (do
    renameChecked artifact .place (stagedPath generation artifact) artifact.destination
    assign artifact fun flags => { flags with published := true }
    syncChecked artifact).handleError (moveBack generation artifact hadPrevious)

/-- The part of `publish` that leaves no file in place. -/
def leaveRemoved (hadPrevious : Bool) : ConfigurationProg Unit := do
  assign artifact fun flags => { flags with published := hadPrevious }
  (if hadPrevious then syncChecked artifact else .ret ())

/-- The part of `publish` after the destination was inspected. -/
def publishOver (hadPrevious : Bool) : ConfigurationProg Unit := do
  (if hadPrevious then
    renameChecked artifact .setAside artifact.destination (previousPath generation artifact)
   else .ret ())
  (if artifact.operation = .remove then leaveRemoved artifact hadPrevious
   else placeStaged generation artifact hadPrevious)

def publish : ConfigurationProg Unit := do
  validateDestination artifact
  let error ← touch artifact .inspect
  Prog.look fun state => do
    let hadPrevious := error.isNone && (state.files artifact.destination).isSome
    assign artifact fun flags => { flags with hadPrevious := hadPrevious }
    checked error fun _ =>
      "cannot inspect configuration destination " ++ artifact.destination.string
    publishOver generation artifact hadPrevious

/-! ### The rollback -/

structure RollbackError where
  operation : String
  path : FsPath
  message : String
  deriving DecidableEq

structure RollbackResult where
  complete : Bool
  errors : List RollbackError
  deriving DecidableEq

variable (result : RollbackResult)

/-- `record_rollback_error`. -/
def RollbackResult.record (operation : String) (path : FsPath) (message : String) :
    RollbackResult where
  complete := false
  errors := result.errors ++ [⟨operation, path, message⟩]

def RollbackResult.recordIf (error : Option String) (operation : String) (path : FsPath)
    (detail : String → String) : RollbackResult :=
  match error with
  | none => result
  | some text => result.record operation path (detail text)

/-- The errors `remove_for_rollback` records: that of the removal, or that there was
nothing to remove. -/
def removalResult (error : Option String) (present : Bool) : RollbackResult :=
  match error, present with
  | some text, _ => result.record "remove published artifact" artifact.destination text
  | none, false =>
    result.record "remove published artifact" artifact.destination "path does not exist"
  | none, true => result

/-- `remove_published_artifact`. -/
def removePublishedArtifact : ConfigurationProg RollbackResult :=
  .look fun state =>
    if (state.flags artifact.destination).published && artifact.operation == .write then do
      let error ← removeFile artifact .removePublished artifact.destination
      return removalResult artifact result error (state.files artifact.destination).isSome
    else .ret result

/-- `restore_previous_artifact`: was the old file restored? -/
def restorePreviousArtifact : ConfigurationProg (Bool × RollbackResult) :=
  .look fun state =>
    if (state.flags artifact.destination).hadPrevious then do
      let error ← renameFile artifact .restore (previousPath generation artifact)
        artifact.destination
      return (error.isNone, result.recordIf error "restore previous artifact"
        (previousPath generation artifact) fun text =>
          text ++ "; destination: " ++ artifact.destination.string)
    else .ret (false, result)

/-- `remove_transaction_files`. -/
def removeTransactionFiles (restoredPrevious : Bool) (result : RollbackResult) :
    ConfigurationProg RollbackResult := do
  let error ← removeFile artifact .removeStaged (stagedPath generation artifact)
  let result := result.recordIf error "remove staged artifact" (stagedPath generation artifact) id
  Prog.look fun state =>
    if !(state.flags artifact.destination).hadPrevious || restoredPrevious then do
      let error ← removeFile artifact .removePrevious (previousPath generation artifact)
      return result.recordIf error "remove rollback artifact" (previousPath generation artifact) id
    else .ret result

/-- `rollback_artifact`. -/
def rollbackArtifact : ConfigurationProg RollbackResult := do
  let result ← removePublishedArtifact artifact result
  let (restoredPrevious, result) ← restorePreviousArtifact generation artifact result
  let error ← touch artifact .syncRollback
  let result := result.recordIf error "fsync artifact directory" artifact.destination.parentPath id
  removeTransactionFiles generation artifact restoredPrevious result

end programs

/-- The loop of `rollback`. -/
def rollbackArtifacts (generation : String) :
    List ProfileArtifact → RollbackResult → ConfigurationProg RollbackResult
  | [], result => .ret result
  | artifact :: artifacts, result => do
    let result ← rollbackArtifact generation artifact result
    rollbackArtifacts generation artifacts result

section transaction

variable (transaction : Transaction)

/-- `publish_configuration`. -/
def publishConfiguration : ConfigurationProg Unit :=
  Prog.forEach (publish transaction.generation)
    (transaction.artifacts.filter fun artifact => artifact.kind ≠ .publicProfile)

/-- `publish_public_marker`. -/
def publishPublicMarker : ConfigurationProg Unit :=
  match transaction.artifacts.find? fun artifact => artifact.kind = .publicProfile with
  | none => .fail (validationError "required profile artifact is missing")
  | some artifact => publish transaction.generation artifact

def rollback : ConfigurationProg RollbackResult :=
  rollbackArtifacts transaction.generation transaction.artifacts.reverse ⟨true, []⟩

/-- The activator. -/
def activate : ConfigurationProg Unit :=
  .effect .activate (fun _ state => state) fun answer _ =>
    match answer.error with
    | none => .ret ()
    | some text => .fail ⟨.btrfsBackup, text⟩

/-- What `install_profile_transactionally` publishes. -/
def publishAll : ConfigurationProg Unit := do
  publishConfiguration transaction
  activate
  publishPublicMarker transaction

/-- The inner `try` of `install_profile_transactionally`, up to the end of the
rollback: the exception it was rolled back for, and the result of the rollback. -/
def publishAndRollback : ConfigurationProg (Option (Thrown × RollbackResult)) := do
  let outcome ← Prog.attempt (publishAll transaction)
  match outcome with
  | .ok () => return none
  | .error cause => do
    let result ← rollback transaction
    return some (cause, result)

end transaction

/-- A transaction whose files are staged. -/
def begin (transaction : Transaction) (files : Files) : ConfigurationState where
  files := stage transaction files
  flags := fun _ => ⟨false, false⟩
  trail := fun _ => []

end Configuration

end BtrfsBackup
