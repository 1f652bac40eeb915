/-
`BackupService::start` with the context of a run
(`backup/BackupService`, `backup/execution/RunExecutionContext`,
`backup/planning/BackupPreflight`, `backup/TargetStorageRecorder`).

The exceptions of the model derive from `std::exception`; the `catch (...)`
branches and what `report_close_failures` prints are left out.

* `close` — gives back what the context holds, once;
* `startLoadedProfile` — the run, its `catch` clauses and the destructor of the
  context;
* `start`.
-/
import BtrfsBackup.BackupRunExecutor

open Interaction

namespace BtrfsBackup

/-! ### The context of a run -/

namespace RunExecutionContext

/-- The context as its constructor leaves it. -/
def prepared (profileId : ProfileId) (runId : RunId) : RunExecutionContext where
  profileId := profileId
  runId := runId
  activeRun := true
  cancellationWatch := true
  checkpoints := true
  lease := true
  targetSession := false
  verifiedTargetMount := false
  events := false
  targetCloseAttempted := false
  targetCloseError := none
  closed := false
  failures := []

/-- `record_close_failure`, when there is something to record. -/
def recordCloseFailure (stage : RunExecutionContextCloseStage) (message : Option String)
    (context : RunExecutionContext) : RunExecutionContext :=
  match message with
  | some message => { context with failures := context.failures ++ [(stage, message)] }
  | none => context

end RunExecutionContext

/-- The state with a changed context. -/
def ServiceState.update (f : RunExecutionContext → RunExecutionContext) (s : ServiceState) :
    ServiceState :=
  { s with context := s.context.map f }

/-- Change the context. -/
def updateContext (f : RunExecutionContext → RunExecutionContext) : Service Unit :=
  .note (.update f) (pure ())

/-- Run a member function of the context, if there is one. -/
def withContext {α : Type} (otherwise : α) (f : RunExecutionContext → Service α) : Service α :=
  .look fun s =>
    match s.context with
    | some context => f context
    | none => pure otherwise

/-- The constructor of the context, which owns the lease from here on.  When it
throws, the members constructed so far are destroyed, the last one first. -/
def createPreparing (profileId : ProfileId) (runId : RunId) : Service Unit := do
  let _ ← (ask (.openCheckpoints profileId)).handleError fun e => do
    occur (.released .lease)
    .fail e
  let _ ← (ask (.registerActiveRun profileId runId)).handleError fun e => do
    occur (.released .lease)
    .fail e
  occur (.acquired .activeRun)
  let _ ← (ask (.watchCancellation profileId runId)).handleError fun e => do
    occur (.released .lease)
    occur (.released .activeRun)
    .fail e
  .note (fun s => { s with context := some (.prepared profileId runId) }) (pure ())

/-- `attach_event_sink`. -/
def attachEventSink : Service Unit := updateContext fun context => { context with events := true }

/-- `attach_verified_target`. -/
def attachVerifiedTarget : Service Unit :=
  updateContext fun context => { context with targetSession := true, verifiedTargetMount := true }

/-- `close_target_session`. -/
def closeTargetSession : Service (Option TargetCleanupError) :=
  withContext none fun context => do
    if context.targetCloseAttempted then
      return context.targetCloseError
    updateContext fun context => { context with targetCloseAttempted := true }
    if context.targetSession then
      let answer ← askNoexcept .closeTarget
      occur (.released .targetSession)
      updateContext fun context =>
        { context with
          targetCloseError := answer.cleanupError
          targetSession := false
          verifiedTargetMount := false }
      return answer.cleanupError
    updateContext fun context => { context with verifiedTargetMount := false }
    return context.targetCloseError

/-- `close_cancellation_watch`. -/
def closeCancellationWatch : Service Unit :=
  withContext () fun context => do
    if context.cancellationWatch then
      let answer ← askNoexcept .closeCancellationWatch
      updateContext fun context =>
        { context.recordCloseFailure .cancellationWatch answer.diagnostic with
          cancellationWatch := false }

/-- `close_active_run`. -/
def closeActiveRun : Service Unit :=
  withContext () fun context => do
    if context.activeRun then
      let answer ← askNoexcept .closeActiveRun
      occur (.released .activeRun)
      updateContext fun context =>
        { context.recordCloseFailure .activeRun answer.diagnostic with activeRun := false }

/-- `clear_cancellation_request`. -/
def clearCancellationRequest : Service Unit :=
  withContext () fun context => do
    match ← (ask (.clearCancelRequest context.profileId context.runId)).attempt with
    | .ok _ => pure ()
    | .error e => updateContext (.recordCloseFailure .cancellationRequest (some e.what))

/-- `collect_target_session_failure`. -/
def collectTargetSessionFailure : Service Unit := do
  let error ← closeTargetSession
  updateContext (.recordCloseFailure .targetSession (error.map TargetCleanupError.message))

/-- `release_lease`. -/
def releaseLease : Service Unit :=
  withContext () fun context => do
    if context.lease then
      occur (.released .lease)
      updateContext fun context => { context with lease := false }

/-- `RunExecutionContext::close`. -/
def close : Service Unit :=
  withContext () fun context => do
    if context.closed then
      return ()
    updateContext fun context => { context with closed := true }
    closeCancellationWatch
    -- `release_event_sink` and `release_checkpoint_store`
    updateContext fun context => { context with events := false, checkpoints := false }
    closeActiveRun
    clearCancellationRequest
    collectTargetSessionFailure
    releaseLease

/-! ### Preflight and planning -/

/-- Throw when cancellation has been requested. -/
def throwIfCancelled (what : String) : Service Unit := do
  if ← cancellationRequested then
    .fail (operationCancelledError what)

/-- `BackupPreflight::run`: the caller gets the session when this returns. -/
def runPreflight (profile : Profile) : Service Unit := do
  throwIfCancelled "backup cancelled during preflight"
  let _ ← ask (.prepareTarget profile)
  occur (.acquired .targetSession)
  let checks : Service Unit := do
    throwIfCancelled "backup cancelled during preflight"
    let _ ← ask (.validateMounts profile)
    throwIfCancelled "backup cancelled during preflight"
  checks.handleError fun e => do
    let answer ← askNoexcept .closeTarget
    occur (.released .targetSession)
    match answer.cleanupError with
    | some error => .fail (validationError error.message)
    | none => .fail e

structure RunIdentity where
  runId : RunId
  startedAt : RuntimeTimePoint

/-- `prepare_target_and_plan`. -/
def prepareTargetAndPlan (profile : Profile) (identity : RunIdentity) : Service BackupRunPlan := do
  runPreflight profile
  attachVerifiedTarget
  throwIfCancelled "backup cancelled during preflight"
  let _ ← ask (.discover profile)
  let answer ← ask (.buildPlan profile identity.runId identity.startedAt)
  throwIfCancelled "backup cancelled during planning"
  return answer.plan

/-! ### The service -/

section service

-- Is there a `TargetStorageRecorder`?
variable (targetStorage : Bool)

/-- `record_target_storage`; the caller keeps the warning or drops it. -/
def recordTargetStorage (profile : Profile) : Service (Option BackupCompletionWarning) :=
  withContext none fun context => do
    if targetStorage && context.verifiedTargetMount then
      match ← (ask (.measureTarget profile)).attempt with
      | .ok _ => return none
      | .error e => return some ⟨.targetStorageMeasurement, e.failureCode, e.what⟩
    return none

/-- `emit_run_failed`. -/
def emitRunFailed (profileId : ProfileId) (runId : RunId) (errorCode : ErrorCode)
    (message : String) (actionsCompleted : Nat) (operationKind : OperationKind) :
    Service BackupExecutionResult := do
  emit (.runFailed ⟨profileId, runId, errorCode, message, operationKind⟩)
  return .failed profileId runId errorCode message actionsCompleted

/-- `close_target_or_fail`. -/
def closeTargetOrFail (profileId : ProfileId) (runId : RunId) (actionsCompleted : Nat)
    (operationKind : OperationKind) : Service (Option BackupExecutionResult) := do
  match ← closeTargetSession with
  | none => return none
  | some error =>
    let failed ← emitRunFailed profileId runId .backupFailed error.message actionsCompleted
      operationKind
    return some failed

variable (request : BackupRequest) (identity : RunIdentity) (operationKind : OperationKind)
  (loaded : LoadedProfile)

/-- `acquire_run_lease`: the result when another run holds the lease. -/
def acquireRunLease : Service (Option BackupExecutionResult) := do
  let answer ← ask (.tryAcquireLease loaded.profile)
  match answer.busy with
  | some (errorCode, message) =>
    let _ ← emitRunFailed loaded.profile.id identity.runId errorCode message 0 operationKind
    return some (.busy loaded.profile.id identity.runId errorCode message)
  | none =>
    occur (.acquired .lease)
    return none

/-- `finish_validation_if_requested`. -/
def finishValidationIfRequested (plan : BackupRunPlan) :
    Service (Option BackupExecutionResult) := do
  if !request.validateOnly then
    return none
  let _ ← recordTargetStorage targetStorage loaded.profile
  match ← closeTargetOrFail loaded.profile.id identity.runId 0 operationKind with
  | some failed =>
    close
    return some failed
  | none =>
    throwIfCancelled "backup cancelled during target cleanup"
    emit (.targetValidationCompleted loaded.profile.id identity.runId)
    return some (.validated plan)

variable (today : LocalDate) (plan : BackupRunPlan)

/-- `!request.force && daily_limit && last_success_matches`. -/
def dailyLimitReached : Service Bool := do
  if request.force || !loaded.profile.settings.dailyLimit then
    return false
  let answer ← ask (.lastSuccessMatches today loaded.fingerprint)
  return answer.flag

/-- `skip_if_daily_limit_reached`. -/
def skipIfDailyLimitReached : Service (Option BackupExecutionResult) := do
  if !(← dailyLimitReached request loaded today) then
    return none
  let _ ← recordTargetStorage targetStorage loaded.profile
  match ← closeTargetOrFail loaded.profile.id identity.runId 0 operationKind with
  | some failed =>
    close
    return some failed
  | none =>
    throwIfCancelled "backup cancelled during target cleanup"
    let finished ← ask .now
    let _ ← ask (.writeSkipped identity.runId identity.startedAt finished.time plan.sources.length)
    occur .skippedWritten
    return some (.skipped plan)

/-- `record_success_ledger_warning`. -/
def recordSuccessLedgerWarning (sourceCount : Nat) : Service (List BackupCompletionWarning) := do
  let write : Service Unit := do
    let answer ← ask .now
    occur .successWritten
    let _ ← ask (.writeSuccess identity.runId today answer.time loaded.fingerprint sourceCount)
  match ← write.attempt with
  | .ok _ => return []
  | .error e => return [⟨.successLedger, e.failureCode, e.what⟩]

/-- `execute_plan`. -/
def executePlan : Service BackupExecutionResult := do
  match ← executeRun plan with
  | .completed actionsCompleted =>
    let measured ← recordTargetStorage targetStorage loaded.profile
    match ← closeTargetOrFail loaded.profile.id identity.runId actionsCompleted operationKind with
    | some failed =>
      close
      return failed
    | none =>
      throwIfCancelled "backup cancelled during target cleanup"
      let ledger ← recordSuccessLedgerWarning identity loaded today plan.sources.length
      -- the sink does not throw, so there is no warning for the terminal status
      emit (.runCompleted loaded.profile.id identity.runId)
      close
      return .completed plan actionsCompleted (measured.toList ++ ledger)
  | .failed errorCode message actionsCompleted =>
    let _ ← recordTargetStorage targetStorage loaded.profile
    close
    return .failed loaded.profile.id identity.runId errorCode message actionsCompleted
  | .cancelled actionsCompleted =>
    let _ ← recordTargetStorage targetStorage loaded.profile
    close
    return .cancelled plan actionsCompleted

/-- The `try` block of `start_loaded_profile`. -/
def runLoadedProfile : Service BackupExecutionResult := do
  match ← acquireRunLease identity operationKind loaded with
  | some busy => return busy
  | none =>
    createPreparing loaded.profile.id identity.runId
    attachEventSink
    emit (.runStarted loaded.profile.id identity.runId operationKind)
    let plan ← prepareTargetAndPlan loaded.profile identity
    match ← finishValidationIfRequested targetStorage request identity operationKind loaded
      plan with
    | some validation => return validation
    | none =>
      let answer ← ask .localDate
      match ← skipIfDailyLimitReached targetStorage request identity operationKind loaded
          answer.date plan with
      | some skipped => return skipped
      | none => executePlan targetStorage identity operationKind loaded answer.date plan

/-- Measure the target and close the context, as every `catch` clause does. -/
def closeAfterFailure : Service Unit := do
  let _ ← recordTargetStorage targetStorage loaded.profile
  close

/-- The `catch` clauses of `start_loaded_profile`. -/
def handleRunError (error : Thrown) : Service BackupExecutionResult := do
  if error.isOperationCancelled then
    emit (.runCancelled
      { profileId := loaded.profile.id
        runId := identity.runId
        sourceId := none
        sourceIndex := 0
        actionKind := none
        errorCode := some .runnerCancelled
        message := error.what
        operationKind := operationKind })
    closeAfterFailure targetStorage loaded
    return .cancelled
      { profileId := loaded.profile.id
        runId := identity.runId
        targetMountPoint := loaded.profile.target.mountPoint.value
        sources := [] } 0
  if error.isBtrfsBackupError then
    let result ← emitRunFailed loaded.profile.id identity.runId error.failureCode error.what 0
      operationKind
    closeAfterFailure targetStorage loaded
    return result
  let _ ← emitRunFailed loaded.profile.id identity.runId .backupFailed error.what 0 operationKind
  closeAfterFailure targetStorage loaded
  .fail error

/-- `start_loaded_profile`; the destructor of the context closes it at every
exit. -/
def startLoadedProfile : Service BackupExecutionResult := do
  let run := (runLoadedProfile targetStorage request identity operationKind loaded).handleError
    (handleRunError targetStorage identity operationKind loaded)
  match ← run.attempt with
  | .ok result =>
    close
    return result
  | .error e =>
    close
    .fail e

/-- `BackupService::start`; the clock and the generator gave the identity. -/
def start : Service BackupExecutionResult := do
  let operationKind := if request.validateOnly then .targetValidation else .backup
  match ← (ask (.loadProfile request.profileId)).attempt with
  | .ok answer => startLoadedProfile targetStorage request identity operationKind answer.loaded
  | .error e =>
    if e.isBtrfsBackupError then
      emitRunFailed request.profileId identity.runId e.failureCode e.what 0 operationKind
    else
      .fail e

end service

end BtrfsBackup
