/-
Executing a plan (`backup/execution/BackupRunExecutor`, `BackupActionExecutor`,
`BackupRunCheckpointPolicy`, `DefaultBackupRunFactory`).

The executor is a program over calls to its ports: what a call returns, whether
it throws, and whether cancellation has been requested when the executor looks,
is up to the environment's `ServiceAnswer`.  Events go to a sink that does not
throw; they are recorded in the `trace` of the state, the last one first.

* `RunExecutionContext` — what a run holds while it goes on;
* `executePlan` — the actions of all sources, in order.
-/
import BtrfsBackup.Lib.Interaction
import BtrfsBackup.RunEvents

open Interaction

namespace BtrfsBackup

/-! ### Calls and answers -/

structure LoadedProfile where
  profile : Profile
  fingerprint : String

inductive TargetCleanupStage where
  | mountUnit
  | cryptsetupUnit
  deriving DecidableEq, Repr

structure TargetCleanupError where
  stage : TargetCleanupStage
  unit : String
  exitCode : Int
  message : String
  deriving DecidableEq, Repr

/-- The calls of the service and the executor to their ports. -/
inductive ServiceCall where
  | loadProfile (profileId : ProfileId)
  | tryAcquireLease (profile : Profile)
  | openCheckpoints (profileId : ProfileId)
  | registerActiveRun (profileId : ProfileId) (runId : RunId)
  | watchCancellation (profileId : ProfileId) (runId : RunId)
  | cancellationRequested
  | prepareTarget (profile : Profile)
  | validateMounts (profile : Profile)
  | closeTarget
  | discover (profile : Profile)
  | buildPlan (profile : Profile) (runId : RunId) (startedAt : RuntimeTimePoint)
  | now
  | localDate
  | lastSuccessMatches (date : LocalDate) (fingerprint : String)
  | createActionHandlers (plan : BackupRunPlan)
  | executeAction (action : BackupRunAction)
  | writeCheckpoint (source : SourceOfEvent) (actionKind : BackupRunActionKind)
  | measureTarget (profile : Profile)
  | writeSuccess (runId : RunId) (date : LocalDate) (timestamp : RuntimeTimePoint)
      (fingerprint : String) (sourceCount : Nat)
  | writeSkipped (runId : RunId) (startedAt finishedAt : RuntimeTimePoint) (sourceCount : Nat)
  | closeCancellationWatch
  | closeActiveRun
  | clearCancelRequest (profileId : ProfileId) (runId : RunId)

/-- The answer to a call. -/
structure ServiceAnswer where
  /-- What the call throws, if it does. -/
  thrown : Option Thrown
  /-- Is cancellation requested, did the last success match, was the transfer
  cancelled? -/
  flag : Bool
  /-- `BackupRunLeaseBusy`. -/
  busy : Option (ErrorCode × String)
  loaded : LoadedProfile
  plan : BackupRunPlan
  time : RuntimeTimePoint
  date : LocalDate
  /-- What a transfer reports while it goes on. -/
  transferEvents : List TransferEvent
  bytesTransferred : UInt64
  /-- What closing the target session returns. -/
  cleanupError : Option TargetCleanupError
  /-- `CleanupDiagnostic` of a closed registration or watch. -/
  diagnostic : Option String

/-! ### State -/

/-- What a run has to give back. -/
inductive Resource where
  | lease
  | activeRun
  | targetSession
  deriving DecidableEq, Repr

/-- What can be observed of a run. -/
inductive Occurrence where
  | emitted (event : BackupRunEvent)
  | acquired (resource : Resource)
  | released (resource : Resource)
  /-- `write_success` was called. -/
  | successWritten
  /-- `write_skipped` was called. -/
  | skippedWritten
  deriving DecidableEq

inductive RunExecutionContextCloseStage where
  | cancellationWatch
  | activeRun
  | cancellationRequest
  | targetSession
  deriving DecidableEq, Repr

/-- `RunExecutionContext`: which of its members it still holds. -/
structure RunExecutionContext where
  profileId : ProfileId
  runId : RunId
  activeRun : Bool
  cancellationWatch : Bool
  checkpoints : Bool
  lease : Bool
  targetSession : Bool
  verifiedTargetMount : Bool
  events : Bool
  targetCloseAttempted : Bool
  targetCloseError : Option TargetCleanupError
  closed : Bool
  /-- `close_result_`. -/
  failures : List (RunExecutionContextCloseStage × String)

/-- The state of a call to the service. -/
structure ServiceState where
  /-- What happened so far, the last one first. -/
  trace : List Occurrence
  context : Option RunExecutionContext

/-- Programs of the service. -/
abbrev Service (α : Type) := Prog ServiceCall ServiceAnswer ServiceState Thrown α

/-- The state after an occurrence. -/
def ServiceState.record (occurrence : Occurrence) (s : ServiceState) : ServiceState :=
  { s with trace := occurrence :: s.trace }

def occur (occurrence : Occurrence) : Service Unit := .note (.record occurrence) (pure ())

/-- `on_backup_run_event`. -/
def emit (event : BackupRunEvent) : Service Unit := occur (.emitted event)

/-- A call that may throw. -/
def ask (call : ServiceCall) : Service ServiceAnswer :=
  .effect call (fun _ s => s) fun answer _ =>
    match answer.thrown with
    | some e => .fail e
    | none => .ret answer

/-- A call that does not throw. -/
def askNoexcept (call : ServiceCall) : Service ServiceAnswer :=
  .effect call (fun _ s => s) fun answer _ => .ret answer

/-- `cancellation_requested`. -/
def cancellationRequested : Service Bool := do
  let answer ← askNoexcept .cancellationRequested
  pure answer.flag

/-! ### The executor -/

section executor

variable (plan : BackupRunPlan) (source : BackupSourceRunPlan)

/-- `source_index_for_event`. -/
def sourceIndexForEvent : Nat :=
  match plan.sources.findIdx? fun other => decide (other.sourceId = source.sourceId) with
  | some i => i + 1
  | none => 0

def sourceOfEvent : SourceOfEvent :=
  ⟨plan.profileId, plan.runId, source.sourceId, sourceIndexForEvent plan source⟩

/-- `BackupRunExecutor::emit_cancelled`. -/
def emitCancelled (actionKind : Option BackupRunActionKind)
    (errorCode : Option ErrorCode) (message : String) : Service Unit :=
  emit (.runCancelled
    { profileId := plan.profileId
      runId := plan.runId
      sourceId := some source.sourceId
      sourceIndex := sourceIndexForEvent plan source
      actionKind := actionKind
      errorCode := errorCode
      message := message
      operationKind := .backup })

/-- `emit_action_failure`. -/
def emitActionFailure (actionKind : BackupRunActionKind)
    (error : Thrown) : Service Unit :=
  emit (.actionFailed (sourceOfEvent plan source) actionKind (some error.failureCode) error.what)

/-- `BackupTransferEventAdapter::on_transfer_event`. -/
def onTransferEvent (completedRunBytes : UInt64)
    (event : TransferEvent) : Service Unit :=
  if event.kind ≠ .progress then pure ()
  else
    emit (.transferProgress (sourceOfEvent plan source)
      { stage := if event.activity = .sizing then .sizing else .transferring
        bytesTransferred := event.bytesTransferred
        bytesProduced := event.bytesProduced
        bytesTotalEstimated := event.bytesTotalEstimated
        runBytesTransferred := completedRunBytes + event.bytesTransferred
        deltaBytes := event.deltaBytes
        elapsedMs := event.elapsedMs
        speedBps := event.speedBps
        message := event.message })

/-- `BackupActionExecutor::execute`: whether the action was cancelled, and the
bytes it transferred.  Only a transfer reports progress. -/
def performAction (completedRunBytes : UInt64)
    (action : BackupRunAction) : Service (Bool × UInt64) :=
  .effect (.executeAction action) (fun _ s => s) fun answer _ =>
    match action with
    | .sendReceive _ => do
      Prog.forEach (onTransferEvent plan source completedRunBytes) answer.transferEvents
      match answer.thrown with
      | some e => .fail e
      | none => pure (answer.flag, answer.bytesTransferred)
    | _ =>
      match answer.thrown with
      | some e => .fail e
      | none => pure (false, 0)

/-- How a part of the loop ends: `execute` returns, or it goes on with the number
of completed actions and the bytes of the run. -/
inductive LoopExit where
  | returned (result : BackupRunExecutionResult)
  | goesOn (actionsCompleted : Nat) (completedRunBytes : UInt64)
  deriving DecidableEq, Repr

/-- The body of the loop over the actions of a source. -/
def executeOneAction (actionsCompleted : Nat)
    (completedRunBytes : UInt64) (action : BackupRunAction) : Service LoopExit := do
  if ← cancellationRequested then
    emitCancelled plan source none none ""
    return .returned (.cancelled actionsCompleted)
  emit (.actionStarted (sourceOfEvent plan source) action.kind)
  match ← (performAction plan source completedRunBytes action).attempt with
  | .ok (cancelled, bytes) =>
    if cancelled then
      emitCancelled plan source (some action.kind) none ""
      return .returned (.cancelled actionsCompleted)
    emit (.actionCompleted (sourceOfEvent plan source) action.kind)
    -- `BackupRunCheckpointPolicy::after_success`
    let _ ← ask (.writeCheckpoint (sourceOfEvent plan source) action.kind)
    emit (.checkpointWritten (sourceOfEvent plan source) action.kind)
    return .goesOn (actionsCompleted + 1) (completedRunBytes + bytes)
  | .error e =>
    if e.isOperationCancelled then
      emitCancelled plan source (some action.kind) (some .runnerCancelled) e.what
      return .returned (.cancelled actionsCompleted)
    emitActionFailure plan source action.kind e
    if e.isBtrfsBackupError then
      emit (.runFailed ⟨plan.profileId, plan.runId, e.failureCode, e.what, .backup⟩)
      return .returned (.failed e.failureCode e.what actionsCompleted)
    .fail e

/-- The loop over the actions of a source. -/
def executeActionsOf (source : BackupSourceRunPlan) :
    List BackupRunAction → Nat → UInt64 → Service LoopExit
  | [], actionsCompleted, completedRunBytes => pure (.goesOn actionsCompleted completedRunBytes)
  | action :: actions, actionsCompleted, completedRunBytes => do
    match ← executeOneAction plan source actionsCompleted completedRunBytes action with
    | .returned result => return .returned result
    | .goesOn actionsCompleted completedRunBytes =>
      executeActionsOf source actions actionsCompleted completedRunBytes

/-- The loop over the sources. -/
def executeSources : List BackupSourceRunPlan → Nat → UInt64 → Service BackupRunExecutionResult
  | [], actionsCompleted, _ => pure (.completed actionsCompleted)
  | source :: sources, actionsCompleted, completedRunBytes => do
    if ← cancellationRequested then
      emitCancelled plan source none none ""
      return .cancelled actionsCompleted
    emit (.sourceStarted (sourceOfEvent plan source))
    match ← executeActionsOf plan source source.actions actionsCompleted completedRunBytes with
    | .returned result => return result
    | .goesOn actionsCompleted completedRunBytes => do
      emit (.sourceCompleted (sourceOfEvent plan source))
      executeSources sources actionsCompleted completedRunBytes

/-- `DefaultBackupRunFactory::execute` and `BackupRunExecutor::execute`. -/
def executeRun : Service BackupRunExecutionResult := do
  let _ ← ask (.createActionHandlers plan)
  executeSources plan plan.sources 0 0

end executor

end BtrfsBackup
