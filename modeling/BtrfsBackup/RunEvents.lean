/-
What a run reports and returns (`backup/model/BackupRunEvent`,
`BackupRunExecution`, `BackupExecution`).

* `BackupRunEvent` — the events of a run; `BackupRunEvent.isTerminal` holds of
  those that end one;
* `BackupExecutionResult` — what `BackupService::start` returns;
* `BackupExecutionResult.Matches` — the kind of terminal event that belongs to a
  result.
-/
import BtrfsBackup.BackupRunPlan

namespace BtrfsBackup

inductive OperationKind where
  | backup
  | targetValidation
  | planning
  deriving DecidableEq, Repr

/-! ### Transfers -/

inductive TransferEventKind where
  | started
  | progress
  | producerFinished
  | consumerFinished
  | cancelled
  | completed
  deriving DecidableEq, Repr

inductive TransferActivity where
  | transferring
  | sizing
  deriving DecidableEq, Repr

structure TransferEvent where
  kind : TransferEventKind
  activity : TransferActivity
  bytesTransferred : UInt64
  bytesProduced : UInt64
  bytesTotalEstimated : UInt64
  deltaBytes : UInt64
  elapsedMs : UInt64
  speedBps : UInt64
  message : String
  deriving DecidableEq

inductive BackupTransferStage where
  | sizing
  | transferring
  deriving DecidableEq, Repr

/-- `TransferProgress`, less the source it belongs to. -/
structure TransferProgress where
  stage : BackupTransferStage
  bytesTransferred : UInt64
  bytesProduced : UInt64
  bytesTotalEstimated : UInt64
  runBytesTransferred : UInt64
  deltaBytes : UInt64
  elapsedMs : UInt64
  speedBps : UInt64
  message : String
  deriving DecidableEq

/-! ### Events -/

/-- The run, source and position of a source event. -/
structure SourceOfEvent where
  profileId : ProfileId
  runId : RunId
  sourceId : SourceId
  sourceIndex : Nat
  deriving DecidableEq

structure RunFailed where
  profileId : ProfileId
  runId : RunId
  errorCode : ErrorCode
  message : String
  operationKind : OperationKind
  deriving DecidableEq

structure RunCancelled where
  profileId : ProfileId
  runId : RunId
  sourceId : Option SourceId
  sourceIndex : Nat
  actionKind : Option BackupRunActionKind
  errorCode : Option ErrorCode
  message : String
  operationKind : OperationKind
  deriving DecidableEq

inductive BackupRunEvent where
  | runStarted (profileId : ProfileId) (runId : RunId) (operationKind : OperationKind)
  | sourceStarted (source : SourceOfEvent)
  | actionStarted (source : SourceOfEvent) (actionKind : BackupRunActionKind)
  | transferProgress (source : SourceOfEvent) (progress : TransferProgress)
  | actionCompleted (source : SourceOfEvent) (actionKind : BackupRunActionKind)
  | actionFailed (source : SourceOfEvent) (actionKind : BackupRunActionKind)
      (errorCode : Option ErrorCode) (message : String)
  | checkpointWritten (source : SourceOfEvent) (actionKind : BackupRunActionKind)
  | sourceCompleted (source : SourceOfEvent)
  | targetValidationCompleted (profileId : ProfileId) (runId : RunId)
  | runCompleted (profileId : ProfileId) (runId : RunId)
  | runFailed (event : RunFailed)
  | runCancelled (event : RunCancelled)
  deriving DecidableEq

/-- The events that end a run. -/
def BackupRunEvent.isTerminal : BackupRunEvent → Bool
  | targetValidationCompleted .. => true
  | runCompleted .. => true
  | runFailed _ => true
  | runCancelled _ => true
  | _ => false

/-! ### Results -/

inductive BackupRunExecutionResult where
  | completed (actionsCompleted : Nat)
  | cancelled (actionsCompleted : Nat)
  | failed (errorCode : ErrorCode) (errorMessage : String) (actionsCompleted : Nat)
  deriving DecidableEq, Repr

inductive BackupCompletionWarningComponent where
  | successLedger
  | terminalStatus
  | targetStorageMeasurement
  deriving DecidableEq, Repr

structure BackupCompletionWarning where
  component : BackupCompletionWarningComponent
  errorCode : ErrorCode
  message : String
  deriving DecidableEq, Repr

structure BackupRequest where
  profileId : ProfileId
  force : Bool
  validateOnly : Bool

inductive BackupExecutionResult where
  | completed (plan : BackupRunPlan) (actionsCompleted : Nat)
      (warnings : List BackupCompletionWarning)
  | skipped (plan : BackupRunPlan)
  | cancelled (plan : BackupRunPlan) (actionsCompleted : Nat)
  | busy (profileId : ProfileId) (runId : RunId) (errorCode : ErrorCode) (errorMessage : String)
  | validated (plan : BackupRunPlan)
  | failed (profileId : ProfileId) (runId : RunId) (errorCode : ErrorCode) (errorMessage : String)
      (actionsCompleted : Nat)

namespace BackupExecutionResult

/-- Did the run skip its work because of the daily limit? -/
def isSkipped : BackupExecutionResult → Bool
  | skipped _ => true
  | _ => false

/-- Did the run complete? -/
def isCompleted : BackupExecutionResult → Bool
  | completed .. => true
  | _ => false

/-- Did the run do what was asked for? -/
def isSuccess : BackupExecutionResult → Bool
  | completed .. => true
  | skipped _ => true
  | validated _ => true
  | _ => false

/-- The terminal event belongs to the result; a busy run is a failed one. -/
def Matches : BackupExecutionResult → BackupRunEvent → Prop
  | completed .., .runCompleted .. => True
  | cancelled .., .runCancelled _ => True
  | busy _ _ errorCode errorMessage, .runFailed event =>
    event.errorCode = errorCode ∧ event.message = errorMessage
  | validated _, .targetValidationCompleted .. => True
  | failed _ _ errorCode errorMessage _, .runFailed event =>
    event.errorCode = errorCode ∧ event.message = errorMessage
  | _, _ => False

end BackupExecutionResult

end BtrfsBackup
