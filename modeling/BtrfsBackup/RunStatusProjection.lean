/-
The projection of the events of a run on its status (`state/projection/RunStatusProjection`,
`RunStatusBuilder`).

Of a status only its progress is kept, and which documents are to be written for it.  The rounding
of `long double`, what the publication policy decides and whether writing a document throws are
arguments.

* `eventProjectionData` — what the projection reads of an event;
* `progressForEvent` — the progress of `status_for_event`;
* `onBackupRunEvent` — the projection.
-/
import BtrfsBackup.RunEvents

namespace BtrfsBackup

namespace Status

/-! ### Events -/

inductive BackupRunEventKind where
  | runStarted
  | sourceStarted
  | actionStarted
  | transferProgress
  | actionCompleted
  | actionFailed
  | checkpointWritten
  | sourceCompleted
  | targetValidationCompleted
  | runCompleted
  | runFailed
  | runCancelled
  deriving DecidableEq, Repr

/-- `RunEventData`, less what only the texts of a status depend on. -/
structure RunEventData where
  kind : BackupRunEventKind
  operationKind : OperationKind
  runId : RunId
  sourceId : Option SourceId
  sourceIndex : Nat
  actionKind : Option BackupRunActionKind
  bytesTransferred : UInt64 := 0
  bytesTotalEstimated : UInt64 := 0
  runBytesTransferred : UInt64 := 0
  speedBps : UInt64 := 0
  deriving DecidableEq

variable (kind : BackupRunEventKind) (event : BackupRunEvent)

def sourceEventData (source : SourceOfEvent)
    (actionKind : Option BackupRunActionKind) : RunEventData where
  kind := kind
  operationKind := .backup
  runId := source.runId
  sourceId := some source.sourceId
  sourceIndex := source.sourceIndex
  actionKind := actionKind

def runEventData (operationKind : OperationKind) (runId : RunId) :
    RunEventData where
  kind := kind
  operationKind := operationKind
  runId := runId
  sourceId := none
  sourceIndex := 0
  actionKind := none

/-- `event_projection_data`. -/
def eventProjectionData : BackupRunEvent → RunEventData
  | .runStarted _ runId operationKind => runEventData .runStarted operationKind runId
  | .sourceStarted source => sourceEventData .sourceStarted source none
  | .actionStarted source actionKind => sourceEventData .actionStarted source (some actionKind)
  | .transferProgress source progress =>
    { sourceEventData .transferProgress source (some .sendReceive) with
      bytesTransferred := progress.bytesTransferred
      bytesTotalEstimated := progress.bytesTotalEstimated
      runBytesTransferred := progress.runBytesTransferred
      speedBps := progress.speedBps }
  | .actionCompleted source actionKind => sourceEventData .actionCompleted source (some actionKind)
  | .actionFailed source actionKind _ _ => sourceEventData .actionFailed source (some actionKind)
  | .checkpointWritten source actionKind =>
    sourceEventData .checkpointWritten source (some actionKind)
  | .sourceCompleted source => sourceEventData .sourceCompleted source none
  | .targetValidationCompleted _ runId =>
    runEventData .targetValidationCompleted .targetValidation runId
  | .runCompleted _ runId => runEventData .runCompleted .backup runId
  | .runFailed event => runEventData .runFailed event.operationKind event.runId
  | .runCancelled event =>
    { runEventData .runCancelled event.operationKind event.runId with
      sourceId := event.sourceId
      sourceIndex := event.sourceIndex
      actionKind := event.actionKind }

def kindOf : BackupRunEventKind := (eventProjectionData event).kind

def runOf : RunId := (eventProjectionData event).runId

/-- The number of the source of an event, from one on; zero if it has none. -/
def sourceNumber : Nat := (eventProjectionData event).sourceIndex

/-- The events that end a run well. -/
def BackupRunEventKind.isFinal : Bool :=
  kind == .runCompleted || kind == .targetValidationCompleted

/-! ### The order of events -/

/-- The events of a run over `count` sources, the last one first: it starts first if it starts at
all, its events are about its sources, and a source is completed before the sources after it have
begun and before the run ends well. -/
def Orderly (runId : RunId) (count : Nat) : List BackupRunEvent → Prop
  | [] => True
  | event :: earlier => Orderly runId count earlier ∧ runOf event = runId ∧
      (kindOf event = .runStarted → earlier = []) ∧ sourceNumber event ≤ count ∧
      ∀ source, event = .sourceCompleted source →
        ∀ other ∈ earlier, sourceNumber other ≤ source.sourceIndex ∧ (kindOf other).isFinal = false

/-! ### Progress -/

inductive ProgressAccuracy where
  | indeterminate
  | estimated
  | exact
  deriving DecidableEq, Repr

structure RunProgress where
  processedBytes : UInt64
  estimatedBytes : Option UInt64
  runProcessedBytes : UInt64
  speedBps : UInt64
  etaSeconds : Option Int
  sourcePercent : Option Int
  overallPercent : Option Int
  accuracy : ProgressAccuracy
  deriving DecidableEq

section progress

-- the rounding of `long double`
variable (round : ℚ → ℚ) (sourceCount : Int) (data : RunEventData)

/-- `estimated_source_progress`. -/
def estimatedSourceProgress : Int :=
  if data.bytesTotalEstimated = 0 then -1
  else if data.bytesTotalEstimated ≤ data.bytesTransferred then 100
  else
    ⌊round (round (round data.bytesTransferred.toNat * 100) /
      round data.bytesTotalEstimated.toNat)⌋

/-- `std::clamp`. -/
def clamp (value low high : Int) : Int := if value < low then low else min value high

/-- `estimated_overall_progress`. -/
def estimatedOverallProgress (sourceProgress : Int) : Int :=
  if sourceCount ≤ 0 then -1
  else if data.kind = .runCompleted ∨ data.kind = .targetValidationCompleted then 100
  else if data.kind = .sourceCompleted ∧ 0 < data.sourceIndex then
    (clamp data.sourceIndex 0 sourceCount * 100).tdiv sourceCount
  else if data.kind = .transferProgress ∧ sourceProgress < 0 then -1
  else if data.sourceId.isSome ∧ 0 < data.sourceIndex then
    (clamp ((data.sourceIndex : Int) - 1) 0 sourceCount * 100 +
      (if 0 ≤ sourceProgress then clamp sourceProgress 0 100 else 0)).tdiv sourceCount
  else 0

/-- `estimated_eta_seconds`. -/
def estimatedEtaSeconds : Int :=
  if data.bytesTotalEstimated = 0 ∨ data.speedBps = 0 ∨
      data.bytesTotalEstimated ≤ data.bytesTransferred then -1
  else
    let remaining := (data.bytesTotalEstimated - data.bytesTransferred).toNat
    let seconds := remaining / data.speedBps.toNat +
      (if remaining % data.speedBps.toNat = 0 then 0 else 1)
    if 2 ^ 31 - 1 < seconds then 2 ^ 31 - 1 else seconds

/-- A number that stands for nothing when it is negative. -/
def nonNegative (value : Int) : Option Int := if value < 0 then none else some value

/-- The progress of `status_for_event`. -/
def progressForEvent (minimumOverallProgress : Int) : RunProgress :=
  let transfer := data.kind == .transferProgress
  let sourceProgress := if transfer then estimatedSourceProgress round data else -1
  let estimated := estimatedOverallProgress sourceCount data sourceProgress
  let overall :=
    if 0 ≤ estimated ∧ 0 ≤ minimumOverallProgress ∧ data.kind ≠ .runStarted then
      max estimated minimumOverallProgress
    else estimated
  { processedBytes := if transfer then data.bytesTransferred else 0
    estimatedBytes :=
      if transfer ∧ data.bytesTotalEstimated ≠ 0 then some data.bytesTotalEstimated else none
    runProcessedBytes :=
      if transfer then
        (if data.runBytesTransferred = 0 then data.bytesTransferred else data.runBytesTransferred)
      else 0
    speedBps := if transfer then data.speedBps else 0
    etaSeconds := nonNegative (if transfer then estimatedEtaSeconds data else -1)
    sourcePercent := nonNegative sourceProgress
    overallPercent := nonNegative overall
    accuracy :=
      if transfer then (if 0 ≤ sourceProgress then .exact else .indeterminate)
      else if 0 ≤ overall then .estimated else .indeterminate }

end progress

/-! ### The projection -/

/-- `is_terminal_event`. -/
def BackupRunEventKind.isTerminal : Bool :=
  kind == .targetValidationCompleted || kind == .runCompleted || kind == .runFailed ||
    kind == .runCancelled

/-- `should_write_history`. -/
def BackupRunEventKind.writesHistory (operationKind : OperationKind) :
    Bool :=
  operationKind == .backup && (kind == .runFailed || kind == .runCompleted || kind == .runCancelled)

structure PendingActionFailure where
  runId : RunId
  sourceId : SourceId
  sourceIndex : Nat
  actionKind : BackupRunActionKind

/-- The members of `RunStatusProjection` that change, less those of the publication policy. -/
structure ProjectionState where
  runId : Option RunId
  operationKind : OperationKind
  pendingActionFailure : Option PendingActionFailure
  runStarted : Bool
  lastOverallProgress : Int
  runBytesProcessed : UInt64

namespace ProjectionState

/-- The members before the first event. -/
def initial : ProjectionState where
  runId := none
  operationKind := .backup
  pendingActionFailure := none
  runStarted := false
  lastOverallProgress := -1
  runBytesProcessed := 0

variable (state : ProjectionState) (data : RunEventData)

/-- What a new run, or a new start of the same one, resets. -/
def beginRun : ProjectionState :=
  if some data.runId ≠ state.runId then
    { runId := some data.runId
      pendingActionFailure := none
      runStarted := data.kind == .runStarted
      lastOverallProgress := -1
      runBytesProcessed := 0
      operationKind := data.operationKind }
  else if data.kind = .runStarted then
    { state with
      runStarted := true
      pendingActionFailure := none
      lastOverallProgress := -1
      runBytesProcessed := 0
      operationKind := data.operationKind }
  else state

/-- A validation that has completed was one from the start. -/
def noteValidation : ProjectionState :=
  if data.kind = .targetValidationCompleted then
    { state with operationKind := .targetValidation }
  else state

/-- Remember the action that failed. -/
def noteFailure : ProjectionState :=
  match data.kind, data.sourceId, data.actionKind with
  | .actionFailed, some sourceId, some actionKind =>
    { state with
      pendingActionFailure := some ⟨data.runId, sourceId, data.sourceIndex, actionKind⟩ }
  | _, _, _ => state

/-- The members when the status of an event is built. -/
def observe : ProjectionState :=
  ((state.beginRun data).noteValidation data).noteFailure data

/-- The event as the status shows it: a failed run is a failed action. -/
def complete : RunEventData :=
  match data.kind, state.pendingActionFailure with
  | .runFailed, some pending =>
    if pending.runId = data.runId then
      { data with
        operationKind := state.operationKind
        sourceId := some pending.sourceId
        sourceIndex := pending.sourceIndex
        actionKind := some pending.actionKind }
    else { data with operationKind := state.operationKind }
  | _, _ => { data with operationKind := state.operationKind }

/-- Account for the progress of a status. -/
def account (progress : RunProgress) : ProjectionState :=
  { state with
    runBytesProcessed := max state.runBytesProcessed progress.runProcessedBytes
    lastOverallProgress := progress.overallPercent.getD state.lastOverallProgress }

/-- The end of the run, when nothing was thrown. -/
def finish (kind : BackupRunEventKind) : ProjectionState :=
  if kind.isTerminal then
    { state with pendingActionFailure := none, runStarted := false } else state

end ProjectionState

/-- The documents of a run. -/
inductive RunDocument where
  | current
  | history
  deriving DecidableEq, Repr

/-- What the projection gets for an event. -/
structure SinkAnswer where
  /-- `should_publish` of the policy -/
  shouldPublish : Bool
  /-- Does writing a document throw? -/
  throws : Bool

/-- What an event does to the projection. -/
structure ProjectionStep where
  state : ProjectionState
  /-- of the status that is built -/
  progress : Option RunProgress
  /-- to be written, in order -/
  documents : List RunDocument

section projection

variable (round : ℚ → ℚ) (sourceCount : Int) (state : ProjectionState) (data : RunEventData)

/-- The progress of an event; a terminal one reports all bytes of the run. -/
def buildProgress : RunProgress :=
  let progress := progressForEvent round sourceCount data state.lastOverallProgress
  if data.kind.isTerminal then
    { progress with
      runProcessedBytes := max state.runBytesProcessed progress.runProcessedBytes }
  else progress

/-- The documents that are written for an event. -/
def documentsOf (answer : SinkAnswer) : List RunDocument :=
  (if (data.kind != .runFailed || state.runStarted) && answer.shouldPublish then [.current]
    else []) ++
  if data.kind.writesHistory data.operationKind then [.history] else []

/-- `on_backup_run_event`; there is no status for a checkpoint. -/
def onBackupRunEvent (answer : SinkAnswer) (state : ProjectionState) (event : BackupRunEvent) :
    ProjectionStep :=
  let read := eventProjectionData event
  if read.kind = .checkpointWritten then ⟨state, none, []⟩
  else
    let observed := state.observe read
    let data := observed.complete read
    let progress := buildProgress round sourceCount observed data
    let accounted := observed.account progress
    { state := if answer.throws then accounted else accounted.finish data.kind
      progress := some progress
      documents := documentsOf accounted data answer }

end projection

end Status

end BtrfsBackup
