/-
Cancelling a run through the files of its profile (`state/persistence/FileRunStateRepository`,
`state/query/RunState`, `state/cancellation/`, `backup/execution/RunExecutionContext`).

A run names itself in the `active-run` file.  Who wants to cancel it writes its
id to the `cancel-request` file, if it is the active run before and after; the
run polls that file.  Nothing locks the files: each operation on one of them is
a step of its own, and the steps of the runs and of any number of cancellers
interleave.

* `requestCancel` — what a canceller does;
* `successiveRuns` — the runs of a profile, one after the other;
* `cancellationPool` — all of them at the same time.
-/
import BtrfsBackup.Core
import BtrfsBackup.Lib.Interleaving

open Interaction Interaction.Prog

namespace BtrfsBackup

namespace Cancellation

inductive CancellationRequestOutcome where
  | accepted
  | staleRun
  | runMismatch
  deriving DecidableEq, Repr

/-! ### The files -/

/-- The files of a profile, the tokens of its runs, and which of them have
started to close. -/
structure CancellationState where
  activeRun : Option RunId
  cancelRequest : Option RunId
  cancelled : RunId → Bool
  closing : RunId → Bool
  /-- The runs for which a request was ever written. -/
  requested : List RunId

/-- The operations on the files.  Those of a canceller name the run it is to
cancel. -/
inductive CancellationCall where
  | readActiveRun
  | readCancelRequest
  | registerRun (run : RunId)
  | closeRun (run : RunId)
  | writeCancelRequest (run : RunId)
  /-- The second look at the active run. -/
  | confirmActiveRun (run : RunId)
  /-- The removal of the request if the run turns out not to be active. -/
  | withdrawCancelRequest (run : RunId)
  deriving DecidableEq

/-- An answer: the error of the operation, and whether an operation that throws
has changed the file. -/
structure FileAnswer where
  error : Option Thrown
  took : Bool
  deriving DecidableEq, Repr

/-- Programs on the files; they throw exceptions. -/
abbrev CancellationProg (α : Type) :=
  Prog CancellationCall FileAnswer CancellationState Thrown α

variable (call : CancellationCall) (run : RunId)

/-- Write or remove a file. -/
def changeFile (change : CancellationState → CancellationState) : CancellationProg Unit :=
  .effect call
    (fun answer state => if answer.error.isNone || answer.took then change state else state)
    fun answer _ =>
      match answer.error with
      | none => .ret ()
      | some e => .fail e

/-- `active_run`: no file and a file that cannot be read are the same. -/
def activeRun : CancellationProg (Option RunId) :=
  .effect call (fun _ state => state) fun answer state =>
    .ret (if answer.error.isSome then none else state.activeRun)

/-- `cancel_requested` for a run. -/
def cancelRequested : CancellationProg Bool :=
  .effect .readCancelRequest (fun _ state => state) fun answer state =>
    .ret (answer.error.isNone && decide (state.cancelRequest = some run))

/-- `write_cancel_request`. -/
def writeCancelRequest : CancellationProg Unit :=
  changeFile (.writeCancelRequest run) fun state =>
    { state with cancelRequest := some run, requested := run :: state.requested }

/-- `clear_cancel_request`. -/
def removeCancelRequest : CancellationProg Unit :=
  changeFile call fun state => { state with cancelRequest := none }

/-- `clear_cancel_request` for a run. -/
def clearCancelRequest : CancellationProg Unit := do
  let named ← cancelRequested run
  (if named then removeCancelRequest call else .ret ())

/-- `write_active_run`. -/
def writeActiveRun : CancellationProg Unit :=
  changeFile (.registerRun run) fun state => { state with activeRun := some run }

/-- `clear_active_run`. -/
def clearActiveRun : CancellationProg Unit := do
  let current ← activeRun .readActiveRun
  (if current = some run then
    changeFile (.closeRun run) fun state => { state with activeRun := none }
  else .ret ())

/-! ### Cancellers -/

/-- The end of `request_cancel` if the run is not active any more. -/
def withdraw (outcome : CancellationRequestOutcome) :
    CancellationProg CancellationRequestOutcome := do
  clearCancelRequest (.withdrawCancelRequest run) run
  .ret outcome

/-- The part of `request_cancel` after the request is written. -/
def confirmCancel : CancellationProg CancellationRequestOutcome := do
  let confirmed ← activeRun (.confirmActiveRun run)
  match confirmed with
  | none => withdraw run .staleRun
  | some other => if other ≠ run then withdraw run .runMismatch else .ret .accepted

/-- `FileRunStateRepository::request_cancel`. -/
def requestCancel : CancellationProg CancellationRequestOutcome := do
  let active ← activeRun .readActiveRun
  match active with
  | none => .ret .staleRun
  | some other =>
    if other ≠ run then .ret .runMismatch
    else (writeCancelRequest run).bind fun _ => confirmCancel run

/-! ### Runs -/

/-- The run starts to close. -/
def startClosing : CancellationProg Unit :=
  .note (fun state => { state with closing := Function.update state.closing run true }) (.ret ())

/-- The destructor of a `FileActiveRunRegistration` whose run could not be
registered. -/
def dropRegistration (e : Thrown) : CancellationProg Unit := do
  startClosing run
  let _ ← (clearActiveRun run).attempt
  Prog.fail e

/-- `FileRunStateRepository::register_active_run`. -/
def registerActiveRun : CancellationProg Unit :=
  (do
    removeCancelRequest (.registerRun run)
    writeActiveRun run).handleError (dropRegistration run)

/-- `PollingCancellationWatch::run`, for a number of polls. -/
def poll (run : RunId) : Nat → CancellationProg Unit
  | 0 => .ret ()
  | polls + 1 => do
    let requested ← cancelRequested run
    (if requested then
      .note (fun state => { state with cancelled := Function.update state.cancelled run true })
        (.ret ())
    else poll run polls)

/-- `RunExecutionContext::close`, as far as it concerns the files: errors are
reported, not thrown. -/
def closeRun : CancellationProg Unit := do
  startClosing run
  let _ ← (clearActiveRun run).attempt
  let _ ← (clearCancelRequest (.closeRun run) run).attempt
  .ret ()

/-- A run from its registration to its end; one that cannot be registered is over. -/
def performRun (run : RunId × Nat) : CancellationProg Unit :=
  (do
    registerActiveRun run.1
    poll run.1 run.2
    closeRun run.1).handleError fun _ => .ret ()

/-- The runs of a profile, each with the number of its polls; the lease keeps
them apart. -/
def successiveRuns (runs : List (RunId × Nat)) : CancellationProg Unit :=
  forEach performRun runs

/-! ### All together -/

/-- Who takes part. -/
inductive Party where
  | runs
  | canceller (number : Nat)
  deriving DecidableEq, Repr

/-- The runs of a profile, and a canceller for each number. -/
def cancellationPool (runs : List (RunId × Nat)) (requests : Nat → RunId) :
    Pool Party CancellationCall FileAnswer CancellationState Thrown
      (Option CancellationRequestOutcome) where
  state := ⟨none, none, fun _ => false, fun _ => false, []⟩
  thread
    | .runs => (successiveRuns runs).bind fun _ => .ret none
    | .canceller number => (requestCancel (requests number)).bind fun outcome => .ret (some outcome)

end Cancellation

end BtrfsBackup
