/-
Moving a stream from one process to another
(`platform/linux/transfer/PosixTransferRuntime`, `PosixTransferPump`,
`TransferChildTermination`, `backup/transfer/TransferResult`).

A producer writes to a pipe, the runtime splices the bytes into the pipe that
is the consumer's standard input, and an event loop watches both processes,
their diagnostics and a cancellation signal.  Between any two system calls of
the loop the producer may write more bytes or close its end; what the calls
return is up to the environment, except that bytes move as a pipe moves them.

* `TransferState` — the pipes and the members of the runtime;
* `pollOnce`, `pumpReadyData`, `reapChildren` — the parts of the loop;
* `transfer` — from the spawned processes to the result, for a number of
  iterations of each loop.
-/
import BtrfsBackup.Core
import BtrfsBackup.Lib.Interaction

open Interaction Interaction.Prog

namespace BtrfsBackup

namespace Transfer

/-! ### Results -/

/-- The state of a `TransferSideResult`. -/
inductive SideState where
  | notStarted
  | running
  | exited (code : Int)
  deriving DecidableEq, Repr

structure TransferSideResult where
  state : SideState
  diagnostics : String
  deriving DecidableEq, Repr

namespace TransferSideResult

variable (side : TransferSideResult)

def started : Bool := side.state != .notStarted

/-- `exit_code`. -/
def exitCode : Option Int :=
  match side.state with
  | .exited code => some code
  | _ => none

/-- `append_diagnostic`. -/
def appendDiagnostic (message : String) : TransferSideResult :=
  { side with diagnostics :=
      (if side.diagnostics = "" then message else side.diagnostics ++ "\n" ++ message) }

/-- `mark_exited`. -/
def markExited (code : Int) : TransferSideResult :=
  { side with state := .exited code }

end TransferSideResult

/-- `TransferResult`, as far as it is about the stream. -/
structure TransferResult where
  cancelled : Bool
  producer : TransferSideResult
  consumer : TransferSideResult
  bytesProduced : Nat
  bytesTransferred : Nat
  deriving DecidableEq, Repr

/-- `transfer_succeeded`. -/
def transferSucceeded (result : TransferResult) : Bool :=
  !result.cancelled && result.producer.exitCode == some 0 && result.consumer.exitCode == some 0

/-! ### Calls and answers -/

/-- The descriptors the loop polls. -/
inductive PollChannel where
  | producerOutput
  | consumerInput
  | producerDiagnostics
  | consumerDiagnostics
  | cancellation
  deriving DecidableEq, Repr

/-- `revents`. -/
structure PollEvents where
  pollin : Bool
  pollout : Bool
  pollhup : Bool
  pollerr : Bool
  pollnval : Bool
  deriving DecidableEq, Repr

def PollEvents.none : PollEvents := ⟨false, false, false, false, false⟩

/-- What `poll` returns. -/
inductive PollOutcome where
  | ready (events : PollChannel → PollEvents)
  | interrupted
  | failed (message : String)

/-- What the environment wants `splice` to return.  How many bytes are there, and
whether the stream has ended, is for the pipe to say. -/
inductive SpliceAnswer where
  | move (count : Nat)
  | interrupted
  | wouldBlock
  | failed (message : String)
  deriving DecidableEq, Repr

/-- What `waitpid` returns. -/
inductive WaitOutcome where
  | running
  | exited (code : Int)
  | failed (message : String)
  deriving DecidableEq, Repr

/-- What the runtime asks of its environment. -/
inductive TransferCall where
  | setNonblocking
  | closeDataReadEnd
  | closeConsumerInput
  | cancellationRequested
  | processGroupExists
  | clock
  | poll
  | splice
  | wait
  deriving DecidableEq, Repr

/-- An answer: what the producer does before the call (bytes it writes, and whether
it then closes its end), and what the call returns. -/
structure TransferAnswer where
  writes : List UInt8
  closes : Bool
  error : Option Thrown
  flag : Bool
  poll : PollOutcome
  splice : SpliceAnswer
  wait : WaitOutcome

/-! ### The state -/

/-- `TransferChildTermination`; of the deadline it matters whether there is one. -/
structure TransferChildTermination where
  terminateSent : Bool
  killSent : Bool
  deadline : Bool
  deriving DecidableEq, Repr

def TransferChildTermination.pending (termination : TransferChildTermination) : Bool :=
  termination.terminateSent && termination.deadline

/-- Why the runtime closed its end of the producer's pipe. -/
inductive CloseReason where
  | endOfStream
  | notStarted
  | cancelled
  | pollFailed
  | invalidOutput
  | consumerClosed
  | spliceFailed
  deriving DecidableEq, Repr

/-- The two sides of a transfer. -/
inductive Side where
  | producer
  | consumer
  deriving DecidableEq, Repr

/-- The pipes, and the members of `PosixTransferRuntime`. -/
structure TransferState where
  /-- All bytes the producer has written. -/
  written : List UInt8
  /-- The bytes in the producer's pipe. -/
  pipe : List UInt8
  /-- No writer of the producer's pipe is left. -/
  producerClosed : Bool
  /-- All bytes put into the consumer's pipe. -/
  delivered : List UInt8
  dataReadEnd : Bool
  consumerInputWriteEnd : Bool
  /-- How many bytes the consumer had been given when its input was closed. -/
  endOfFileAt : Option Nat
  /-- Why the producer's pipe was closed, and what was left in it. -/
  closed : Option (CloseReason × List UInt8)
  producerStdoutOpen : Bool
  consumerStdinOpen : Bool
  producerStdoutReady : Bool
  consumerStdinReady : Bool
  producerStderrOpen : Bool
  consumerStderrOpen : Bool
  producerDone : Bool
  consumerDone : Bool
  cancellationSent : Bool
  producerTermination : TransferChildTermination
  consumerTermination : TransferChildTermination
  result : TransferResult

/-- Why a program of the runtime has no result. -/
inductive TransferStop where
  | thrown (e : Thrown)
  /-- The number of iterations is used up: the loop goes on. -/
  | unfinished
  deriving DecidableEq, Repr

/-- Programs of the runtime. -/
abbrev TransferProg (α : Type) :=
  Prog TransferCall TransferAnswer TransferState TransferStop α

namespace TransferState

variable (state : TransferState)

/-- What the producer does between two calls; a pipe without a reader takes no bytes. -/
def produce (answer : TransferAnswer) : TransferState :=
  if state.dataReadEnd && !state.producerClosed then
    { state with
      written := state.written ++ answer.writes
      pipe := state.pipe ++ answer.writes
      producerClosed := answer.closes }
  else state

/-- The end of the data pipe is closed; what it holds is lost. -/
def closeDataReadEnd (reason : CloseReason) : TransferState :=
  if state.dataReadEnd then
    { state with dataReadEnd := false, closed := some (reason, state.pipe) }
  else state

/-- The consumer's input is closed: it reads an end of file after what it was given. -/
def closeConsumerInput : TransferState :=
  if state.consumerInputWriteEnd then
    { state with consumerInputWriteEnd := false, endOfFileAt := some state.delivered.length }
  else state

/-- Bytes move from one pipe to the other. -/
def move (count : Nat) : TransferState :=
  { state with
    pipe := state.pipe.drop count
    delivered := state.delivered ++ state.pipe.take count }

/-- Whether a side is done. -/
def done : Side → Bool
  | .producer => state.producerDone
  | .consumer => state.consumerDone

def termination : Side → TransferChildTermination
  | .producer => state.producerTermination
  | .consumer => state.consumerTermination

def side : Side → TransferSideResult
  | .producer => state.result.producer
  | .consumer => state.result.consumer

def setDone : Side → TransferState
  | .producer => { state with producerDone := true }
  | .consumer => { state with consumerDone := true }

def setTermination (termination : TransferChildTermination) : Side → TransferState
  | .producer => { state with producerTermination := termination }
  | .consumer => { state with consumerTermination := termination }

def setSide (result : TransferSideResult) : Side → TransferState
  | .producer => { state with result := { state.result with producer := result } }
  | .consumer => { state with result := { state.result with consumer := result } }

def closeStderr : Side → TransferState
  | .producer => { state with producerStderrOpen := false }
  | .consumer => { state with consumerStderrOpen := false }

end TransferState

/-! ### Basic programs -/

/-- Change a member. -/
def assign (change : TransferState → TransferState) : TransferProg Unit := .note change (.ret ())

/-- A question that changes nothing. -/
def ask {α : Type} (call : TransferCall) (answered : TransferAnswer → α) : TransferProg α :=
  .effect call (fun answer state => state.produce answer) fun answer _ => .ret (answered answer)

/-- `data_read_end_.reset(); producer_stdout_open_ = false`. -/
def closeDataReadEnd (reason : CloseReason) : TransferProg Unit :=
  .effect .closeDataReadEnd
    (fun answer state =>
      { (state.produce answer).closeDataReadEnd reason with producerStdoutOpen := false })
    fun _ _ => .ret ()

/-- `consumer_input_write_end_.reset(); consumer_stdin_open_ = false`. -/
def closeConsumerInput : TransferProg Unit :=
  .effect .closeConsumerInput
    (fun answer state =>
      { (state.produce answer).closeConsumerInput with consumerStdinOpen := false })
    fun _ _ => .ret ()

/-- `append_diagnostic` for a side. -/
def appendDiagnostic (side : Side) (message : String) : TransferProg Unit :=
  assign fun state => state.setSide ((state.side side).appendDiagnostic message) side

/-! ### Terminating a child -/

/-- `TransferChildTermination::request`. -/
def requestTermination (side : Side) : TransferProg Unit :=
  .look fun state =>
    if (state.termination side).terminateSent || !(state.side side).started then .ret ()
    else do
      let groupExists ← (if state.done side then ask .processGroupExists (·.flag) else .ret true)
      (if groupExists then
        assign fun state =>
          state.setTermination
            { state.termination side with terminateSent := true, deadline := true } side
      else .ret ())

/-- `reap_posix_transfer_process`, returning whether the child was reaped. -/
def reapProcess (side : Side) : TransferProg Bool := do
  let outcome ← ask .wait (·.wait)
  match outcome with
  | .running => .ret false
  | .failed message =>
    (assign fun state => state.setSide
      { (state.side side).markExited 128 with diagnostics := "waitpid failed: " ++ message }
      side).bind fun _ => .ret true
  | .exited code =>
    (assign fun state => state.setSide ((state.side side).markExited code) side).bind
      fun _ => .ret true

/-- The end of `TransferChildTermination::advance`: the deadline after SIGKILL has
passed. -/
def giveUpChild (side : Side) : TransferProg Unit := do
  assign fun state =>
    state.setTermination { state.termination side with deadline := false } side
  .look fun state =>
    if state.done side then .ret ()
    else do
      let reaped ← reapProcess side
      (if reaped then .ret ()
      else do
        assign fun state => state.setSide ((state.side side).markExited (128 + 9)) side
        appendDiagnostic side "did not become waitable after SIGKILL")
      assign fun state => state.setDone side
  assign fun state => state.closeStderr side

/-- `TransferChildTermination::advance`, and what `advance_terminations` does with
its result. -/
def advanceTermination (side : Side) : TransferProg Unit :=
  .look fun state =>
    if !(state.termination side).pending then .ret ()
    else do
      let groupExists ← (if state.done side then ask .processGroupExists (·.flag) else .ret true)
      (if !groupExists then
        assign fun state =>
          state.setTermination { state.termination side with deadline := false } side
      else do
        let passed ← ask .clock (·.flag)
        (if !passed then .ret ()
        else if !(state.termination side).killSent then do
          assign fun state =>
            state.setTermination { state.termination side with killSent := true, deadline := true }
              side
          appendDiagnostic side "did not exit after SIGTERM; sent SIGKILL"
        else giveUpChild side))

/-! ### The event loop -/

/-- `cancel_transfer`. -/
def cancelTransfer : TransferProg Unit :=
  .look fun state =>
    if state.cancellationSent then .ret ()
    else do
      assign fun state => { state with result := { state.result with cancelled := true } }
      requestTermination .producer
      requestTermination .consumer
      (if state.consumerStdinOpen then closeConsumerInput else .ret ())
      (if state.producerStdoutOpen then closeDataReadEnd .cancelled else .ret ())
      assign fun state => { state with cancellationSent := true }

/-- The descriptors `poll_once` polls. -/
def interests (state : TransferState) : List PollChannel :=
  (if state.producerStdoutOpen && !state.producerStdoutReady then [.producerOutput] else []) ++
  (if state.producerStdoutOpen && state.consumerStdinOpen && !state.consumerStdinReady then
    [.consumerInput] else []) ++
  (if state.producerStderrOpen then [.producerDiagnostics] else []) ++
  (if state.consumerStderrOpen then [.consumerDiagnostics] else []) ++
  (if !state.cancellationSent then [.cancellation] else [])

/-- What `poll_once` does if `poll` fails. -/
def pollFailed (message : String) : TransferProg Unit := do
  appendDiagnostic .producer ("transfer poll failed: " ++ message)
  appendDiagnostic .consumer ("transfer poll failed: " ++ message)
  closeDataReadEnd .pollFailed
  closeConsumerInput
  assign fun state => (state.closeStderr .producer).closeStderr .consumer
  requestTermination .producer
  requestTermination .consumer

/-- The producer's descriptor is not valid. -/
def invalidOutput : TransferProg Unit := do
  appendDiagnostic .producer "stdout pipe became invalid"
  closeDataReadEnd .invalidOutput
  assign fun state => { state with producerStdoutReady := false }
  .look fun state =>
    if state.consumerStdinOpen then do
      closeConsumerInput
      assign fun state => { state with consumerStdinReady := false }
    else .ret ()
  requestTermination .producer
  requestTermination .consumer

/-- The consumer has closed its standard input. -/
def consumerClosed : TransferProg Unit := do
  appendDiagnostic .consumer "stdin closed before transfer completed"
  closeConsumerInput
  assign fun state => { state with consumerStdinReady := false }
  .look fun state =>
    if state.producerStdoutOpen then do
      closeDataReadEnd .consumerClosed
      assign fun state => { state with producerStdoutReady := false }
    else .ret ()
  requestTermination .producer

/-- The body of the loop over the polled descriptors. -/
def handleEvents (events : PollChannel → PollEvents) (channel : PollChannel) :
    TransferProg Unit :=
  let ready := events channel
  match channel with
  | .producerOutput =>
    if ready.pollnval then invalidOutput
    else if ready.pollin || ready.pollhup then
      assign fun state => { state with producerStdoutReady := true }
    else .ret ()
  | .consumerInput =>
    if ready.pollhup || ready.pollerr || ready.pollnval then consumerClosed
    else if ready.pollout then
      assign fun state => { state with consumerStdinReady := true }
    else .ret ()
  | .producerDiagnostics =>
    if ready.pollhup then assign fun state => state.closeStderr .producer else .ret ()
  | .consumerDiagnostics =>
    if ready.pollhup then assign fun state => state.closeStderr .consumer else .ret ()
  | .cancellation => if ready.pollin then cancelTransfer else .ret ()

/-- `poll_once`. -/
def pollOnce : TransferProg Unit :=
  .look fun state =>
    if interests state = [] then .ret ()
    else do
      let outcome ← ask .poll (·.poll)
      match outcome with
      | .failed message => pollFailed message
      | .interrupted => .ret ()
      | .ready events => forEach (handleEvents events) (interests state)

/-- `splice_chunk_bytes`. -/
def spliceChunkBytes : Nat := 1024 * 1024

/-- `splice_cycle_budget_bytes`. -/
def spliceCycleBudgetBytes : Nat := 16 * 1024 * 1024

/-- How `pump_posix_transfer` ended. -/
inductive PumpEnd where
  | endOfStream
  | wouldBlock
  | error (message : String)
  deriving DecidableEq, Repr

/-- What `splice` returns. -/
inductive SpliceResult where
  | moved (count : Nat)
  | endOfStream
  | interrupted
  | wouldBlock
  | failed (message : String)
  deriving DecidableEq, Repr

/-- What `splice` returns in a state: from an empty pipe nothing moves, and the
stream has ended if it has no writer. -/
def spliceResult (state : TransferState) : SpliceAnswer → SpliceResult
  | .interrupted => .interrupted
  | .wouldBlock => .wouldBlock
  | .failed message => .failed message
  | .move count =>
    if state.pipe = [] then
      if state.producerClosed then .endOfStream else .wouldBlock
    else .moved (min (count + 1) (min spliceChunkBytes state.pipe.length))

/-- `splice_pipe`. -/
def splicePipe : TransferProg SpliceResult :=
  .effect .splice
    (fun answer state =>
      match spliceResult (state.produce answer) answer.splice with
      | .moved count => (state.produce answer).move count
      | _ => state.produce answer)
    fun answer state => .ret (spliceResult (state.produce answer) answer.splice)

/-- `pump_posix_transfer`: the number of bytes moved, and how it ended. -/
def pumpPosixTransfer : Nat → Nat → TransferProg (Nat × PumpEnd)
  | 0, _ => .fail .unfinished
  | fuel + 1, moved =>
    if moved < spliceCycleBudgetBytes then do
      let result ← splicePipe
      match result with
      | .moved count => pumpPosixTransfer fuel (moved + count)
      | .endOfStream => .ret (moved, .endOfStream)
      | .interrupted => pumpPosixTransfer fuel moved
      | .wouldBlock => .ret (moved, .wouldBlock)
      | .failed message => .ret (moved, .error ("stream splice failed: " ++ message))
    else .ret (moved, .wouldBlock)

/-- What `pump_ready_data` does at the end of the stream. -/
def endStream : TransferProg Unit := do
  closeDataReadEnd .endOfStream
  assign fun state => { state with producerStdoutReady := false }
  closeConsumerInput
  assign fun state => { state with consumerStdinReady := false }

/-- What `pump_ready_data` does if `splice` fails. -/
def spliceFailed (message : String) : TransferProg Unit := do
  appendDiagnostic .consumer message
  closeConsumerInput
  assign fun state => { state with consumerStdinReady := false }
  closeDataReadEnd .spliceFailed
  assign fun state => { state with producerStdoutReady := false }
  requestTermination .producer
  requestTermination .consumer

/-- The part of `pump_ready_data` after the pump. -/
def afterPump (moved : Nat) (pumpEnd : PumpEnd) : TransferProg Unit := do
  assign fun state =>
    { state with result :=
        { state.result with
          bytesProduced := state.result.bytesProduced + moved
          bytesTransferred := state.result.bytesTransferred + moved } }
  match pumpEnd with
  | .endOfStream => endStream
  | .wouldBlock =>
    assign fun state => { state with producerStdoutReady := false, consumerStdinReady := false }
  | .error message => spliceFailed message

/-- `pump_ready_data`. -/
def pumpReadyData (fuel : Nat) : TransferProg Unit :=
  .look fun state =>
    if state.producerStdoutOpen && state.consumerStdinOpen && state.producerStdoutReady &&
        state.consumerStdinReady then do
      let pump ← pumpPosixTransfer fuel 0
      afterPump pump.1 pump.2
    else .ret ()

/-- `reap_children`, for a side. -/
def reapChild (side : Side) : TransferProg Unit :=
  .look fun state =>
    if state.done side then .ret ()
    else do
      let reaped ← reapProcess side
      (if reaped then assign fun state => state.setDone side else .ret ())

/-- `loop_pending`. -/
def loopPending (state : TransferState) : Bool :=
  !state.producerDone || !state.consumerDone || state.producerStdoutOpen ||
    state.producerStderrOpen || state.consumerStderrOpen || state.producerTermination.pending ||
    state.consumerTermination.pending

/-- The body of `run_event_loop`. -/
def loopBody (fuel : Nat) : TransferProg Unit := do
  let requested ← ask .cancellationRequested (·.flag)
  (if requested then cancelTransfer else .ret ())
  advanceTermination .producer
  advanceTermination .consumer
  pollOnce
  pumpReadyData fuel
  reapChild .producer
  reapChild .consumer

/-- `run_event_loop`. -/
def runEventLoop : Nat → TransferProg Unit
  | 0 => .fail .unfinished
  | fuel + 1 =>
    .look fun state =>
      if loopPending state then (loopBody fuel).bind fun _ => runEventLoop fuel else .ret ()

/-! ### The whole transfer -/

/-- The state after `spawn_sides`; `producer` and `consumer` tell which was started. -/
def spawned (producer consumer : TransferSideResult) : TransferState where
  written := []
  pipe := []
  producerClosed := false
  delivered := []
  dataReadEnd := true
  consumerInputWriteEnd := true
  endOfFileAt := none
  closed := none
  producerStdoutOpen := false
  consumerStdinOpen := false
  producerStdoutReady := false
  consumerStdinReady := false
  producerStderrOpen := false
  consumerStderrOpen := false
  producerDone := true
  consumerDone := true
  cancellationSent := false
  producerTermination := ⟨false, false, false⟩
  consumerTermination := ⟨false, false, false⟩
  result := ⟨false, producer, consumer, 0, 0⟩

/-- `set_nonblocking`. -/
def setNonblocking : TransferProg Unit := do
  let error ← ask .setNonblocking (·.error)
  match error with
  | none => .ret ()
  | some e => Prog.fail (.thrown e)

/-- `close_child_endpoints`. -/
def closeChildEndpoints : TransferProg Unit :=
  .look fun state => do
    let producer := state.result.producer.started
    let consumer := state.result.consumer.started
    (if producer then setNonblocking.bind fun _ => setNonblocking
      else closeDataReadEnd .notStarted)
    (if consumer then setNonblocking.bind fun _ => setNonblocking else closeConsumerInput)
    assign fun state =>
      { state with
        producerStdoutOpen := producer
        consumerStdinOpen := consumer
        producerStderrOpen := producer
        consumerStderrOpen := consumer
        producerDone := !producer
        consumerDone := !consumer }
    (if !producer && consumer then closeConsumerInput else .ret ())
    (if !consumer && producer then do
      closeDataReadEnd .notStarted
      requestTermination .producer
    else .ret ())

/-- A transfer from the spawned processes to its result. -/
def transfer (fuel : Nat) : TransferProg TransferResult := do
  closeChildEndpoints
  runEventLoop fuel
  .look fun state => .ret state.result

end Transfer

end BtrfsBackup
