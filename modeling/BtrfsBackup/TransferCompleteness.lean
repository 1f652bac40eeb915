/-
What a successful transfer has moved.

The success of a transfer is judged from the exit codes of its two processes.
That is enough if the runtime closes the producer's pipe at the end of the
stream: then every byte was delivered, in order, and the consumer's input was
closed after the last one.  But the pipe is also closed when the consumer closes
its input, or when `poll` or `splice` fail; bytes that are still in it are then
lost, and if both processes exit with 0 the transfer counts as successful.

* `Lossless` — the answers of the environment that lose nothing;
* `Books` — the accounts of a transfer: what was written is what was delivered
  and what is in the pipe;
* `transfer_complete` — a successful transfer with such answers is complete;
* `Sample.consumer_leaves` — a successful transfer that lost its bytes.
-/
import BtrfsBackup.TransferRuntime
import BtrfsBackup.Lib.Interleaving

open Interaction Interaction.Prog

namespace BtrfsBackup

namespace Transfer

/-- All bytes were delivered, in order, they were counted, and the consumer's
input was closed after the last one. -/
def Complete (result : TransferResult) (state : TransferState) : Prop :=
  state.delivered = state.written ∧ result.bytesTransferred = state.written.length ∧
    state.endOfFileAt = some state.written.length

instance (result : TransferResult) (state : TransferState) : Decidable (Complete result state) :=
  inferInstanceAs (Decidable (_ ∧ _))

/-! ### What loses bytes -/

/-- A side that was not started, and that nothing is done to. -/
def Unstarted (side : Side) (state : TransferState) : Prop :=
  (state.side side).started = false ∧ state.done side = true ∧
    (state.termination side).terminateSent = false

instance (side : Side) (state : TransferState) : Decidable (Unstarted side state) :=
  inferInstanceAs (Decidable (_ ∧ _))

/-- The transfer does not count as a success, whatever happens. -/
def Excused (state : TransferState) : Prop :=
  state.result.cancelled = true ∨ Unstarted .producer state ∨ Unstarted .consumer state

instance (state : TransferState) : Decidable (Excused state) :=
  inferInstanceAs (Decidable (_ ∨ _))

/-- The stream has ended. -/
def Drained (state : TransferState) : Prop := state.pipe = [] ∧ state.producerClosed = true

instance (state : TransferState) : Decidable (Drained state) :=
  inferInstanceAs (Decidable (_ ∧ _))

/-- Nothing is lost if the producer's pipe is closed, or it does not matter. -/
def Spent (free : TransferState → Prop) (state : TransferState) : Prop :=
  state.dataReadEnd = false ∨ Drained state ∨ free state

instance (free : TransferState → Prop) [DecidablePred free] (state : TransferState) :
    Decidable (Spent free state) :=
  inferInstanceAs (Decidable (_ ∨ _))

/-- What `poll` returns for the polled descriptors makes the loop close both pipes. -/
def PollOutcome.givesUp (channels : List PollChannel) : PollOutcome → Bool
  | .failed _ => true
  | .interrupted => false
  | .ready events => channels.any fun
    | .consumerInput => (events .consumerInput).pollhup || (events .consumerInput).pollerr ||
        (events .consumerInput).pollnval
    | .producerOutput => (events .producerOutput).pollnval
    | _ => false

/-- Is it an answer that makes the loop close both pipes: a failed `poll` or `splice`, a
consumer that has closed its input, or an invalid descriptor? -/
def TransferAnswer.givesUp (answer : TransferAnswer) (state : TransferState) : TransferCall → Bool
  | .poll => answer.poll.givesUp (interests state)
  | .splice =>
    match answer.splice with
    | .failed _ => true
    | _ => false
  | _ => false

/-- Such an answer comes only when nothing can be lost by it. -/
def Lossless (call : TransferCall) (answer : TransferAnswer) (state : TransferState) : Prop :=
  answer.givesUp state call = true → Spent Excused (state.produce answer)

instance (call : TransferCall) (answer : TransferAnswer) (state : TransferState) :
    Decidable (Lossless call answer state) :=
  inferInstanceAs (Decidable (_ → _))

/-- What excuses a transfer goes on to do so. -/
structure SameProcesses (s t : TransferState) : Prop where
  cancelled : s.result.cancelled = true → t.result.cancelled = true
  unstarted : ∀ side, Unstarted side s → Unstarted side t

/-- The members that tell how far the processes are. -/
def TransferState.processes (s : TransferState) :
    Bool × (Side → TransferSideResult) × (Side → Bool) × (Side → TransferChildTermination) :=
  (s.result.cancelled, s.side, s.done, s.termination)

theorem sameProcesses_of_eq {s t : TransferState} (h : t.processes = s.processes) :
    SameProcesses s t := by
  simp only [TransferState.processes, Prod.mk.injEq] at h
  refine ⟨fun hc => h.1.trans hc, fun side hs => ?_⟩
  rw [Unstarted, h.2.1, h.2.2.1, h.2.2.2]
  exact hs

/-- Which answers there are, and when the producer's pipe may be closed with bytes in it. -/
structure Terms where
  allows : TransferCall → TransferAnswer → TransferState → Prop
  free : TransferState → Prop
  same : ∀ {s t}, free s → SameProcesses s t → free t
  excused : ∀ s, Excused s → free s
  spent : ∀ call answer s, allows call answer s → answer.givesUp s call = true →
    Spent free (s.produce answer)

/-- Any answers. -/
def Terms.any : Terms where
  allows _ _ _ := True
  free _ := True
  same _ _ := trivial
  excused _ _ := trivial
  spent _ _ _ _ _ := .inr (.inr trivial)

/-- No answers that lose bytes. -/
def Terms.lossless : Terms where
  allows := Lossless
  free := Excused
  same h hsame := h.imp hsame.cancelled fun h => h.imp (hsame.unstarted _) (hsame.unstarted _)
  excused _ h := h
  spent _ _ _ h := h

/-! ### The accounts -/

/-- The accounts of a transfer; `pending` bytes are delivered but not counted yet. -/
structure Books (T : Terms) (pending : Nat) (state : TransferState) : Prop where
  moved : state.delivered ++ state.pipe = state.written
  counted : state.result.bytesTransferred + pending = state.delivered.length
  input : state.endOfFileAt =
    if state.consumerInputWriteEnd then none else some state.delivered.length
  output : if state.dataReadEnd then state.closed = none
    else ∃ reason, state.closed = some (reason, state.pipe) ∧
      (state.pipe = [] ∨ reason ≠ .endOfStream ∧ T.free state)

variable {T : Terms}

section accounts

variable {pend : Nat} {state later : TransferState}

/-- The producer's pipe is as it was. -/
theorem Books.output_same (h : Books T pend state) (hread : later.dataReadEnd = state.dataReadEnd)
    (hclosed : later.closed = state.closed) (hpipe : later.pipe = state.pipe)
    (hsame : SameProcesses state later) : if later.dataReadEnd then later.closed = none
      else ∃ reason, later.closed = some (reason, later.pipe) ∧
        (later.pipe = [] ∨ reason ≠ .endOfStream ∧ T.free later) := by
  have houtput := h.output
  rw [hread, hclosed, hpipe]
  split
  · next hopen => rwa [if_pos hopen] at houtput
  · next hopen =>
    rw [if_neg hopen] at houtput
    obtain ⟨reason, hreason, hlost⟩ := houtput
    exact ⟨reason, hreason, hlost.imp_right fun h => ⟨h.1, T.same h.2 hsame⟩⟩

theorem Books.produce (h : Books T pend state) (ans : TransferAnswer) :
    Books T pend (state.produce ans) := by
  rw [TransferState.produce]
  split
  · next hopen =>
    have hread : state.dataReadEnd = true := (Bool.and_eq_true _ _ ▸ hopen).1
    refine ⟨?_, h.counted, h.input, ?_⟩
    · show state.delivered ++ (state.pipe ++ ans.writes) = state.written ++ ans.writes
      rw [← List.append_assoc, h.moved]
    · have houtput := h.output
      rw [if_pos hread] at houtput
      exact (if_pos hread).symm ▸ houtput
  · exact h

/-- The producer's pipe is closed. -/
theorem Books.closeDataReadEnd (h : Books T pend state) {reason}
    (hlost : state.dataReadEnd = true → state.pipe = [] ∨ reason ≠ .endOfStream ∧ T.free state) :
    Books T pend { state.closeDataReadEnd reason with producerStdoutOpen := false } := by
  rw [TransferState.closeDataReadEnd]
  split
  · next hread =>
    refine ⟨h.moved, h.counted, h.input, ⟨reason, rfl, (hlost hread).imp_right fun h => ?_⟩⟩
    exact ⟨h.1, T.same h.2 (sameProcesses_of_eq rfl)⟩
  · exact ⟨h.moved, h.counted, h.input, h.output_same rfl rfl rfl (sameProcesses_of_eq rfl)⟩

theorem Books.closeConsumerInput (h : Books T pend state) :
    Books T pend { state.closeConsumerInput with consumerStdinOpen := false } := by
  rw [TransferState.closeConsumerInput]
  split
  · exact ⟨h.moved, h.counted, rfl, h.output_same rfl rfl rfl (sameProcesses_of_eq rfl)⟩
  · exact ⟨h.moved, h.counted, h.input, h.output_same rfl rfl rfl (sameProcesses_of_eq rfl)⟩

/-- Bytes move into the consumer's pipe while both are open. -/
theorem Books.move (h : Books T pend state) (hread : state.dataReadEnd = true)
    (hwrite : state.consumerInputWriteEnd = true) {count : Nat}
    (hcount : count ≤ state.pipe.length) :
    Books T (pend + count) (state.move count) where
  moved := by
    show state.delivered ++ state.pipe.take count ++ state.pipe.drop count = state.written
    rw [List.append_assoc, List.take_append_drop, h.moved]
  counted := by
    show state.result.bytesTransferred + (pend + count) =
      (state.delivered ++ state.pipe.take count).length
    rw [List.length_append, List.length_take, Nat.min_eq_left hcount, ← h.counted, Nat.add_assoc]
  input := by
    have hinput := h.input
    rw [if_pos hwrite] at hinput
    exact hinput.trans (if_pos hwrite).symm
  output := by
    have houtput := h.output
    rw [if_pos hread] at houtput
    exact (if_pos hread).symm ▸ houtput

end accounts

/-- The members that say what is open are right. -/
def Flags (state : TransferState) : Prop :=
  state.producerStdoutOpen = state.dataReadEnd ∧
    state.consumerStdinOpen = state.consumerInputWriteEnd

/-- The accounts are right, and `ends` holds of what is open: the end of the
producer's pipe and the end of the consumer's; `spent` tells whether it is known that
nothing is lost by closing them. -/
structure Accounts (T : Terms) (spent : Bool) (ends : Bool → Bool → Prop)
    (state : TransferState) : Prop where
  books : Books T 0 state
  flags : Flags state
  ends : ends state.dataReadEnd state.consumerInputWriteEnd
  spent : spent = true → Spent T.free state

/-- What holds between the parts of the loop: the consumer's input is closed if the
producer's pipe is. -/
abbrev Sound (T : Terms) (spent : Bool) : TransferState → Prop :=
  Accounts T spent fun reading writing => reading = false → writing = false

theorem Accounts.mono {spent ends ends' state}
    (h : Accounts T spent ends state) (hends : ∀ reading writing, ends reading writing →
      ends' reading writing) : Accounts T spent ends' state :=
  ⟨h.books, h.flags, hends _ _ h.ends, h.spent⟩

/-- Where nothing is lost, it does not matter whether that is known. -/
theorem Accounts.of_spent {spent ends state} (h : Accounts T true ends state) :
    Accounts T spent ends state :=
  ⟨h.books, h.flags, h.ends, fun _ => h.spent rfl⟩

/-! ### Programs that keep the accounts -/

instance isRely_eq : IsRely (σ := TransferState) (· = ·) := ⟨fun _ => rfl, Eq.trans⟩

/-- From a state in `I` the program ends in a state in `J`, if it is answered on the
terms. -/
def Leads {α : Type} (T : Terms) (I : TransferState → Prop) (program : TransferProg α)
    (J : α → TransferState → Prop) : Prop :=
  ∀ s, I s → Guarded T.allows (· = ·) (fun _ _ => True) program J (fun _ _ => True) s

/-- The program keeps `I`, from its start to its end. -/
abbrev Restores {α : Type} (T : Terms) (I : TransferState → Prop) (program : TransferProg α) :
    Prop :=
  Leads T I program fun _ => I

section leads

variable {α β : Type} {I M : TransferState → Prop} {J : α → TransferState → Prop}

theorem leads_ret {a : α} (h : ∀ s, I s → J a s) : Leads T I (.ret a) J :=
  fun s hs _ ht => ht ▸ h s hs

theorem leads_fail {e} : Leads T I (.fail e : TransferProg α) J := fun _ _ _ _ => trivial

theorem leads_look {next}
    (h : ∀ s, I s → Leads T (fun t => t = s) (next s) J) : Leads T I (.look next) J := by
  rintro s hs _ rfl
  exact h s hs s rfl

theorem leads_assign {change} (h : ∀ s, I s → M (change s)) :
    Leads T I (assign change) fun _ => M := by
  rintro s hs _ rfl
  exact ⟨trivial, fun _ ht => ht ▸ h s hs⟩

/-- A call, and what is returned at once. -/
theorem leads_effect {call : TransferCall} {change} {value : TransferAnswer → TransferState → α}
    (h : ∀ ans s, I s → T.allows call ans s → J (value ans s) (change ans s)) :
    Leads T I (.effect call change fun ans s => .ret (value ans s)) J := by
  rintro s hs _ rfl ans hA
  exact ⟨trivial, fun _ ht => ht ▸ h ans s hs hA⟩

theorem Leads.bind {program : TransferProg β} {k N} (h : Leads T I program N)
    (hk : ∀ b, Leads T (N b) (k b) J) : Leads T I (program.bind k) J :=
  fun s hs => guarded_seq (h s hs) hk

theorem leads_ite {c : Prop} [Decidable c] {p q} (hp : c → Leads T I p J)
    (hq : ¬ c → Leads T I q J) : Leads T I (if c then p else q) J := by
  split
  · next h => exact hp h
  · next h => exact hq h

theorem leads_forEach {f} (bs : List β) (h : ∀ b ∈ bs, Restores T I (f b)) :
    Restores T I (forEach f bs) := by
  induction bs with
  | nil => exact leads_ret fun _ hs => hs
  | cons b rest ih =>
    exact (h b List.mem_cons_self).bind fun _ => ih fun c hc => h c (List.mem_cons_of_mem b hc)

theorem Leads.mono {program I' J'} (h : Leads T I program J) (hI : ∀ s, I' s → I s)
    (hJ : ∀ a s, J a s → J' a s) : Leads T I' program J' :=
  fun s hs => (h s (hI s hs)).mono_result hJ

/-- A program that is run in a known state. -/
theorem Leads.of_eq {s program} (h : Leads T I program J)
    (hs : I s) : Leads T (fun t => t = s) program J := by
  rintro t rfl
  exact h t hs

end leads

/-! ### Parts that do not touch the pipes -/

/-- The members that tell how far the pipes are. -/
def TransferState.pipes (s : TransferState) : List UInt8 × List UInt8 × Bool × List UInt8 × Bool ×
    Bool × Option Nat × Option (CloseReason × List UInt8) × Bool × Bool × Nat :=
  (s.written, s.pipe, s.producerClosed, s.delivered, s.dataReadEnd, s.consumerInputWriteEnd,
    s.endOfFileAt, s.closed, s.producerStdoutOpen, s.consumerStdinOpen, s.result.bytesTransferred)

/-- Nothing about the pipes is different. -/
structure SamePipes (s t : TransferState) : Prop extends SameProcesses s t where
  pipes : t.pipes = s.pipes

theorem samePipes_of_eq {s t : TransferState} (hpipes : t.pipes = s.pipes)
    (hprocesses : t.processes = s.processes) : SamePipes s t :=
  ⟨sameProcesses_of_eq hprocesses, hpipes⟩

/-- The result of a side changes, but not that of a side that was not started. -/
theorem samePipes_setSide (s : TransferState) {res : TransferSideResult} {side : Side}
    (hres : Unstarted side s → res.started = false) : SamePipes s (s.setSide res side) := by
  cases side with
  | producer => exact ⟨⟨id, fun | .producer, h => ⟨hres h, h.2⟩ | .consumer, h => h⟩, rfl⟩
  | consumer => exact ⟨⟨id, fun | .producer, h => h | .consumer, h => ⟨hres h, h.2⟩⟩, rfl⟩

theorem samePipes_setDone (s : TransferState) (side : Side) : SamePipes s (s.setDone side) := by
  cases side with
  | producer =>
    exact ⟨⟨id, fun | .producer, h => ⟨h.1, rfl, h.2.2⟩ | .consumer, h => h⟩, rfl⟩
  | consumer =>
    exact ⟨⟨id, fun | .producer, h => h | .consumer, h => ⟨h.1, rfl, h.2.2⟩⟩, rfl⟩

theorem samePipes_setTermination (s : TransferState) {termination : TransferChildTermination}
    {side : Side} (hterm : ¬Unstarted side s) :
    SamePipes s (s.setTermination termination side) := by
  cases side with
  | producer => exact ⟨⟨id, fun | .producer, h => absurd h hterm | .consumer, h => h⟩, rfl⟩
  | consumer => exact ⟨⟨id, fun | .producer, h => h | .consumer, h => absurd h hterm⟩, rfl⟩

theorem samePipes_closeStderr (s : TransferState) (side : Side) :
    SamePipes s (s.closeStderr side) := by
  cases side <;> exact samePipes_of_eq rfl rfl

/-- A predicate on the pipes: it does not depend on the other members, and the
producer may go on writing. -/
structure AboutPipes (I : TransferState → Prop) : Prop where
  produce : ∀ answer s, I s → I (s.produce answer)
  same : ∀ {s t}, I s → SamePipes s t → I t

variable {I : TransferState → Prop} {fuel pend : Nat} {msg : String} {reading writing : Bool}

theorem AboutPipes.assign (hI : AboutPipes I) {change} (h : ∀ s, SamePipes s (change s)) :
    Restores T I (assign change) := leads_assign fun s hs => hI.same hs (h s)

theorem AboutPipes.ask (hI : AboutPipes I) {α : Type}
    {call} {answered : TransferAnswer → α} : Restores T I (ask call answered) :=
  leads_effect fun ans s hs _ => hI.produce ans s hs

@[simp] theorem produce_processes (s : TransferState) (ans : TransferAnswer) :
    (s.produce ans).processes = s.processes := by
  rw [TransferState.produce]
  split <;> rfl

/-- A side that was started. -/
def Live (I : TransferState → Prop) (side : Side) (s : TransferState) : Prop :=
  I s ∧ ¬Unstarted side s

section pipes

variable {I : TransferState → Prop} (hI : AboutPipes I)

include hI

variable {side : Side}

theorem live_ask {α : Type} {call} {answered : TransferAnswer → α} :
    Restores T (Live I side) (ask call answered) :=
  leads_effect fun ans s hs _ => ⟨hI.produce ans s hs.1, fun h =>
    hs.2 ((sameProcesses_of_eq (produce_processes s ans).symm).unstarted side h)⟩

/-- The result of a side that has exited. -/
theorem live_setSide {res : TransferState → TransferSideResult}
    (hres : ∀ s, (res s).started = true) :
    Restores T (Live I side) (assign fun s => s.setSide (res s) side) := by
  refine leads_assign fun s hs => ⟨hI.same hs.1 (samePipes_setSide s fun h => absurd h hs.2), ?_⟩
  intro h
  have hstarted : ((s.setSide (res s) side).side side).started = true := by
    cases side <;> exact hres s
  exact Bool.false_ne_true (h.1.symm.trans hstarted)

theorem live_setTermination {termination : TransferState → TransferChildTermination} :
    Leads T (Live I side) (assign fun s => s.setTermination (termination s) side) fun _ => I :=
  leads_assign fun s hs => hI.same hs.1 (samePipes_setTermination s hs.2)

theorem live_groupExists {done : Bool} :
    Restores T (Live I side) (if done then ask .processGroupExists (·.flag) else .ret true) :=
  leads_ite (fun _ => live_ask hI) fun _ => leads_ret fun _ hs => hs

theorem restores_appendDiagnostic {msg : String} : Restores T I (appendDiagnostic side msg) :=
  hI.assign fun s => samePipes_setSide s fun h => h.1

theorem restores_requestTermination : Restores T I (requestTermination side) := by
  refine leads_look fun s hs => ?_
  refine leads_ite (fun _ => leads_ret fun t ht => ht ▸ hs) fun hstarted => ?_
  have hlive : Live I side s := ⟨hs, fun h => hstarted (by rw [h.1, Bool.not_false, Bool.or_true])⟩
  refine Leads.bind ((live_groupExists hI).of_eq hlive) fun groupExists => ?_
  exact leads_ite (fun _ => live_setTermination hI) fun _ => leads_ret fun _ ht => ht.1

theorem live_reapProcess : Restores T (Live I side) (reapProcess side) := by
  refine (live_ask hI).bind fun outcome => ?_
  cases outcome with
  | running => exact leads_ret fun _ hs => hs
  | exited code => exact (live_setSide hI fun _ => rfl).bind fun _ => leads_ret fun _ hs => hs
  | failed msg => exact (live_setSide hI fun _ => rfl).bind fun _ => leads_ret fun _ hs => hs

omit hI in
/-- A side that is not done was started. -/
theorem live_of_not_done {s : TransferState} (hs : I s) (hdone : ¬s.done side = true) :
    Live I side s := ⟨hs, fun h => hdone h.2.1⟩

theorem restores_giveUpChild : Leads T (Live I side) (giveUpChild side) fun _ => I := by
  refine (live_setTermination hI).bind fun _ => ?_
  refine Leads.bind (leads_look fun s hs => ?_) fun _ =>
    hI.assign fun s => samePipes_closeStderr s side
  refine leads_ite (fun _ => leads_ret fun t ht => ht ▸ hs) fun hdone => ?_
  refine Leads.bind ((live_reapProcess hI).of_eq (live_of_not_done hs hdone)) fun reaped => ?_
  refine Leads.bind (leads_ite (fun _ => leads_ret fun _ ht => ht.1) fun _ => ?_)
    fun _ => hI.assign fun t => samePipes_setDone t side
  exact ((live_setSide hI fun _ => rfl).mono (fun _ ht => ht) fun _ _ ht => ht.1).bind fun _ =>
    restores_appendDiagnostic hI

theorem restores_advanceTermination : Restores T I (advanceTermination side) := by
  refine leads_look fun s hs => ?_
  refine leads_ite (fun _ => leads_ret fun t ht => ht ▸ hs) fun hpending => ?_
  have hlive : Live I side s := ⟨hs, fun h => hpending (by
    rw [TransferChildTermination.pending, h.2.2, Bool.false_and, Bool.not_false])⟩
  refine Leads.bind ((live_groupExists hI).of_eq hlive) fun groupExists => ?_
  refine leads_ite (fun _ => live_setTermination hI) fun _ => ?_
  refine (live_ask hI).bind fun passed => ?_
  refine leads_ite (fun _ => leads_ret fun _ ht => ht.1) fun _ =>
    leads_ite (fun _ => ?_) fun _ => ?_
  · exact (live_setTermination hI).bind fun _ => restores_appendDiagnostic hI
  · exact restores_giveUpChild hI

theorem restores_reapChild : Restores T I (reapChild side) := by
  refine leads_look fun s hs => ?_
  refine leads_ite (fun _ => leads_ret fun t ht => ht ▸ hs) fun hdone => ?_
  refine Leads.bind ((live_reapProcess hI).of_eq (live_of_not_done hs hdone)) fun reaped => ?_
  exact leads_ite (fun _ => leads_assign fun t ht => hI.same ht.1 (samePipes_setDone t side))
    fun _ => leads_ret fun _ ht => ht.1

end pipes

/-! ### Closing the pipes -/

section closing

variable {ends : Bool → Bool → Prop} {spent : Bool}

@[simp] theorem produce_dataReadEnd (s : TransferState) (ans : TransferAnswer) :
    (s.produce ans).dataReadEnd = s.dataReadEnd := by
  rw [TransferState.produce]
  split <;> rfl

@[simp] theorem produce_consumerInputWriteEnd (s : TransferState) (ans : TransferAnswer) :
    (s.produce ans).consumerInputWriteEnd = s.consumerInputWriteEnd := by
  rw [TransferState.produce]
  split <;> rfl

variable {s : TransferState}

theorem Flags.produce (h : Flags s) (ans : TransferAnswer) : Flags (s.produce ans) := by
  rw [TransferState.produce]
  split <;> exact h

/-- A producer that has closed its end writes nothing more. -/
theorem Drained.produce (h : Drained s) (ans : TransferAnswer) : s.produce ans = s := by
  rw [TransferState.produce, h.2]
  simp

theorem Spent.produce (h : Spent T.free s) (ans : TransferAnswer) :
    Spent T.free (s.produce ans) := by
  rcases h with h | h | h
  · exact .inl (by rw [produce_dataReadEnd, h])
  · exact .inr (.inl (by rwa [h.produce]))
  · exact .inr (.inr (T.same h (sameProcesses_of_eq (produce_processes s ans))))

theorem Spent.same {t} (h : Spent T.free s) (hread : t.dataReadEnd = s.dataReadEnd)
    (hpipe : t.pipe = s.pipe) (hclosed : t.producerClosed = s.producerClosed)
    (hsame : SameProcesses s t) : Spent T.free t :=
  h.imp hread.trans fun h => h.imp (fun h => ⟨hpipe.trans h.1, hclosed.trans h.2⟩) (T.same · hsame)

theorem aboutPipes_accounts : AboutPipes (Accounts T spent ends) where
  produce ans s h := ⟨h.books.produce ans, h.flags.produce ans,
    by rw [produce_dataReadEnd, produce_consumerInputWriteEnd]; exact h.ends,
    fun hspent => (h.spent hspent).produce ans⟩
  same h hsame := by
    have hpipes := hsame.pipes
    simp only [TransferState.pipes, Prod.mk.injEq] at hpipes
    obtain ⟨hwritten, hpipe, hclosed, hdelivered, hread, hwrite, heof, hreason, hout, hin,
      hbytes⟩ :=
      hpipes
    exact ⟨⟨by rw [hdelivered, hpipe, hwritten, h.books.moved],
        by rw [hbytes, hdelivered, h.books.counted],
          by rw [heof, hwrite, hdelivered, h.books.input],
        h.books.output_same hread hreason hpipe hsame.toSameProcesses⟩,
      ⟨by rw [hout, hread, h.flags.1], by rw [hin, hwrite, h.flags.2]⟩,
      by rw [hread, hwrite]; exact h.ends,
      fun hspent => (h.spent hspent).same hread hpipe hclosed hsame.toSameProcesses⟩

theorem Accounts.closeDataReadEnd (h : Accounts T spent ends s) {reason}
    (hlost : s.dataReadEnd = true → s.pipe = [] ∨ reason ≠ .endOfStream ∧ T.free s) :
    Accounts T true (fun reading writing => reading = false ∧ ∃ was, ends was writing)
      { s.closeDataReadEnd reason with producerStdoutOpen := false } := by
  have hclosed : (s.closeDataReadEnd reason).dataReadEnd = false := by
    rw [TransferState.closeDataReadEnd]
    split
    · rfl
    · next hopen => exact Bool.eq_false_iff.mpr hopen
  have hsame : (s.closeDataReadEnd reason).consumerInputWriteEnd = s.consumerInputWriteEnd ∧
      (s.closeDataReadEnd reason).consumerStdinOpen = s.consumerStdinOpen := by
    rw [TransferState.closeDataReadEnd]
    split <;> exact ⟨rfl, rfl⟩
  exact ⟨h.books.closeDataReadEnd hlost,
    ⟨hclosed.symm, hsame.2.trans (h.flags.2.trans hsame.1.symm)⟩,
    ⟨hclosed, _, hsame.1 ▸ h.ends⟩, fun _ => .inl hclosed⟩

theorem Accounts.closeConsumerInput (h : Accounts T spent ends s) :
    Accounts T spent (fun reading writing => writing = false ∧ ∃ was, ends reading was)
      { s.closeConsumerInput with consumerStdinOpen := false } := by
  refine ⟨h.books.closeConsumerInput, ?_, ?_, fun hspent => ?_⟩
  · rw [TransferState.closeConsumerInput]
    split
    · exact ⟨h.flags.1, rfl⟩
    · next hclosed => exact ⟨h.flags.1, (Bool.not_eq_true _ ▸ hclosed).symm⟩
  · rw [TransferState.closeConsumerInput]
    split
    · exact ⟨rfl, _, h.ends⟩
    · next hclosed => exact ⟨Bool.not_eq_true _ ▸ hclosed, _, h.ends⟩
  · rw [TransferState.closeConsumerInput]
    split <;> exact (h.spent hspent).same rfl rfl rfl (sameProcesses_of_eq rfl)

/-- Without what is left in it, or where it does not matter. -/
theorem Spent.lost (h : Spent T.free s) {reason : CloseReason} (hreason : reason ≠ .endOfStream)
    (hread : s.dataReadEnd = true) : s.pipe = [] ∨ reason ≠ .endOfStream ∧ T.free s := by
  rcases h with h | h | h
  · rw [h] at hread
    cases hread
  · exact .inl h.1
  · exact .inr ⟨hreason, h⟩

theorem leads_closeDataReadEnd {reason} (hreason : reason ≠ .endOfStream) :
    Leads T (Accounts T true ends) (closeDataReadEnd reason) fun _ =>
      Accounts T true fun reading writing => reading = false ∧ ∃ was, ends was writing :=
  leads_effect fun ans s h _ =>
    (aboutPipes_accounts.produce ans s h).closeDataReadEnd
      ((Spent.produce (h.spent rfl) ans).lost hreason)

theorem leads_closeConsumerInput : Leads T (Accounts T spent ends) closeConsumerInput fun _ =>
      Accounts T spent fun reading writing => writing = false ∧ ∃ was, ends reading was :=
  leads_effect fun ans s h _ => (aboutPipes_accounts.produce ans s h).closeConsumerInput

/-- Once the consumer's input is closed, nothing is unpaired. -/
theorem Accounts.sound (h : Accounts T spent ends s)
    (hends : ∀ reading writing, ends reading writing → writing = false) : Sound T spent s :=
  h.mono fun _ _ he _ => hends _ _ he

end closing

/-! ### The event loop -/

theorem restores_cancelTransfer {spent} : Restores T (Sound T spent) cancelTransfer := by
  refine leads_look fun s hs => ?_
  refine leads_ite (fun _ => leads_ret fun t ht => ht ▸ hs) fun _ => ?_
  have hflags := hs.flags
  -- what is known to be closed when nothing has to be closed any more
  let ends : Bool → Bool → Prop := fun reading writing =>
    reading = s.dataReadEnd ∧ writing = s.consumerInputWriteEnd
  have hsame : AboutPipes (Accounts T true ends) := aboutPipes_accounts
  refine Leads.bind (N := fun _ => Accounts T true ends) (leads_assign fun t ht => ?_) fun _ => ?_
  · subst ht
    refine ⟨⟨hs.books.moved, hs.books.counted, hs.books.input, hs.books.output_same rfl rfl rfl
      ⟨fun _ => rfl, fun | .producer, h => h | .consumer, h => h⟩⟩, hs.flags, ⟨rfl, rfl⟩,
        fun _ => ?_⟩
    exact .inr (.inr (T.excused _ (.inl rfl)))
  refine (restores_requestTermination hsame).bind fun _ => ?_
  refine (restores_requestTermination hsame).bind fun _ => ?_
  refine Leads.bind (leads_ite (fun _ => leads_closeConsumerInput) fun hclosed => ?_) fun _ => ?_
  · refine leads_ret fun t ht => ht.mono fun reading writing hends => ⟨?_, _, hends⟩
    rw [hends.2, ← hflags.2]
    exact Bool.not_eq_true _ ▸ hclosed
  refine Leads.bind (N := fun _ => Sound T spent) (leads_ite (fun _ => ?_) fun _ => ?_) fun _ => ?_
  · exact (leads_closeDataReadEnd (by decide)).mono (fun _ ht => ht) fun _ _ ht =>
      (ht.sound fun _ _ hends => hends.2.elim fun _ h => h.1).of_spent
  · exact leads_ret fun t ht => (ht.sound fun _ _ hends => hends.1).of_spent
  · exact aboutPipes_accounts.assign fun _ => by exact samePipes_of_eq rfl rfl

theorem restores_pollFailed : Restores T (Sound T true) (pollFailed msg) := by
  refine (restores_appendDiagnostic aboutPipes_accounts).bind fun _ => ?_
  refine (restores_appendDiagnostic aboutPipes_accounts).bind fun _ => ?_
  refine (leads_closeDataReadEnd (by decide)).bind fun _ => ?_
  refine leads_closeConsumerInput.bind fun _ => ?_
  refine Leads.bind (N := fun _ => Sound T true) (leads_assign fun t ht => ?_) fun _ => ?_
  · have hproducer := aboutPipes_accounts.same ht (samePipes_closeStderr t .producer)
    exact (aboutPipes_accounts.same hproducer (samePipes_closeStderr _ .consumer)).sound
      fun _ _ h => h.1
  exact (restores_requestTermination aboutPipes_accounts).bind fun _ =>
    restores_requestTermination aboutPipes_accounts

theorem restores_invalidOutput : Restores T (Sound T true) invalidOutput := by
  refine (restores_appendDiagnostic aboutPipes_accounts).bind fun _ => ?_
  refine (leads_closeDataReadEnd (by decide)).bind fun _ => ?_
  refine (aboutPipes_accounts.assign fun _ => by exact samePipes_of_eq rfl rfl).bind fun _ => ?_
  refine Leads.bind (N := fun _ => Sound T true) (leads_look fun s hs => ?_) fun _ => ?_
  · refine leads_ite (fun _ => ?_) fun hclosed => leads_ret fun t ht => ?_
    · refine Leads.bind (leads_closeConsumerInput.of_eq hs) fun _ => leads_assign fun t ht => ?_
      have hsound : Sound T true t := ht.sound fun _ _ h => h.1
      exact aboutPipes_accounts.same hsound (samePipes_of_eq rfl rfl)
    · subst ht
      refine ⟨hs.books, hs.flags, fun _ => ?_, hs.spent⟩
      rw [← hs.flags.2]
      exact Bool.not_eq_true _ ▸ hclosed
  · exact (restores_requestTermination aboutPipes_accounts).bind fun _ =>
      restores_requestTermination aboutPipes_accounts

theorem restores_consumerClosed : Restores T (Sound T true) consumerClosed := by
  refine (restores_appendDiagnostic aboutPipes_accounts).bind fun _ => ?_
  refine leads_closeConsumerInput.bind fun _ => ?_
  refine (aboutPipes_accounts.assign fun _ => by exact samePipes_of_eq rfl rfl).bind fun _ => ?_
  refine Leads.bind (leads_look fun s hs => ?_) fun _ =>
    restores_requestTermination aboutPipes_accounts
  refine leads_ite (fun _ => ?_) fun _ => leads_ret fun t ht => ht ▸ hs.sound fun _ _ h => h.1
  refine Leads.bind ((leads_closeDataReadEnd (by decide)).of_eq hs) fun _ =>
    leads_assign fun t ht => ?_
  have hsound : Sound T true t := ht.sound fun _ _ h => h.2.elim fun _ hw => hw.1
  exact aboutPipes_accounts.same hsound (samePipes_of_eq rfl rfl)

/-- What `poll` has returned is handled; if it makes the loop give up, nothing is lost by
that. -/
theorem restores_handleEvents {events channels} (channel : PollChannel)
    (hchannel : channel ∈ channels) :
    Restores T (Sound T (PollOutcome.givesUp channels (.ready events)))
      (handleEvents events channel) := by
  have hready : ∀ {change : TransferState → TransferState}, (∀ t, SamePipes t (change t)) →
      Restores T (Sound T (PollOutcome.givesUp channels (.ready events))) (assign change) :=
    fun h => aboutPipes_accounts.assign h
  have hnothing : Restores T (Sound T (PollOutcome.givesUp channels (.ready events)))
    (.ret () : TransferProg Unit) :=
    leads_ret fun _ hs => hs
  -- what makes the loop give up is among what was returned
  have hparting : ∀ {p : TransferProg Unit}, Restores T (Sound T true) p →
      PollOutcome.givesUp [channel] (.ready events) = true →
        Restores T (Sound T (PollOutcome.givesUp channels (.ready events))) p := fun hp hgives => by
    have hall : PollOutcome.givesUp channels (.ready events) = true :=
      List.any_eq_true.mpr ⟨channel, hchannel, by simpa [PollOutcome.givesUp] using hgives⟩
    rw [hall]
    exact hp
  cases channel with
  | producerOutput =>
    refine leads_ite (fun hinvalid => hparting restores_invalidOutput ?_) fun _ =>
      leads_ite (fun _ => hready fun _ => by exact samePipes_of_eq rfl rfl) fun _ => hnothing
    simpa [PollOutcome.givesUp] using hinvalid
  | consumerInput =>
    refine leads_ite (fun hleft => hparting restores_consumerClosed ?_) fun _ =>
      leads_ite (fun _ => hready fun _ => by exact samePipes_of_eq rfl rfl) fun _ => hnothing
    simpa [PollOutcome.givesUp] using hleft
  | producerDiagnostics =>
    exact leads_ite (fun _ => hready fun t => samePipes_closeStderr t _) fun _ => hnothing
  | consumerDiagnostics =>
    exact leads_ite (fun _ => hready fun t => samePipes_closeStderr t _) fun _ => hnothing
  | cancellation => exact leads_ite (fun _ => restores_cancelTransfer) fun _ => hnothing

theorem restores_pollOnce : Restores T (Sound T false) pollOnce := by
  refine leads_look fun s hs => ?_
  refine leads_ite (fun _ => leads_ret fun t ht => ht ▸ hs) fun _ => ?_
  refine Leads.bind (N := fun outcome => Sound T (outcome.givesUp (interests s)))
    (leads_effect fun ans t ht hA => ?_) fun outcome => ?_
  · subst ht
    have hproduced := aboutPipes_accounts.produce ans t hs
    exact ⟨hproduced.books, hproduced.flags, hproduced.ends, T.spent _ ans t hA⟩
  · refine Leads.mono (J := fun _ => Sound T (outcome.givesUp (interests s))) ?_ (fun _ ht => ht)
      fun _ _ ht => ⟨ht.books, ht.flags, ht.ends, nofun⟩
    cases outcome with
    | failed msg => exact restores_pollFailed
    | interrupted => exact leads_ret fun _ ht => ht
    | ready events => exact leads_forEach _ restores_handleEvents

/-! ### Pumping -/

/-- The accounts while bytes are pumped: both pipes are open. -/
structure Pumping (T : Terms) (pending : Nat) (state : TransferState) : Prop where
  books : Books T pending state
  flags : Flags state
  reading : state.dataReadEnd = true
  writing : state.consumerInputWriteEnd = true

theorem Pumping.produce {s} (h : Pumping T pend s)
    (ans : TransferAnswer) : Pumping T pend (s.produce ans) :=
  ⟨h.books.produce ans, h.flags.produce ans, by rw [produce_dataReadEnd, h.reading],
    by rw [produce_consumerInputWriteEnd, h.writing]⟩

/-- What a `splice` has done. -/
def Spliced (T : Terms) (pending : Nat) (state : TransferState) : SpliceResult → Prop
  | .moved count => Pumping T (pending + count) state
  | .endOfStream => Pumping T pending state ∧ Drained state
  | .interrupted => Pumping T pending state
  | .wouldBlock => Pumping T pending state
  | .failed _ => Pumping T pending state ∧ Spent T.free state

/-- What the result of a `splice` says of the pipe, and of the answer. -/
theorem spliceResult_spec (s : TransferState) (ans : SpliceAnswer) :
    match spliceResult s ans with
    | .moved count => count ≤ s.pipe.length
    | .endOfStream => Drained s
    | .failed message => ans = .failed message
    | _ => True := by
  cases ans with
  | move wanted =>
    rw [spliceResult]
    split_ifs with hempty hclosed
    · exact ⟨hempty, hclosed⟩
    · trivial
    · exact (Nat.min_le_right _ _).trans (Nat.min_le_right _ _)
  | interrupted => trivial
  | wouldBlock => trivial
  | failed msg => rfl

theorem leads_splicePipe :
    Leads T (Pumping T pend) splicePipe fun res s => Spliced T pend s res := by
  refine leads_effect fun ans s hs hA => ?_
  have hprod := hs.produce ans
  have hspec := spliceResult_spec (s.produce ans) ans.splice
  cases hres : spliceResult (s.produce ans) ans.splice with
  | moved count =>
    rw [hres] at hspec
    exact ⟨hprod.books.move hprod.reading hprod.writing hspec,
      hprod.flags, hprod.reading, hprod.writing⟩
  | endOfStream =>
    rw [hres] at hspec
    exact ⟨hprod, hspec⟩
  | interrupted => exact hprod
  | wouldBlock => exact hprod
  | failed msg =>
    rw [hres] at hspec
    refine ⟨hprod, T.spent .splice ans s hA ?_⟩
    rw [TransferAnswer.givesUp, hspec]

/-- The pump ends where the stream has ended, or nothing is lost by an error. -/
def Pumped (T : Terms) (state : TransferState) : PumpEnd → Prop
  | .endOfStream => Drained state
  | .wouldBlock => True
  | .error _ => Spent T.free state

theorem leads_pumpPosixTransfer (fuel moved : Nat) :
    Leads T (Pumping T moved) (pumpPosixTransfer fuel moved) fun pump s =>
      Pumping T pump.1 s ∧ Pumped T s pump.2 := by
  induction fuel generalizing moved with
  | zero => exact leads_fail
  | succ fuel ih =>
    refine leads_ite (fun _ => ?_) fun _ => leads_ret fun s hs => ⟨hs, trivial⟩
    refine leads_splicePipe.bind fun res => ?_
    cases res with
    | moved count => exact ih (moved + count)
    | endOfStream => exact leads_ret fun s hs => hs
    | interrupted => exact ih moved
    | wouldBlock => exact leads_ret fun s hs => ⟨hs, trivial⟩
    | failed msg => exact leads_ret fun s hs => hs

theorem Pumping.accounts {s} (h : Pumping T 0 s) (spent : Bool)
    (hspent : spent = true → Spent T.free s) :
    Accounts T spent (fun reading writing => reading = true ∧ writing = true) s :=
  ⟨h.books, h.flags, ⟨h.reading, h.writing⟩, hspent⟩

theorem leads_endStream :
    Leads T (fun s => Pumping T 0 s ∧ Drained s) endStream fun _ => Sound T true := by
  refine Leads.bind (N := fun _ => Accounts T true fun _ _ => True)
    (leads_effect fun ans s hs _ => ?_) fun _ => ?_
  · rw [hs.2.produce ans]
    exact ((hs.1.accounts false nofun).closeDataReadEnd fun _ => .inl hs.2.1).mono
      fun _ _ _ => trivial
  refine (aboutPipes_accounts.assign fun _ => by exact samePipes_of_eq rfl rfl).bind fun _ => ?_
  refine leads_closeConsumerInput.bind fun _ => leads_assign fun t ht => ?_
  have hsound : Sound T true t := ht.sound fun _ _ h => h.1
  exact aboutPipes_accounts.same hsound (samePipes_of_eq rfl rfl)

theorem leads_spliceFailed : Leads T (fun s => Pumping T 0 s ∧ Spent T.free s) (spliceFailed msg)
    fun _ => Sound T true := by
  refine Leads.bind ((restores_appendDiagnostic aboutPipes_accounts).mono
    (fun s hs => hs.1.accounts true fun _ => hs.2) fun _ _ ht => ht) fun _ => ?_
  refine leads_closeConsumerInput.bind fun _ => ?_
  refine (aboutPipes_accounts.assign fun _ => by exact samePipes_of_eq rfl rfl).bind fun _ => ?_
  refine (leads_closeDataReadEnd (by decide)).bind fun _ => ?_
  refine Leads.bind (N := fun _ => Sound T true) (leads_assign fun t ht => ?_) fun _ => ?_
  · have hsound : Sound T true t := ht.sound fun _ _ h => h.2.elim fun _ hw => hw.1
    exact aboutPipes_accounts.same hsound (samePipes_of_eq rfl rfl)
  · exact (restores_requestTermination aboutPipes_accounts).bind fun _ =>
      restores_requestTermination aboutPipes_accounts

theorem leads_afterPump {moved : Nat} {pumpEnd : PumpEnd} :
    Leads T (fun s => Pumping T moved s ∧ Pumped T s pumpEnd) (afterPump moved pumpEnd)
      fun _ => Sound T false := by
  refine Leads.bind (N := fun _ s => Pumping T 0 s ∧ Pumped T s pumpEnd)
    (leads_assign fun s hs => ⟨⟨⟨hs.1.books.moved, ?_, hs.1.books.input, hs.1.books.output_same rfl
      rfl rfl (sameProcesses_of_eq rfl)⟩, hs.1.flags, hs.1.reading, hs.1.writing⟩, ?_⟩) fun _ => ?_
  · exact hs.1.books.counted
  · cases pumpEnd with
    | endOfStream => exact hs.2
    | wouldBlock => trivial
    | error msg => exact Spent.same hs.2 rfl rfl rfl (sameProcesses_of_eq rfl)
  cases pumpEnd with
  | endOfStream => exact leads_endStream.mono (fun s hs => hs) fun _ _ ht => ht.of_spent
  | wouldBlock =>
    refine leads_assign fun s hs => ?_
    have hsound : Sound T false s := (hs.1.accounts false nofun).mono fun _ _ h hclosed =>
      absurd (h.1.symm.trans hclosed) (by decide)
    exact aboutPipes_accounts.same hsound (samePipes_of_eq rfl rfl)
  | error msg => exact leads_spliceFailed.mono (fun s hs => hs) fun _ _ ht => ht.of_spent

theorem restores_pumpReadyData : Restores T (Sound T false) (pumpReadyData fuel) := by
  refine leads_look fun s hs => ?_
  refine leads_ite (fun hready => ?_) fun _ => leads_ret fun t ht => ht ▸ hs
  simp only [Bool.and_eq_true] at hready
  have hpumping : Pumping T 0 s := ⟨hs.books, hs.flags, hs.flags.1 ▸ hready.1.1.1,
    hs.flags.2 ▸ hready.1.1.2⟩
  exact Leads.bind ((leads_pumpPosixTransfer fuel 0).of_eq hpumping) fun pump => leads_afterPump

/-! ### The whole transfer -/

theorem restores_loopBody : Restores T (Sound T false) (loopBody fuel) := by
  refine aboutPipes_accounts.ask.bind fun requested => ?_
  refine Leads.bind (leads_ite (fun _ => restores_cancelTransfer)
    fun _ => leads_ret fun _ hs => hs) fun _ => ?_
  refine (restores_advanceTermination aboutPipes_accounts).bind fun _ => ?_
  refine (restores_advanceTermination aboutPipes_accounts).bind fun _ => ?_
  refine restores_pollOnce.bind fun _ => ?_
  refine restores_pumpReadyData.bind fun _ => ?_
  exact (restores_reapChild aboutPipes_accounts).bind fun _ =>
    restores_reapChild aboutPipes_accounts

/-- The loop ends when both pipes are closed. -/
theorem leads_runEventLoop (fuel : Nat) : Leads T (Sound T false) (runEventLoop fuel) fun _ s =>
      Books T 0 s ∧ s.dataReadEnd = false ∧ s.consumerInputWriteEnd = false := by
  induction fuel with
  | zero => exact leads_fail
  | succ fuel ih =>
    refine leads_look fun s hs => leads_ite (fun _ => ?_) fun hidle => leads_ret fun t ht => ?_
    · exact Leads.bind (restores_loopBody.of_eq hs) fun _ => ih
    · subst ht
      simp only [loopPending, Bool.or_eq_true, not_or, Bool.not_eq_true] at hidle
      have hclosed : t.dataReadEnd = false := hs.flags.1 ▸ hidle.1.1.1.1.2
      exact ⟨hs.books, hclosed, hs.ends hclosed⟩

/-- The accounts before the members say what is open. -/
structure Opening (T : Terms) (producer consumer : TransferSideResult) (reading writing : Bool)
    (state : TransferState) : Prop where
  books : Books T 0 state
  reading : state.dataReadEnd = reading
  writing : state.consumerInputWriteEnd = writing
  processes : state.processes = (spawned producer consumer).processes

section opening

variable {producer consumer : TransferSideResult} {s : TransferState}

theorem Opening.produce (h : Opening T producer consumer reading writing s)
    (ans : TransferAnswer) : Opening T producer consumer reading writing (s.produce ans) :=
  ⟨h.books.produce ans, by rw [produce_dataReadEnd, h.reading],
    by rw [produce_consumerInputWriteEnd, h.writing], by rw [produce_processes, h.processes]⟩

theorem leads_setNonblocking : Restores T (Opening T producer consumer reading writing)
    setNonblocking := by
  refine Leads.bind (N := fun _ => Opening T producer consumer reading writing)
    (leads_effect fun ans s hs _ => hs.produce ans) fun error => ?_
  cases error with
  | none => exact leads_ret fun _ hs => hs
  | some e => exact leads_fail

/-- A side that was not started excuses the transfer. -/
theorem unstarted_spawned {side : Side}
    (h : ((spawned producer consumer).side side).started = false) :
    Unstarted side (spawned producer consumer) := by
  cases side <;> exact ⟨h, rfl, rfl⟩

/-- The end of the pipe of a producer that was not started is closed. -/
theorem leads_prepareOutput : Leads T (Opening T producer consumer true writing)
      (if producer.started then setNonblocking.bind fun _ => setNonblocking
        else closeDataReadEnd .notStarted) fun _ =>
          Opening T producer consumer producer.started writing := by
  split
  · next hstarted =>
    rw [hstarted]
    exact leads_setNonblocking.bind fun _ => leads_setNonblocking
  · next hstarted =>
    rw [Bool.not_eq_true] at hstarted
    rw [hstarted]
    refine leads_effect fun ans s hs _ => ?_
    have hprod := hs.produce ans
    have hfree : T.free (s.produce ans) := T.same
      (T.excused (spawned producer consumer) (.inr (.inl (unstarted_spawned hstarted))))
      (sameProcesses_of_eq hprod.processes)
    have hlost : (s.produce ans).dataReadEnd = true → (s.produce ans).pipe = [] ∨
        CloseReason.notStarted ≠ .endOfStream ∧ T.free (s.produce ans) :=
      fun _ => .inr ⟨nofun, hfree⟩
    have hbooks := hprod.books.closeDataReadEnd hlost
    rw [TransferState.closeDataReadEnd, if_pos hprod.reading] at hbooks ⊢
    exact ⟨hbooks, rfl, hprod.writing, hprod.processes⟩

/-- The input of a consumer that was not started is closed. -/
theorem leads_prepareInput : Leads T (Opening T producer consumer reading true)
      (if consumer.started then setNonblocking.bind fun _ => setNonblocking
        else closeConsumerInput) fun _ =>
          Opening T producer consumer reading consumer.started := by
  split
  · next hstarted =>
    rw [hstarted]
    exact leads_setNonblocking.bind fun _ => leads_setNonblocking
  · next hstarted =>
    rw [Bool.not_eq_true] at hstarted
    rw [hstarted]
    refine leads_effect fun ans s hs _ => ?_
    have hprod := hs.produce ans
    have hbooks := hprod.books.closeConsumerInput
    rw [TransferState.closeConsumerInput, if_pos hprod.writing] at hbooks ⊢
    exact ⟨hbooks, hprod.reading, rfl, hprod.processes⟩

/-- The other pipe of a side that was not started is closed. -/
theorem leads_closeUnpaired {producer consumer : Bool} :
    Leads T (Accounts T (!(producer && consumer)) fun reading writing =>
        reading = producer ∧ writing = consumer)
      ((if !producer && consumer then closeConsumerInput else .ret ()).bind fun _ =>
        if !consumer && producer then
          (closeDataReadEnd .notStarted).bind fun _ => requestTermination .producer
        else .ret ()) fun _ => Sound T false := by
  refine Leads.bind (N := fun _ => Accounts T (!(producer && consumer)) fun reading writing =>
    reading = producer ∧ (writing = true → producer = true ∧ consumer = true))
    (leads_ite (fun _ => ?_) fun hboth => ?_) fun _ => leads_ite (fun hconsumer => ?_) fun _ => ?_
  · refine leads_closeConsumerInput.mono (fun _ ht => ht) fun _ _ ht => ht.mono ?_
    exact fun _ _ h => ⟨h.2.elim fun _ hw => hw.1, fun hopen => absurd (h.1.symm.trans hopen) nofun⟩
  · refine leads_ret fun t ht => ht.mono fun _ _ h => ⟨h.1, fun hopen => ?_⟩
    rw [h.2] at hopen
    cases producer with
    | true => exact ⟨rfl, hopen⟩
    | false => exact absurd (by rw [hopen]; rfl) hboth
  · rw [Bool.and_eq_true, Bool.not_eq_true'] at hconsumer
    rw [hconsumer.1, Bool.and_false, Bool.not_false]
    refine (leads_closeDataReadEnd (by decide)).bind fun _ => ?_
    refine (restores_requestTermination aboutPipes_accounts).mono (fun _ ht => ht)
      fun _ _ ht => (ht.sound fun reading writing h => ?_).of_spent
    obtain ⟨was, hwas⟩ := h.2
    exact Bool.eq_false_iff.mpr fun hopen => Bool.false_ne_true (hwas.2 hopen).2
  · refine leads_ret fun t ht => ⟨ht.books, ht.flags, fun hclosed => ?_, nofun⟩
    refine Bool.eq_false_iff.mpr fun hopen => ?_
    exact Bool.false_ne_true (hclosed.symm.trans (ht.ends.1.trans (ht.ends.2 hopen).1))

theorem leads_closeChildEndpoints : Leads T (fun s => s = spawned producer consumer)
    closeChildEndpoints fun _ => Sound T false := by
  refine leads_look fun s hs => ?_
  subst hs
  have hopening : Opening T producer consumer true true (spawned producer consumer) :=
    ⟨⟨rfl, rfl, rfl, rfl⟩, rfl, rfl, rfl⟩
  refine Leads.bind (leads_prepareOutput.of_eq hopening) fun _ => ?_
  refine leads_prepareInput.bind fun _ => ?_
  refine Leads.bind (leads_assign fun t ht => ?_) fun _ => leads_closeUnpaired
  have hsides := ht.processes
  simp only [TransferState.processes, Prod.mk.injEq] at hsides
  obtain ⟨-, hside, -, hterm⟩ := hsides
  -- a side that was not started stays so
  have hsame : SameProcesses (spawned producer consumer) { t with
      producerStdoutOpen := producer.started
      consumerStdinOpen := consumer.started
      producerStderrOpen := producer.started
      consumerStderrOpen := consumer.started
      producerDone := !producer.started
      consumerDone := !consumer.started } := by
    refine ⟨nofun, fun side h =>
      ⟨(congrArg TransferSideResult.started (congrFun hside side)).trans h.1, ?_,
        (congrArg TransferChildTermination.terminateSent (congrFun hterm side)).trans h.2.2⟩⟩
    cases side <;> exact congrArg not h.1
  have hback := sameProcesses_of_eq ht.processes.symm
  refine ⟨⟨ht.books.moved, ht.books.counted, ht.books.input, ht.books.output_same rfl rfl rfl
      ⟨fun h => hsame.cancelled (hback.cancelled h), fun side h =>
        hsame.unstarted side (hback.unstarted side h)⟩⟩,
    ⟨ht.reading.symm, ht.writing.symm⟩, ⟨ht.reading, ht.writing⟩, fun hone => ?_⟩
  refine .inr (.inr (T.excused _ (.inr ?_)))
  rw [Bool.not_eq_true', Bool.and_eq_false_iff] at hone
  exact hone.imp (fun h => hsame.unstarted .producer ⟨h, rfl, rfl⟩)
    fun h => hsame.unstarted .consumer ⟨h, rfl, rfl⟩

/-- The accounts at the end of a transfer. -/
theorem leads_transfer : Leads T (fun s => s = spawned producer consumer) (transfer fuel)
    fun res s => res = s.result ∧ Books T 0 s ∧ s.dataReadEnd = false ∧
      s.consumerInputWriteEnd = false := by
  refine leads_closeChildEndpoints.bind fun _ => (leads_runEventLoop fuel).bind fun _ => ?_
  refine leads_look fun s hs => leads_ret fun t ht => ?_
  subst ht
  exact ⟨rfl, hs⟩

end opening
/-- Whenever a transfer returns, both pipes are closed. -/
theorem books_of_run {fuel : Nat} {producer consumer : TransferSideResult}
    {answers : List TransferAnswer} {result : TransferResult} {state : TransferState}
    (hanswers : (transfer fuel).Obeys T.allows answers (spawned producer consumer))
    (hrun : (transfer fuel).run answers (spawned producer consumer) = (.done result, state)) :
    result = state.result ∧ state.delivered ++ state.pipe = state.written ∧
      state.result.bytesTransferred = state.delivered.length ∧
      state.endOfFileAt = some state.delivered.length ∧
      ∃ reason, state.closed = some (reason, state.pipe) ∧
        (state.pipe = [] ∨ reason ≠ .endOfStream ∧ T.free state) := by
  obtain ⟨hresult, hbooks, hreading, hwriting⟩ :=
    (leads_transfer _ rfl).run_done isRely_eq hanswers hrun
  have hinput := hbooks.input
  have houtput := hbooks.output
  rw [hwriting] at hinput
  rw [hreading] at houtput
  exact ⟨hresult, hbooks.moved, hbooks.counted, hinput, houtput⟩

/-- A transfer that is excused does not count as a success. -/
theorem not_succeeded_of_excused {state : TransferState} (h : Excused state) :
    transferSucceeded state.result = false := by
  have hexit : ∀ side, Unstarted side state → (state.side side).exitCode = none := by
    intro side h
    have hstate : (state.side side).state = .notStarted := by
      simpa [TransferSideResult.started] using h.1
    rw [TransferSideResult.exitCode, hstate]
  rcases h with h | h | h
  · simp [transferSucceeded, h]
  · have := hexit .producer h
    simp_all [transferSucceeded, TransferState.side]
  · have := hexit .consumer h
    simp_all [transferSucceeded, TransferState.side]

/-- **Completeness of a transfer.**  A successful transfer has moved all bytes, unless an
answer made the loop give up while there was something to lose. -/
theorem transfer_complete {fuel : Nat} {producer consumer : TransferSideResult}
    {answers : List TransferAnswer} {result : TransferResult} {state : TransferState}
    (hrun : (transfer fuel).run answers (spawned producer consumer) = (.done result, state))
    (hanswers : (transfer fuel).Obeys Lossless answers (spawned producer consumer))
    (hsucceeded : transferSucceeded result = true) : Complete result state := by
  obtain ⟨rfl, hmoved, hcounted, hinput, reason, hclosed, hempty⟩ :=
    books_of_run (T := .lossless) hanswers hrun
  have hpipe : state.pipe = [] := hempty.resolve_right fun h =>
    Bool.false_ne_true ((not_succeeded_of_excused h.2).symm.trans hsucceeded)
  have hdelivered : state.delivered = state.written := by rw [← hmoved, hpipe, List.append_nil]
  exact ⟨hdelivered, hdelivered ▸ hcounted, hdelivered ▸ hinput⟩

/-- No byte is made up, reordered or counted wrongly: whenever a transfer returns, what
was delivered is the first part of what was written, and its length was counted; the
rest was dropped with the producer's pipe, and not at the end of the stream. -/
theorem transfer_accounts (fuel : Nat) (producer consumer : TransferSideResult)
    (answers : List TransferAnswer) :
    match (transfer fuel).run answers (spawned producer consumer) with
    | (.done result, state) => ∃ dropped reason, state.delivered ++ dropped = state.written ∧
        state.closed = some (reason, dropped) ∧ (reason = .endOfStream → dropped = []) ∧
        result.bytesTransferred = state.delivered.length ∧
        state.endOfFileAt = some state.delivered.length
    | _ => True := by
  split
  · next result state hrun =>
    obtain ⟨rfl, hmoved, hcounted, hinput, reason, hclosed, hdropped⟩ :=
      books_of_run (T := .any) (obeys_of_mem fun _ _ _ _ => trivial) hrun
    exact ⟨state.pipe, reason, hmoved, hclosed, fun heos => hdropped.resolve_right fun h =>
      h.1 heos,
      hcounted, hinput⟩
  · trivial

namespace Sample

/-- Nothing happens. -/
def quiet : TransferAnswer where
  writes := []
  closes := false
  error := none
  flag := false
  poll := .ready fun _ => .none
  splice := .wouldBlock
  wait := .running

/-- A process that was started. -/
def started : TransferSideResult := ⟨.running, ""⟩

/-- The process has exited with 0. -/
def success : TransferAnswer := { quiet with wait := .exited 0 }

/-- Both diagnostics pipes are closed. -/
def diagnosticsClosed : TransferAnswer :=
  { quiet with
    poll := .ready fun channel =>
      match channel with
      | .producerDiagnostics => ⟨false, false, true, false, false⟩
      | .consumerDiagnostics => ⟨false, false, true, false, false⟩
      | _ => .none }

/-- The producer has written two bytes and closed its end; both pipes are ready. -/
def bothReady : TransferAnswer :=
  { quiet with
    writes := [1, 2]
    closes := true
    poll := .ready fun channel =>
      match channel with
      | .producerOutput => ⟨true, false, false, false, false⟩
      | .consumerInput => ⟨false, true, false, false, false⟩
      | _ => .none }

/-- The producer has written two bytes and closed its end; the consumer has closed
its input. -/
def inputClosed : TransferAnswer :=
  { quiet with
    writes := [1, 2]
    closes := true
    poll := .ready fun channel =>
      match channel with
      | .consumerInput => ⟨false, false, true, true, false⟩
      | _ => .none }

/-- Both bytes are moved, the stream ends, and the processes exit. -/
def completeRun : List TransferAnswer :=
  List.replicate 4 quiet ++ [quiet, bothReady, { quiet with splice := .move 1 },
    { quiet with splice := .move 0 }, quiet, quiet, success, success, quiet, diagnosticsClosed]

/-- The consumer leaves before it has got anything, and the processes exit. -/
def abandonedRun : List TransferAnswer :=
  List.replicate 4 quiet ++ [quiet, inputClosed, quiet, quiet, success, success, quiet, quiet,
    diagnosticsClosed]

/-- Both processes exited with 0 and two bytes were moved. -/
def completeResult : TransferResult where
  cancelled := false
  producer := ⟨.exited 0, ""⟩
  consumer := ⟨.exited 0, ""⟩
  bytesProduced := 2
  bytesTransferred := 2

/-- Both processes exited with 0, although nothing was moved. -/
def abandonedResult : TransferResult where
  cancelled := false
  producer := ⟨.exited 0, ""⟩
  consumer := ⟨.exited 0, "stdin closed before transfer completed"⟩
  bytesProduced := 0
  bytesTransferred := 0

theorem complete_transfer :
    let run := (transfer 4).run completeRun (spawned started started)
    run.1 = .done completeResult ∧ run.2.written = [1, 2] ∧
      (transfer 4).Obeys Lossless completeRun (spawned started started) ∧
      transferSucceeded completeResult = true ∧ Complete completeResult run.2 := by
  have hdone : ((transfer 4).run completeRun (spawned started started)).1 =
      .done completeResult := by decide +kernel
  have hanswers : (transfer 4).Obeys Lossless completeRun (spawned started started) := by
    decide +kernel
  exact ⟨hdone, by decide +kernel, hanswers, by decide,
    transfer_complete (Prod.ext hdone rfl) hanswers (by decide)⟩

theorem consumer_leaves :
    let run := (transfer 4).run abandonedRun (spawned started started)
    run.1 = .done abandonedResult ∧ transferSucceeded abandonedResult = true ∧
      run.2.written = [1, 2] ∧ run.2.delivered = [] ∧ ¬ Complete abandonedResult run.2 := by
  decide +kernel

end Sample

end Transfer

end BtrfsBackup
